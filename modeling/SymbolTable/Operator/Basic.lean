import SymbolTable.Operator.Arithmetic
import SymbolTable.Operator.Comparison

/-!
# Operators

An operator over two operands is an arithmetic operation, a comparison or a connective, and the negation of
a boolean takes one operand. Each operator has a spelling in expressions and a description in diagnostics.
-/

namespace SymbolTable

inductive Connective where
  | and
  | or
  deriving DecidableEq

namespace Connective

def spelling : Connective → String
  | .and => "&&"
  | .or => "||"

def description : Connective → String
  | .and => "logical AND"
  | .or => "logical OR"

def apply : Connective → Bool → Bool → Bool
  | .and, left, right => left && right
  | .or, left, right => left || right

end Connective

inductive BinaryOperator where
  | arithmetic (op : Arithmetic)
  | comparison (op : Comparison)
  | connective (op : Connective)
  deriving DecidableEq

inductive Operator where
  | binary (op : BinaryOperator)
  | not
  deriving DecidableEq

namespace Operator

def spelling : Operator → String
  | .binary (.arithmetic op) => op.spelling
  | .binary (.comparison op) => op.spelling
  | .binary (.connective op) => op.spelling
  | .not => "!"

/-- What an operator is called in diagnostics; all comparisons share one name. -/
def description : Operator → String
  | .binary (.arithmetic op) => op.description
  | .binary (.comparison _) => "comparison"
  | .binary (.connective op) => op.description
  | .not => "logical NOT"

/-- How many operands an operator takes. -/
def arity : Operator → Nat
  | .binary _ => 2
  | .not => 1

def isComparison : Operator → Bool
  | .binary (.comparison _) => true
  | _ => false

end Operator

end SymbolTable
