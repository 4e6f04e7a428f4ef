import SymbolTable.Operator.Basic
import SymbolTable.Symbol

/-!
# Diagnostics

What can go wrong in a declaration, an assignment or an evaluation is a `Fault`; a diagnostic is a fault with
the source line that was current when it was found. The texts are what a user of the language reads.
-/

namespace SymbolTable

/-- What a diagnostic tells about an operand. -/
structure Operand where
  name : String
  ty : Ty
  deriving DecidableEq

def Symbol.operand (symbol : Symbol) : Operand := ⟨symbol.name, symbol.ty⟩

def Operand.text (operand : Operand) : String :=
  "'" ++ operand.name ++ "' (" ++ operand.ty.text ++ ")"

/-- An operator together with operands that it does not accept. -/
structure Mismatch where
  op : Operator
  left : Operand
  right : Option Operand
  deriving DecidableEq

namespace Mismatch

def unaryText (op : Operator) (operand : Operand) : String :=
  match op with
  | .not => "Logical NOT requires boolean operand, got " ++ operand.text
  | op => "Cannot perform " ++ op.description ++ " on " ++ operand.text

/-- Only an ordering of two operands of one type names the comparison, since the fault is then not in a
difference of types. -/
def binaryText (op : Operator) (left right : Operand) : String :=
  match op with
  | .binary (.comparison comparison) =>
    if comparison.isOrdering ∧ left.ty = right.ty then
      "Cannot perform '" ++ comparison.spelling ++ "' comparison between " ++ left.text ++ " and " ++ right.text
    else
      "Cannot compare " ++ left.text ++ " with " ++ right.text
  | .binary (.connective connective) =>
    (match connective with
      | .and => "Logical AND"
      | .or => "Logical OR")
      ++ " requires boolean operands, got " ++ left.text ++ " and " ++ right.text
  | op => "Cannot perform " ++ op.description ++ " between " ++ left.text ++ " and " ++ right.text

def text (mismatch : Mismatch) : String :=
  match mismatch.right with
  | none => unaryText mismatch.op mismatch.left
  | some right => binaryText mismatch.op mismatch.left right

end Mismatch

inductive Fault where
  /-- An operand has a type that its operator does not accept. -/
  | typeMismatch (mismatch : Mismatch)
  | divisionByZero
  /-- The exact result is no 64-bit signed integer. -/
  | overflow (op : Operator)
  /-- An operator was given a number of operands other than its arity. -/
  | operandCount (op : Operator)
  | duplicateDeclaration (name : String)
  | undeclaredVariable (name : String)
  /-- A value was to be stored under a name whose type is another. -/
  | valueTypeMismatch (name : String) (expected found : Ty)
  deriving DecidableEq

namespace Fault

def text : Fault → String
  | .typeMismatch mismatch => mismatch.text
  | .divisionByZero => "Division by zero"
  | .overflow op => "Integer overflow in " ++ op.description
  | .operandCount op => "Wrong number of operands for '" ++ op.spelling ++ "'"
  | .duplicateDeclaration name => "Variable '" ++ name ++ "' already declared"
  | .undeclaredVariable name => "Variable '" ++ name ++ "' not declared"
  | .valueTypeMismatch name expected found =>
    "Cannot store " ++ found.text ++ " value in '" ++ name ++ "' (" ++ expected.text ++ ")"

/-- Whether the fault lies in the types of operands or values. -/
def isTypeFault : Fault → Bool
  | .typeMismatch _ | .valueTypeMismatch .. => true
  | _ => false

end Fault

structure Diagnostic where
  fault : Fault
  line : UInt32
  deriving DecidableEq

def Diagnostic.text (diagnostic : Diagnostic) : String :=
  "Error at line " ++ diagnostic.line.toNat.repr ++ ": " ++ diagnostic.fault.text

end SymbolTable
