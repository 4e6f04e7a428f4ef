import SymbolTable.Environment.NameSupply
import SymbolTable.Expr.Basic

/-!
# The meaning of expressions

What an expression means is said over unbounded integers and booleans, without environments. The meaning of a
node is a datum with the name under which diagnostics speak of it: literals and variables have their own, and
the results of operators take the names of a supply in the order in which they arise. A node that has no meaning
has the fault that is found first, operands before operators and left before right.
-/

namespace SymbolTable

inductive Datum where
  | int (n : Int)
  | bool (b : Bool)
  | error
  deriving DecidableEq

namespace Datum

def ty : Datum → Ty
  | .int _ => .int
  | .bool _ => .bool
  | .error => .unknown

end Datum

def Value.datum : Value → Datum
  | .int n => .int n.toInt
  | .bool b => .bool b
  | .error => .error

/-- A datum with the name that diagnostics give it. -/
structure Meaning where
  name : String
  datum : Datum
  deriving DecidableEq

/-- A datum with the next name of a supply, and the supply after it. -/
def NameSupply.issue (supply : NameSupply) (datum : Datum) : Meaning × NameSupply :=
  (⟨supply.name, datum⟩, supply.advance)

def Meaning.operand (meaning : Meaning) : Operand := ⟨meaning.name, meaning.datum.ty⟩

/-- The exact result of an operation on integers; a quotient is truncated toward zero. -/
def Arithmetic.exact : Arithmetic → Int → Int → Int
  | .add, a, b => a + b
  | .sub, a, b => a - b
  | .mul, a, b => a * b
  | .div, a, b => a.tdiv b

/-- Whether two integers stand in the relation that a comparison asks for. -/
def Comparison.Relates : Comparison → Int → Int → Prop
  | .lt, a, b => a < b
  | .gt, a, b => b < a
  | .le, a, b => a ≤ b
  | .ge, a, b => b ≤ a
  | .eq, a, b => a = b
  | .ne, a, b => a ≠ b

instance (comparison : Comparison) (a b : Int) : Decidable (comparison.Relates a b) := by
  cases comparison <;> unfold Comparison.Relates <;> infer_instance

namespace BinaryOperator

/-- The meaning of an operator over two operands. -/
def meaning (op : BinaryOperator) (left right : Meaning) : Except Fault Datum :=
  let mismatch : Except Fault Datum := .error (.typeMismatch ⟨.binary op, left.operand, some right.operand⟩)
  match op with
  | .arithmetic operation =>
    match left.datum, right.datum with
    | .int a, .int b =>
      if operation = .div ∧ b = 0 then .error .divisionByZero
      else if Word.Fits (operation.exact a b) then .ok (.int (operation.exact a b))
      else .error (.overflow (.binary op))
    | _, _ => mismatch
  | .comparison relation =>
    match left.datum, right.datum, relation with
    | .int a, .int b, _ => .ok (.bool (relation.Relates a b))
    | .bool a, .bool b, .eq => .ok (.bool (a = b))
    | .bool a, .bool b, .ne => .ok (.bool (a ≠ b))
    | _, _, _ => mismatch
  | .connective junction =>
    match left.datum, right.datum, junction with
    | .bool a, .bool b, .and => .ok (.bool (a ∧ b))
    | .bool a, .bool b, .or => .ok (.bool (a ∨ b))
    | _, _, _ => mismatch

section

variable {left right : Meaning}

theorem meaning_arithmetic (op : Arithmetic) {a b : Int} (hleft : left.datum = .int a) (hright : right.datum = .int b) :
    meaning (.arithmetic op) left right =
      if op = .div ∧ b = 0 then .error .divisionByZero
      else if Word.Fits (op.exact a b) then .ok (.int (op.exact a b))
      else .error (.overflow (.binary (.arithmetic op))) := by
  obtain ⟨leftName, leftDatum⟩ := left
  obtain ⟨rightName, rightDatum⟩ := right
  cases hleft
  cases hright
  rfl

theorem meaning_comparison (op : Comparison) {a b : Int} (hleft : left.datum = .int a) (hright : right.datum = .int b) :
    meaning (.comparison op) left right = .ok (.bool (op.Relates a b)) := by
  obtain ⟨leftName, leftDatum⟩ := left
  obtain ⟨rightName, rightDatum⟩ := right
  cases hleft
  cases hright
  rfl

variable {a b : Bool} (hleft : left.datum = .bool a) (hright : right.datum = .bool b)

include hleft hright

/-- Operators that take two booleans always give one. -/
theorem meaning_of_bool :
    meaning (.comparison .eq) left right = .ok (.bool (a = b)) ∧
    meaning (.comparison .ne) left right = .ok (.bool (a ≠ b)) ∧
    meaning (.connective .and) left right = .ok (.bool (a ∧ b)) ∧
    meaning (.connective .or) left right = .ok (.bool (a ∨ b)) := by
  obtain ⟨leftName, leftDatum⟩ := left
  obtain ⟨rightName, rightDatum⟩ := right
  cases hleft
  cases hright
  exact ⟨rfl, rfl, rfl, rfl⟩

end

end BinaryOperator

namespace Operator

def binaryMeaning (op : Operator) (left right : Meaning) : Except Fault Datum :=
  match op with
  | .binary op => op.meaning left right
  | .not => .error (.operandCount .not)

def unaryMeaning (op : Operator) (operand : Meaning) : Except Fault Datum :=
  match op, operand.datum with
  | .not, .bool b => .ok (.bool (¬ b))
  | .not, _ => .error (.typeMismatch ⟨.not, operand.operand, none⟩)
  | op, _ => .error (.operandCount op)

end Operator

namespace Expr

/-- The meaning of an expression under declarations, when a supply names the results of operators; with it comes
the supply after the expression. -/
def meaning (declared : String → Option Value) : Expr → NameSupply → Except Fault (Meaning × NameSupply)
  | .literal symbol, supply => .ok (⟨symbol.name, symbol.value.datum⟩, supply)
  | .variable name, supply =>
    match declared name with
    | some value => .ok (⟨name, value.datum⟩, supply)
    | none => .error (.undeclaredVariable name)
  | .unary op operand, supply => do
    let (operand, supply) ← operand.meaning declared supply
    return supply.issue (← op.unaryMeaning operand)
  | .binary op left right, supply => do
    let (left, supply) ← left.meaning declared supply
    let (right, supply) ← right.meaning declared supply
    return supply.issue (← op.binaryMeaning left right)

section

variable (declared : String → Option Value) (supply : NameSupply) (op : Operator) (operand left right : Expr)

theorem meaning_variable (name : String) :
    (Expr.variable name).meaning declared supply =
      match declared name with
      | some value => .ok (⟨name, value.datum⟩, supply)
      | none => .error (.undeclaredVariable name) := rfl

theorem meaning_unary :
    (unary op operand).meaning declared supply =
      (operand.meaning declared supply).bind fun operand => (op.unaryMeaning operand.1).map operand.2.issue := by
  show ((operand.meaning declared supply).bind fun operand =>
    (op.unaryMeaning operand.1).bind fun datum => .ok (operand.2.issue datum)) = _
  refine congrArg _ (funext fun operand => ?_)
  cases op.unaryMeaning operand.1 <;> rfl

theorem meaning_binary :
    (binary op left right).meaning declared supply =
      (left.meaning declared supply).bind fun left => (right.meaning declared left.2).bind fun right =>
        (op.binaryMeaning left.1 right.1).map right.2.issue := by
  show ((left.meaning declared supply).bind fun left => (right.meaning declared left.2).bind fun right =>
    (op.binaryMeaning left.1 right.1).bind fun datum => .ok (right.2.issue datum)) = _
  refine congrArg _ (funext fun left => congrArg _ (funext fun right => ?_))
  cases op.binaryMeaning left.1 right.1 <;> rfl

end

/-- The meanings of the operators in an expression in the order in which they arise, up to the first fault. -/
def results (declared : String → Option Value) : Expr → NameSupply → List Meaning
  | .literal _, _ | .variable _, _ => []
  | .unary op operand, supply =>
    operand.results declared supply
      ++ ((unary op operand).meaning declared supply).toOption.toList.map Prod.fst
  | .binary op left right, supply =>
    left.results declared supply
      ++ (match left.meaning declared supply with
        | .ok (_, supply) => right.results declared supply
        | .error _ => [])
      ++ ((binary op left right).meaning declared supply).toOption.toList.map Prod.fst

end Expr

end SymbolTable
