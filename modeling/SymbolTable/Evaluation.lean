import SymbolTable.Environment.Basic

/-!
# Evaluation of operators

`BinaryOperator.compute` and `Symbol.negation` say what an operator makes of its operands, or which fault it finds;
operand types are checked before anything else. An environment then keeps each result in a new temporary and
keeps nothing of a fault. Every use of an operator is one span of the log. An operator given by its token is
first held against the number of operands it is used with, outside any span.
-/

namespace SymbolTable

def Arithmetic.Failure.fault (op : Arithmetic) : Arithmetic.Failure → Fault
  | .divisionByZero => .divisionByZero
  | .overflow => .overflow (.binary (.arithmetic op))

/-- Arithmetic and orderings take integers, connectives booleans, and equality two values of one of these
types. -/
def BinaryOperator.compute (op : BinaryOperator) (left right : Symbol) : Except Fault Value :=
  match op, left.value, right.value with
  | .arithmetic op, .int a, .int b => ((op.apply a b).map .int).mapError (·.fault op)
  | .comparison op, .int a, .int b => .ok (.bool (op.holds a b))
  | .comparison op, .bool a, .bool b =>
    if op.isOrdering then
      .error (.typeMismatch ⟨.binary (.comparison op), left.operand, some right.operand⟩)
    else .ok (.bool (op.holds a b))
  | .connective op, .bool a, .bool b => .ok (.bool (op.apply a b))
  | op, _, _ => .error (.typeMismatch ⟨.binary op, left.operand, some right.operand⟩)

/-- The negation of a symbol, which has to be a boolean. -/
def Symbol.negation (operand : Symbol) : Except Fault Value :=
  match operand.value with
  | .bool b => .ok (.bool !b)
  | _ => .error (.typeMismatch ⟨.not, operand.operand, none⟩)

namespace Environment

variable (environment : Environment) (context : Context)

/-- Keeps the result of an operator in a new temporary. -/
def keep (op : Operator) (computed : Except Fault Value) : Outcome Environment Handle :=
  match computed with
  | .ok value =>
    .done (environment.push value) environment.nextTemporary
      [.temporary environment.supply.name value, .evaluated op value context]
  | .error fault => .refuse environment context fault

/-- Uses an operator on two symbols. -/
def operate (op : BinaryOperator) (left right : Symbol) : Outcome Environment Handle :=
  (environment.keep context (.binary op) (op.compute left right)).within
    (.binary op left.name right.name)

/-- Negates a symbol. -/
def negate (operand : Symbol) : Outcome Environment Handle :=
  (environment.keep context .not operand.negation).within (.negation operand.name)

/-- Uses any operator on two symbols, if it takes two. -/
def evalBinary (op : Operator) (left right : Symbol) : Outcome Environment Handle :=
  match op with
  | .binary op => environment.operate context op left right
  | .not => .refuse environment context (.operandCount .not)

/-- Uses any operator on one symbol, if it takes one. -/
def evalUnary (op : Operator) (operand : Symbol) : Outcome Environment Handle :=
  match op with
  | .not => environment.negate context operand
  | op => .refuse environment context (.operandCount op)

end Environment

end SymbolTable
