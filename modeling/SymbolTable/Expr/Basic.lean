import SymbolTable.Evaluation

/-!
# Expressions

An expression is a tree of operators over literal symbols and variables; an operator may stand over any number
of operands from one to two, fitting or not. An environment evaluates it from left to right, operands before
operators. A variable is looked up and copied, and an operator is used on the symbols that the handles of its
operands refer to at that moment. Every operator leaves a temporary behind, and the first diagnostic ends the
evaluation.
-/

namespace SymbolTable

inductive Expr where
  | literal (symbol : Symbol)
  | variable (name : String)
  | unary (op : Operator) (operand : Expr)
  | binary (op : Operator) (left right : Expr)

/-- What the evaluation of an expression comes to: a copy for a leaf, a handle for an operator. -/
inductive Operand.Reference where
  | copy (symbol : Symbol)
  | handle (handle : Handle)

/-- The symbol that a reference stands for at the moment. -/
def Environment.deref? (environment : Environment) : Operand.Reference → Option Symbol
  | .copy symbol => some symbol
  | .handle handle => environment.get? handle

namespace Expr

/-- The outcome of an expression, or none as its result if a handle of an operand did not resolve. -/
def evaluate (context : Context) : Expr → Environment → Outcome Environment (Option Operand.Reference)
  | .literal symbol, environment => .done environment (some (.copy symbol)) []
  | .variable name, environment => (environment.lookup context name).map (some ∘ .copy)
  | .unary op operand, environment =>
    (operand.evaluate context environment).andThen fun operand environment =>
      match operand.bind environment.deref? with
      | some operand => (environment.evalUnary context op operand).map (some ∘ .handle)
      | none => .done environment none []
  | .binary op left right, environment =>
    (left.evaluate context environment).andThen fun left environment =>
      (right.evaluate context environment).andThen fun right environment =>
        match left.bind environment.deref?, right.bind environment.deref? with
        | some left, some right => (environment.evalBinary context op left right).map (some ∘ .handle)
        | _, _ => .done environment none []

variable (context : Context) (environment : Environment) (op : Operator) (name : String) (operand left right : Expr)

theorem evaluate_variable :
    (Expr.variable name).evaluate context environment = (environment.lookup context name).map (some ∘ .copy) := rfl

theorem evaluate_unary :
    (unary op operand).evaluate context environment =
      (operand.evaluate context environment).andThen fun operand environment =>
        match operand.bind environment.deref? with
        | some operand => (environment.evalUnary context op operand).map (some ∘ .handle)
        | none => .done environment none [] := rfl

theorem evaluate_binary :
    (binary op left right).evaluate context environment =
      (left.evaluate context environment).andThen fun left environment =>
        (right.evaluate context environment).andThen fun right environment =>
          match left.bind environment.deref?, right.bind environment.deref? with
          | some left, some right => (environment.evalBinary context op left right).map (some ∘ .handle)
          | _, _ => .done environment none [] := rfl

end Expr

end SymbolTable
