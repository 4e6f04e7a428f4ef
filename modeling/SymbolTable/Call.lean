import SymbolTable.Environment.Table
import SymbolTable.Evaluation

/-!
# Calls

A call is one use of an environment, as a value. It is parametrised by how handles and operand symbols are
given, so that a program of calls can refer to what earlier calls returned; `Call.resolve` replaces such
references, and `Environment.perform` carries out a call whose references are resolved.
-/

namespace SymbolTable

inductive Call (η ο : Type) where
  | declare (name : String) (ty : Ty)
  | declareWith (name : String) (value : Value)
  | assign (name : String) (value : Value)
  /-- An assignment of the value of a symbol. -/
  | assignFrom (name : String) (source : ο)
  | newTemporary (ty : Ty) (value : Value)
  | operate (op : BinaryOperator) (left right : ο)
  | negate (operand : ο)
  | evalBinary (op : Operator) (left right : ο)
  | evalUnary (op : Operator) (operand : ο)
  | lookup (name : String)
  | find (name : String)
  | contains (name : String)
  /-- A request for the handle of a declared symbol. -/
  | handleOf (name : String)
  | get (handle : η)
  | table
  | releaseDeclared
  | releaseTemporaries

/-- What a call returns if it is not refused. -/
inductive Reply where
  | handle (handle : Handle)
  | symbol (symbol : Symbol)
  | found (symbol : Option Symbol)
  | located (handle : Option Handle)
  | flag (flag : Bool)
  | text (text : String)
  | done

/-- A call with its references replaced, from left to right, by what they refer to. -/
def Call.resolve {η ο ε : Type} (handle : η → Except ε Handle) (symbol : ο → Except ε Symbol) :
    Call η ο → Except ε (Call Handle Symbol)
  | .declare name ty => .ok (.declare name ty)
  | .declareWith name value => .ok (.declareWith name value)
  | .assign name value => .ok (.assign name value)
  | .assignFrom name source => do return .assignFrom name (← symbol source)
  | .newTemporary ty value => .ok (.newTemporary ty value)
  | .operate op left right => do
    let left ← symbol left
    let right ← symbol right
    return .operate op left right
  | .negate operand => do return .negate (← symbol operand)
  | .evalBinary op left right => do
    let left ← symbol left
    let right ← symbol right
    return .evalBinary op left right
  | .evalUnary op operand => do return .evalUnary op (← symbol operand)
  | .lookup name => .ok (.lookup name)
  | .find name => .ok (.find name)
  | .contains name => .ok (.contains name)
  | .handleOf name => .ok (.handleOf name)
  | .get reference => do return .get (← handle reference)
  | .table => .ok .table
  | .releaseDeclared => .ok .releaseDeclared
  | .releaseTemporaries => .ok .releaseTemporaries

namespace Environment

variable (environment : Environment)

/-- A call that looks at an environment and leaves it and the log alone. -/
def inspect (reply : Reply) : Outcome Environment Reply := .done environment reply []

def perform (context : Context) : Call Handle Symbol → Outcome Environment Reply
  | .declare name ty => (environment.declare context name ty).map .handle
  | .declareWith name value => (environment.declareWith context name value).map .handle
  | .assign name value => (environment.assign context name value).map .handle
  | .assignFrom name source => (environment.assign context name source.value).map .handle
  | .newTemporary ty value => (environment.newTemporary context ty value).map .handle
  | .operate op left right => (environment.operate context op left right).map .handle
  | .negate operand => (environment.negate context operand).map .handle
  | .evalBinary op left right => (environment.evalBinary context op left right).map .handle
  | .evalUnary op operand => (environment.evalUnary context op operand).map .handle
  | .lookup name => (environment.lookup context name).map .symbol
  | .find name => environment.inspect (.found (environment.find? name))
  | .contains name => environment.inspect (.flag (environment.contains name))
  | .handleOf name => environment.inspect (.located (environment.handle? name))
  | .get handle => environment.inspect (.found (environment.get? handle))
  | .table => environment.inspect (.text environment.table)
  | .releaseDeclared => environment.releaseDeclared.map fun _ => .done
  | .releaseTemporaries => environment.releaseTemporaries.map fun _ => .done

end Environment

end SymbolTable
