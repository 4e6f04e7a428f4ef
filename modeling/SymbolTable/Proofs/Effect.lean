import SymbolTable.Call

/-!
# What a call does

Calls come in many forms, but each of them makes one of six requests of its environment. `Environment.Effect`
lists what can become of a request, with the reason for each outcome, and `effect_perform` says that every call
is carried out in one of these ways. The rest of the theory reaches what calls do only through this list.
-/

namespace SymbolTable

/-- What a call asks of an environment, whatever form it has. -/
inductive Request where
  | declare (symbol : Symbol)
  | assign (name : String) (value : Value)
  /-- A temporary for a value, or the fault that was found on the way to it. -/
  | create (computed : Except Fault Value)
  | locate (name : String)
  /-- A look that brings no handle. -/
  | inspect
  | release (kind : ArenaKind)

namespace Operator

/-- What an operator makes of two operands, if it takes two. -/
def computeBinary (op : Operator) (left right : Symbol) : Except Fault Value :=
  match op with
  | .binary op => op.compute left right
  | .not => .error (.operandCount .not)

/-- What an operator makes of one operand, if it takes one. -/
def computeUnary (op : Operator) (operand : Symbol) : Except Fault Value :=
  match op with
  | .not => operand.negation
  | op => .error (.operandCount op)

end Operator

def Call.request : Call Handle Symbol → Request
  | .declare name ty => .declare (.ofTy name ty)
  | .declareWith name value => .declare ⟨name, value⟩
  | .assign name value => .assign name value
  | .assignFrom name source => .assign name source.value
  | .newTemporary ty value =>
    .create (if value.ty = ty then .ok value else .error (.valueTypeMismatch temporaryStem ty value.ty))
  | .operate op left right => .create (op.compute left right)
  | .negate operand => .create operand.negation
  | .evalBinary op left right => .create (op.computeBinary left right)
  | .evalUnary op operand => .create (op.computeUnary operand)
  | .handleOf name => .locate name
  | .lookup _ | .find _ | .contains _ | .get _ | .table => .inspect
  | .releaseDeclared => .release .declared
  | .releaseTemporaries => .release .temporary

/-- The handle that a reply brings. -/
def Reply.handle? : Reply → Option Handle
  | .handle issued => some issued
  | .located issued => issued
  | .symbol _ | .found _ | .flag _ | .text _ | .done => none

namespace Environment

variable (environment : Environment) (context : Context)

/-- What a request can come to, and the environment after it. -/
inductive Effect : Request → Except Diagnostic Reply → Environment → Prop where
  | declared {symbol : Symbol} {extended : Declarations}
      (hinsert : environment.declared.contents.insert? symbol = some extended) :
      Effect (.declare symbol) (.ok (.handle (environment.declaredHandle environment.declaredCount)))
        { environment with declared.contents := extended }
  | duplicate {symbol : Symbol} (hinsert : environment.declared.contents.insert? symbol = none) :
      Effect (.declare symbol) (.error ⟨.duplicateDeclaration symbol.name, context.line⟩) environment
  | assigned {name : String} {value : Value} {position : Nat} {symbol : Symbol}
      (hlocate : environment.declared.contents.locate? name = some (position, symbol))
      (hty : symbol.ty = value.ty) :
      Effect (.assign name value) (.ok (.handle (environment.declaredHandle position)))
        { environment with declared.contents := environment.declared.contents.setValue position value }
  | undeclared {name : String} {value : Value} (hlocate : environment.declared.contents.locate? name = none) :
      Effect (.assign name value) (.error ⟨.undeclaredVariable name, context.line⟩) environment
  | mistyped {name : String} {value : Value} {position : Nat} {symbol : Symbol}
      (hlocate : environment.declared.contents.locate? name = some (position, symbol))
      (hty : symbol.ty ≠ value.ty) :
      Effect (.assign name value) (.error ⟨.valueTypeMismatch name symbol.ty value.ty, context.line⟩) environment
  | created (value : Value) :
      Effect (.create (.ok value)) (.ok (.handle environment.nextTemporary)) (environment.push value)
  | faulty (fault : Fault) : Effect (.create (.error fault)) (.error ⟨fault, context.line⟩) environment
  | located (name : String) : Effect (.locate name) (.ok (.located (environment.handle? name))) environment
  | inspected {result : Except Diagnostic Reply} (hresult : ∀ reply, result = .ok reply → reply.handle? = none) :
      Effect .inspect result environment
  | releasedDeclared :
      Effect (.release .declared) (.ok .done) { environment with declared := environment.declared.release {} }
  | releasedTemporaries :
      Effect (.release .temporary) (.ok .done)
        { environment with temporaries := environment.temporaries.release #[] }

variable {environment context}

theorem effect_declareWith (name : String) (value : Value) :
    environment.Effect context (.declare ⟨name, value⟩)
      ((environment.declareWith context name value).map .handle).result
      (environment.declareWith context name value).state := by
  unfold declareWith
  split
  · next hinsert => exact .duplicate hinsert
  · next extended hinsert => exact .declared hinsert

theorem effect_assign (name : String) (value : Value) :
    environment.Effect context (.assign name value) ((environment.assign context name value).map .handle).result
      (environment.assign context name value).state := by
  unfold assign
  split
  · next hlocate => exact .undeclared hlocate
  · next position symbol hlocate =>
    split
    · next hty => exact .assigned hlocate hty
    · next hty => exact .mistyped hlocate hty

theorem effect_newTemporary (ty : Ty) (value : Value) :
    environment.Effect context (Call.newTemporary ty value).request
      ((environment.newTemporary context ty value).map .handle).result
      (environment.newTemporary context ty value).state := by
  simp only [newTemporary, Call.request]
  split
  · exact .created value
  · exact .faulty _

theorem effect_keep (op : Operator) (computed : Except Fault Value) :
    environment.Effect context (.create computed) ((environment.keep context op computed).map .handle).result
      (environment.keep context op computed).state := by
  cases computed with
  | ok value => exact .created value
  | error fault => exact .faulty fault

theorem effect_evalBinary (op : Operator) (left right : Symbol) :
    environment.Effect context (.create (op.computeBinary left right))
      ((environment.evalBinary context op left right).map .handle).result
      (environment.evalBinary context op left right).state := by
  cases op with
  | binary op => exact effect_keep (.binary op) _
  | not => exact .faulty _

theorem effect_evalUnary (op : Operator) (operand : Symbol) :
    environment.Effect context (.create (op.computeUnary operand))
      ((environment.evalUnary context op operand).map .handle).result
      (environment.evalUnary context op operand).state := by
  cases op with
  | binary op => exact .faulty _
  | not => exact effect_keep .not _

theorem effect_lookup (name : String) :
    environment.Effect context .inspect ((environment.lookup context name).map .symbol).result
      (environment.lookup context name).state := by
  unfold lookup
  split
  · apply Effect.inspected
    intro reply hreply
    cases hreply
    rfl
  · apply Effect.inspected
    intro reply hreply
    cases hreply

theorem effect_inspect {reply : Reply} (hreply : reply.handle? = none) :
    environment.Effect context .inspect (environment.inspect reply).result (environment.inspect reply).state := by
  apply Effect.inspected
  intro other hother
  cases hother
  exact hreply

/-- Everything that a call can do to an environment. -/
theorem effect_perform (call : Call Handle Symbol) :
    environment.Effect context call.request (environment.perform context call).result
      (environment.perform context call).state := by
  cases call with
  | declare name ty => exact effect_declareWith name ty.zero
  | declareWith name value => exact effect_declareWith name value
  | assign name value => exact effect_assign name value
  | assignFrom name source => exact effect_assign name source.value
  | newTemporary ty value => exact effect_newTemporary ty value
  | operate op left right => exact effect_keep (.binary op) (op.compute left right)
  | negate operand => exact effect_keep .not operand.negation
  | evalBinary op left right => exact effect_evalBinary op left right
  | evalUnary op operand => exact effect_evalUnary op operand
  | lookup name => exact effect_lookup name
  | find name => exact effect_inspect rfl
  | contains name => exact effect_inspect rfl
  | handleOf name => exact .located name
  | get handle => exact effect_inspect rfl
  | table => exact effect_inspect rfl
  | releaseDeclared => exact .releasedDeclared
  | releaseTemporaries => exact .releasedTemporaries

theorem Effect.eq_of_error {later : Environment} {request : Request} {diagnostic : Diagnostic}
    (heffect : environment.Effect context request (.error diagnostic) later) : later = environment := by
  cases heffect <;> rfl

end Environment

end SymbolTable
