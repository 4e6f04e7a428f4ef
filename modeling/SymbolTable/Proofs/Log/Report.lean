import SymbolTable.Proofs.Effect

/-!
# What a call logs

The events of a call are told by what it asked and what that came to. `Environment.Reports` lists them beside
`Environment.Effect`: a granted request has events of its own, and a refused one has that of its diagnostic, if there is
one. `reports_perform` says that every call logs one of these, whatever span its events stand in.
-/

namespace SymbolTable

/-- Whether a call uses an operator, by its function or by its token. -/
def Call.usesOperator {η ο : Type} : Call η ο → Bool
  | .operate .. | .negate _ | .evalBinary .. | .evalUnary .. => true
  | _ => false

namespace Log

/-- The events of a log, inside spans and outside. -/
def events (log : Log) : List Event :=
  log.filterMap fun
    | .opened _ => none
    | .event _ event => some event

@[simp] theorem events_ofEvents (shown : List Event) : (Log.ofEvents shown).events = shown := by
  rw [ofEvents, events, List.filterMap_map]
  exact List.filterMap_some

@[simp] theorem events_within (span : Span) (log : Log) : (log.within span).events = log.events := by
  rw [within, events, List.filterMap_cons_none rfl, List.filterMap_map]
  refine congrArg (List.filterMap · log) (funext fun record => ?_)
  obtain span | ⟨_ | inside, event⟩ := record
  · rfl
  · rfl
  · rfl

end Log

namespace Environment

variable (environment : Environment) (context : Context)

/-- The events of a request, by what it came to. -/
inductive Reports : Request → Except Diagnostic Reply → List Event → Prop where
  | refused (request : Request) (diagnostic : Diagnostic) :
      Reports request (.error diagnostic) diagnostic.event?.toList
  | declared (symbol : Symbol) (reply : Reply) :
      Reports (.declare symbol) (.ok reply) [.declared symbol.name symbol.ty context.line]
  | assigned (name : String) (value : Value) (reply : Reply) :
      Reports (.assign name value) (.ok reply) [.assigned name value context.line]
  | created (value : Value) (reply : Reply) :
      Reports (.create (.ok value)) (.ok reply) [.temporary environment.supply.name value]
  | evaluated (op : Operator) (value : Value) (reply : Reply) :
      Reports (.create (.ok value)) (.ok reply)
        [.temporary environment.supply.name value, .evaluated op value context]
  | located (name : String) (reply : Reply) : Reports (.locate name) (.ok reply) []
  | inspected (reply : Reply) : Reports .inspect (.ok reply) []
  | releasedDeclared (reply : Reply) :
      Reports (.release .declared) (.ok reply) [.releasingDeclared environment.declaredCount]
  | releasedTemporaries (reply : Reply) :
      Reports (.release .temporary) (.ok reply) [.releasingTemporaries environment.temporaryCount]

variable {environment context}

theorem reports_refuse (request : Request) (fault : Fault) :
    environment.Reports context request (.error ⟨fault, context.line⟩)
      (Outcome.refuse environment context fault : Outcome Environment Handle).log.events := by
  rw [Outcome.refuse, Log.events_ofEvents]
  exact .refused request ⟨fault, context.line⟩

theorem reports_declareWith (name : String) (value : Value) :
    environment.Reports context (.declare ⟨name, value⟩)
      ((environment.declareWith context name value).map .handle).result
      (environment.declareWith context name value).log.events := by
  unfold declareWith
  split
  · exact reports_refuse _ _
  · exact .declared ⟨name, value⟩ _

theorem reports_assign (name : String) (value : Value) :
    environment.Reports context (.assign name value) ((environment.assign context name value).map .handle).result
      (environment.assign context name value).log.events := by
  unfold assign
  split
  · exact reports_refuse _ _
  · split
    · exact .assigned name value _
    · exact reports_refuse _ _

theorem reports_newTemporary (ty : Ty) (value : Value) :
    environment.Reports context (Call.newTemporary ty value).request
      ((environment.newTemporary context ty value).map .handle).result
      (environment.newTemporary context ty value).log.events := by
  simp only [newTemporary, Call.request]
  split
  · exact .created value _
  · exact reports_refuse _ _

theorem reports_keep (op : Operator) (computed : Except Fault Value) (span : Span) :
    environment.Reports context (.create computed)
      (((environment.keep context op computed).within span).map .handle).result
      ((environment.keep context op computed).within span).log.events := by
  rw [Outcome.within, Log.events_within]
  cases computed with
  | ok value => exact .evaluated op value _
  | error fault => exact reports_refuse _ fault

theorem reports_evalBinary (op : Operator) (left right : Symbol) :
    environment.Reports context (.create (op.computeBinary left right))
      ((environment.evalBinary context op left right).map .handle).result
      (environment.evalBinary context op left right).log.events := by
  cases op with
  | binary op => exact reports_keep (.binary op) _ _
  | not => exact reports_refuse _ _

theorem reports_evalUnary (op : Operator) (operand : Symbol) :
    environment.Reports context (.create (op.computeUnary operand))
      ((environment.evalUnary context op operand).map .handle).result
      (environment.evalUnary context op operand).log.events := by
  cases op with
  | binary op => exact reports_refuse _ _
  | not => exact reports_keep .not _ _

theorem reports_lookup (name : String) :
    environment.Reports context .inspect ((environment.lookup context name).map .symbol).result
      (environment.lookup context name).log.events := by
  unfold lookup
  split
  · exact .inspected _
  · exact .refused .inspect ⟨.undeclaredVariable name, context.line⟩

/-- Everything that a call can log. -/
theorem reports_perform (call : Call Handle Symbol) :
    environment.Reports context call.request (environment.perform context call).result
      (environment.perform context call).log.events := by
  cases call with
  | declare name ty => exact reports_declareWith name ty.zero
  | declareWith name value => exact reports_declareWith name value
  | assign name value => exact reports_assign name value
  | assignFrom name source => exact reports_assign name source.value
  | newTemporary ty value => exact reports_newTemporary ty value
  | operate op left right => exact reports_keep (.binary op) (op.compute left right) _
  | negate operand => exact reports_keep .not operand.negation _
  | evalBinary op left right => exact reports_evalBinary op left right
  | evalUnary op operand => exact reports_evalUnary op operand
  | lookup name => exact reports_lookup name
  | find name => exact .inspected _
  | contains name => exact .inspected _
  | handleOf name => exact .located name _
  | get handle => exact .inspected _
  | table => exact .inspected _
  | releaseDeclared => exact .releasedDeclared _
  | releaseTemporaries => exact .releasedTemporaries _

theorem Reports.eq_of_error {request : Request} {diagnostic : Diagnostic} {events : List Event}
    (hreports : environment.Reports context request (.error diagnostic) events) :
    events = diagnostic.event?.toList := by
  cases hreports
  rfl

/-- An operator that keeps its result logs the new temporary and the evaluation, both inside its span. -/
theorem log_keep (op : Operator) {computed : Except Fault Value} (span : Span) {reply : Reply}
    (hresult : (((environment.keep context op computed).within span).map .handle).result = .ok reply) :
    ∃ value, (((environment.keep context op computed).within span).map Reply.handle).log =
      [.opened span, .event (some span) (.temporary environment.supply.name value),
        .event (some span) (.evaluated op value context)] := by
  cases computed with
  | ok value => exact ⟨value, rfl⟩
  | error fault => cases hresult

theorem log_of_usesOperator {call : Call Handle Symbol} {reply : Reply} (hoperator : call.usesOperator = true)
    (hresult : (environment.perform context call).result = .ok reply) :
    ∃ span op value, (environment.perform context call).log =
      [.opened span, .event (some span) (.temporary environment.supply.name value),
        .event (some span) (.evaluated op value context)] := by
  cases call with
  | operate op left right => exact ⟨_, _, log_keep (.binary op) _ hresult⟩
  | negate operand => exact ⟨_, _, log_keep .not _ hresult⟩
  | evalBinary op left right =>
    cases op with
    | binary op => exact ⟨_, _, log_keep (.binary op) _ hresult⟩
    | not => cases hresult
  | evalUnary op operand =>
    cases op with
    | binary op => cases hresult
    | not => exact ⟨_, _, log_keep .not _ hresult⟩
  | _ => cases hoperator

end Environment

end SymbolTable
