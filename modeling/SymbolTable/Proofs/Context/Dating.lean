import Mathlib.Data.List.Forall2
import SymbolTable.Proofs.Store.Refusal

/-!
# What the context of a call shows in

A context gives a call its line and says how much the results of operators are worth in the log. `Outcome.Alike` says
that two outcomes are those of one call in two contexts: results and states are the same, diagnostics carry the two
lines, and the logs differ in the values of line fields and in the levels of evaluations alone. Every call is so
(`Environment.perform_alike`), and so the same calls made in other contexts lead to the same stores
(`Store.history_alike`).
-/

namespace SymbolTable

/-- The level of the result of an operator. -/
def Context.evaluationLevel (context : Context) : Level := if context.trace then .debug else .trace

section

variable (context other : Context)

/-- Fields of one name; lines are those of the two contexts, and all else is the same. -/
def FieldAlike (field otherField : String × FieldValue) : Prop :=
  field.1 = otherField.1 ∧
    if field.1 = "line" then
      field.2 = .number context.line.toNat ∧ otherField.2 = .number other.line.toNat
    else field.2 = otherField.2

/-- Events as they are shown: of one message and of one level, except that evaluations are of the levels that the two
contexts ask for. -/
structure Event.Alike (event otherEvent : Event) : Prop where
  message : event.message = otherEvent.message
  fields : List.Forall₂ (FieldAlike context other) event.fields otherEvent.fields
  level : if event.message = "evaluated" then
      event.level = context.evaluationLevel ∧ otherEvent.level = other.evaluationLevel
    else event.level = otherEvent.level

/-- The opening of one span, or events inside one span or outside of any. -/
inductive LogRecord.Alike : LogRecord → LogRecord → Prop where
  | opened (span : Span) : Alike (.opened span) (.opened span)
  | event (inside : Option Span) {event otherEvent : Event} (hevent : event.Alike context other otherEvent) :
      Alike (.event inside event) (.event inside otherEvent)

/-- The same value, or the same fault with the lines of the two contexts. -/
inductive ResultAlike {α : Type} : Except Diagnostic α → Except Diagnostic α → Prop where
  | ok (value : α) : ResultAlike (.ok value) (.ok value)
  | error (fault : Fault) : ResultAlike (.error ⟨fault, context.line⟩) (.error ⟨fault, other.line⟩)

structure Outcome.Alike {σ α : Type} (outcome otherOutcome : Outcome σ α) : Prop where
  result : ResultAlike context other outcome.result otherOutcome.result
  state : outcome.state = otherOutcome.state
  log : List.Forall₂ (LogRecord.Alike context other) outcome.log otherOutcome.log

/-- What one call logs in two contexts. -/
inductive Event.Dated : Event → Event → Prop where
  | declared (name : String) (ty : Ty) : Dated (.declared name ty context.line) (.declared name ty other.line)
  | duplicate (name : String) : Dated (.duplicate name context.line) (.duplicate name other.line)
  | assigned (name : String) (value : Value) :
      Dated (.assigned name value context.line) (.assigned name value other.line)
  | temporary (name : String) (value : Value) : Dated (.temporary name value) (.temporary name value)
  | releasingDeclared (count : Nat) : Dated (.releasingDeclared count) (.releasingDeclared count)
  | releasingTemporaries (count : Nat) : Dated (.releasingTemporaries count) (.releasingTemporaries count)
  | typeMismatch (op : Operator) : Dated (.typeMismatch op context.line) (.typeMismatch op other.line)
  | divisionByZero : Dated (.divisionByZero context.line) (.divisionByZero other.line)
  | operandCount (op : Operator) : Dated (.operandCount op context.line) (.operandCount op other.line)
  | evaluated (op : Operator) (value : Value) : Dated (.evaluated op value context) (.evaluated op value other)

end

/-- The context of a call; no other action has one. -/
def Action.context : Action → Context
  | .call _ context _ => context
  | .newSupply | .newEnvironment | .newEnvironmentOn _ | .takeName _ => {}

/-- Actions that are the same but for the contexts of calls. -/
inductive Action.Alike : Action → Action → Prop where
  | call (number : Nat) (context other : Context) (call : Call Handle Symbol) :
      Alike (.call number context call) (.call number other call)
  | newSupply : Alike .newSupply .newSupply
  | newEnvironment : Alike .newEnvironment .newEnvironment
  | newEnvironmentOn (supply : Nat) : Alike (.newEnvironmentOn supply) (.newEnvironmentOn supply)
  | takeName (supply : Nat) : Alike (.takeName supply) (.takeName supply)

variable {context other : Context}

theorem fieldAlike_line :
    FieldAlike context other ("line", .number context.line.toNat) ("line", .number other.line.toNat) :=
  ⟨rfl, rfl, rfl⟩

theorem fieldAlike_of_ne {name : String} (hname : name ≠ "line") (value : FieldValue) :
    FieldAlike context other (name, value) (name, value) := by
  refine ⟨rfl, ?_⟩
  rw [if_neg hname]

/-- In what is shown of an event, its context can be seen in the line, and for an evaluation in the level. -/
theorem Event.Dated.alike {event otherEvent : Event} (hdated : Event.Dated context other event otherEvent) :
    event.Alike context other otherEvent := by
  cases hdated with
  | evaluated op value =>
    refine ⟨rfl, ?_, ?_⟩
    · simp [fields, fieldAlike_line, fieldAlike_of_ne]
    · exact ⟨rfl, rfl⟩
  | _ =>
    refine ⟨rfl, ?_, rfl⟩
    simp [fields, fieldAlike_line, fieldAlike_of_ne]

/-! ### One call in two contexts -/

theorem alike_ofEvents {events otherEvents : List Event}
    (hdated : List.Forall₂ (Event.Dated context other) events otherEvents) :
    List.Forall₂ (LogRecord.Alike context other) (Log.ofEvents events) (Log.ofEvents otherEvents) := by
  rw [Log.ofEvents, Log.ofEvents, List.forall₂_map_left_iff, List.forall₂_map_right_iff]
  exact hdated.imp fun _ _ hevent => .event none hevent.alike

theorem Fault.dated_event? (fault : Fault) :
    List.Forall₂ (Event.Dated context other) (Diagnostic.event? ⟨fault, context.line⟩).toList
      (Diagnostic.event? ⟨fault, other.line⟩).toList := by
  cases fault with
  | typeMismatch mismatch => exact .cons (.typeMismatch mismatch.op) .nil
  | divisionByZero => exact .cons .divisionByZero .nil
  | operandCount op => exact .cons (.operandCount op) .nil
  | duplicateDeclaration name => exact .cons (.duplicate name) .nil
  | overflow op => exact .nil
  | undeclaredVariable name => exact .nil
  | valueTypeMismatch name expected found => exact .nil

namespace Outcome.Alike

variable {σ α β : Type}

theorem done (state : σ) (value : α) {events otherEvents : List Event}
    (hdated : List.Forall₂ (Event.Dated context other) events otherEvents) :
    (Outcome.done state value events).Alike context other (.done state value otherEvents) where
  result := .ok value
  state := rfl
  log := alike_ofEvents hdated

theorem refuse (state : σ) (fault : Fault) :
    (Outcome.refuse state context fault : Outcome σ α).Alike context other (.refuse state other fault) where
  result := .error fault
  state := rfl
  log := alike_ofEvents fault.dated_event?

variable {outcome otherOutcome : Outcome σ α}

theorem within (halike : outcome.Alike context other otherOutcome) (span : Span) :
    (outcome.within span).Alike context other (otherOutcome.within span) where
  result := halike.result
  state := halike.state
  log := by
    refine .cons (.opened span) ?_
    rw [List.forall₂_map_left_iff, List.forall₂_map_right_iff]
    refine halike.log.imp fun record otherRecord hrecord => ?_
    cases hrecord with
    | opened opened => exact .opened opened
    | event inside hevent =>
      cases inside with
      | none => exact .event (some span) hevent
      | some within => exact .event (some within) hevent

theorem map (halike : outcome.Alike context other otherOutcome) (f : α → β) :
    (outcome.map f).Alike context other (otherOutcome.map f) where
  result := by
    obtain ⟨result, state, log⟩ := outcome
    obtain ⟨otherResult, otherState, otherLog⟩ := otherOutcome
    obtain ⟨hresult, -, -⟩ := halike
    cases hresult with
    | ok value => exact .ok (f value)
    | error fault => exact .error fault
  state := halike.state
  log := halike.log

end Outcome.Alike

namespace Environment

variable (environment : Environment)

theorem declareWith_alike (name : String) (value : Value) :
    (environment.declareWith context name value).Alike context other (environment.declareWith other name value) := by
  unfold declareWith
  split
  · exact .refuse environment _
  · exact .done _ _ (.cons (.declared name value.ty) .nil)

theorem assign_alike (name : String) (value : Value) :
    (environment.assign context name value).Alike context other (environment.assign other name value) := by
  unfold assign
  split
  · exact .refuse environment _
  · split
    · exact .done _ _ (.cons (.assigned name value) .nil)
    · exact .refuse environment _

theorem lookup_alike (name : String) :
    (environment.lookup context name).Alike context other (environment.lookup other name) := by
  unfold lookup
  split
  · exact .done environment _ .nil
  · exact .refuse environment _

theorem newTemporary_alike (ty : Ty) (value : Value) :
    (environment.newTemporary context ty value).Alike context other (environment.newTemporary other ty value) := by
  unfold newTemporary
  split
  · exact .done _ _ (.cons (.temporary _ value) .nil)
  · exact .refuse environment _

theorem keep_alike (op : Operator) (computed : Except Fault Value) :
    (environment.keep context op computed).Alike context other (environment.keep other op computed) := by
  cases computed with
  | ok value => exact .done _ _ (.cons (.temporary _ value) (.cons (.evaluated op value) .nil))
  | error fault => exact .refuse environment fault

theorem evalBinary_alike (op : Operator) (left right : Symbol) :
    (environment.evalBinary context op left right).Alike context other (environment.evalBinary other op left right) := by
  cases op with
  | binary op => exact (environment.keep_alike (.binary op) (op.compute left right)).within _
  | not => exact .refuse environment _

theorem evalUnary_alike (op : Operator) (operand : Symbol) :
    (environment.evalUnary context op operand).Alike context other (environment.evalUnary other op operand) := by
  cases op with
  | binary op => exact .refuse environment _
  | not => exact (environment.keep_alike .not operand.negation).within _

/-- A call comes to the same in every context, up to what a context shows in. -/
theorem perform_alike (call : Call Handle Symbol) :
    (environment.perform context call).Alike context other (environment.perform other call) := by
  cases call with
  | declare name ty => exact (environment.declareWith_alike name ty.zero).map _
  | declareWith name value => exact (environment.declareWith_alike name value).map _
  | assign name value => exact (environment.assign_alike name value).map _
  | assignFrom name source => exact (environment.assign_alike name source.value).map _
  | newTemporary ty value => exact (environment.newTemporary_alike ty value).map _
  | operate op left right => exact ((environment.keep_alike (.binary op) (op.compute left right)).within _).map _
  | negate operand => exact ((environment.keep_alike .not operand.negation).within _).map _
  | evalBinary op left right => exact (environment.evalBinary_alike op left right).map _
  | evalUnary op operand => exact (environment.evalUnary_alike op operand).map _
  | lookup name => exact (environment.lookup_alike name).map _
  | find name => exact .done environment _ .nil
  | contains name => exact .done environment _ .nil
  | handleOf name => exact .done environment _ .nil
  | get handle => exact .done environment _ .nil
  | table => exact .done environment _ .nil
  | releaseDeclared => exact (Outcome.Alike.done _ () (.cons (.releasingDeclared _) .nil)).map _
  | releaseTemporaries => exact (Outcome.Alike.done _ () (.cons (.releasingTemporaries _) .nil)).map _

end Environment

/-! ### Runs in other contexts -/

namespace Store

variable (store : Store)

theorem call?_alike (number : Nat) (call : Call Handle Symbol) :
    Option.Rel (Outcome.Alike context other) (store.call? number context call) (store.call? number other call) := by
  rw [call?, call?]
  cases store.environment? number with
  | none => exact .none
  | some environment =>
    obtain ⟨hresult, hstate, hlog⟩ :
        (environment.perform context call).Alike context other (environment.perform other call) :=
      environment.perform_alike call
    exact .some ⟨hresult, congrArg (store.put number) hstate, hlog⟩

theorem act?_alike {action otherAction : Action} (halike : action.Alike otherAction) :
    Option.Rel (Outcome.Alike action.context otherAction.context) (store.act? action) (store.act? otherAction) := by
  cases halike with
  | call number context other call =>
    have hcall : Option.Rel (Outcome.Alike context other) (store.call? number context call)
        (store.call? number other call) := store.call?_alike number call
    rw [act?, act?]
    generalize store.call? number context call = outcome, store.call? number other call = otherOutcome at hcall
    cases hcall with
    | none => exact .none
    | some houtcome => exact .some (houtcome.map _)
  | newSupply => exact .some (.done _ _ .nil)
  | newEnvironment => exact .some (.done _ _ .nil)
  | newEnvironmentOn supply =>
    rw [act?]
    cases store.newEnvironmentOn? supply with
    | none => exact .none
    | some created => exact .some (.done _ _ .nil)
  | takeName supply =>
    rw [act?]
    cases store.takeName? supply with
    | none => exact .none
    | some taken => exact .some (.done _ _ .nil)

theorem next_eq_of_alike {action otherAction : Action} (halike : action.Alike otherAction) :
    store.next action = store.next otherAction := by
  have houtcome := store.act?_alike halike
  rw [next, next]
  generalize store.act? action = outcome, store.act? otherAction = otherOutcome at houtcome
  cases houtcome with
  | none => rfl
  | some houtcome => exact houtcome.state

/-- The context never influences evaluation. Two runs of the same actions, with any contexts given to corresponding
calls, end in the same store, and corresponding actions come to the same: the same reply or the same fault, which tells
the line that its own call was given, the same store after it, and logs of the same spans and events that differ in the
values of line fields and in the levels of evaluations alone, as the two contexts say. -/
theorem history_alike {actions otherActions : List Action} (halike : List.Forall₂ Action.Alike actions otherActions) :
    List.Forall₂ (fun step otherStep =>
        Option.Rel (Outcome.Alike step.1.context otherStep.1.context) step.2 otherStep.2)
      (store.history actions) (store.history otherActions) ∧
      store.after actions = store.after otherActions := by
  induction halike generalizing store with
  | nil => exact ⟨.nil, rfl⟩
  | cons haction hactions ih =>
    obtain ⟨hhistory, hafter⟩ := ih (store.next _)
    rw [history_cons, history_cons, after_cons, after_cons]
    rw [store.next_eq_of_alike haction] at hhistory hafter ⊢
    exact ⟨.cons (store.act?_alike haction) hhistory, hafter⟩

/-- A declaration, a refused declaration, a failing and a succeeding operator, each in a context of its own. -/
def contextualRun (first second third fourth : Context) : List Action :=
  [.newEnvironment, .call 0 first (.declareWith "x" (.int 4)), .call 0 second (.declare "x" .bool),
    .call 0 third (.operate (.arithmetic .div) ⟨"x", .int 4⟩ ⟨"y", .int 0⟩),
    .call 0 fourth (.operate (.arithmetic .add) ⟨"x", .int 4⟩ ⟨"y", .int 2⟩)]

theorem history_alike_contextual :
    ((({} : Store).history (contextualRun ⟨1, true⟩ ⟨2, true⟩ ⟨3, true⟩ ⟨4, true⟩))[4]?.bind Prod.snd).map Outcome.log =
        some [.opened (.binary (.arithmetic .add) "x" "y"),
          .event (some (.binary (.arithmetic .add) "x" "y")) (.temporary "_temp0" (.int 6)),
          .event (some (.binary (.arithmetic .add) "x" "y"))
            (.evaluated (.binary (.arithmetic .add)) (.int 6) ⟨4, true⟩)] ∧
      ({} : Store).after (contextualRun ⟨1, true⟩ ⟨2, true⟩ ⟨3, true⟩ ⟨4, true⟩) =
        ({} : Store).after (contextualRun {} ⟨9, false⟩ ⟨9, true⟩ ⟨0, false⟩) := by
  have halike : List.Forall₂ Action.Alike (contextualRun ⟨1, true⟩ ⟨2, true⟩ ⟨3, true⟩ ⟨4, true⟩)
      (contextualRun {} ⟨9, false⟩ ⟨9, true⟩ ⟨0, false⟩) :=
    .cons .newEnvironment (.cons (.call ..) (.cons (.call ..) (.cons (.call ..) (.cons (.call ..) .nil))))
  exact ⟨by decide, (({} : Store).history_alike halike).2⟩

end Store

end SymbolTable
