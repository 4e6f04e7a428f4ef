import SymbolTable.Proofs.Log.Report

/-!
# Which failures show

A use of an operator fails with one of four faults. An operand of the wrong type, a wrong number of operands and a zero
divisor each show in the log, at the line of the context. A result out of range does not: nothing but the span tells of
it. So a failure of an operator shows exactly if it is no overflow (`failure_shows_iff`).
-/

namespace SymbolTable

/-- The faults that operators find. -/
def Fault.isOperational : Fault → Bool
  | .typeMismatch _ | .divisionByZero | .overflow _ | .operandCount _ => true
  | .duplicateDeclaration _ | .undeclaredVariable _ | .valueTypeMismatch .. => false

/-- An event of the level of failures that carries the line of a context. -/
def Event.TellsFailure (context : Context) (event : Event) : Prop :=
  event.level = .debug ∧ event.fields.lookup "line" = some (.number context.line.toNat)

section

variable {fault : Fault} {left right operand : Symbol}

theorem BinaryOperator.isOperational_of_compute {op : BinaryOperator} (hfault : op.compute left right = .error fault) :
    fault.isOperational = true := by
  unfold compute at hfault
  split at hfault
  · next op a b _ _ =>
    cases happly : op.apply a b with
    | ok result =>
      rw [happly] at hfault
      cases hfault
    | error failure =>
      rw [happly] at hfault
      cases hfault
      cases failure <;> rfl
  · cases hfault
  · split at hfault
    · cases hfault
      rfl
    · cases hfault
  · cases hfault
  · cases hfault
    rfl

theorem Symbol.isOperational_of_negation (hfault : operand.negation = .error fault) : fault.isOperational = true := by
  unfold negation at hfault
  split at hfault
  · cases hfault
  · cases hfault
    rfl

theorem Operator.isOperational_of_computeBinary {op : Operator} (hfault : op.computeBinary left right = .error fault) :
    fault.isOperational = true := by
  cases op with
  | binary op => exact op.isOperational_of_compute hfault
  | not =>
    cases hfault
    rfl

theorem Operator.isOperational_of_computeUnary {op : Operator} (hfault : op.computeUnary operand = .error fault) :
    fault.isOperational = true := by
  cases op with
  | binary op =>
    cases hfault
    rfl
  | not => exact operand.isOperational_of_negation hfault

/-- A call that uses an operator asks for a temporary, and what keeps it from one is a fault of the operator. -/
theorem Call.request_of_usesOperator {call : Call Handle Symbol} (hoperator : call.usesOperator = true) :
    ∃ computed, call.request = .create computed ∧
      ∀ fault, computed = .error fault → fault.isOperational = true := by
  cases call with
  | operate op left right => exact ⟨_, rfl, fun _ => op.isOperational_of_compute⟩
  | negate operand => exact ⟨_, rfl, fun _ => operand.isOperational_of_negation⟩
  | evalBinary op left right => exact ⟨_, rfl, fun _ => op.isOperational_of_computeBinary⟩
  | evalUnary op operand => exact ⟨_, rfl, fun _ => op.isOperational_of_computeUnary⟩
  | _ => cases hoperator

end

/-- Of the faults that operators find, all but one have an event. -/
theorem Fault.shows_iff {fault : Fault} (hoperational : fault.isOperational = true) (context : Context) :
    (∃ event ∈ (Diagnostic.event? ⟨fault, context.line⟩).toList, event.TellsFailure context) ↔
      ∀ op, fault ≠ .overflow op := by
  cases fault with
  | typeMismatch mismatch => exact iff_of_true ⟨_, List.mem_singleton_self _, rfl, rfl⟩ nofun
  | divisionByZero => exact iff_of_true ⟨_, List.mem_singleton_self _, rfl, rfl⟩ nofun
  | operandCount op => exact iff_of_true ⟨_, List.mem_singleton_self _, rfl, rfl⟩ nofun
  | overflow op =>
    refine iff_of_false ?_ fun hother => hother op rfl
    rintro ⟨event, hevent, -⟩
    cases hevent
  | _ => cases hoperational

/-- The messages of events that tell of a change. -/
def changeMessages : List String :=
  ["declared symbol", "assigned", "new temporary", "evaluated", "releasing declared symbols", "releasing temporaries"]

theorem message_notMem_of_event? {diagnostic : Diagnostic} {event : Event}
    (hevent : event ∈ diagnostic.event?.toList) : event.message ∉ changeMessages := by
  obtain ⟨fault, line⟩ := diagnostic
  cases fault with
  | typeMismatch mismatch =>
    obtain rfl := List.mem_singleton.1 hevent
    exact (by decide : "operand type mismatch" ∉ changeMessages)
  | divisionByZero =>
    obtain rfl := List.mem_singleton.1 hevent
    exact (by decide : "division by zero" ∉ changeMessages)
  | operandCount op =>
    obtain rfl := List.mem_singleton.1 hevent
    exact (by decide : "operator dispatched with wrong operand count" ∉ changeMessages)
  | duplicateDeclaration name =>
    obtain rfl := List.mem_singleton.1 hevent
    exact (by decide : "duplicate declaration" ∉ changeMessages)
  | _ => cases hevent

namespace Environment

variable {environment : Environment} {context : Context} {call : Call Handle Symbol} {diagnostic : Diagnostic}

/-- A failing use of an operator has the line of its context, and a fault of the operator. -/
theorem diagnostic_of_usesOperator (hoperator : call.usesOperator = true)
    (hresult : (environment.perform context call).result = .error diagnostic) :
    diagnostic.line = context.line ∧ diagnostic.fault.isOperational = true := by
  obtain ⟨computed, hrequest, hoperational⟩ := Call.request_of_usesOperator hoperator
  have heffect : environment.Effect context call.request (environment.perform context call).result
      (environment.perform context call).state := effect_perform call
  rw [hrequest, hresult] at heffect
  generalize (environment.perform context call).state = later at heffect
  cases heffect with
  | faulty fault => exact ⟨rfl, hoperational fault rfl⟩

/-- A failing call logs the event of its diagnostic, if that has one, and nothing else. -/
theorem events_of_error (hresult : (environment.perform context call).result = .error diagnostic) :
    (environment.perform context call).log.events = diagnostic.event?.toList := by
  have hreports : environment.Reports context call.request (environment.perform context call).result
      (environment.perform context call).log.events := reports_perform call
  rw [hresult] at hreports
  exact hreports.eq_of_error

/-- A use of an operator that fails, by its function or by its token, shows in the log at the line of its context exactly
if its fault is no overflow. -/
theorem failure_shows_iff (hoperator : call.usesOperator = true)
    (hresult : (environment.perform context call).result = .error diagnostic) :
    (∃ event ∈ (environment.perform context call).log.events, event.TellsFailure context) ↔
      ∀ op, diagnostic.fault ≠ .overflow op := by
  obtain ⟨hline, hoperational⟩ := diagnostic_of_usesOperator hoperator hresult
  obtain ⟨fault, line⟩ := diagnostic
  obtain rfl : line = context.line := hline
  rw [events_of_error hresult]
  exact Fault.shows_iff hoperational context

/-- The quotient of five by zero fails, and the log tells so. -/
theorem failure_shows_iff_zero_divisor :
    ∃ event ∈ (({ owner := 0 } : Environment).perform ⟨7, false⟩
        (.evalBinary (.binary (.arithmetic .div)) ⟨"a", .int 5⟩ ⟨"b", .int 0⟩)).log.events,
      event.TellsFailure ⟨7, false⟩ := by
  have hresult : (({ owner := 0 } : Environment).perform ⟨7, false⟩
      (.evalBinary (.binary (.arithmetic .div)) ⟨"a", .int 5⟩ ⟨"b", .int 0⟩)).result =
      .error ⟨.divisionByZero, 7⟩ := rfl
  exact (failure_shows_iff rfl hresult).2 nofun

/-- The sum of the greatest word and one. -/
def greatestPlusOne : Call Handle Symbol :=
  .evalBinary (.binary (.arithmetic .add)) ⟨"a", .int 9223372036854775807⟩ ⟨"b", .int 1⟩

/-- It fails, and nothing in the log tells so. -/
theorem overflow_leaves_no_event :
    (({ owner := 0 } : Environment).perform ⟨7, false⟩ greatestPlusOne).result =
        .error ⟨.overflow (.binary (.arithmetic .add)), 7⟩ ∧
      ¬∃ event ∈ (({ owner := 0 } : Environment).perform ⟨7, false⟩ greatestPlusOne).log.events,
        event.TellsFailure ⟨7, false⟩ := by
  have hsilent : (({ owner := 0 } : Environment).perform ⟨7, false⟩ greatestPlusOne).log.events = [] := rfl
  refine ⟨rfl, ?_⟩
  rw [hsilent]
  rintro ⟨event, hevent, -⟩
  cases hevent

end Environment

end SymbolTable
