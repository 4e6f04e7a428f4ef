import SymbolTable.Proofs.Log.Failure
import SymbolTable.Proofs.Log.Ledger
import SymbolTable.Proofs.Store.Refusal

/-!
# The log as an account of the state

The events of the calls on an environment, read in order, tell all of what it holds but the values under names that were
never assigned to. `Store.Told` says so of the events of a run and of the requests that were granted along it; every
call keeps it, so it holds in every state (`log_accounts_for_state`).
-/

namespace SymbolTable

namespace Store

variable {store : Store} {number : Nat} {environment later : Environment}

/-- The events of the calls on an environment along a run. -/
def eventsOn (number : Nat) (store : Store) (actions : List Action) : List Event :=
  (store.history actions).flatMap fun step =>
    if (step.1.callOn? number).isSome then step.2.elim [] fun outcome => outcome.log.events else []

theorem eventsOn_cons_of_none {action : Action} (hcall : action.callOn? number = none) (actions : List Action) :
    store.eventsOn number (action :: actions) = (store.next action).eventsOn number actions := by
  simp only [eventsOn, history_cons, List.flatMap_cons, hcall]
  rfl

theorem eventsOn_cons_of_call (henvironment : store.environment? number = some environment) (context : Context)
    (call : Call Handle Symbol) (actions : List Action) :
    store.eventsOn number (.call number context call :: actions) =
      (environment.perform context call).log.events ++
        (store.next (.call number context call)).eventsOn number actions := by
  simp only [eventsOn, history_cons, List.flatMap_cons, act?, call?, henvironment, Action.callOn?, if_pos]
  rfl

/-- What some events tell agrees with an environment and with the requests that it granted. -/
structure Told (arenas : Arenas) (granted : List Request) (events : List Event) : Prop where
  ledger : ({} : Ledger).enterAll events = arenas.ledger
  counts : ({} : Ledger).TellsCounts events
  assigned : ∀ name ∈ Request.assignedNames granted,
    ∃ value, arenas.value? name = some value ∧ lastAssignment? name events = some value.text

theorem Told.step {context : Context} {request : Request} {result : Except Diagnostic Reply} {granted : List Request}
    {events others : List Event} (htold : Told environment.toArenas granted events)
    (heffect : environment.Effect context request result later)
    (hreports : environment.Reports context request result others) :
    Told later.toArenas (granted ++ Transcript.granted [(request, result)]) (events ++ others) where
  ledger := by rw [Ledger.enterAll_append, htold.ledger, Environment.ledger_step heffect hreports]
  counts := by
    rw [Ledger.tellsCounts_append, htold.ledger]
    exact ⟨htold.counts, hreports.tellsCounts⟩
  assigned := by
    cases result with
    | ok reply => exact Environment.lastAssignment?_step htold.assigned heffect hreports
    | error diagnostic =>
      rw [heffect.eq_of_error, Transcript.granted_error, List.append_nil, hreports.eq_of_error]
      intro name hmem
      obtain ⟨value, hvalue, hlast⟩ := htold.assigned name hmem
      refine ⟨value, hvalue, ?_⟩
      rw [lastAssignment?, List.filterMap_append, assignment?_event?, List.append_nil]
      exact hlast

theorem told_after {granted : List Request} {events : List Event}
    (henvironment : store.environment? number = some environment) (htold : Told environment.toArenas granted events)
    (actions : List Action) (hlater : (store.after actions).environment? number = some later) :
    Told later.toArenas (granted ++ store.granted number actions) (events ++ store.eventsOn number actions) := by
  induction actions generalizing store environment granted events with
  | nil =>
    rw [after_nil, henvironment] at hlater
    cases hlater
    simpa [Store.granted, Transcript.granted, transcript, eventsOn, history] using htold
  | cons action actions ih =>
    obtain ⟨middle, hmiddle, hbecomes⟩ := environment?_next henvironment action
    rw [granted_cons]
    cases hcall : action.callOn? number with
    | none =>
      rw [hcall] at hbecomes
      have hexchange : store.exchange? number action = none := by rw [exchange?, hcall]; rfl
      rw [eventsOn_cons_of_none hcall, hexchange]
      exact ih hmiddle (hbecomes ▸ htold) hlater
    | some made =>
      obtain ⟨context, call⟩ := made
      rw [hcall] at hbecomes
      obtain rfl := Action.callOn?_eq_some_iff.1 hcall
      have hexchange : store.exchange? number (.call number context call) =
          some (call.request, (environment.perform context call).result) := by
        rw [exchange?, hcall, henvironment]
        rfl
      rw [eventsOn_cons_of_call henvironment, hexchange, ← List.append_assoc, ← List.append_assoc]
      refine ih hmiddle ?_ hlater
      rw [hbecomes]
      exact htold.step (Environment.effect_perform call) (Environment.reports_perform call)

theorem told_new (number : Nat) : Told { owner := .ofNat number } [] [] where
  ledger := rfl
  counts := trivial
  assigned := nofun

/-- The log is a faithful account of the state. Whoever has read the events of an environment since its creation knows
the names and types of its declared symbols, the names, types and values of its temporaries, and the value of every name
that was assigned to since its declaration, and was told by each release how many symbols it dropped. In every state, an
operator that succeeds tells its result as a new temporary and as an evaluation inside the span that it opens, and a call
that fails tells of no change. -/
theorem log_accounts_for_state {creation : Action} {outcome : Outcome Store Response} {events : List Event}
    (hcreation : store.act? creation = some outcome) (hnumber : outcome.result = .ok (.environment number))
    (actions : List Action) (hevents : outcome.state.eventsOn number actions = events) :
    ∃ environment, (outcome.state.after actions).environment? number = some environment ∧
      (({} : Ledger).enterAll events).declared =
        environment.declaredSymbols.map (fun symbol => (symbol.name, symbol.ty.text)) ∧
      (({} : Ledger).enterAll events).temporaries =
        environment.temporarySymbols.map (fun symbol => (symbol.name, symbol.ty.text, symbol.value.text)) ∧
      (∀ before event after, events = before ++ event :: after → (({} : Ledger).enterAll before).TellsCount event) ∧
      (∀ before symbol after value, outcome.state.granted number actions = before ++ .declare symbol :: after →
        .release .declared ∉ after → .assign symbol.name value ∈ after →
        ∃ current, environment.value? symbol.name = some current ∧
          lastAssignment? symbol.name events = some current.text) ∧
      ∀ context call,
        (∀ reply, call.usesOperator = true → (environment.perform context call).result = .ok reply →
          ∃ span made evaluated value,
            (environment.perform context call).log =
              [.opened span, .event (some span) made, .event (some span) evaluated] ∧
            made.message = "new temporary" ∧ made.text? "value" = some value ∧
            evaluated.message = "evaluated" ∧ evaluated.text? "value" = some value ∧
            evaluated.fields.lookup "line" = some (.number context.line.toNat)) ∧
        ∀ diagnostic, (environment.perform context call).result = .error diagnostic →
          (environment.perform context call).log.events = diagnostic.event?.toList ∧
            ∀ event ∈ (environment.perform context call).log.events, event.message ∉ changeMessages := by
  obtain ⟨created, hcreated, hempty⟩ := environment?_of_created hcreation hnumber
  obtain ⟨environment, henvironment⟩ := environment?_after hcreated actions
  have htold := told_after hcreated (hempty ▸ told_new number) actions henvironment
  rw [List.nil_append, List.nil_append, hevents] at htold
  refine ⟨environment, henvironment, congrArg Ledger.declared htold.ledger, congrArg Ledger.temporaries htold.ledger,
    ?_, ?_, fun context call => ⟨?_, ?_⟩⟩
  · intro before event after hsplit
    have hcounts := htold.counts
    rw [hsplit, Ledger.tellsCounts_append] at hcounts
    exact hcounts.2.1
  · intro before symbol after value hgranted hkept hassigned
    refine htold.assigned symbol.name ?_
    rw [hgranted, List.append_cons]
    exact Request.mem_assignedNames hkept hassigned
  · intro reply hoperator hresult
    obtain ⟨span, op, value, hlog⟩ := Environment.log_of_usesOperator hoperator hresult
    exact ⟨span, _, _, value.text, hlog, rfl, rfl, rfl, rfl, rfl⟩
  · intro diagnostic hresult
    rw [Environment.events_of_error hresult]
    exact ⟨rfl, fun event => message_notMem_of_event?⟩

/-- A name that is declared, assigned to, released and declared anew, among a failing operator, a succeeding one and a
temporary of another environment with the same supply. -/
def accountedRun : List Action :=
  [.call 1 {} (.declare "x" .int), .call 0 {} (.newTemporary .int (.int 3)), .call 1 {} (.assign "x" (.int 5)),
    .call 1 ⟨4, true⟩ (.operate (.arithmetic .add) ⟨"x", .int 5⟩ ⟨"y", .int 1⟩),
    .call 1 {} (.evalBinary (.binary (.arithmetic .div)) ⟨"x", .int 5⟩ ⟨"y", .int 0⟩), .call 1 {} .releaseDeclared,
    .call 1 {} (.declare "x" .bool), .call 1 {} (.assign "x" (.bool true)), .call 1 {} (.assign "x" (.int 7))]

theorem log_accounts_for_state_declared_anew :
    ∃ environment, (((({} : Store).after [.newEnvironment]).next (.newEnvironmentOn 0)).after
        accountedRun).environment? 1 = some environment ∧
      environment.declaredSymbols.map (fun symbol => (symbol.name, symbol.ty.text)) = [("x", "bool")] ∧
      environment.temporarySymbols.map (fun symbol => (symbol.name, symbol.ty.text, symbol.value.text)) =
        [("_temp1", "int", "6")] ∧
      ∃ current, environment.value? "x" = some current ∧ current.text = "true" := by
  have hcreation : (({} : Store).after [.newEnvironment]).act? (.newEnvironmentOn 0) = some _ := rfl
  obtain ⟨environment, henvironment, hdeclared, htemporaries, -, hassigned, -⟩ :=
    log_accounts_for_state hcreation rfl accountedRun rfl
  refine ⟨environment, henvironment, hdeclared.symm.trans rfl, htemporaries.symm.trans rfl, ?_⟩
  obtain ⟨current, hcurrent, hlast⟩ :=
    hassigned [.declare ⟨"x", .int 0⟩, .assign "x" (.int 5), .create (.ok (.int 6)), .release .declared]
      ⟨"x", .bool false⟩ [.assign "x" (.bool true)] (.bool true) rfl (by simp) (List.mem_singleton_self _)
  exact ⟨current, hcurrent, Option.some.inj (hlast.symm.trans rfl)⟩

end Store

end SymbolTable
