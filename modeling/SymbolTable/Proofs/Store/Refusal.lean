import SymbolTable.Proofs.Store.Run

/-!
# Refusals leave no trace

A call that comes to a diagnostic leaves the whole store as it was, the supplies of names included. So the refused
calls of a run can be struck out: all others come to the same outcomes, and the run ends in the same store
(`refusals_leave_no_trace`).
-/

namespace SymbolTable

/-- Whether an outcome is a diagnostic. -/
def Outcome.refused {σ α : Type} (outcome : Outcome σ α) : Bool := !outcome.result.isOk

theorem Outcome.refused_iff {σ α : Type} {outcome : Outcome σ α} :
    outcome.refused = true ↔ ∃ diagnostic, outcome.result = .error diagnostic := by
  obtain ⟨result, state, log⟩ := outcome
  cases result with
  | ok value =>
    constructor
    · intro hrefused
      cases hrefused
    · intro herror
      obtain ⟨diagnostic, hresult⟩ := herror
      cases hresult
  | error diagnostic => exact ⟨fun _ => ⟨diagnostic, rfl⟩, fun _ => rfl⟩

theorem modify_of_fixed {α : Type} {entries : Array α} {position : Nat} {entry : α} {change : α → α}
    (hentry : entries[position]? = some entry) (hfixed : change entry = entry) :
    entries.modify position change = entries := by
  apply Array.ext_getElem?
  intro other
  rw [Array.getElem?_modify]
  split
  · next hother => rw [← hother, hentry, Option.map_some, hfixed]
  · rfl

namespace Store

variable {store : Store} {number : Nat} {environment : Environment}

/-- Putting back an environment that has not changed changes nothing. -/
theorem put_environment (henvironment : store.environment? number = some environment) :
    store.put number environment = store := by
  obtain ⟨resident, hresident, harenas, hsupply⟩ := environment?_eq_some_iff.1 henvironment
  have hresidents : store.residents.modify number (fun resident =>
      { resident with arenas := environment.toArenas }) = store.residents := by
    apply modify_of_fixed hresident
    rw [← harenas]
  have hsupplies : store.supplies.modify resident.supply (fun _ => environment.supply) = store.supplies := by
    apply modify_of_fixed hsupply
    rfl
  obtain ⟨residents, supplies, hlt⟩ := store
  simp only [put, hresident, hresidents, hsupplies]

theorem state_call?_of_refused {context : Context} {call : Call Handle Symbol} {outcome : Outcome Store Reply}
    (hcall : store.call? number context call = some outcome) (hrefused : outcome.refused = true) :
    outcome.state = store := by
  obtain ⟨environment, henvironment, rfl⟩ := Option.map_eq_some_iff.1 hcall
  obtain ⟨diagnostic, hresult⟩ := Outcome.refused_iff.1 hrefused
  have heffect : environment.Effect context call.request (environment.perform context call).result
      (environment.perform context call).state := Environment.effect_perform call
  rw [show (environment.perform context call).result = .error diagnostic from hresult] at heffect
  show store.put number (environment.perform context call).state = store
  rw [heffect.eq_of_error, put_environment henvironment]

/-- Only calls are refused, and a refused call leaves the store as it is. -/
theorem state_act?_of_refused {action : Action} {outcome : Outcome Store Response}
    (haction : store.act? action = some outcome) (hrefused : outcome.refused = true) : outcome.state = store := by
  cases action with
  | newSupply =>
    cases haction
    cases hrefused
  | newEnvironment =>
    cases haction
    cases hrefused
  | newEnvironmentOn supply =>
    obtain ⟨created, _, rfl⟩ := Option.map_eq_some_iff.1 haction
    cases hrefused
  | takeName supply =>
    obtain ⟨taken, _, rfl⟩ := Option.map_eq_some_iff.1 haction
    cases hrefused
  | call number context call =>
    obtain ⟨made, hmade, rfl⟩ := Option.map_eq_some_iff.1 haction
    refine state_call?_of_refused hmade ?_
    obtain ⟨result, state, log⟩ := made
    cases result with
    | ok reply => cases hrefused
    | error diagnostic => rfl

/-! ### Runs without their refusals -/

/-- The actions of a run with their outcomes. -/
def history (store : Store) (actions : List Action) : List (Action × Option (Outcome Store Response)) :=
  actions.zip (store.run actions).1

/-- Whether an action was refused. -/
def refusedStep (step : Action × Option (Outcome Store Response)) : Bool := step.2.any Outcome.refused

/-- The actions of a run that were not refused. -/
def kept (store : Store) (actions : List Action) : List Action :=
  ((store.history actions).filter fun step => !refusedStep step).map Prod.fst

theorem history_cons (store : Store) (action : Action) (actions : List Action) :
    store.history (action :: actions) = (action, store.act? action) :: (store.next action).history actions := rfl

theorem next_of_refused {action : Action} (hrefused : refusedStep (action, store.act? action) = true) :
    store.next action = store := by
  rw [next]
  cases haction : store.act? action with
  | none => rfl
  | some outcome =>
    rw [haction] at hrefused
    exact state_act?_of_refused haction hrefused

/-- Without its refused actions a run comes to the outcomes that the others had, and to the same store. -/
theorem history_kept (store : Store) (actions : List Action) :
    store.history (store.kept actions) = (store.history actions).filter (fun step => !refusedStep step) ∧
      store.after (store.kept actions) = store.after actions := by
  induction actions generalizing store with
  | nil => exact ⟨rfl, rfl⟩
  | cons action actions ih =>
    rw [kept, history_cons, after_cons]
    cases hrefused : refusedStep (action, store.act? action) with
    | true =>
      rw [next_of_refused hrefused, List.filter_cons_of_neg (by rw [hrefused]; decide)]
      exact ih store
    | false =>
      rw [List.filter_cons_of_pos (by rw [hrefused]; rfl), List.map_cons, history_cons, after_cons]
      obtain ⟨hhistory, hafter⟩ := ih (store.next action)
      exact ⟨congrArg _ hhistory, hafter⟩

/-- Whatever is refused leaves the store as it was, with all environments and all supplies in it. So all that is
refused can be struck out of a run: the rest comes to the same outcomes, and the run ends in the same store. -/
theorem refusals_leave_no_trace (store : Store) :
    (∀ action outcome, store.act? action = some outcome → outcome.refused = true → outcome.state = store) ∧
      ∀ actions,
        store.history (store.kept actions) = (store.history actions).filter (fun step => !refusedStep step) ∧
          store.after (store.kept actions) = store.after actions := by
  constructor
  · intro action outcome haction hrefused
    exact state_act?_of_refused haction hrefused
  · intro actions
    exact store.history_kept actions

/-- Two environments that draw from one supply. -/
def sharedStore : Store := ({} : Store).after [.newEnvironment, .newEnvironmentOn 0]

/-- Calls on the two of which every other one is refused. -/
def sharedRun : List Action :=
  [.call 0 {} (.declareWith "x" (.int 7)), .call 1 {} (.lookup "x"),
    .call 1 {} (.newTemporary .bool (.bool true)), .call 0 {} (.newTemporary .bool (.int 1)),
    .call 0 {} (.operate (.arithmetic .add) ⟨"x", .int 7⟩ ⟨"y", .int 1⟩),
    .call 1 {} (.operate (.arithmetic .div) ⟨"x", .int 7⟩ ⟨"y", .int 0⟩)]

theorem refusals_leave_no_trace_shared :
    (sharedStore.act? (.call 1 {} (.lookup "x"))).map Outcome.state = some sharedStore ∧
      (sharedStore.kept sharedRun).length = 3 ∧
      sharedStore.after (sharedStore.kept sharedRun) = sharedStore.after sharedRun := by
  obtain ⟨hstate, hruns⟩ := sharedStore.refusals_leave_no_trace
  refine ⟨?_, by decide, (hruns sharedRun).2⟩
  obtain ⟨outcome, haction, hrefused⟩ : ∃ outcome, sharedStore.act? (.call 1 {} (.lookup "x")) = some outcome ∧
      outcome.refused = true := ⟨_, rfl, by decide⟩
  rw [haction, Option.map_some, hstate _ outcome haction hrefused]

end Store

end SymbolTable
