import SymbolTable.Proofs.Effect
import SymbolTable.Store

/-!
# Runs of a store

A run goes through a store action by action. What it does to one environment is a sequence of calls on that
environment; all else leaves its symbols alone (`environment?_next`). The transcript of an environment lists the
requests of these calls with what they came to, and `transcript_rule` is the induction over a run: a property of
symbols and transcript holds in every later state if every effect keeps it.
-/

namespace SymbolTable

namespace Action

/-- The call that an action makes on the environment that has a number. -/
def callOn? (number : Nat) : Action → Option (Context × Call Handle Symbol)
  | .call target context request => if target = number then some (context, request) else none
  | .newSupply | .newEnvironment | .newEnvironmentOn _ | .takeName _ => none

theorem callOn?_eq_some_iff {number : Nat} {action : Action} {context : Context} {call : Call Handle Symbol} :
    action.callOn? number = some (context, call) ↔ action = .call number context call := by
  cases action <;> simp [callOn?]

/-- What an action asks of the environment that has a number. -/
def requestOn? (number : Nat) (action : Action) : Option Request :=
  (action.callOn? number).map fun made => made.2.request

end Action

/-- Requests in order, each with what it came to. -/
abbrev Transcript := List (Request × Except Diagnostic Reply)

namespace Transcript

/-- The requests that did not come to a diagnostic. -/
def granted (transcript : Transcript) : List Request :=
  transcript.filterMap fun (request, result) => if result.isOk then some request else none

theorem granted_append (transcript others : Transcript) :
    Transcript.granted (transcript ++ others) = transcript.granted ++ others.granted :=
  List.filterMap_append

theorem granted_error (request : Request) (diagnostic : Diagnostic) :
    Transcript.granted [(request, .error diagnostic)] = [] := rfl

end Transcript

namespace Store

/-- The store after one action. -/
def next (store : Store) (action : Action) : Store := (store.act? action).elim store Outcome.state

/-- The store after a run. -/
def after (store : Store) (actions : List Action) : Store := (store.run actions).2

@[simp] theorem after_nil (store : Store) : store.after [] = store := rfl

@[simp] theorem after_cons (store : Store) (action : Action) (actions : List Action) :
    store.after (action :: actions) = (store.next action).after actions := rfl

theorem after_append (store : Store) (actions others : List Action) :
    store.after (actions ++ others) = (store.after actions).after others := by
  induction actions generalizing store with
  | nil => rfl
  | cons action actions ih => exact ih (store.next action)

variable {store : Store} {number : Nat} {environment : Environment}

/-! ### Environments by number -/

theorem environment?_eq_some_iff :
    store.environment? number = some environment ↔
      ∃ resident, store.residents[number]? = some resident ∧ resident.arenas = environment.toArenas ∧
        store.supplies[resident.supply]? = some environment.supply := by
  simp only [environment?, Option.bind_eq_bind, Option.bind_eq_some_iff, Option.pure_def, Option.some.injEq]
  constructor
  · intro hparts
    obtain ⟨resident, hresident, supply, hsupply, rfl⟩ := hparts
    exact ⟨resident, hresident, rfl, hsupply⟩
  · intro hparts
    obtain ⟨resident, hresident, harenas, hsupply⟩ := hparts
    exact ⟨resident, hresident, environment.supply, hsupply, by rw [harenas]⟩

theorem exists_environment? {resident : Resident} (hresident : store.residents[number]? = some resident) :
    ∃ environment, store.environment? number = some environment ∧ environment.toArenas = resident.arenas := by
  have hlt := store.supply_lt resident (Array.mem_of_getElem? hresident)
  refine ⟨{ resident.arenas with supply := store.supplies[resident.supply] }, ?_, rfl⟩
  exact environment?_eq_some_iff.2 ⟨resident, hresident, rfl, Array.getElem?_eq_getElem hlt⟩

theorem lt_size_of_environment? (henvironment : store.environment? number = some environment) :
    number < store.residents.size := by
  obtain ⟨resident, hresident, _, _⟩ := environment?_eq_some_iff.1 henvironment
  exact (Array.getElem?_eq_some_iff.1 hresident).1

theorem size_le_of_environment?_eq_none (hnone : store.environment? number = none) :
    store.residents.size ≤ number := by
  refine Nat.le_of_not_lt fun hlt => ?_
  obtain ⟨environment, henvironment, _⟩ := exists_environment? (Array.getElem?_eq_getElem hlt)
  rw [hnone] at henvironment
  cases henvironment

/-- An environment keeps its symbols from one store to another if the two agree on its resident. -/
theorem environment?_of_residents {later : Store} (henvironment : store.environment? number = some environment)
    (hresidents : later.residents[number]? = store.residents[number]?) :
    ∃ kept, later.environment? number = some kept ∧ kept.toArenas = environment.toArenas := by
  obtain ⟨resident, hresident, harenas, _⟩ := environment?_eq_some_iff.1 henvironment
  rw [← hresidents] at hresident
  rw [← harenas]
  exact exists_environment? hresident

theorem environment?_put_self {changed : Environment} (henvironment : store.environment? number = some environment) :
    (store.put number changed).environment? number = some changed := by
  obtain ⟨resident, hresident, _, _⟩ := environment?_eq_some_iff.1 henvironment
  have hlt := store.supply_lt resident (Array.mem_of_getElem? hresident)
  refine environment?_eq_some_iff.2 ⟨{ resident with arenas := changed.toArenas }, ?_, rfl, ?_⟩
  · simp [put, Array.getElem?_modify, hresident]
  · simp only [put, hresident]
    rw [Array.getElem?_modify, if_pos rfl, Array.getElem?_eq_getElem hlt, Option.map_some]

theorem residents_put_of_ne {target : Nat} (hne : target ≠ number) (changed : Environment) :
    (store.put target changed).residents[number]? = store.residents[number]? := by
  simp [put, Array.getElem?_modify, hne]

@[simp] theorem size_residents_put (store : Store) (target : Nat) (changed : Environment) :
    (store.put target changed).residents.size = store.residents.size := by
  simp [put]

/-- The symbols of the environment that has a number; as long as there is none, those that it will start with. -/
def arenas (store : Store) (number : Nat) : Arenas :=
  ((store.environment? number).map Environment.toArenas).getD { owner := .ofNat number }

theorem arenas_of_environment? (henvironment : store.environment? number = some environment) :
    store.arenas number = environment.toArenas := by
  rw [arenas, henvironment]
  rfl

theorem arenas_of_none (hnone : store.environment? number = none) :
    store.arenas number = { owner := .ofNat number } := by
  rw [arenas, hnone]
  rfl

/-! ### One action -/

theorem next_call (henvironment : store.environment? number = some environment) (context : Context)
    (call : Call Handle Symbol) :
    store.next (.call number context call) = store.put number (environment.perform context call).state := by
  simp [next, act?, call?, henvironment, Outcome.map]

theorem size_residents_next_call (store : Store) (target : Nat) (context : Context) (call : Call Handle Symbol) :
    (store.next (.call target context call)).residents.size = store.residents.size := by
  simp only [next, act?, call?]
  cases store.environment? target with
  | none => rfl
  | some other => exact size_residents_put store target _

/-- An action that is no call leaves all environments alone, but there may be a new one. -/
theorem residents_next {action : Action} (hcall : ∀ target, action.callOn? target = none) :
    (store.next action).residents = store.residents ∨
      ∃ supply, (store.next action).residents =
        store.residents.push ⟨{ owner := .ofNat store.residents.size }, supply⟩ := by
  cases action with
  | newSupply => exact .inl rfl
  | newEnvironment => exact .inr ⟨store.supplies.size, rfl⟩
  | newEnvironmentOn supply =>
    simp only [next, act?, newEnvironmentOn?]
    split
    · exact .inr ⟨supply, rfl⟩
    · exact .inl rfl
  | takeName supply =>
    left
    simp only [next, act?, takeName?]
    cases store.supplies[supply]? <;> rfl
  | call target context call =>
    have hnone := hcall target
    rw [Action.callOn?, if_pos rfl] at hnone
    cases hnone

/-- A call on an environment does what the call does, and every other action leaves its symbols alone. -/
theorem environment?_next (henvironment : store.environment? number = some environment) (action : Action) :
    ∃ later, (store.next action).environment? number = some later ∧
      match action.callOn? number with
      | some (context, call) => later = (environment.perform context call).state
      | none => later.toArenas = environment.toArenas := by
  have hother {action : Action} (hcall : ∀ target, action.callOn? target = none) :
      ∃ later, (store.next action).environment? number = some later ∧ later.toArenas = environment.toArenas := by
    apply environment?_of_residents henvironment
    obtain hsame | ⟨supply, hpush⟩ := residents_next hcall
    · rw [hsame]
    · have hlt := lt_size_of_environment? henvironment
      rw [hpush, Array.getElem?_push_lt hlt, Array.getElem?_eq_getElem hlt]
  cases action with
  | newSupply => exact hother fun _ => rfl
  | newEnvironment => exact hother fun _ => rfl
  | newEnvironmentOn supply => exact hother fun _ => rfl
  | takeName supply => exact hother fun _ => rfl
  | call target context call =>
    by_cases htarget : target = number
    · subst htarget
      rw [next_call henvironment, Action.callOn?, if_pos rfl]
      exact ⟨_, environment?_put_self henvironment, rfl⟩
    · rw [Action.callOn?, if_neg htarget]
      apply environment?_of_residents henvironment
      simp only [next, act?, call?]
      cases store.environment? target with
      | none => rfl
      | some other => exact residents_put_of_ne htarget _

theorem environment?_after (henvironment : store.environment? number = some environment) (actions : List Action) :
    ∃ later, (store.after actions).environment? number = some later := by
  induction actions generalizing store environment with
  | nil => exact ⟨environment, henvironment⟩
  | cons action actions ih =>
    obtain ⟨later, hlater, _⟩ := environment?_next henvironment action
    exact ih hlater

/-- An environment that an action creates has no symbols and bears its number. -/
theorem environment?_next_of_none (hnone : store.environment? number = none) {action : Action}
    (hlater : (store.next action).environment? number = some environment) :
    environment.toArenas = { owner := .ofNat number } := by
  have hle := size_le_of_environment?_eq_none hnone
  have hlt := lt_size_of_environment? hlater
  obtain ⟨resident, hresident, harenas, _⟩ := environment?_eq_some_iff.1 hlater
  have hother (hcall : ∀ target, action.callOn? target = none) : environment.toArenas = { owner := .ofNat number } := by
    obtain hsame | ⟨supply, hpush⟩ := residents_next hcall
    · rw [hsame] at hlt
      exact absurd hlt (Nat.not_lt_of_le hle)
    · rw [hpush, Array.size_push] at hlt
      obtain rfl : number = store.residents.size := Nat.le_antisymm (Nat.le_of_lt_succ hlt) hle
      rw [hpush, Array.getElem?_push_size] at hresident
      cases hresident
      exact harenas.symm
  cases action with
  | newSupply => exact hother fun _ => rfl
  | newEnvironment => exact hother fun _ => rfl
  | newEnvironmentOn supply => exact hother fun _ => rfl
  | takeName supply => exact hother fun _ => rfl
  | call target context call =>
    rw [size_residents_next_call] at hlt
    exact absurd hlt (Nat.not_lt_of_le hle)

/-- What an action creates is a new environment. -/
theorem environment?_of_created {creation : Action} {outcome : Outcome Store Response}
    (hcreation : store.act? creation = some outcome) (hnumber : outcome.result = .ok (.environment number)) :
    ∃ created, outcome.state.environment? number = some created ∧ created.toArenas = { owner := .ofNat number } := by
  have hlast (later : Store) (added : Resident) (hresidents : later.residents = store.residents.push added) :
      ∃ created, later.environment? store.residents.size = some created ∧ created.toArenas = added.arenas := by
    refine exists_environment? ?_
    rw [hresidents, Array.getElem?_push_size]
  cases creation with
  | newEnvironment =>
    cases hcreation
    cases hnumber
    exact hlast store.newEnvironment _ rfl
  | newEnvironmentOn supply =>
    simp only [act?, newEnvironmentOn?] at hcreation
    split at hcreation
    · next hsupply =>
      cases hcreation
      cases hnumber
      exact hlast (store.addEnvironment supply hsupply) _ rfl
    · cases hcreation
  | newSupply =>
    cases hcreation
    cases hnumber
  | takeName supply =>
    obtain ⟨taken, _, rfl⟩ := Option.map_eq_some_iff.1 hcreation
    cases hnumber
  | call target context call =>
    obtain ⟨made, _, rfl⟩ := Option.map_eq_some_iff.1 hcreation
    simp only [Outcome.map] at hnumber
    cases hresult : made.result <;> rw [hresult] at hnumber <;> cases hnumber

/-! ### Transcripts -/

/-- The request that an action makes of an environment, with what it comes to. -/
def exchange? (store : Store) (number : Nat) (action : Action) : Option (Request × Except Diagnostic Reply) := do
  let (context, call) ← action.callOn? number
  let environment ← store.environment? number
  return (call.request, (environment.perform context call).result)

/-- The requests that a run makes of an environment, with what they come to. -/
def transcript (number : Nat) : Store → List Action → Transcript
  | _, [] => []
  | store, action :: actions => (store.exchange? number action).toList ++ transcript number (store.next action) actions

/-- The requests that an environment grants along a run. -/
def granted (number : Nat) (store : Store) (actions : List Action) : List Request :=
  (store.transcript number actions).granted

theorem granted_cons (store : Store) (number : Nat) (action : Action) (actions : List Action) :
    store.granted number (action :: actions) =
      Transcript.granted (store.exchange? number action).toList ++ (store.next action).granted number actions :=
  Transcript.granted_append ..

theorem map_fst_transcript (henvironment : store.environment? number = some environment) (actions : List Action) :
    (store.transcript number actions).map Prod.fst = actions.filterMap (Action.requestOn? number) := by
  induction actions generalizing store environment with
  | nil => rfl
  | cons action actions ih =>
    obtain ⟨later, hlater, _⟩ := environment?_next henvironment action
    rw [transcript, List.map_append, ih hlater, List.filterMap_cons, Action.requestOn?, exchange?]
    cases hcall : action.callOn? number with
    | none => simp
    | some made => simp [henvironment]

/-- What becomes of the symbols of an environment by an action, told by the exchange that the action adds to its
transcript. -/
theorem arenas_next (store : Store) (number : Nat) (action : Action) :
    match store.exchange? number action with
    | some (request, result) => ∃ (environment later : Environment) (context : Context),
        environment.toArenas = store.arenas number ∧ later.toArenas = (store.next action).arenas number ∧
        environment.Effect context request result later
    | none => (store.next action).arenas number = store.arenas number := by
  cases henvironment : store.environment? number with
  | none =>
    have hexchange : store.exchange? number action = none := by simp [exchange?, henvironment]
    rw [hexchange, arenas_of_none henvironment]
    cases hlater : (store.next action).environment? number with
    | none => exact arenas_of_none hlater
    | some created => exact (arenas_of_environment? hlater).trans (environment?_next_of_none henvironment hlater)
  | some environment =>
    obtain ⟨later, hlater, hbecomes⟩ := environment?_next henvironment action
    rw [arenas_of_environment? henvironment, arenas_of_environment? hlater]
    cases hcall : action.callOn? number with
    | none =>
      rw [hcall] at hbecomes
      simpa [exchange?, hcall] using hbecomes
    | some made =>
      obtain ⟨context, call⟩ := made
      rw [hcall] at hbecomes
      simp only [exchange?, hcall, henvironment, Option.bind_eq_bind, Option.bind_some, Option.pure_def]
      exact ⟨environment, later, context, rfl, rfl, hbecomes ▸ Environment.effect_perform call⟩

/-- A property of the symbols of an environment and of its transcript so far holds after every run if every effect
keeps it. -/
theorem transcript_rule {P : Arenas → Transcript → Prop}
    (hstep : ∀ {environment later : Environment} {context request result past}, P environment.toArenas past →
      environment.Effect context request result later → P later.toArenas (past ++ [(request, result)]))
    (past : Transcript) (hstart : P (store.arenas number) past) (actions : List Action) :
    P ((store.after actions).arenas number) (past ++ store.transcript number actions) := by
  induction actions generalizing store past with
  | nil =>
    rw [transcript, List.append_nil]
    exact hstart
  | cons action actions ih =>
    rw [after_cons, transcript, ← List.append_assoc]
    refine ih _ ?_
    have hbecomes := arenas_next store number action
    cases hexchange : store.exchange? number action with
    | none =>
      rw [hexchange] at hbecomes
      rw [hbecomes, Option.toList_none, List.append_nil]
      exact hstart
    | some exchange =>
      rw [hexchange] at hbecomes
      obtain ⟨environment, later, context, henvironment, hlater, heffect⟩ := hbecomes
      rw [← hlater]
      exact hstep (henvironment ▸ hstart) heffect

/-- The same induction over granted requests alone, since a refused one leaves everything as it was. -/
theorem granted_rule {P : Arenas → List Request → Prop} (hstart : P (store.arenas number) [])
    (hstep : ∀ {environment later : Environment} {context request reply past}, P environment.toArenas past →
      environment.Effect context request (.ok reply) later → P later.toArenas (past ++ [request]))
    (actions : List Action) : P ((store.after actions).arenas number) (store.granted number actions) := by
  refine transcript_rule (P := fun arenas past => P arenas (Transcript.granted past)) ?_ [] hstart actions
  intro environment later context request result past hpast heffect
  rw [Transcript.granted_append]
  cases result with
  | ok reply => exact hstep hpast heffect
  | error diagnostic =>
    rw [heffect.eq_of_error, Transcript.granted_error, List.append_nil]
    exact hpast

end Store

end SymbolTable
