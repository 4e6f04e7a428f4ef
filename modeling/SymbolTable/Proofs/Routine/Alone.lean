import SymbolTable.Proofs.Routine.Isolation

/-!
# Routines whose supply nobody else draws from

Other environments, and whoever takes names, can only get at an environment through its supply. So a routine among
others comes to what it comes to alone on the same environment, as long as nobody else draws from the supply
(`Undisturbed.after`); that others could draw from it does no harm. -/

namespace SymbolTable

/-- An environment stays as it is by an action that is no call on it and draws nothing from its supply. -/
theorem Store.environment?_next_undrawn {store : Store} {number : Nat} {environment : Environment} {resident : Resident}
    (henvironment : store.environment? number = some environment)
    (hresident : store.residents[number]? = some resident) {action : Action} (hcall : action.callOn? number = none)
    (hdraw : store.draw? resident.supply action = none) :
    (store.next action).environment? number = some environment := by
  obtain ⟨later, hlater, harenas⟩ := environment?_next henvironment action
  obtain ⟨laterResident, hlaterResident, hnumber⟩ := supplyNumber_next hresident action
  have hsupply := store.supply_next resident.supply action
  have hlaterSupply := supply_of_environment? hlater hlaterResident
  rw [hcall] at harenas
  rw [hdraw] at hsupply
  rw [hnumber, hsupply, supply_of_environment? henvironment hresident] at hlaterSupply
  have hsame : later = environment := by
    obtain ⟨arenas, supply⟩ := later
    obtain ⟨ownArenas, ownSupply⟩ := environment
    cases harenas
    cases hlaterSupply
    rfl
  exact hsame ▸ hlater

namespace Routine

namespace Solo

variable {solo : Solo} {line : Line}

theorem step_of_none (hcall : line.call? solo.environment solo.past = none) :
    solo.step line = { solo with past := solo.past ++ [none] } := by
  simp only [step, hcall]

theorem step_of_some {call : Call Handle Symbol} (hcall : line.call? solo.environment solo.past = some call) :
    solo.step line = ⟨(solo.environment.perform line.context call).state,
      solo.past ++ [some (line.record solo.environment solo.past call)]⟩ := by
  simp only [step, hcall]

end Solo

namespace Weave

variable {weave : Weave} {number : Nat} {environment : Environment} {resident : Resident}

/-- The action on the store that a step comes to. -/
def action? (weave : Weave) : Step → Option Action
  | .action action => some action
  | .line number line => do
    let environment ← weave.store.environment? number
    let call ← line.call? environment (weave.pasts number)
    return .call number line.context call

/-- The draws from a supply along a run of steps. -/
def draws (supply : Nat) : Weave → List Step → List Draw
  | _, [] => []
  | weave, step :: steps =>
    ((weave.action? step).bind (weave.store.draw? supply)).toList ++ draws supply (weave.next step) steps

theorem store_next_eq (weave : Weave) (step : Step) :
    (weave.next step).store = (weave.action? step).elim weave.store weave.store.next := by
  cases step with
  | action action => rfl
  | line number line =>
    rw [action?]
    cases henvironment : weave.store.environment? number with
    | none =>
      rw [next_line_of_absent henvironment]
      rfl
    | some environment =>
      rw [Option.bind_eq_bind, Option.bind_some]
      cases hcall : line.call? environment (weave.pasts number) with
      | none =>
        rw [next_line_of_none henvironment hcall]
        rfl
      | some call =>
        rw [next_line_of_some henvironment hcall]
        rfl

/-- A step comes to a call on an environment only if it is a line for it or that call itself. -/
theorem callOn?_of_action? {step : Step} {action : Action} (haction : weave.action? step = some action)
    (hline : step.lineOn? number = none) (hown : ∀ context call, step ≠ .action (.call number context call)) :
    action.callOn? number = none := by
  rw [Option.eq_none_iff_forall_ne_some]
  intro made hmade
  obtain ⟨context, call⟩ := made
  obtain rfl := Action.callOn?_eq_some_iff.1 hmade
  cases step with
  | action action =>
    cases haction
    exact hown _ _ rfl
  | line target line =>
    simp only [action?, Option.bind_eq_bind, Option.bind_eq_some_iff, Option.pure_def, Option.some.injEq] at haction
    obtain ⟨_, _, _, _, hsame⟩ := haction
    cases hsame
    exact lineOn?_ne hline rfl

/-- A line of an environment is a step of the routine alone. -/
theorem next_own {solo : Solo} (henvironment : weave.store.environment? number = some solo.environment)
    (hpast : weave.pasts number = solo.past) (line : Line) :
    (weave.next (.line number line)).store.environment? number = some (solo.step line).environment ∧
      (weave.next (.line number line)).pasts number = (solo.step line).past := by
  cases hcall : line.call? solo.environment solo.past with
  | none =>
    rw [Solo.step_of_none hcall]
    rw [← hpast] at hcall
    rw [next_line_of_none henvironment hcall, pasts_append_self, hpast]
    exact ⟨henvironment, rfl⟩
  | some call =>
    rw [Solo.step_of_some hcall]
    rw [← hpast] at hcall ⊢
    rw [next_line_of_some henvironment hcall, pasts_append_self, Store.next_call henvironment]
    exact ⟨Store.environment?_put_self henvironment, rfl⟩

/-- A step for others leaves an environment as it is if it does not draw from its supply. -/
theorem next_others (henvironment : weave.store.environment? number = some environment)
    (hresident : weave.store.residents[number]? = some resident) {step : Step} (hline : step.lineOn? number = none)
    (hown : ∀ context call, step ≠ .action (.call number context call))
    (hsole : ∀ draw, (weave.action? step).bind (weave.store.draw? resident.supply) = some draw →
      draw.drawer = some number) :
    (weave.next step).store.environment? number = some environment := by
  rw [store_next_eq]
  cases haction : weave.action? step with
  | none => exact henvironment
  | some action =>
    have hcall := callOn?_of_action? haction hline hown
    refine Store.environment?_next_undrawn henvironment hresident hcall ?_
    rw [Option.eq_none_iff_forall_ne_some]
    intro draw hdraw
    exact Store.drawer_ne hcall hdraw (hsole draw (by rw [haction]; exact hdraw))

end Weave

/-- Steps in which a routine is carried out on an environment, while nobody else calls it or draws from its supply. -/
structure Undisturbed (weave : Weave) (number supply : Nat) (lines : List Line) (steps : List Step) : Prop where
  lines_eq : steps.filterMap (Step.lineOn? number) = lines
  own : ∀ context call, .action (.call number context call) ∉ steps
  sole : ∀ draw ∈ weave.draws supply steps, draw.drawer = some number

namespace Undisturbed

variable {weave : Weave} {number supply : Nat} {lines : List Line} {step : Step} {steps : List Step}

theorem own_head (hsteps : Undisturbed weave number supply lines (step :: steps)) (context : Context)
    (call : Call Handle Symbol) : step ≠ .action (.call number context call) := by
  intro hstep
  exact hsteps.own context call (hstep ▸ List.mem_cons_self)

theorem sole_head (hsteps : Undisturbed weave number supply lines (step :: steps)) (draw : Draw)
    (hdraw : (weave.action? step).bind (weave.store.draw? supply) = some draw) : draw.drawer = some number :=
  hsteps.sole draw (List.mem_append_left _ (Option.mem_toList.2 hdraw))

theorem tail (hsteps : Undisturbed weave number supply lines (step :: steps)) :
    Undisturbed (weave.next step) number supply (steps.filterMap (Step.lineOn? number)) steps where
  lines_eq := rfl
  own context call hmem := hsteps.own context call (List.mem_cons_of_mem _ hmem)
  sole draw hdraw := hsteps.sole draw (List.mem_append_right _ hdraw)

/-- A routine that is not disturbed comes to what it comes to alone. -/
theorem after {solo : Solo} {resident : Resident} (hsteps : Undisturbed weave number resident.supply lines steps)
    (henvironment : weave.store.environment? number = some solo.environment)
    (hresident : weave.store.residents[number]? = some resident) (hpast : weave.pasts number = solo.past) :
    (weave.after steps).store.environment? number = some (lines.foldl Solo.step solo).environment ∧
      (weave.after steps).pasts number = (lines.foldl Solo.step solo).past := by
  induction steps generalizing weave solo resident lines with
  | nil =>
    obtain rfl := hsteps.lines_eq
    exact ⟨henvironment, hpast⟩
  | cons step steps ih =>
    obtain ⟨later, hlater, hnumber⟩ := Weave.resident_next hresident step
    have hrest := hsteps.tail
    rw [← hnumber] at hrest
    rw [Weave.after_cons, ← hsteps.lines_eq]
    cases hline : step.lineOn? number with
    | none =>
      rw [List.filterMap_cons_none hline]
      refine ih hrest ?_ hlater ?_
      · exact Weave.next_others henvironment hresident hline hsteps.own_head hsteps.sole_head
      · rw [Weave.pasts_next hline, hpast]
    | some line =>
      rw [List.filterMap_cons_some hline, List.foldl_cons]
      obtain rfl := Step.lineOn?_eq_some_iff.1 hline
      obtain ⟨hnext, hnextPast⟩ := Weave.next_own henvironment hpast line
      exact ih hrest hnext hlater hnextPast

end Undisturbed

end Routine

end SymbolTable
