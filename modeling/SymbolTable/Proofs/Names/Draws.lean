import SymbolTable.Proofs.Handle.Standing
import SymbolTable.Proofs.Store.Run
import SymbolTable.Proofs.Text.Lines

/-!
# Names that a run draws

A name is drawn from a supply by an environment for a temporary that it grants, or by someone who takes the name
directly. The draws from one supply stand in one order, whoever makes them, and as long as the supply does not run
out the k-th of them has the number k. The temporaries of an environment are what it drew since it last released
them, so that their numbers follow from those of the draws (`draws_numbered`). Nothing else moves a supply.
-/

namespace SymbolTable

theorem temporaryName_injective : Function.Injective temporaryName := fun _ _ hsame =>
  repr_injective ((String.append_right_inj temporaryStem).1 hsame)

namespace NameSupply

/-- The name that a new supply gives out after it has given out a number of others. -/
def nameAfter (count : Nat) : String := name ⟨.ofNat count⟩

theorem nameAfter_of_lt {count : Nat} (hcount : count < UInt64.size) : nameAfter count = temporaryName count := by
  have hword : (UInt64.ofNat count).toNat = count := UInt64.toNat_ofNat_of_lt' hcount
  rw [nameAfter, name, hword]

theorem advance_ofNat (count : Nat) : advance ⟨.ofNat count⟩ = ⟨.ofNat (count + 1)⟩ := by
  rw [advance, UInt64.ofNat_add]
  rfl

end NameSupply

/-- Whether a request asks for a temporary. -/
def Request.isCreation : Request → Bool
  | .create _ => true
  | _ => false

/-- Whether a request came to a temporary. -/
def Request.draws (request : Request) (result : Except Diagnostic Reply) : Bool :=
  request.isCreation && result.isOk

namespace Environment.Effect

variable {environment later : Environment} {context : Context} {request : Request}
  {result : Except Diagnostic Reply}

theorem supply_eq (heffect : environment.Effect context request result later) :
    later.supply = if request.draws result then environment.supply.advance else environment.supply := by
  cases heffect <;> rfl

/-- The handle of a new temporary leads to a symbol that has the next name of the supply. -/
theorem name_of_draws (heffect : environment.Effect context request result later)
    (hdraws : request.draws result = true) :
    ((result.toOption.bind Reply.handle?).bind later.get?).map Symbol.name = some environment.supply.name := by
  cases heffect with
  | created value =>
    simp [Except.toOption, Reply.handle?, get?_nextTemporary]
  | _ => cases hdraws

theorem temporaryNames_eq (heffect : environment.Effect context request result later) :
    later.temporarySymbols.map Symbol.name =
      if request.releases .temporary then []
      else environment.temporarySymbols.map Symbol.name ++
        if request.draws result then [environment.supply.name] else [] := by
  cases heffect with
  | created value => exact (congrArg (List.map Symbol.name) Array.toList_push).trans List.map_append
  | releasedTemporaries => rfl
  | _ => exact (List.append_nil _).symm

end Environment.Effect

/-- A name that was drawn from a supply: the environment that drew it, if it was one, and the name itself. -/
structure Draw where
  drawer : Option Nat
  name : Option String

namespace Store

variable {store : Store} {number : Nat} {environment : Environment}

/-- The supply that has a number; as long as there is none, the one that it will start as. -/
def supply (store : Store) (number : Nat) : NameSupply := store.supplies[number]?.getD {}

/-- The draw from a supply that an action makes. The name of a temporary is told by the symbol that the new handle
leads to. -/
def draw? (store : Store) (supply : Nat) : Action → Option Draw
  | .newSupply | .newEnvironment | .newEnvironmentOn _ => none
  | .takeName target =>
    if target = supply then (store.takeName? supply).map fun taken => ⟨none, some taken.1⟩ else none
  | .call number context call => do
    let resident ← store.residents[number]?
    let environment ← store.environment? number
    let outcome := environment.perform context call
    if resident.supply = supply ∧ call.request.draws outcome.result then
      some ⟨number, ((outcome.result.toOption.bind Reply.handle?).bind outcome.state.get?).map Symbol.name⟩
    else none

/-- The draws from a supply along a run. -/
def draws (supply : Nat) : Store → List Action → List Draw
  | _, [] => []
  | store, action :: actions => (store.draw? supply action).toList ++ draws supply (store.next action) actions

theorem supply_of_environment? {resident : Resident} (henvironment : store.environment? number = some environment)
    (hresident : store.residents[number]? = some resident) : store.supply resident.supply = environment.supply := by
  obtain ⟨found, hfound, _, hsupply⟩ := environment?_eq_some_iff.1 henvironment
  rw [hresident] at hfound
  cases hfound
  rw [supply, hsupply]
  rfl

theorem supply_put {resident : Resident} {changed : Environment} (hresident : store.residents[number]? = some resident)
    (supply : Nat) :
    (store.put number changed).supply supply =
      if resident.supply = supply then changed.supply else store.supply supply := by
  have hlt := store.supply_lt resident (Array.mem_of_getElem? hresident)
  simp only [Store.supply, put, hresident, Array.getElem?_modify]
  split
  · next hsame => rw [← hsame, Array.getElem?_eq_getElem hlt]; rfl
  · rfl

theorem supply_addSupply (store : Store) (supply : Nat) : store.addSupply.supply supply = store.supply supply := by
  simp only [Store.supply, addSupply, Array.getElem?_push]
  split
  · next hlast => rw [hlast, Array.getElem?_size]; rfl
  · rfl

theorem supply_of_takeName? {target : Nat} {taken : String × Store} (htaken : store.takeName? target = some taken)
    (supply : Nat) :
    taken.1 = (store.supply target).name ∧
      taken.2.supply supply = if target = supply then (store.supply supply).advance else store.supply supply := by
  obtain ⟨names, hnames, rfl⟩ := Option.map_eq_some_iff.1 htaken
  simp only [Store.supply, hnames, Array.getElem?_modify]
  refine ⟨rfl, ?_⟩
  split
  · next hsame => rw [← hsame, hnames]; rfl
  · rfl

/-- A draw takes the next name of the supply, and nothing else moves it. -/
theorem supply_next (store : Store) (supply : Nat) (action : Action) :
    match store.draw? supply action with
    | some draw => draw.name = some (store.supply supply).name ∧
        (store.next action).supply supply = (store.supply supply).advance
    | none => (store.next action).supply supply = store.supply supply := by
  cases action with
  | newSupply => exact store.supply_addSupply supply
  | newEnvironment => exact store.supply_addSupply supply
  | newEnvironmentOn target =>
    simp only [draw?, next, act?, newEnvironmentOn?]
    split <;> rfl
  | takeName target =>
    have hnext : store.next (.takeName target) = ((store.takeName? target).map Prod.snd).getD store := by
      rw [next, act?]
      cases store.takeName? target <;> rfl
    rw [hnext, draw?]
    cases htaken : store.takeName? target with
    | none =>
      by_cases htarget : target = supply
      · rw [if_pos htarget, ← htarget, htaken]
        rfl
      · rw [if_neg htarget]
        rfl
    | some taken =>
      obtain ⟨hname, hsupply⟩ := supply_of_takeName? htaken supply
      by_cases htarget : target = supply
      · rw [if_pos htarget] at hsupply ⊢
        rw [← htarget, htaken]
        exact ⟨congrArg some hname, htarget ▸ hsupply⟩
      · rw [if_neg htarget] at hsupply ⊢
        exact hsupply
  | call number context call =>
    cases henvironment : store.environment? number with
    | none => simp [draw?, henvironment, next, act?, call?]
    | some environment =>
      obtain ⟨resident, hresident, _, _⟩ := environment?_eq_some_iff.1 henvironment
      have heffect : environment.Effect context call.request (environment.perform context call).result
          (environment.perform context call).state := Environment.effect_perform call
      rw [next_call henvironment, supply_put hresident, heffect.supply_eq]
      simp only [draw?, henvironment, hresident, Option.bind_eq_bind, Option.bind_some]
      have hown := supply_of_environment? henvironment hresident
      by_cases hsupply : resident.supply = supply
      · subst hsupply
        by_cases hdraws : call.request.draws (environment.perform context call).result = true
        · simp [hdraws, hown, heffect.name_of_draws hdraws]
        · simp [hdraws, hown]
      · simp [hsupply]

/-- A call that is refused or asks for no temporary moves no supply. -/
theorem supply_next_of_not_draws {context : Context} {call : Call Handle Symbol}
    (henvironment : store.environment? number = some environment)
    (hcall : call.request.isCreation = false ∨
      ∃ diagnostic, (environment.perform context call).result = .error diagnostic) (supply : Nat) :
    (store.next (.call number context call)).supply supply = store.supply supply := by
  have hdraws : call.request.draws (environment.perform context call).result = false := by
    obtain hother | ⟨diagnostic, hrefused⟩ := hcall
    · rw [Request.draws, hother, Bool.false_and]
    · rw [Request.draws, hrefused]
      exact Bool.and_false _
  have hdraw : store.draw? supply (.call number context call) = none := by
    simp [draw?, henvironment, hdraws]
  have hnext := store.supply_next supply (.call number context call)
  rw [hdraw] at hnext
  exact hnext

/-! ### Draws along a run -/

/-- A property of a store and of the draws from a supply so far holds after every run if every action keeps it. -/
theorem draws_rule {supply : Nat} {P : Store → List Draw → Prop}
    (hstep : ∀ {store : Store} {past : List Draw} (action : Action), P store past →
      P (store.next action) (past ++ (store.draw? supply action).toList))
    (past : List Draw) (hstart : P store past) (actions : List Action) :
    P (store.after actions) (past ++ store.draws supply actions) := by
  induction actions generalizing store past with
  | nil =>
    rw [draws, List.append_nil]
    exact hstart
  | cons action actions ih =>
    rw [after_cons, draws, ← List.append_assoc]
    exact ih _ (hstep action hstart)

theorem draws_after (supply : Nat) (actions : List Action) {draws : List Draw}
    (hdraws : ({} : Store).draws supply actions = draws) :
    draws.map Draw.name = (List.range draws.length).map (fun count => some (NameSupply.nameAfter count)) ∧
      (({} : Store).after actions).supply supply = ⟨.ofNat draws.length⟩ := by
  rw [← hdraws, ← List.nil_append (({} : Store).draws supply actions)]
  refine draws_rule (P := fun store past =>
    past.map Draw.name = (List.range past.length).map (fun count => some (NameSupply.nameAfter count)) ∧
      store.supply supply = ⟨.ofNat past.length⟩) ?_ [] ⟨rfl, rfl⟩ actions
  intro store past action hpast
  obtain ⟨hnames, hsupply⟩ := hpast
  have hnext := store.supply_next supply action
  cases hdraw : store.draw? supply action with
  | none =>
    rw [hdraw] at hnext
    rw [Option.toList_none, List.append_nil, hnext]
    exact ⟨hnames, hsupply⟩
  | some draw =>
    rw [hdraw] at hnext
    obtain ⟨hname, hadvance⟩ := hnext
    have hlength : (past ++ [draw]).length = past.length + 1 := List.length_append
    rw [Option.toList_some, hadvance, hsupply, NameSupply.advance_ofNat, hlength, List.range_succ, List.map_append,
      List.map_append, hnames, List.map_singleton, List.map_singleton, hname, hsupply]
    exact ⟨rfl, rfl⟩

/-- An environment keeps drawing from the supply that it was created on. -/
theorem supplyNumber_next {resident : Resident} (hresident : store.residents[number]? = some resident) (action : Action) :
    ∃ later, (store.next action).residents[number]? = some later ∧ later.supply = resident.supply := by
  have hlt := (Array.getElem?_eq_some_iff.1 hresident).1
  have hother (hcall : ∀ target, action.callOn? target = none) :
      ∃ later, (store.next action).residents[number]? = some later ∧ later.supply = resident.supply := by
    have hresidents : (store.next action).residents[number]? = store.residents[number]? := by
      obtain hsame | ⟨supply, hpush⟩ := residents_next hcall
      · rw [hsame]
      · rw [hpush, Array.getElem?_push_lt hlt, Array.getElem?_eq_getElem hlt]
    exact ⟨resident, hresidents.trans hresident, rfl⟩
  cases action with
  | newSupply => exact hother fun _ => rfl
  | newEnvironment => exact hother fun _ => rfl
  | newEnvironmentOn supply => exact hother fun _ => rfl
  | takeName supply => exact hother fun _ => rfl
  | call target context call =>
    cases henvironment : store.environment? target with
    | none =>
      have hnext : store.next (.call target context call) = store := by simp [next, act?, call?, henvironment]
      rw [hnext]
      exact ⟨resident, hresident, rfl⟩
    | some environment =>
      rw [next_call henvironment]
      simp only [put, Array.getElem?_modify, hresident]
      split
      · exact ⟨_, rfl, rfl⟩
      · exact ⟨resident, rfl, rfl⟩

theorem draw?_call {context : Context} {call : Call Handle Symbol} {resident : Resident}
    (henvironment : store.environment? number = some environment)
    (hresident : store.residents[number]? = some resident) :
    store.draw? resident.supply (.call number context call) =
      if call.request.draws (environment.perform context call).result then
        some ⟨number, some environment.supply.name⟩
      else none := by
  have heffect : environment.Effect context call.request (environment.perform context call).result
      (environment.perform context call).state := Environment.effect_perform call
  simp only [draw?, hresident, henvironment, Option.bind_eq_bind, Option.bind_some, true_and]
  split
  · next hdraws => rw [heffect.name_of_draws hdraws]
  · rfl

/-- A draw is the taking of a name, or it belongs to a call on an environment that draws from the supply. -/
theorem draw?_eq_some {supply : Nat} {action : Action} {draw : Draw} (hdraw : store.draw? supply action = some draw) :
    (draw.drawer = none ∧ action = .takeName supply) ∨ ∃ drawer resident, draw.drawer = some drawer ∧
      (action.callOn? drawer).isSome ∧ store.residents[drawer]? = some resident ∧ resident.supply = supply := by
  cases action with
  | newSupply => cases hdraw
  | newEnvironment => cases hdraw
  | newEnvironmentOn target => cases hdraw
  | takeName target =>
    rw [draw?] at hdraw
    split at hdraw
    · next htarget =>
      obtain ⟨taken, _, rfl⟩ := Option.map_eq_some_iff.1 hdraw
      exact .inl ⟨rfl, congrArg Action.takeName htarget⟩
    · cases hdraw
  | call drawer context call =>
    simp only [draw?, Option.bind_eq_bind, Option.bind_eq_some_iff] at hdraw
    obtain ⟨resident, hresident, environment, _, hdraw⟩ := hdraw
    split at hdraw
    · next hdraws =>
      cases hdraw
      exact .inr ⟨drawer, resident, rfl, by simp [Action.callOn?], hresident, hdraws.1⟩
    · cases hdraw

theorem drawer_ne {supply : Nat} {action : Action} {draw : Draw} (hcall : action.callOn? number = none)
    (hdraw : store.draw? supply action = some draw) : draw.drawer ≠ some number := by
  obtain ⟨hdrawer, _⟩ | ⟨drawer, _, hdrawer, hcalled, _⟩ := draw?_eq_some hdraw
  · rw [hdrawer]
    exact nofun
  · rw [hdrawer]
    intro hself
    rw [Option.some.inj hself, hcall] at hcalled
    cases hcalled

/-- An action that is no call on an environment leaves its symbols alone, and it leaves its supply alone as well unless
it takes a name from it or is a call on another environment that draws from it. -/
theorem environment?_next_other {resident : Resident} (henvironment : store.environment? number = some environment)
    (hresident : store.residents[number]? = some resident) {action : Action} (hcall : action.callOn? number = none) :
    ∃ later, (store.next action).environment? number = some later ∧ later.toArenas = environment.toArenas ∧
      (later.supply = environment.supply ∨ later.supply = environment.supply.advance ∧
        (action = .takeName resident.supply ∨ ∃ drawer other, drawer ≠ number ∧
          store.residents[drawer]? = some other ∧ other.supply = resident.supply)) := by
  obtain ⟨later, hlater, hbecomes⟩ := environment?_next henvironment action
  rw [hcall] at hbecomes
  refine ⟨later, hlater, hbecomes, ?_⟩
  obtain ⟨laterResident, hlaterResident, hsame⟩ := supplyNumber_next hresident action
  have hsupply := supply_of_environment? hlater hlaterResident
  have hnext := store.supply_next resident.supply action
  rw [hsame] at hsupply
  rw [← hsupply, ← supply_of_environment? henvironment hresident]
  cases hdraw : store.draw? resident.supply action with
  | none =>
    rw [hdraw] at hnext
    exact .inl hnext
  | some draw =>
    rw [hdraw] at hnext
    refine .inr ⟨hnext.2, ?_⟩
    obtain ⟨_, htake⟩ | ⟨drawer, other, hdrawer, _, hother, hshared⟩ := draw?_eq_some hdraw
    · exact .inl htake
    · refine .inr ⟨drawer, other, fun hself => ?_, hother, hshared⟩
      rw [hself] at hdrawer
      exact drawer_ne hcall hdraw hdrawer

/-- The draws that an environment made. -/
def drawsOf (number : Nat) (draws : List Draw) : List Draw := draws.filter fun draw => draw.drawer = some number

/-- An action leaves an environment without temporaries, or it adds the one that the environment draws by it. -/
theorem temporaryNames_next {resident : Resident} (henvironment : store.environment? number = some environment)
    (hresident : store.residents[number]? = some resident) (action : Action) :
    ((store.next action).arenas number).temporarySymbols = [] ∨
      ((store.next action).arenas number).temporarySymbols.map (fun symbol => some symbol.name) =
        (store.arenas number).temporarySymbols.map (fun symbol => some symbol.name) ++
          (drawsOf number (store.draw? resident.supply action).toList).map Draw.name := by
  obtain ⟨later, hlater, hbecomes⟩ := environment?_next henvironment action
  rw [arenas_of_environment? hlater, arenas_of_environment? henvironment]
  cases hcall : action.callOn? number with
  | none =>
    rw [hcall] at hbecomes
    right
    have hdrawn : drawsOf number (store.draw? resident.supply action).toList = [] := by
      rw [drawsOf, List.filter_eq_nil_iff]
      intro draw hdraw
      simpa using drawer_ne hcall (Option.mem_toList.1 hdraw)
    rw [hbecomes, hdrawn, List.map_nil, List.append_nil]
  | some made =>
    obtain ⟨context, call⟩ := made
    obtain rfl := Action.callOn?_eq_some_iff.1 hcall
    rw [hcall] at hbecomes
    subst hbecomes
    have heffect : environment.Effect context call.request (environment.perform context call).result
        (environment.perform context call).state := Environment.effect_perform call
    rw [draw?_call henvironment hresident]
    by_cases hreleases : call.request.releases .temporary = true
    · left
      have hnames := heffect.temporaryNames_eq
      rw [if_pos hreleases] at hnames
      exact List.map_eq_nil_iff.1 hnames
    · right
      have hnames := congrArg (List.map some) heffect.temporaryNames_eq
      rw [if_neg hreleases, List.map_append, List.map_map, List.map_map] at hnames
      refine hnames.trans (congrArg _ ?_)
      split
      · simp [drawsOf]
      · rfl

/-- The temporaries of an environment are what it drew since some moment, the last release of its temporaries. -/
theorem temporaries_eq_draws (actions : List Action) {draws : List Draw} {resident : Resident}
    (hresident : (({} : Store).after actions).residents[number]? = some resident)
    (hdraws : ({} : Store).draws resident.supply actions = draws)
    (henvironment : (({} : Store).after actions).environment? number = some environment) :
    ∃ released ≤ draws.length, environment.temporarySymbols.map (fun symbol => some symbol.name) =
      (drawsOf number (draws.drop released)).map Draw.name := by
  rw [← arenas_of_environment? henvironment]
  rw [← hdraws, ← List.nil_append (({} : Store).draws resident.supply actions)]
  refine draws_rule (P := fun store past => ∀ found, store.residents[number]? = some found →
    found.supply = resident.supply → ∃ released ≤ past.length,
      (store.arenas number).temporarySymbols.map (fun symbol => some symbol.name) =
        (drawsOf number (past.drop released)).map Draw.name) ?_ [] ?_ actions resident hresident rfl
  · intro store past action hpast found hfound hsupply
    cases hold : store.environment? number with
    | none =>
      obtain ⟨created, hcreated, harenas⟩ := exists_environment? hfound
      rw [arenas_of_environment? hcreated, environment?_next_of_none hold hcreated]
      exact ⟨_, Nat.le_refl _, by rw [List.drop_length]; rfl⟩
    | some environment =>
      obtain ⟨own, hown, _, _⟩ := environment?_eq_some_iff.1 hold
      obtain ⟨later, hlater, hsame⟩ := supplyNumber_next hown action
      rw [hlater] at hfound
      cases hfound
      obtain ⟨released, hle, htemporaries⟩ := hpast own hown (hsame.symm.trans hsupply)
      rw [← hsupply, hsame]
      obtain hnone | hadded := temporaryNames_next hold hown action
      · rw [hnone]
        exact ⟨_, Nat.le_refl _, by rw [List.drop_length]; rfl⟩
      · refine ⟨released, Nat.le_trans hle (by simp), ?_⟩
        rw [hadded, htemporaries, List.drop_append_of_le_length hle, drawsOf, drawsOf, drawsOf, List.filter_append,
          List.map_append]
  · intro found hfound
    cases hfound

/-- As long as the supply has not run out, the draws are numbered from zero. -/
theorem names_draws {supply : Nat} {actions : List Action} {draws : List Draw}
    (hdraws : ({} : Store).draws supply actions = draws) (hbound : draws.length < UInt64.size) :
    draws.map Draw.name = (List.range draws.length).map (fun count => some (temporaryName count)) := by
  rw [(draws_after supply actions hdraws).1]
  refine List.map_congr_left fun count hcount => ?_
  rw [NameSupply.nameAfter_of_lt (Nat.lt_trans (List.mem_range.1 hcount) hbound)]

/-- Names that are some of the names of numbered draws have increasing numbers. -/
theorem exists_numbers {names : List String} {draws : List Draw}
    (hdraws : draws.map Draw.name = (List.range draws.length).map (fun count => some (temporaryName count)))
    (hnames : (names.map some).Sublist (draws.map Draw.name)) :
    ∃ numbers : List Nat, names = numbers.map temporaryName ∧ numbers.Pairwise (· < ·) ∧
      ∀ count ∈ numbers, count < draws.length := by
  rw [hdraws, List.sublist_map_iff] at hnames
  obtain ⟨numbers, hnumbers, hsame⟩ := hnames
  refine ⟨numbers, ?_, List.pairwise_lt_range.sublist hnumbers, fun count hcount =>
    List.mem_range.1 (hnumbers.subset hcount)⟩
  refine (List.map_inj_right fun _ _ => Option.some.inj).1 (hsame.trans ?_)
  rw [List.map_map]
  rfl

/-- The numbers of the temporaries of an environment that made all draws from its supply are the last ones. -/
theorem numbers_of_sole_drawer {names : List String} {draws : List Draw} {released : Nat}
    (hdraws : draws.map Draw.name = (List.range draws.length).map (fun count => some (temporaryName count)))
    (hle : released ≤ draws.length) (hsole : ∀ draw ∈ draws, draw.drawer = some number)
    (hnames : names.map some = (drawsOf number (draws.drop released)).map Draw.name) :
    names = (List.range' (draws.length - names.length) names.length).map temporaryName := by
  have hall : drawsOf number (draws.drop released) = draws.drop released :=
    List.filter_eq_self.2 fun draw hdraw => by simpa using hsole draw (List.mem_of_mem_drop hdraw)
  rw [hall, List.map_drop, hdraws, ← List.map_drop, List.range_eq_range', List.drop_range'] at hnames
  have hlength : names.length = draws.length - released := by
    have := congrArg List.length hnames
    simpa using this
  have hfirst : draws.length - names.length = released := by omega
  refine (List.map_inj_right fun _ _ => Option.some.inj).1 (hnames.trans ?_)
  rw [hfirst, hlength, List.map_map, Nat.zero_add, Nat.mul_one]
  rfl

/-- Along every run the draws from a supply, whoever makes them, are numbered from zero in their order, so no two of
them are the same name, and the supply has issued as many names as were drawn. A call that is refused or asks for no
temporary moves no supply. In the state that is reached the temporaries of an environment on the supply have
increasing numbers below what is issued, and exactly the last ones if the environment made all the draws. -/
theorem draws_numbered {actions : List Action} {final : Store} {supply : Nat} {draws : List Draw}
    (hfinal : ({} : Store).after actions = final) (hdraws : ({} : Store).draws supply actions = draws)
    (hbound : draws.length < UInt64.size) :
    draws.map Draw.name = (List.range draws.length).map (fun count => some (temporaryName count)) ∧
      (draws.map Draw.name).Nodup ∧
      (final.supply supply).issued.toNat = draws.length ∧
      (∀ (store : Store) (number : Nat) (environment : Environment) (context : Context) (call : Call Handle Symbol),
        store.environment? number = some environment →
        (call.request.isCreation = false ∨
          ∃ diagnostic, (environment.perform context call).result = .error diagnostic) →
        (store.next (.call number context call)).supply supply = store.supply supply) ∧
      ∀ number resident environment, final.residents[number]? = some resident → resident.supply = supply →
        final.environment? number = some environment →
        environment.supply.issued.toNat = draws.length ∧
          (∃ numbers : List Nat, environment.temporarySymbols.map Symbol.name = numbers.map temporaryName ∧
            numbers.Pairwise (· < ·) ∧ ∀ count ∈ numbers, count < environment.supply.issued.toNat) ∧
          ((∀ draw ∈ draws, draw.drawer = some number) →
            environment.temporarySymbols.map Symbol.name =
              (List.range' (environment.supply.issued.toNat - environment.temporaryCount)
                environment.temporaryCount).map temporaryName) := by
  have hnames := names_draws hdraws hbound
  have hissued : (final.supply supply).issued.toNat = draws.length := by
    rw [← hfinal, (draws_after supply actions hdraws).2]
    exact UInt64.toNat_ofNat_of_lt' hbound
  refine ⟨hnames, ?_, hissued, ?_, ?_⟩
  · rw [hnames, List.Nodup, List.pairwise_map]
    exact List.nodup_range.imp fun hne hsame => hne (temporaryName_injective (Option.some.inj hsame))
  · intro store number environment context call henvironment hcall
    exact supply_next_of_not_draws henvironment hcall supply
  · intro number resident environment hresident hsupply henvironment
    subst hsupply hfinal
    rw [supply_of_environment? henvironment hresident] at hissued
    obtain ⟨released, hle, htemporaries⟩ := temporaries_eq_draws actions hresident hdraws henvironment
    have hown : (environment.temporarySymbols.map Symbol.name).map some =
        (drawsOf number (draws.drop released)).map Draw.name := by
      rw [← htemporaries, List.map_map]
      rfl
    rw [hissued]
    refine ⟨rfl, exists_numbers hnames ?_, fun hsole => ?_⟩
    · rw [hown]
      exact (List.filter_sublist.trans (List.drop_sublist ..)).map _
    · have hlast := numbers_of_sole_drawer hnames hle hsole hown
      have hcount : (environment.temporarySymbols.map Symbol.name).length = environment.temporaryCount := by
        rw [List.length_map]
        rfl
      rwa [hcount] at hlast

/-- Two environments on one supply draw from it in turn with a third party, among refusals, releases and other
calls. -/
def sharedDraws : List Action :=
  [.newEnvironment, .newEnvironmentOn 0, .call 1 {} (.newTemporary .int (.int 5)), .takeName 0,
    .call 0 {} (.newTemporary .bool (.int 1)), .call 0 {} (.negate ⟨"p", .bool true⟩), .call 1 {} .releaseTemporaries,
    .call 1 {} (.operate (.comparison .lt) ⟨"a", .int 1⟩ ⟨"b", .int 2⟩), .call 1 {} (.declare "x" .int),
    .call 0 {} (.operate (.arithmetic .div) ⟨"a", .int 1⟩ ⟨"b", .int 0⟩), .newEnvironment,
    .call 2 {} (.newTemporary .int (.int 6)), .call 1 {} (.negate ⟨"q", .bool false⟩)]

theorem draws_numbered_shared :
    (({} : Store).draws 0 sharedDraws).map Draw.name =
        [some "_temp0", some "_temp1", some "_temp2", some "_temp3", some "_temp4"] ∧
      ((({} : Store).after sharedDraws).supply 0).issued.toNat = 5 := by
  obtain ⟨hnames, -, hissued, -, -⟩ := draws_numbered (rfl : ({} : Store).after sharedDraws = _)
    (rfl : ({} : Store).draws 0 sharedDraws = _) (by decide)
  have hlength : (({} : Store).draws 0 sharedDraws).length = 5 := by decide
  rw [hlength] at hnames hissued
  exact ⟨hnames, hissued⟩

end Store

end SymbolTable
