import SymbolTable.Proofs.Handle.Identity
import SymbolTable.Proofs.Routine.Renewal

/-!
# Releasing everything is starting afresh

After both arenas of an environment have been released, the environment is a shift of a new one whose supply has
issued as many names. So from then on the two cannot be told apart, as long as nobody else draws from their supplies:
every routine comes to the same on both up to the identity of handles (`release_renews`). The handles from before the
release are no exception, since they resolve in neither.
-/

namespace SymbolTable

/-- Nothing is in an arena. -/
def Arenas.Bare (arenas : Arenas) : ArenaKind → Prop
  | .declared => arenas.declared.contents = {}
  | .temporary => arenas.temporaries.contents = #[]

namespace Store

variable {store : Store} {number : Nat} {environment later : Environment}

/-- An environment is there, and it is asked for nothing but releases, for one of each arena at least. -/
structure Clears (store : Store) (number : Nat) (clearing : List Action) : Prop where
  exists_environment : ∃ environment, store.environment? number = some environment
  eq_release : ∀ request ∈ clearing.filterMap (Action.requestOn? number), ∃ kind, request = .release kind
  mem_release : ∀ kind, .release kind ∈ clearing.filterMap (Action.requestOn? number)

/-- Releases are always granted. -/
theorem granted_of_clears {clearing : List Action} (hclears : Clears store number clearing) :
    store.granted number clearing = clearing.filterMap (Action.requestOn? number) := by
  obtain ⟨environment, henvironment⟩ := hclears.exists_environment
  have hreleases := hclears.eq_release
  rw [← map_fst_transcript henvironment clearing] at hreleases ⊢
  rw [granted]
  rw [← List.nil_append (store.transcript number clearing)] at hreleases ⊢
  revert hreleases
  refine transcript_rule (P := fun _ past =>
    (∀ request ∈ past.map Prod.fst, ∃ kind, request = .release kind) →
      Transcript.granted past = past.map Prod.fst) ?_ [] (fun _ => rfl) clearing
  intro environment later context request result past hpast heffect hreleases
  rw [List.map_append, List.forall_mem_append] at hreleases
  obtain ⟨hold, hlast⟩ := hreleases
  obtain ⟨kind, rfl⟩ := hlast request List.mem_cons_self
  rw [Transcript.granted_append, List.map_append, hpast hold]
  cases heffect <;> rfl

/-- An arena that is released is bare until something else than a release is asked for. -/
theorem bare_of_clears {clearing : List Action} (hclears : Clears store number clearing) (kind : ArenaKind) :
    ((store.after clearing).arenas number).Bare kind := by
  have hreleases := hclears.eq_release
  have hreleased := hclears.mem_release kind
  rw [← granted_of_clears hclears] at hreleases hreleased
  revert hreleases hreleased
  refine granted_rule (P := fun arenas past => (∀ request ∈ past, ∃ kind, request = .release kind) →
    .release kind ∈ past → arenas.Bare kind) nofun ?_ clearing
  intro environment later context request reply past hpast heffect hreleases hreleased
  obtain ⟨hold, hlast⟩ := List.forall_mem_append.1 hreleases
  obtain ⟨released, rfl⟩ := hlast request (List.mem_singleton.2 rfl)
  have hbefore (hkind : kind ≠ released) : environment.Bare kind := by
    refine hpast hold ?_
    obtain hmem | hmem := List.mem_append.1 hreleased
    · exact hmem
    · cases List.mem_singleton.1 hmem
      exact absurd rfl hkind
  cases heffect with
  | releasedDeclared =>
    cases kind with
    | declared => rfl
    | temporary => exact hbefore nofun
  | releasedTemporaries =>
    cases kind with
    | declared => exact hbefore nofun
    | temporary => rfl

theorem owner_of_returned {before : List Action} {issue : Issue} (hissue : Returned before issue) :
    issue.handle.owner = .ofNat issue.number := by
  obtain ⟨reply, hgranted, hhandle⟩ := hissue
  obtain ⟨issuer, issued, _, hissuer, hissued, heffect⟩ := hgranted.effect
  obtain ⟨symbol, _, hstands⟩ := heffect.standsFor_of_handle? hhandle
  rw [hstands.owner_eq, owner_after _ hissued]

/-- A new environment on a supply has no symbols. -/
theorem environment?_newEnvironmentOn {supply : Nat} (hsupply : supply < store.supplies.size) :
    (store.next (.newEnvironmentOn supply)).environment? store.residents.size =
        some { owner := .ofNat store.residents.size, supply := store.supply supply } ∧
      (store.next (.newEnvironmentOn supply)).residents[store.residents.size]? =
        some ⟨{ owner := .ofNat store.residents.size }, supply⟩ := by
  have hnext : store.next (.newEnvironmentOn supply) = store.addEnvironment supply hsupply := by
    simp only [next, act?, newEnvironmentOn?, dif_pos hsupply]
    rfl
  have hlast : (store.addEnvironment supply hsupply).residents[store.residents.size]? =
      some ⟨{ owner := .ofNat store.residents.size }, supply⟩ := Array.getElem?_push_size
  rw [hnext]
  refine ⟨environment?_eq_some_iff.2 ⟨_, hlast, rfl, ?_⟩, hlast⟩
  rw [Store.supply, Array.getElem?_eq_getElem hsupply]
  exact Array.getElem?_eq_getElem hsupply

end Store

namespace Routine

open Store

variable {number : Nat} {lines : List Line}

/-- A handle that was returned before a release is outdated, as long as releases are few enough. -/
theorem outdated_of_returned {before clearing : List Action} {issue : Issue} (hissue : Returned before issue)
    (hclears : Clears (({} : Store).after before) issue.number clearing) {environment : Environment}
    (henvironment : (({} : Store).after (before ++ clearing)).environment? issue.number = some environment)
    (hreleases : (({} : Store).granted issue.number (before ++ clearing)).countP (Request.releases issue.handle.kind) +
      lines.countP (·.call.releases issue.handle.kind) < UInt32.size) :
    Outdated lines environment.toArenas issue.handle := by
  intro _
  obtain ⟨reply, hgranted, hhandle⟩ := hissue
  obtain ⟨_, issued, _, _, hissued, heffect⟩ := hgranted.effect
  obtain ⟨symbol, _, hstands⟩ := heffect.standsFor_of_handle? hhandle
  have hparts : before ++ clearing =
      before.take (issue.moment + 1) ++ (before.drop (issue.moment + 1) ++ clearing) := by
    rw [← List.append_assoc, List.take_append_drop]
  have hbefore : (({} : Store).after (before.take (issue.moment + 1))).after (before.drop (issue.moment + 1)) =
      ({} : Store).after before := by
    rw [← after_append, List.take_append_drop]
  rw [hparts, after_append] at henvironment
  rw [hparts, granted_append, List.countP_append] at hreleases
  have hgeneration := generation_after hissued _ henvironment issue.handle.kind
  refine ⟨_, ?_, hstands.generation_eq ▸ hgeneration, by omega⟩
  rw [granted_append, hbefore, granted_of_clears hclears, List.countP_append]
  refine Nat.lt_of_lt_of_le (List.countP_pos_iff.2 ⟨_, hclears.mem_release issue.handle.kind, ?_⟩) (Nat.le_add_left ..)
  exact Request.releases_iff.2 rfl

/-- A bare environment is a shift of a new one whose supply has issued as many names. -/
theorem exists_shift {environment : Environment} (hbare : ∀ kind, environment.Bare kind) (owner : UInt64) :
    ∃ shift : Shift, environment = shift.environment { owner, supply := environment.supply } := by
  refine ⟨⟨environment.owner - owner, environment.generation⟩, ?_⟩
  have hdeclared := hbare .declared
  have htemporaries := hbare .temporary
  obtain ⟨⟨own, ⟨declared, generation⟩, ⟨temporaries, temporaryGeneration⟩⟩, supply⟩ := environment
  cases hdeclared
  cases htemporaries
  simp only [Shift.environment, Arenas.generation, UInt32.zero_add, UInt64.add_comm owner, UInt64.sub_add_cancel]

/-- The past of a routine that begins with some handles. -/
def Past.ofHandles (handles : List Handle) : Past := handles.map fun handle => some ⟨{}, .ok (.handle handle), []⟩

theorem rel_ofHandles (shift : Shift) (earlier : List Handle) :
    List.Forall₂ (Option.Rel (Record.Rel (Corresponds shift earlier))) (Past.ofHandles earlier)
      (Past.ofHandles earlier) := by
  rw [Past.ofHandles, List.forall₂_map_left_iff, List.forall₂_map_right_iff, List.forall₂_same]
  intro handle hmem
  exact .some ⟨.ok (.handle (.earlier hmem)), rfl⟩

/-- Releasing everything is starting afresh. Nothing but releases is asked of an environment, for one of each arena at
least, and then a new environment is created on a supply that has issued as many names. From then on every routine
comes to the same on the two, with the same replies, diagnostics and logs, and leaves them alike, with handles of the
same kinds that are equal on the one side exactly if they are on the other. It may begin with handles that the
environment returned before the release and with those of third parties. Others may do what they like in the meantime,
but for drawing from the supply of the environment that the routine runs on, and the routine may run on the two in one
run or in different ones. The two have different owner numbers, and releases are few enough for generations not to
come round again. -/
theorem release_renews {before clearing : List Action} {supply : Nat} {store : Store} {resident : Resident}
    {earlier : List Handle} {start : Weave} {steps others : List Step}
    (hclears : Clears (({} : Store).after before) number clearing)
    (hstore : ({} : Store).after (before ++ clearing) = store)
    (hunique : UInt64.ofNat number ≠ .ofNat store.residents.size)
    (hresident : store.residents[number]? = some resident) (hsupply : supply < store.supplies.size)
    (hissued : store.supply supply = store.supply resident.supply)
    (hearlier : ∀ handle ∈ earlier, (∃ issue, Returned before issue ∧ issue.number = number ∧ issue.handle = handle) ∨
      handle.owner ≠ .ofNat number ∧ handle.owner ≠ .ofNat store.residents.size)
    (hstart : start = ⟨store.next (.newEnvironmentOn supply), fun _ => Past.ofHandles earlier⟩)
    (hsteps : Undisturbed start number resident.supply lines steps)
    (hothers : Undisturbed start store.residents.size supply lines others)
    (hreleases : ∀ kind, (({} : Store).granted number (before ++ clearing)).countP (Request.releases kind) +
      lines.countP (·.call.releases kind) < UInt32.size) :
    ∃ environment fresh, (start.after steps).store.environment? number = some environment ∧
      (start.after others).store.environment? store.residents.size = some fresh ∧
      EnvironmentsAlike environment fresh ∧
      ((start.after steps).pasts number).Alike ((start.after others).pasts store.residents.size) := by
  obtain ⟨known, hknown⟩ := hclears.exists_environment
  obtain ⟨released, hreleased⟩ := environment?_after hknown clearing
  have hbare := bare_of_clears hclears
  rw [arenas_of_environment? hreleased] at hbare
  rw [← after_append, hstore] at hreleased
  obtain ⟨hfresh, hfreshResident⟩ := environment?_newEnvironmentOn hsupply
  obtain ⟨shift, hshift⟩ := exists_shift hbare (.ofNat store.residents.size)
  rw [← supply_of_environment? hreleased hresident, ← hissued] at hshift
  have hkept : (store.next (.newEnvironmentOn supply)).environment? number = some released :=
    environment?_next_undrawn hreleased hresident rfl rfl
  obtain ⟨later, hlater, hnumber⟩ := supplyNumber_next hresident (.newEnvironmentOn supply)
  have hunknown (handle : Handle) (hmem : handle ∈ earlier) :
      Outdated lines { owner := .ofNat store.residents.size } handle := by
    intro howner
    obtain ⟨issue, hissue, rfl, rfl⟩ | ⟨_, hforeign⟩ := hearlier handle hmem
    · rw [owner_of_returned hissue] at howner
      exact absurd howner hunique
    · exact absurd howner hforeign
  have houtdated (handle : Handle) (hmem : handle ∈ earlier) : Outdated lines released.toArenas handle := by
    subst hstore
    obtain ⟨issue, hissue, rfl, rfl⟩ | ⟨hforeign, _⟩ := hearlier handle hmem
    · exact outdated_of_returned hissue hclears hreleased (hreleases _)
    · intro howner
      rw [owner_after _ hreleased] at howner
      exact absurd howner hforeign
  subst hstart
  rw [← hnumber] at hsteps
  exact Twin.among ⟨hshift, rel_ofHandles shift earlier, houtdated, hunknown⟩ hkept hlater hsteps hfresh hfreshResident
    hothers

/-- An environment with a declared symbol and a temporary, next to a supply that has issued a name as well. -/
def usedRun : List Action :=
  [.newEnvironment, .call 0 {} (.declare "x" .int), .call 0 {} (.newTemporary .int (.int 5)), .newSupply, .takeName 1]

/-- Releases, with a creation by somebody else in between. -/
def usedClearing : List Action :=
  [.call 0 {} .releaseTemporaries, .newSupply, .call 0 {} .releaseDeclared, .call 0 {} .releaseTemporaries]

def usedStore : Store := ({} : Store).after (usedRun ++ usedClearing)

/-- A routine that asks for the handles from before, redeclares the name at another type, and releases its
temporaries. -/
def renewedRoutine : List Line :=
  [⟨{}, .declareWith "x" (.bool true)⟩, ⟨{}, .get 0⟩, ⟨{}, .get 1⟩, ⟨{}, .get 2⟩, ⟨{}, .negate (.current 2)⟩,
    ⟨{}, .releaseTemporaries⟩, ⟨{}, .get 6⟩, ⟨{}, .declare "x" .int⟩, ⟨{}, .handleOf "x"⟩, ⟨{}, .table⟩]

/-- The routine on the released environment and on a new one, line by line in turn. -/
def renewedSteps : List Step := (renewedRoutine.map fun line => [.line 0 line, .line 1 line]).flatten

/-- The start of the routine, with the handles of the declared symbol and of the temporary. -/
def renewedStart : Weave :=
  ⟨usedStore.next (.newEnvironmentOn 1), fun _ => Past.ofHandles [⟨0, .declared, 0, 0⟩, ⟨0, .temporary, 0, 0⟩]⟩

theorem release_renews_used :
    ∃ environment fresh, (renewedStart.after renewedSteps).store.environment? 0 = some environment ∧
      (renewedStart.after renewedSteps).store.environment? 1 = some fresh ∧ EnvironmentsAlike environment fresh ∧
      ((renewedStart.after renewedSteps).pasts 0).Alike ((renewedStart.after renewedSteps).pasts 1) := by
  have hclears : Clears (({} : Store).after usedRun) 0 usedClearing := by
    have hrequests : usedClearing.filterMap (Action.requestOn? 0) =
        [.release .temporary, .release .declared, .release .temporary] := rfl
    have hexists : ((({} : Store).after usedRun).environment? 0).isSome := by decide
    refine ⟨Option.isSome_iff_exists.1 hexists, ?_, ?_⟩
    · rw [hrequests]
      simp
    · rw [hrequests]
      intro kind
      cases kind <;> simp
  have hsize : usedStore.residents.size = 1 := by decide
  have hsupply : usedStore.residents[0]?.map Resident.supply = some 0 := by decide
  obtain ⟨resident, hresident, hnumber⟩ := Option.map_eq_some_iff.1 hsupply
  have hissued : usedStore.supply 1 = usedStore.supply resident.supply := by
    rw [hnumber]
    decide
  have hearlier : ∀ handle ∈ [Handle.mk 0 .declared 0 0, ⟨0, .temporary, 0, 0⟩],
      (∃ issue, Returned usedRun issue ∧ issue.number = 0 ∧ issue.handle = handle) ∨
        handle.owner ≠ .ofNat 0 ∧ handle.owner ≠ .ofNat usedStore.residents.size := by
    have hdeclared : Returned usedRun ⟨1, 0, .declare ⟨"x", .int 0⟩, ⟨0, .declared, 0, 0⟩⟩ := ⟨_, ⟨_, rfl, rfl⟩, rfl⟩
    have htemporary : Returned usedRun ⟨2, 0, .create (.ok (.int 5)), ⟨0, .temporary, 0, 0⟩⟩ := ⟨_, ⟨_, rfl, rfl⟩, rfl⟩
    rintro handle (_ | ⟨_, _ | ⟨_, ⟨⟩⟩⟩)
    · exact .inl ⟨_, hdeclared, rfl, rfl⟩
    · exact .inl ⟨_, htemporary, rfl, rfl⟩
  have hdrawers : (renewedStart.draws 0 renewedSteps).map Draw.drawer = [some 0] ∧
      (renewedStart.draws 1 renewedSteps).map Draw.drawer = [some 1] := by decide +kernel
  have hundisturbed (number : Nat) (hlines : renewedSteps.filterMap (Step.lineOn? number) = renewedRoutine)
      (hdrawn : (renewedStart.draws number renewedSteps).map Draw.drawer = [some number]) :
      Undisturbed renewedStart number number renewedRoutine renewedSteps := by
    refine ⟨hlines, by simp [renewedSteps, renewedRoutine], fun draw hdraw => ?_⟩
    have hmem : draw.drawer ∈ (renewedStart.draws number renewedSteps).map Draw.drawer := List.mem_map_of_mem hdraw
    rwa [hdrawn, List.mem_singleton] at hmem
  have hsteps : Undisturbed renewedStart 0 resident.supply renewedRoutine renewedSteps := by
    rw [hnumber]
    exact hundisturbed 0 rfl hdrawers.1
  have hothers : Undisturbed renewedStart usedStore.residents.size 1 renewedRoutine renewedSteps := by
    rw [hsize]
    exact hundisturbed 1 rfl hdrawers.2
  have hreleases (kind : ArenaKind) : (({} : Store).granted 0 (usedRun ++ usedClearing)).countP (Request.releases kind) +
      renewedRoutine.countP (·.call.releases kind) < UInt32.size := by
    cases kind <;> decide
  have hstore : ({} : Store).after (usedRun ++ usedClearing) = usedStore := rfl
  have hunique : UInt64.ofNat 0 ≠ .ofNat usedStore.residents.size := by
    rw [hsize]
    decide
  have hcreated : 1 < usedStore.supplies.size := by decide
  have hstart : renewedStart = ⟨usedStore.next (.newEnvironmentOn 1),
      fun _ => Past.ofHandles [⟨0, .declared, 0, 0⟩, ⟨0, .temporary, 0, 0⟩]⟩ := rfl
  rw [← hsize]
  exact release_renews hclears hstore hunique hresident hcreated hissued hearlier hstart hsteps hothers hreleases

end Routine

end SymbolTable
