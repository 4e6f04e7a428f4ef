import SymbolTable.Proofs.Environment.Shift
import SymbolTable.Proofs.Handle.Safety
import SymbolTable.Proofs.Routine.Alone

/-!
# Routines on an environment and on a shift of it

A routine that is carried out on an environment and on a shift of it comes to the same in both, but for the handles:
those that it is returned are shifted, and those that it brings from before resolve in neither (`Twin.after`). A
handle from before does so for good in an environment of another owner, and in its own as long as the generation of
its arena does not come round again (`Outdated`).
-/

namespace SymbolTable

/-- Replies with related handles, or the same reply if it brings none. -/
inductive Reply.Rel (R : Handle → Handle → Prop) : Reply → Reply → Prop where
  | handle {issued other : Handle} (hissued : R issued other) : Rel R (.handle issued) (.handle other)
  | located {issued other : Handle} (hissued : R issued other) : Rel R (.located (some issued)) (.located (some other))
  | same {reply : Reply} (hreply : reply.handle? = none) : Rel R reply reply

/-- Replies with related handles, or the same diagnostic. -/
inductive Reply.ResultRel (R : Handle → Handle → Prop) : Except Diagnostic Reply → Except Diagnostic Reply → Prop where
  | ok {reply other : Reply} (hreply : reply.Rel R other) : ResultRel R (.ok reply) (.ok other)
  | error (diagnostic : Diagnostic) : ResultRel R (.error diagnostic) (.error diagnostic)

/-- Calls with related handles, or the same call if it is given none. -/
inductive Call.Rel (R : Handle → Handle → Prop) : Call Handle Symbol → Call Handle Symbol → Prop where
  | get {issued other : Handle} (hissued : R issued other) : Rel R (.get issued) (.get other)
  | same {call : Call Handle Symbol} (hget : call.isGet = false) : Rel R call call

/-- Whether a call releases an arena. -/
def Call.releases {η ο : Type} (kind : ArenaKind) : Call η ο → Bool
  | .releaseDeclared => ArenaKind.declared == kind
  | .releaseTemporaries => ArenaKind.temporary == kind
  | _ => false

theorem Call.releases_request (call : Call Handle Symbol) (kind : ArenaKind) :
    call.request.releases kind = call.releases kind := by
  cases call <;> rfl

namespace Routine

/-- Records of one line: its results have related handles and are the same in all else, and its logs are the same. -/
structure Record.Rel (R : Handle → Handle → Prop) (record other : Record) : Prop where
  result : Reply.ResultRel R record.result other.result
  log : record.log = other.log

namespace Record.Rel

variable {R : Handle → Handle → Prop} {record other : Record}

theorem handle? (hrecord : record.Rel R other) : Option.Rel R record.handle? other.handle? := by
  obtain ⟨marks, result, log⟩ := record
  obtain ⟨otherMarks, otherResult, otherLog⟩ := other
  obtain ⟨hresult, _⟩ := hrecord
  cases hresult with
  | error diagnostic => exact .none
  | ok hreply =>
    cases hreply with
    | handle hissued => exact .some hissued
    | located hissued => exact .some hissued
    | same hreply =>
      simp only [Record.handle?, Except.toOption, Option.bind_some, hreply]
      exact .none

theorem imp {S : Handle → Handle → Prop} (hrecord : record.Rel R other)
    (hhandle : ∀ issued other, R issued other → S issued other) : record.Rel S other where
  result := by
    obtain ⟨marks, result, log⟩ := record
    obtain ⟨otherMarks, otherResult, otherLog⟩ := other
    obtain ⟨hresult, _⟩ := hrecord
    cases hresult with
    | error diagnostic => exact .error diagnostic
    | ok hreply =>
      cases hreply with
      | handle hissued => exact .ok (.handle (hhandle _ _ hissued))
      | located hissued => exact .ok (.located (hhandle _ _ hissued))
      | same hreply => exact .ok (.same hreply)
  log := hrecord.log

theorem symbol?_eq (hrecord : record.Rel R other) : record.symbol? = other.symbol? := by
  obtain ⟨marks, result, log⟩ := record
  obtain ⟨otherMarks, otherResult, otherLog⟩ := other
  obtain ⟨hresult, _⟩ := hrecord
  cases hresult with
  | error diagnostic => rfl
  | ok hreply => cases hreply <;> rfl

end Record.Rel

namespace Past

variable {R : Handle → Handle → Prop} {past other : Past}

theorem rel_record? (hpast : List.Forall₂ (Option.Rel (Record.Rel R)) past other) (line : Nat) :
    Option.Rel (Record.Rel R) (past.record? line) (other.record? line) := by
  have hline := rel_getElem? hpast line
  unfold Past.record?
  generalize past[line]? = first, other[line]? = second at hline
  cases hline with
  | some hrecord => exact hrecord
  | none => exact .none

theorem rel_handle? (hpast : List.Forall₂ (Option.Rel (Record.Rel R)) past other) (line : Nat) :
    Option.Rel R (past.handle? line) (other.handle? line) :=
  rel_bind (rel_record? hpast line) fun _ _ hrecord => hrecord.handle?

end Past

/-! ### Handles from before -/

/-- A handle resolves no more in an environment, and will not before more releases than some lines ask for. -/
def Outdated (lines : List Line) (arenas : Arenas) (handle : Handle) : Prop :=
  handle.owner = arenas.owner → ∃ releases, 0 < releases ∧
    arenas.generation handle.kind = handle.generation + .ofNat releases ∧
    releases + lines.countP (·.call.releases handle.kind) < UInt32.size

namespace Outdated

variable {lines : List Line} {arenas : Arenas} {handle : Handle}

theorem generation_ne (houtdated : Outdated lines arenas handle) (howner : handle.owner = arenas.owner) :
    handle.generation ≠ arenas.generation handle.kind := by
  obtain ⟨releases, hpos, hgeneration, hlt⟩ := houtdated howner
  rw [hgeneration]
  exact Store.generation_add_ofNat_ne hpos (Nat.lt_of_le_of_lt (Nat.le_add_right ..) hlt)

theorem get?_eq_none (houtdated : Outdated lines arenas handle) : arenas.get? handle = none := by
  by_cases howner : handle.owner = arenas.owner
  · exact Arenas.get?_eq_none_of_generation (houtdated.generation_ne howner)
  · exact Arenas.get?_eq_none_of_owner howner

end Outdated

theorem Line.releases_of_call? {environment : Environment} {past : Past} {line : Line} {call : Call Handle Symbol}
    (hcall : line.call? environment past = some call) (kind : ArenaKind) :
    call.releases kind = line.call.releases kind := by
  obtain ⟨context, made⟩ := line
  unfold Line.call? at hcall
  cases made with
  | operate op left right | evalBinary op left right =>
    simp only [Call.resolve, toOption_elim_bind, Option.bind_eq_some_iff] at hcall
    obtain ⟨_, _, _, _, hmade⟩ := hcall
    cases hmade
    rfl
  | assignFrom _ operand | negate operand | evalUnary _ operand | get reference =>
    simp only [Call.resolve, toOption_elim_bind, Option.bind_eq_some_iff] at hcall
    obtain ⟨_, _, hmade⟩ := hcall
    cases hmade
    rfl
  | _ =>
    cases hcall
    rfl

/-- A line adds no more releases than it asks for. -/
theorem Outdated.step {solo : Solo} {line : Line} {lines : List Line} {handle : Handle}
    (houtdated : Outdated (line :: lines) solo.environment.toArenas handle) :
    Outdated lines (solo.step line).environment.toArenas handle := by
  intro howner
  cases hcall : line.call? solo.environment solo.past with
  | none =>
    rw [Solo.step_of_none hcall] at howner ⊢
    obtain ⟨releases, hpos, hgeneration, hlt⟩ := houtdated howner
    refine ⟨releases, hpos, hgeneration, Nat.lt_of_le_of_lt ?_ hlt⟩
    rw [List.countP_cons]
    omega
  | some call =>
    rw [Solo.step_of_some hcall] at howner ⊢
    have heffect : solo.environment.Effect line.context call.request
        (solo.environment.perform line.context call).result (solo.environment.perform line.context call).state :=
      Environment.effect_perform call
    obtain ⟨releases, hpos, hgeneration, hlt⟩ := houtdated (howner.trans heffect.owner_eq)
    rw [List.countP_cons] at hlt
    have hmore := heffect.generation_eq handle.kind
    rw [call.releases_request, Line.releases_of_call? hcall, hgeneration] at hmore
    refine ⟨releases + if line.call.releases handle.kind then 1 else 0, by omega, ?_, by omega⟩
    rw [hmore, UInt32.ofNat_add, UInt32.add_assoc]
    split <;> rfl

/-! ### One routine in two places -/

/-- Handles of an environment and of one that it is a shift of: those from before are the same, and all others are
shifted. -/
inductive Corresponds (shift : Shift) (earlier : List Handle) : Handle → Handle → Prop where
  | earlier {handle : Handle} (hmem : handle ∈ earlier) : Corresponds shift earlier handle handle
  | later {handle : Handle} (hnew : handle ∉ earlier) (hshifted : shift.handle handle ∉ earlier) :
      Corresponds shift earlier (shift.handle handle) handle

namespace Corresponds

variable {shift : Shift} {earlier : List Handle} {handle other : Handle}

theorem kind_eq (hhandle : Corresponds shift earlier handle other) : handle.kind = other.kind := by
  cases hhandle <;> rfl

theorem eq_iff {first second : Handle} (hhandle : Corresponds shift earlier handle other)
    (hfirst : Corresponds shift earlier first second) : handle = first ↔ other = second := by
  cases hhandle with
  | earlier hmem =>
    cases hfirst with
    | earlier hfirst => exact Iff.rfl
    | later hnew hshifted => exact iff_of_false (fun hsame => hshifted (hsame ▸ hmem)) fun hsame => hnew (hsame ▸ hmem)
  | later hnew hshifted =>
    cases hfirst with
    | earlier hmem => exact iff_of_false (fun hsame => hshifted (hsame ▸ hmem)) fun hsame => hnew (hsame ▸ hmem)
    | later _ _ => exact shift.handle_injective.eq_iff

end Corresponds

/-- Records with the same results and logs up to the identity of handles, which are of the same kinds and are equal in
one past exactly if they are in the other. -/
structure Past.Alike (past other : Past) : Prop where
  records : List.Forall₂ (Option.Rel (Record.Rel fun issued other => issued.kind = other.kind)) past other
  handles : ∀ line later, past.handle? line = past.handle? later ↔ other.handle? line = other.handle? later

/-- Environments that show the same symbols, in the same order, and have issued as many names. -/
structure EnvironmentsAlike (environment other : Environment) : Prop where
  declaredSymbols : environment.declaredSymbols = other.declaredSymbols
  temporarySymbols : environment.temporarySymbols = other.temporarySymbols
  declaredCount : environment.declaredCount = other.declaredCount
  temporaryCount : environment.temporaryCount = other.temporaryCount
  table : environment.table = other.table
  issued : environment.supply.issued = other.supply.issued

/-- A routine on an environment and on a shift of it, with lines still to come and handles from before that resolve in
neither. -/
structure Twin (shift : Shift) (earlier : List Handle) (lines : List Line) (solo fresh : Solo) : Prop where
  environment : solo.environment = shift.environment fresh.environment
  past : List.Forall₂ (Option.Rel (Record.Rel (Corresponds shift earlier))) solo.past fresh.past
  outdated : ∀ handle ∈ earlier, Outdated lines solo.environment.toArenas handle
  outdated_fresh : ∀ handle ∈ earlier, Outdated lines fresh.environment.toArenas handle

namespace Twin

variable {shift : Shift} {earlier : List Handle} {solo fresh : Solo} {lines : List Line} {line : Line}

/-- Handles that correspond resolve to the same symbol, those from before to none. -/
theorem get?_eq {handle other : Handle} (htwin : Twin shift earlier lines solo fresh)
    (hhandle : Corresponds shift earlier handle other) :
    solo.environment.get? handle = fresh.environment.get? other := by
  cases hhandle with
  | earlier hmem => rw [(htwin.outdated _ hmem).get?_eq_none, (htwin.outdated_fresh _ hmem).get?_eq_none]
  | later hnew hshifted => rw [htwin.environment, shift.get?_environment]

theorem symbol?_eq (htwin : Twin shift earlier lines solo fresh) (source : Source) :
    source.symbol? solo.environment solo.past = source.symbol? fresh.environment fresh.past := by
  cases source with
  | literal symbol => rfl
  | returned line =>
    have hrecord := Past.rel_record? htwin.past line
    simp only [Source.symbol?]
    generalize solo.past.record? line = first, fresh.past.record? line = second at hrecord
    cases hrecord with
    | some hrecord => exact hrecord.symbol?_eq
    | none => rfl
  | current line =>
    have hhandle := Past.rel_handle? htwin.past line
    simp only [Source.symbol?]
    generalize solo.past.handle? line = first, fresh.past.handle? line = second at hhandle
    cases hhandle with
    | some hhandle => exact htwin.get?_eq hhandle
    | none => rfl

/-- A line makes the same call in both places, but for a handle that it asks about. -/
theorem rel_call? (htwin : Twin shift earlier lines solo fresh) (line : Line) :
    Option.Rel (Call.Rel (Corresponds shift earlier)) (line.call? solo.environment solo.past)
      (line.call? fresh.environment fresh.past) := by
  have hsymbol := htwin.symbol?_eq
  obtain ⟨context, call⟩ := line
  unfold Line.call?
  cases call with
  | assignFrom _ operand | negate operand | evalUnary _ operand =>
    simp only [Call.resolve, toOption_elim_bind, hsymbol]
    cases operand.symbol? fresh.environment fresh.past with
    | none => exact .none
    | some symbol => exact .some (.same rfl)
  | operate op left right | evalBinary op left right =>
    simp only [Call.resolve, toOption_elim_bind, hsymbol]
    cases left.symbol? fresh.environment fresh.past with
    | none => exact .none
    | some leftSymbol =>
      cases right.symbol? fresh.environment fresh.past with
      | none => exact .none
      | some rightSymbol => exact .some (.same rfl)
  | get reference =>
    simp only [Call.resolve, toOption_elim_bind]
    exact rel_bind (Past.rel_handle? htwin.past reference) fun _ _ hhandle => .some (.get hhandle)
  | _ => exact .some (.same rfl)

/-- What a reply brings is not from before, neither in the one environment nor in its shift. -/
theorem rel_reply {environment later : Environment} {context : Context} {request : Request} {reply : Reply}
    (heffect : environment.Effect context request (.ok reply) later)
    (houtdated : ∀ handle ∈ earlier, Outdated lines (shift.environment later).toArenas handle)
    (hfresh : ∀ handle ∈ earlier, Outdated lines later.toArenas handle) :
    (shift.reply reply).Rel (Corresponds shift earlier) reply := by
  have hnew (handle : Handle) (hhandle : reply.handle? = some handle) :
      Corresponds shift earlier (shift.handle handle) handle := by
    obtain ⟨_, _, hstands⟩ := heffect.standsFor_of_handle? hhandle
    refine .later (fun hmem => ?_) fun hmem => ?_
    · exact (hfresh _ hmem).generation_ne hstands.owner_eq hstands.generation_eq
    · refine (houtdated _ hmem).generation_ne (congrArg (· + shift.owner) hstands.owner_eq) ?_
      rw [shift.generation_environment]
      exact congrArg (· + shift.generation handle.kind) hstands.generation_eq
  cases reply with
  | handle issued => exact .handle (hnew issued rfl)
  | located located =>
    cases located with
    | none => exact .same rfl
    | some issued => exact .located (hnew issued rfl)
  | _ => exact .same rfl

/-- What corresponding calls leave. -/
theorem record {call other : Call Handle Symbol} (htwin : Twin shift earlier (line :: lines) solo fresh)
    (hcall : line.call? solo.environment solo.past = some call)
    (hother : line.call? fresh.environment fresh.past = some other)
    (hcalls : call.Rel (Corresponds shift earlier) other) :
    (line.record solo.environment solo.past call).Rel (Corresponds shift earlier)
        (line.record fresh.environment fresh.past other) ∧
      (solo.environment.perform line.context call).state =
        shift.environment (fresh.environment.perform line.context other).state := by
  cases hcalls with
  | get hhandle =>
    refine ⟨⟨.ok ?_, rfl⟩, htwin.environment⟩
    rw [htwin.get?_eq hhandle]
    exact .same rfl
  | same hget =>
    have hperform : solo.environment.perform line.context call =
        ((fresh.environment.perform line.context call).map shift.reply).mapState shift.environment := by
      rw [htwin.environment]
      exact shift.perform fresh.environment hget
    have hlater (handle : Handle) (hmem : handle ∈ earlier) := (htwin.outdated handle hmem).step
    have hfreshLater (handle : Handle) (hmem : handle ∈ earlier) := (htwin.outdated_fresh handle hmem).step
    have heffect : fresh.environment.Effect line.context call.request
        (fresh.environment.perform line.context call).result
        (fresh.environment.perform line.context call).state := Environment.effect_perform call
    rw [Solo.step_of_some hcall] at hlater
    rw [Solo.step_of_some hother] at hfreshLater
    simp only [Line.record, hperform] at hlater ⊢
    generalize fresh.environment.perform line.context call = outcome at *
    obtain ⟨result, state, log⟩ := outcome
    refine ⟨⟨?_, rfl⟩, rfl⟩
    cases result with
    | error diagnostic => exact .error diagnostic
    | ok reply => exact .ok (rel_reply heffect hlater hfreshLater)

/-- A line that is carried out in both places keeps them alike. -/
theorem step (htwin : Twin shift earlier (line :: lines) solo fresh) :
    Twin shift earlier lines (solo.step line) (fresh.step line) := by
  suffices hlater : (solo.step line).environment = shift.environment (fresh.step line).environment ∧
      List.Forall₂ (Option.Rel (Record.Rel (Corresponds shift earlier))) (solo.step line).past
        (fresh.step line).past from
    ⟨hlater.1, hlater.2, fun handle hmem => (htwin.outdated handle hmem).step,
      fun handle hmem => (htwin.outdated_fresh handle hmem).step⟩
  have hcalls := htwin.rel_call? line
  cases hsolo : line.call? solo.environment solo.past with
  | none =>
    cases hother : line.call? fresh.environment fresh.past with
    | some other =>
      rw [hsolo, hother] at hcalls
      cases hcalls
    | none =>
      rw [Solo.step_of_none hsolo, Solo.step_of_none hother]
      exact ⟨htwin.environment, List.rel_append htwin.past (.cons .none .nil)⟩
  | some call =>
    cases hother : line.call? fresh.environment fresh.past with
    | none =>
      rw [hsolo, hother] at hcalls
      cases hcalls
    | some other =>
      rw [hsolo, hother, Option.rel_some_some] at hcalls
      obtain ⟨hrecord, hstate⟩ := htwin.record hsolo hother hcalls
      rw [Solo.step_of_some hsolo, Solo.step_of_some hother]
      exact ⟨hstate, List.rel_append htwin.past (.cons (.some hrecord) .nil)⟩

/-- A routine comes to the same in both places. -/
theorem after (htwin : Twin shift earlier lines solo fresh) :
    Twin shift earlier [] (lines.foldl Solo.step solo) (lines.foldl Solo.step fresh) := by
  induction lines generalizing solo fresh with
  | nil => exact htwin
  | cons line lines ih => exact ih htwin.step

theorem environmentsAlike (htwin : Twin shift earlier lines solo fresh) :
    EnvironmentsAlike solo.environment fresh.environment := by
  rw [htwin.environment]
  exact ⟨rfl, rfl, rfl, rfl, rfl, rfl⟩

theorem pastsAlike (htwin : Twin shift earlier lines solo fresh) : solo.past.Alike fresh.past where
  records := by
    refine htwin.past.imp fun record other hrecord => ?_
    cases hrecord with
    | none => exact .none
    | some hrecord => exact .some (hrecord.imp fun _ _ hhandle => hhandle.kind_eq)
  handles line later := by
    have hline := Past.rel_handle? htwin.past line
    have hlater := Past.rel_handle? htwin.past later
    generalize solo.past.handle? line = first, fresh.past.handle? line = otherFirst at hline
    generalize solo.past.handle? later = second, fresh.past.handle? later = otherSecond at hlater
    cases hline with
    | none =>
      cases hlater with
      | none => exact Iff.rfl
      | some hlater => exact ⟨nofun, nofun⟩
    | some hline =>
      cases hlater with
      | none => exact ⟨nofun, nofun⟩
      | some hlater => rw [Option.some.injEq, Option.some.injEq, hline.eq_iff hlater]

/-- A routine that is carried out on an environment and on a shift of it among others, in one run or in two, leaves
the two alike. -/
theorem among {start : Weave} {number other : Nat} {environment otherEnvironment : Environment}
    {resident otherResident : Resident} {steps otherSteps : List Step}
    (htwin : Twin shift earlier lines ⟨environment, start.pasts number⟩ ⟨otherEnvironment, start.pasts other⟩)
    (henvironment : start.store.environment? number = some environment)
    (hresident : start.store.residents[number]? = some resident)
    (hsteps : Undisturbed start number resident.supply lines steps)
    (hother : start.store.environment? other = some otherEnvironment)
    (hotherResident : start.store.residents[other]? = some otherResident)
    (hotherSteps : Undisturbed start other otherResident.supply lines otherSteps) :
    ∃ later otherLater, (start.after steps).store.environment? number = some later ∧
      (start.after otherSteps).store.environment? other = some otherLater ∧ EnvironmentsAlike later otherLater ∧
      ((start.after steps).pasts number).Alike ((start.after otherSteps).pasts other) := by
  have hafter := htwin.after
  generalize hsolo : Solo.mk environment (start.pasts number) = solo at hafter
  generalize hfreshSolo : Solo.mk otherEnvironment (start.pasts other) = fresh at hafter
  obtain ⟨hlater, hpast⟩ : (start.after steps).store.environment? number =
        some (lines.foldl Solo.step solo).environment ∧
      (start.after steps).pasts number = (lines.foldl Solo.step solo).past := by
    subst hsolo
    exact hsteps.after henvironment hresident rfl
  obtain ⟨hotherLater, hotherPast⟩ : (start.after otherSteps).store.environment? other =
        some (lines.foldl Solo.step fresh).environment ∧
      (start.after otherSteps).pasts other = (lines.foldl Solo.step fresh).past := by
    subst hfreshSolo
    exact hotherSteps.after hother hotherResident rfl
  refine ⟨_, _, hlater, hotherLater, hafter.environmentsAlike, ?_⟩
  rw [hpast, hotherPast]
  exact hafter.pastsAlike

end Twin

end Routine

end SymbolTable
