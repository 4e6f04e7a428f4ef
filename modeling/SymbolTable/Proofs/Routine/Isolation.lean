import Mathlib.Order.Monotone.Basic
import SymbolTable.Proofs.Names.Draws
import SymbolTable.Proofs.Routine.Pairing

/-!
# Environments do not interfere

A routine that runs among others comes to what it comes to alone. The names that the environment draws from a supply
are those that it would draw alone, in the same order, but with other numbers if others draw as well. So the two runs
are paired by an increasing renumbering of the names of temporaries (`routines_isolated`), and they are equal if nobody
else draws from the supply. What carries this along a run is that the pairing holds for every renumbering that goes on
from the numbers drawn so far, whatever numbers are drawn later.
-/

namespace SymbolTable

namespace Pairing

variable {pairing : Pairing} {marks : Marks}

/-! ### Pairings that change nothing -/

theorem eq_of_rel {α : Type} {R : α → α → Prop} {first second : Option α} (hrel : Option.Rel R first second)
    (heq : ∀ a b, R a b → a = b) : first = second := by
  cases hrel with
  | some hvalue => rw [heq _ _ hvalue]
  | none => rfl

theorem eq_of_forall₂ {α : Type} {R : α → α → Prop} {first second : List α} (hrel : List.Forall₂ R first second)
    (heq : ∀ a b, R a b → a = b) : first = second := by
  have hsame := hrel.imp heq
  rwa [List.forall₂_eq_eq_eq] at hsame

/-- In an exact pairing what corresponds is the same. -/
structure Exact (pairing : Pairing) : Prop where
  eq_of_names : ∀ name other, pairing.names name other → name = other
  owner : pairing.owner = pairing.otherOwner

namespace Exact

variable (hexact : pairing.Exact)
include hexact

theorem name_eq {temporary : Bool} {name other : String} (hname : pairing.Names temporary name other) :
    name = other := by
  cases temporary with
  | true => exact hexact.eq_of_names _ _ hname
  | false => exact hname

theorem symbol_eq {temporary : Bool} (symbol other : Symbol) (hsymbol : pairing.Symbols temporary symbol other) :
    symbol = other := by
  obtain ⟨name, value⟩ := symbol
  obtain ⟨otherName, otherValue⟩ := other
  have hname : name = otherName := hexact.name_eq hsymbol.name
  have hvalue : value = otherValue := hsymbol.value
  rw [hname, hvalue]

theorem handle_eq (handle other : Handle) (hhandle : pairing.Handles handle other) : handle = other := by
  obtain ⟨howner, rfl⟩ := hhandle
  rw [← hexact.owner, ← howner]

theorem fault_eq {fault other : Fault} (hfault : pairing.Faults marks fault other) : fault = other := by
  cases hfault with
  | unary hname => rw [hexact.name_eq hname]
  | binary hleft hright => rw [hexact.name_eq hleft, hexact.name_eq hright]
  | same hfault => rfl

theorem reply_eq {reply other : Reply} (hreply : pairing.Replies marks reply other) : reply = other := by
  cases hreply with
  | handle hhandle => rw [hexact.handle_eq _ _ hhandle]
  | located hhandle => rw [eq_of_rel hhandle hexact.handle_eq]
  | symbol hsymbol => rw [hexact.symbol_eq _ _ hsymbol]
  | found hsymbol => rw [eq_of_rel hsymbol hexact.symbol_eq]
  | flag flag => rfl
  | text text => rfl
  | done => rfl

theorem span_eq (span other : Span) (hspan : pairing.Spans marks span other) : span = other := by
  cases hspan with
  | binary op hleft hright => rw [hexact.name_eq hleft, hexact.name_eq hright]
  | negation hoperand => rw [hexact.name_eq hoperand]

theorem logRecord_eq (record other : LogRecord) (hrecord : pairing.LogRecords marks record other) :
    record = other := by
  cases hrecord with
  | opened hspan => rw [hexact.span_eq _ _ hspan]
  | event hinside hevent =>
    rw [eq_of_rel hinside hexact.span_eq]
    cases hevent with
    | temporary hname value => rw [hexact.eq_of_names _ _ hname]
    | same hevent => rfl

theorem record_eq (record other : Routine.Record) (hrecord : pairing.Records record other) : record = other := by
  obtain ⟨marks, result, log⟩ := record
  obtain ⟨otherMarks, otherResult, otherLog⟩ := other
  obtain ⟨hmarks, hresult, hlog⟩ := hrecord
  have hresults : result = otherResult := by
    cases hresult with
    | ok hreply => rw [hexact.reply_eq hreply]
    | error hfault line => rw [hexact.fault_eq hfault]
  have hlogs : log = otherLog := eq_of_forall₂ hlog hexact.logRecord_eq
  rw [hresults, hlogs]
  exact congrArg (Routine.Record.mk · _ _) hmarks

theorem past_eq {past other : Routine.Past} (hpast : pairing.Pasts past other) : past = other :=
  eq_of_forall₂ hpast fun _ _ hrecord => eq_of_rel hrecord hexact.record_eq

theorem environment_eq {environment other : Environment} (henvironment : pairing.Environments environment other)
    (hsupply : environment.supply = other.supply) : environment = other := by
  obtain ⟨⟨owner, declared, ⟨contents, generation⟩⟩, supply⟩ := environment
  obtain ⟨⟨otherOwner, otherDeclared, ⟨otherContents, otherGeneration⟩⟩, otherSupply⟩ := other
  have howner : owner = otherOwner :=
    henvironment.owner.trans (hexact.owner.trans henvironment.otherOwner.symm)
  have hcontents : contents = otherContents :=
    Array.toList_inj.1 (eq_of_forall₂ henvironment.temporaries hexact.symbol_eq)
  obtain ⟨_, _, hdeclared, hgeneration, _⟩ := henvironment
  cases howner
  cases hcontents
  cases hdeclared
  cases hgeneration
  cases hsupply
  rfl

end Exact

/-- Temporaries whose names have other numbers. -/
def renumbering (renumber : Nat → Nat) (owner otherOwner : UInt64) : Pairing where
  names name other := ∃ count, name = NameSupply.nameAfter count ∧ other = NameSupply.nameAfter (renumber count)
  owner := owner
  otherOwner := otherOwner

theorem exact_renumbering_id (owner : UInt64) : (renumbering id owner owner).Exact where
  eq_of_names name other hnames := by
    obtain ⟨count, rfl, rfl⟩ := hnames
    rfl
  owner := rfl

end Pairing

theorem Environment.supply_perform (environment : Environment) (context : Context) (call : Call Handle Symbol) :
    (environment.perform context call).state.supply =
      if call.request.draws (environment.perform context call).result then environment.supply.advance
      else environment.supply := by
  have heffect : environment.Effect context call.request (environment.perform context call).result
      (environment.perform context call).state := effect_perform call
  exact heffect.supply_eq

namespace Routine

open Pairing

variable {numbers : List Nat} {renumber : Nat → Nat} {owner own : UInt64} {number : Nat}

/-! ### Renumberings -/

/-- A renumbering starts with the numbers of a list. -/
def Begins (numbers : List Nat) (renumber : Nat → Nat) : Prop :=
  ∀ count drawn, numbers[count]? = some drawn → renumber count = drawn

theorem Begins.of_append {others : List Nat} (hbegins : Begins (numbers ++ others) renumber) :
    Begins numbers renumber := by
  intro count drawn hcount
  refine hbegins count drawn ?_
  rw [List.getElem?_append_left (List.getElem?_eq_some_iff.1 hcount).1, hcount]

theorem Begins.last {drawn : Nat} (hbegins : Begins (numbers ++ [drawn]) renumber) :
    renumber numbers.length = drawn :=
  hbegins _ _ List.getElem?_concat_length

theorem begins_range (issued : Nat) : Begins (List.range issued) id := by
  intro count drawn hcount
  obtain ⟨_, hdrawn⟩ := List.getElem?_eq_some_iff.1 hcount
  rwa [List.getElem_range] at hdrawn

/-- Increasing numbers go on as an increasing renumbering. -/
theorem exists_begins {issued : Nat} (hincreasing : numbers.Pairwise (· < ·)) (hlt : ∀ drawn ∈ numbers, drawn < issued) :
    ∃ renumber, StrictMono renumber ∧ Begins numbers renumber := by
  refine ⟨fun count => numbers[count]?.getD (issued + count), ?_, ?_⟩
  · intro count later hcount
    by_cases hlater : later < numbers.length
    · have hpair := List.pairwise_iff_getElem.1 hincreasing count later (by omega) hlater hcount
      simpa [List.getElem?_eq_getElem hlater, List.getElem?_eq_getElem (Nat.lt_trans hcount hlater)] using hpair
    · have hbeyond : numbers[later]? = none := List.getElem?_eq_none (Nat.le_of_not_lt hlater)
      simp only [hbeyond, Option.getD_none]
      cases hfirst : numbers[count]? with
      | none =>
        rw [Option.getD_none]
        omega
      | some drawn =>
        have hdrawn := hlt drawn (List.mem_of_getElem? hfirst)
        rw [Option.getD_some]
        omega
  · intro count drawn hcount
    simp only [hcount, Option.getD_some]

/-! ### One step -/

/-- A routine alone and an environment that has run the same lines among others: its supply has issued a number of
names, among them those with given numbers to the environment. -/
structure Abreast (solo : Solo) (environment : Environment) (past : Past) (owner own : UInt64) (issued : Nat)
    (numbers : List Nat) : Prop where
  supply : environment.supply = ⟨.ofNat issued⟩
  soloSupply : solo.environment.supply = ⟨.ofNat numbers.length⟩
  increasing : numbers.Pairwise (· < ·)
  lt_issued : ∀ drawn ∈ numbers, drawn < issued
  environments : ∀ renumber, Begins numbers renumber →
    (renumbering renumber owner own).Environments solo.environment environment
  pasts : ∀ renumber, Begins numbers renumber → (renumbering renumber owner own).Pasts solo.past past

theorem draws_eq {pairing : Pairing} {marks : Marks} {call otherCall : Call Handle Symbol}
    {result otherResult : Except Diagnostic Reply} (hcall : pairing.Calls marks call otherCall)
    (hresult : pairing.Results marks result otherResult) :
    call.request.draws result = otherCall.request.draws otherResult := by
  have hcreation : call.request.isCreation = otherCall.request.isCreation := by
    cases hcall <;> rfl
  have hok : result.isOk = otherResult.isOk := by
    cases hresult <;> rfl
  rw [Request.draws, Request.draws, hcreation, hok]

theorem draws_of_request (environment : Environment) (context : Context) {call : Call Handle Symbol} {value : Value}
    (hrequest : call.request = .create (.ok value)) :
    call.request.draws (environment.perform context call).result = true := by
  have heffect : environment.Effect context call.request (environment.perform context call).result
      (environment.perform context call).state := Environment.effect_perform call
  rw [hrequest] at heffect ⊢
  generalize (environment.perform context call).result = result,
    (environment.perform context call).state = later at heffect
  cases heffect
  rfl

namespace Abreast

variable {solo : Solo} {environment : Environment} {past : Past} {issued : Nat}

/-- Others leave the symbols of an environment alone and may draw a name from its supply. -/
theorem others {later : Environment} (habreast : Abreast solo environment past owner own issued numbers)
    (harenas : later.toArenas = environment.toArenas) {drawn : Nat} (hle : issued ≤ drawn)
    (hsupply : later.supply = ⟨.ofNat drawn⟩) : Abreast solo later past owner own drawn numbers where
  supply := hsupply
  soloSupply := habreast.soloSupply
  increasing := habreast.increasing
  lt_issued := fun count hcount => Nat.lt_of_lt_of_le (habreast.lt_issued count hcount) hle
  environments := fun renumber hbegins => by
    obtain ⟨arenas, supply⟩ := later
    cases harenas
    obtain ⟨howner, hother, hdeclared, hgeneration, htemporaries⟩ := habreast.environments renumber hbegins
    exact ⟨howner, hother, hdeclared, hgeneration, htemporaries⟩
  pasts := habreast.pasts

/-- The numbers after the next name has gone to the environment. -/
theorem draw (habreast : Abreast solo environment past owner own issued numbers) :
    (numbers ++ [issued]).Pairwise (· < ·) ∧ ∀ drawn ∈ numbers ++ [issued], drawn < issued + 1 := by
  constructor
  · refine List.pairwise_append.2 ⟨habreast.increasing, List.pairwise_singleton .., fun drawn hdrawn last hlast => ?_⟩
    rw [List.mem_singleton.1 hlast]
    exact habreast.lt_issued drawn hdrawn
  · intro drawn hdrawn
    obtain hold | hlast := List.mem_append.1 hdrawn
    · exact Nat.lt_succ_of_lt (habreast.lt_issued drawn hold)
    · rw [List.mem_singleton.1 hlast]
      exact Nat.lt_succ_self issued

variable {line : Line} {call otherCall : Call Handle Symbol}

theorem calls (habreast : Abreast solo environment past owner own issued numbers) (hbegins : Begins numbers renumber)
    (hsolo : line.call? solo.environment solo.past = some call)
    (hother : line.call? environment past = some otherCall) :
    (renumbering renumber owner own).Calls (line.marks solo.past) call otherCall := by
  have hcall := (habreast.pasts renumber hbegins).call? (habreast.environments renumber hbegins) line
  rw [hsolo, hother] at hcall
  exact Option.rel_some_some.1 hcall

theorem record (habreast : Abreast solo environment past owner own issued numbers) (hbegins : Begins numbers renumber)
    (hcalls : (renumbering renumber owner own).Calls (line.marks solo.past) call otherCall)
    (hname : ∀ value, call.request = .create (.ok value) → renumber numbers.length = issued) :
    (renumbering renumber owner own).Records (line.record solo.environment solo.past call)
        (line.record environment past otherCall) ∧
      (renumbering renumber owner own).Environments (solo.environment.perform line.context call).state
        (environment.perform line.context otherCall).state := by
  refine (habreast.pasts renumber hbegins).record (habreast.environments renumber hbegins) line hcalls ?_
  intro value hvalue
  refine ⟨numbers.length, ?_, ?_⟩
  · rw [habreast.soloSupply]
    rfl
  · rw [habreast.supply, hname value hvalue]
    rfl

/-- A line that is passed over alone is passed over among others. -/
theorem skip (habreast : Abreast solo environment past owner own issued numbers)
    (hsolo : line.call? solo.environment solo.past = none) :
    Abreast (solo.step line) environment (past ++ [none]) owner own issued numbers := by
  simp only [Solo.step, hsolo]
  exact { habreast with
    pasts := fun renumber hbegins => List.rel_append (habreast.pasts renumber hbegins) (.cons .none .nil) }

/-- A line that makes a call makes the same call in both places up to the names of temporaries, so that either both
draw a name or none does. -/
theorem step (habreast : Abreast solo environment past owner own issued numbers)
    (hsolo : line.call? solo.environment solo.past = some call)
    (hother : line.call? environment past = some otherCall) :
    ∃ drawn, (drawn = [] ∨ drawn = [issued]) ∧
      Abreast (solo.step line) (environment.perform line.context otherCall).state
        (past ++ [some (line.record environment past otherCall)]) owner own (issued + drawn.length)
        (numbers ++ drawn) := by
  obtain ⟨hincreasing, hlt⟩ := habreast.draw
  have hdraws : call.request.draws (solo.environment.perform line.context call).result =
      otherCall.request.draws (environment.perform line.context otherCall).result := by
    obtain ⟨renumber, -, hbegins⟩ := exists_begins hincreasing hlt
    have hcalls := habreast.calls hbegins.of_append hsolo hother
    exact draws_eq hcalls (habreast.record hbegins.of_append hcalls fun _ _ => hbegins.last).1.result
  have hstep : solo.step line = ⟨(solo.environment.perform line.context call).state,
      solo.past ++ [some (line.record solo.environment solo.past call)]⟩ := by
    simp only [Solo.step, hsolo]
  generalize hdrawn : (if call.request.draws (solo.environment.perform line.context call).result then [issued]
    else []) = drawn
  have hrecord (renumber : Nat → Nat) (hbegins : Begins (numbers ++ drawn) renumber) :=
    habreast.record hbegins.of_append (habreast.calls hbegins.of_append hsolo hother) fun value hvalue => by
      rw [draws_of_request solo.environment line.context hvalue, if_pos rfl] at hdrawn
      rw [← hdrawn] at hbegins
      exact hbegins.last
  have hpasts (renumber : Nat → Nat) (hbegins : Begins (numbers ++ drawn) renumber) :=
    List.rel_append (habreast.pasts renumber hbegins.of_append) (.cons (.some (hrecord renumber hbegins).1) .nil)
  have hsupply := environment.supply_perform line.context otherCall
  have hsoloSupply := solo.environment.supply_perform line.context call
  rw [← hdraws, habreast.supply, NameSupply.advance_ofNat] at hsupply
  rw [habreast.soloSupply, NameSupply.advance_ofNat] at hsoloSupply
  rw [hstep]
  by_cases hdraw : call.request.draws (solo.environment.perform line.context call).result = true
  · simp only [hdraw, if_true] at hdrawn hsupply hsoloSupply
    cases hdrawn
    refine ⟨[issued], .inr rfl, hsupply, ?_, hincreasing, hlt, fun renumber hbegins => (hrecord renumber hbegins).2, hpasts⟩
    rw [hsoloSupply, List.length_append, List.length_singleton]
  · simp only [hdraw, Bool.false_eq_true, if_false] at hdrawn hsupply hsoloSupply
    cases hdrawn
    rw [List.append_nil] at hrecord hpasts
    refine ⟨[], .inl rfl, ?_⟩
    rw [List.append_nil]
    exact ⟨hsupply, hsoloSupply, habreast.increasing, habreast.lt_issued,
      fun renumber hbegins => (hrecord renumber hbegins).2, hpasts⟩

end Abreast

/-! ### Steps among others -/

theorem Step.lineOn?_eq_some_iff {step : Step} {line : Line} :
    step.lineOn? number = some line ↔ step = .line number line := by
  cases step <;> simp [lineOn?]

namespace Weave

variable {weave : Weave} {step : Step} {environment : Environment}

theorem pasts_append_self (weave : Weave) (number : Nat) (record : Option Record) :
    (weave.append number record).pasts number = weave.pasts number ++ [record] := if_pos rfl

theorem pasts_append_of_ne {target : Nat} (hne : number ≠ target) (record : Option Record) :
    (weave.append target record).pasts number = weave.pasts number := if_neg hne

variable {line : Line}

theorem next_line_of_absent (hnone : weave.store.environment? number = none) (line : Line) :
    weave.next (.line number line) = weave := by
  simp only [next, hnone]

theorem next_line_of_none (henvironment : weave.store.environment? number = some environment)
    (hcall : line.call? environment (weave.pasts number) = none) :
    weave.next (.line number line) = weave.append number none := by
  simp only [next, henvironment, hcall]

theorem next_line_of_some {call : Call Handle Symbol}
    (henvironment : weave.store.environment? number = some environment)
    (hcall : line.call? environment (weave.pasts number) = some call) :
    weave.next (.line number line) =
      { weave.append number (some (line.record environment (weave.pasts number) call)) with
        store := weave.store.next (.call number line.context call) } := by
  simp only [next, henvironment, hcall]

/-- A line touches the past of its own environment alone, and it comes to a call on this environment or to none. -/
theorem next_line (weave : Weave) (target : Nat) (line : Line) :
    (∀ number, number ≠ target → (weave.next (.line target line)).pasts number = weave.pasts number) ∧
      ((weave.next (.line target line)).store = weave.store ∨
        ∃ call, (weave.next (.line target line)).store = weave.store.next (.call target line.context call)) := by
  cases henvironment : weave.store.environment? target with
  | none =>
    rw [next_line_of_absent henvironment]
    exact ⟨fun _ _ => rfl, .inl rfl⟩
  | some environment =>
    cases hcall : line.call? environment (weave.pasts target) with
    | none =>
      rw [next_line_of_none henvironment hcall]
      exact ⟨fun _ hne => pasts_append_of_ne hne none, .inl rfl⟩
    | some call =>
      rw [next_line_of_some henvironment hcall]
      exact ⟨fun _ hne => pasts_append_of_ne hne _, .inr ⟨call, rfl⟩⟩

/-- Every step does one action to the store or none. -/
theorem store_next (weave : Weave) (step : Step) :
    (weave.next step).store = weave.store ∨ ∃ action, (weave.next step).store = weave.store.next action := by
  cases step with
  | action action => exact .inr ⟨action, rfl⟩
  | line target line =>
    obtain ⟨_, hsame | ⟨call, hcall⟩⟩ := weave.next_line target line
    · exact .inl hsame
    · exact .inr ⟨_, hcall⟩

theorem lineOn?_ne {target : Nat} (hline : (Step.line target line).lineOn? number = none) : target ≠ number := by
  intro hsame
  rw [Step.lineOn?, if_pos hsame] at hline
  cases hline

theorem pasts_next (hline : step.lineOn? number = none) : (weave.next step).pasts number = weave.pasts number := by
  cases step with
  | action action => rfl
  | line target line => exact (weave.next_line target line).1 number (lineOn?_ne hline).symm

/-- A step that is neither a line nor a call for an environment is an action that is no call on it, or nothing. -/
theorem store_next_other (hline : step.lineOn? number = none)
    (hown : ∀ context call, step ≠ .action (.call number context call)) :
    (weave.next step).store = weave.store ∨
      ∃ action, (weave.next step).store = weave.store.next action ∧ action.callOn? number = none ∧
        ∀ supply, action = .takeName supply → step = .action (.takeName supply) := by
  cases step with
  | action action =>
    refine .inr ⟨action, rfl, Option.eq_none_iff_forall_ne_some.2 fun made hmade => ?_, fun supply htake => ?_⟩
    · exact hown made.1 made.2 (congrArg Step.action (Action.callOn?_eq_some_iff.1 hmade))
    · rw [htake]
  | line target line =>
    obtain ⟨_, hsame | ⟨call, hcall⟩⟩ := weave.next_line target line
    · exact .inl hsame
    · refine .inr ⟨_, hcall, ?_, nofun⟩
      rw [Action.callOn?, if_neg (lineOn?_ne hline)]

theorem after_cons (weave : Weave) (step : Step) (steps : List Step) :
    weave.after (step :: steps) = (weave.next step).after steps := rfl

theorem after_append (weave : Weave) (steps others : List Step) :
    weave.after (steps ++ others) = (weave.after steps).after others := List.foldl_append

theorem resident_next {resident : Resident} (hresident : weave.store.residents[number]? = some resident) (step : Step) :
    ∃ later, (weave.next step).store.residents[number]? = some later ∧ later.supply = resident.supply := by
  obtain hsame | ⟨action, haction⟩ := weave.store_next step
  · rw [hsame]
    exact ⟨resident, hresident, rfl⟩
  · rw [haction]
    exact Store.supplyNumber_next hresident action

theorem resident_after {resident : Resident} (hresident : weave.store.residents[number]? = some resident)
    (steps : List Step) :
    ∃ later, (weave.after steps).store.residents[number]? = some later ∧ later.supply = resident.supply := by
  induction steps generalizing weave resident with
  | nil => exact ⟨resident, hresident, rfl⟩
  | cons step steps ih =>
    obtain ⟨middle, hmiddle, hfirst⟩ := resident_next hresident step
    obtain ⟨later, hlater, hrest⟩ := ih hmiddle
    exact ⟨later, hlater, hrest.trans hfirst⟩

theorem environment?_next (henvironment : weave.store.environment? number = some environment) (step : Step) :
    ∃ later, (weave.next step).store.environment? number = some later := by
  obtain hsame | ⟨action, haction⟩ := weave.store_next step
  · rw [hsame]
    exact ⟨environment, henvironment⟩
  · rw [haction]
    obtain ⟨later, hlater, _⟩ := Store.environment?_next henvironment action
    exact ⟨later, hlater⟩

/-- An environment that does not exist has no past. -/
theorem pasts_eq_nil (steps : List Step) (hnone : (weave.after steps).store.environment? number = none)
    (hstart : weave.store.environment? number = none → weave.pasts number = []) :
    (weave.after steps).pasts number = [] := by
  induction steps generalizing weave with
  | nil => exact hstart hnone
  | cons step steps ih =>
    refine ih hnone fun hnext => ?_
    cases henvironment : weave.store.environment? number with
    | some environment =>
      obtain ⟨later, hlater⟩ := environment?_next henvironment step
      rw [hlater] at hnext
      cases hnext
    | none =>
      cases hline : step.lineOn? number with
      | none => rw [pasts_next hline, hstart henvironment]
      | some line =>
        rw [Step.lineOn?_eq_some_iff.1 hline, next_line_of_absent henvironment, hstart henvironment]

end Weave

/-- Nobody but one environment draws from its supply in some steps that lead to a store. -/
def Sole (number : Nat) (steps : List Step) (store : Store) : Prop :=
  ∀ own, store.residents[number]? = some own →
    (∀ other resident, store.residents[other]? = some resident → resident.supply = own.supply → other = number) ∧
      .action (.takeName own.supply) ∉ steps

/-- What holds of the store at the end holds before, since environments stay and keep their supplies. -/
theorem Sole.before {weave : Weave} {steps : List Step} (others : List Step)
    (hsole : Sole number steps (weave.after others).store) {step : Step} (hstep : step ∈ steps) :
    Sole number [step] weave.store := by
  intro own hown
  obtain ⟨later, hlater, hsame⟩ := weave.resident_after hown others
  obtain ⟨halone, htake⟩ := hsole later hlater
  rw [hsame] at halone htake
  refine ⟨fun other resident hresident hshared => ?_, fun hmem => ?_⟩
  · obtain ⟨kept, hkept, hkeptSame⟩ := weave.resident_after hresident others
    exact halone other kept hkept (hkeptSame.trans hshared)
  · rw [List.mem_singleton.1 hmem] at htake
    exact htake hstep

namespace Abreast

variable {weave : Weave} {solo : Solo} {environment : Environment} {past : Past} {issued : Nat}

theorem rel_call? (habreast : Abreast solo environment past owner own issued numbers) (line : Line) :
    ∃ (pairing : Pairing) (marks : Marks), Option.Rel (pairing.Calls marks) (line.call? solo.environment solo.past)
      (line.call? environment past) := by
  obtain ⟨renumber, -, hbegins⟩ := exists_begins habreast.increasing habreast.lt_issued
  exact ⟨_, _, (habreast.pasts renumber hbegins).call? (habreast.environments renumber hbegins) line⟩

/-- The next line of an environment keeps it abreast of the routine alone. -/
theorem next_line (henvironment : weave.store.environment? number = some environment)
    (habreast : Abreast solo environment (weave.pasts number) owner own issued numbers) (line : Line) :
    ∃ later drawn, (weave.next (.line number line)).store.environment? number = some later ∧
      (drawn = [] ∨ drawn = [issued]) ∧
      Abreast (solo.step line) later ((weave.next (.line number line)).pasts number) owner own
        (issued + drawn.length) (numbers ++ drawn) := by
  obtain ⟨pairing, marks, hcalls⟩ := habreast.rel_call? line
  cases hsolo : line.call? solo.environment solo.past with
  | none =>
    cases hother : line.call? environment (weave.pasts number) with
    | some call =>
      rw [hsolo, hother] at hcalls
      cases hcalls
    | none =>
      rw [Weave.next_line_of_none henvironment hother, Weave.pasts_append_self]
      refine ⟨environment, [], henvironment, .inl rfl, ?_⟩
      rw [List.append_nil]
      exact habreast.skip hsolo
  | some call =>
    cases hother : line.call? environment (weave.pasts number) with
    | none =>
      rw [hsolo, hother] at hcalls
      cases hcalls
    | some otherCall =>
      obtain ⟨drawn, hdrawn, hlater⟩ := habreast.step hsolo hother
      rw [Weave.next_line_of_some henvironment hother, Weave.pasts_append_self, Store.next_call henvironment]
      exact ⟨_, drawn, Store.environment?_put_self henvironment, hdrawn, hlater⟩

/-- Steps for others keep an environment abreast, and they draw from its supply only if it is not alone on it. -/
theorem next_other (henvironment : weave.store.environment? number = some environment)
    (habreast : Abreast solo environment past owner own issued numbers) {step : Step}
    (hline : step.lineOn? number = none) (hown : ∀ context call, step ≠ .action (.call number context call)) :
    ∃ later drawn, (weave.next step).store.environment? number = some later ∧
      Abreast solo later past owner own drawn numbers ∧ (Sole number [step] weave.store → drawn = issued) := by
  obtain hsame | ⟨action, haction, hcall, htakes⟩ := weave.store_next_other hline hown
  · rw [hsame]
    exact ⟨environment, issued, henvironment, habreast, fun _ => rfl⟩
  · obtain ⟨resident, hresident, _, _⟩ := Store.environment?_eq_some_iff.1 henvironment
    obtain ⟨later, hlater, harenas, hsupply⟩ := Store.environment?_next_other henvironment hresident hcall
    rw [haction]
    obtain hkept | ⟨hadvanced, hdrawer⟩ := hsupply
    · refine ⟨later, issued, hlater, ?_, fun _ => rfl⟩
      exact habreast.others harenas (Nat.le_refl _) (hkept.trans habreast.supply)
    · refine ⟨later, issued + 1, hlater, ?_, fun hsole => ?_⟩
      · refine habreast.others harenas (Nat.le_succ _) ?_
        rw [hadvanced, habreast.supply, NameSupply.advance_ofNat]
      · obtain ⟨halone, htake⟩ := hsole resident hresident
        obtain rfl | ⟨drawer, other, hne, hother, hshared⟩ := hdrawer
        · exact absurd (List.mem_singleton.2 (htakes _ rfl).symm) htake
        · exact absurd (halone drawer other hother hshared) hne

theorem next (henvironment : weave.store.environment? number = some environment)
    (habreast : Abreast solo environment (weave.pasts number) owner own issued numbers) {step : Step}
    (hown : ∀ context call, step ≠ .action (.call number context call)) :
    ∃ later drawn laterNumbers, (weave.next step).store.environment? number = some later ∧
      Abreast ((step.lineOn? number).toList.foldl Solo.step solo) later ((weave.next step).pasts number) owner own drawn
        laterNumbers ∧
      (numbers = List.range issued → Sole number [step] weave.store → laterNumbers = List.range drawn) := by
  cases hline : step.lineOn? number with
  | none =>
    rw [Weave.pasts_next hline]
    obtain ⟨later, drawn, hlater, hnext, hdrawn⟩ := next_other henvironment habreast hline hown
    exact ⟨later, drawn, numbers, hlater, hnext, fun hrange hsole => by rw [hdrawn hsole, hrange]⟩
  | some line =>
    cases Step.lineOn?_eq_some_iff.1 hline
    obtain ⟨later, drawn, hlater, hdrawn, hnext⟩ := next_line henvironment habreast line
    refine ⟨later, _, _, hlater, hnext, fun hrange _ => ?_⟩
    obtain rfl | rfl := hdrawn
    · rw [List.append_nil, hrange]
      rfl
    · rw [hrange, List.length_singleton, List.range_succ]

/-- Along a run an environment stays abreast of its routine alone, and if nobody else draws from its supply, the numbers
of its names are all that there are. -/
theorem after (henvironment : weave.store.environment? number = some environment)
    (habreast : Abreast solo environment (weave.pasts number) owner own issued numbers) {steps : List Step}
    (hown : ∀ context call, .action (.call number context call) ∉ steps) :
    ∃ later drawn laterNumbers, (weave.after steps).store.environment? number = some later ∧
      Abreast ((steps.filterMap (Step.lineOn? number)).foldl Solo.step solo) later
        ((weave.after steps).pasts number) owner own drawn laterNumbers ∧
      (numbers = List.range issued → Sole number steps (weave.after steps).store →
        laterNumbers = List.range drawn) := by
  induction steps generalizing weave environment solo issued numbers with
  | nil => exact ⟨environment, issued, numbers, henvironment, habreast, fun hrange _ => hrange⟩
  | cons step steps ih =>
    obtain ⟨middle, _, _, hmiddle, hnext, hfirst⟩ := habreast.next henvironment fun context call hstep =>
      hown context call (hstep ▸ List.mem_cons_self)
    obtain ⟨later, drawn, laterNumbers, hlater, hafter, hrest⟩ := ih hmiddle hnext fun context call hmem =>
      hown context call (List.mem_cons_of_mem _ hmem)
    refine ⟨later, drawn, laterNumbers, hlater, ?_, fun hrange hsole => ?_⟩
    · rw [← List.foldl_append] at hafter
      have hlines : (step :: steps).filterMap (Step.lineOn? number) =
          (step.lineOn? number).toList ++ steps.filterMap (Step.lineOn? number) := by
        rw [List.filterMap_cons]
        cases step.lineOn? number <;> rfl
      rw [hlines]
      exact hafter
    · rw [Weave.after_cons] at hsole
      refine hrest (hfirst hrange ?_) fun own hown => ?_
      · exact Sole.before (step :: steps) hsole List.mem_cons_self
      · obtain ⟨halone, htake⟩ := hsole own hown
        exact ⟨halone, fun hmem => htake (List.mem_cons_of_mem _ hmem)⟩

end Abreast

/-- A new environment is abreast of its routine, of which no line has been carried out. -/
theorem abreast_created {before : List Step} {creation : Action} {created : Environment}
    (hbefore : (({} : Weave).after before).store.environment? number = none)
    (hcreated : ((({} : Weave).after before).store.next creation).environment? number = some created) (owner : UInt64) :
    Abreast { environment := { owner } } created
      (((({} : Weave).after before).next (.action creation)).pasts number) owner (.ofNat number)
      created.supply.issued.toNat [] := by
  have hpast : ((({} : Weave).after before).next (.action creation)).pasts number = [] :=
    Weave.pasts_eq_nil before hbefore fun _ => rfl
  have harenas := Store.environment?_next_of_none hbefore hcreated
  obtain ⟨arenas, supply⟩ := created
  cases harenas
  rw [hpast]
  exact {
    supply := by rw [UInt64.ofNat_toNat]
    soloSupply := rfl
    increasing := .nil
    lt_issued := nofun
    environments := fun _ _ => ⟨rfl, rfl, rfl, rfl, .nil⟩
    pasts := fun _ _ => .nil }

/-- Environments do not interfere. An environment is created in a run, and then the lines of its routine are carried out
among the lines of the routines of others and whatever else is done to the store but calls on this environment. The
records of its lines, with results and logs, and its symbols at the end are those of the same routine run alone from a
new environment, up to the owner in handles and an increasing renumbering of the names of temporaries. If its supply was
new and nobody else drew from it, nothing is renumbered, and with the same owner everything is equal. -/
theorem routines_isolated {before steps : List Step} {creation : Action} {created : Environment}
    (hbefore : (({} : Weave).after before).store.environment? number = none)
    (hcreated : ((({} : Weave).after before).store.next creation).environment? number = some created)
    (hown : ∀ context call, .action (.call number context call) ∉ steps) {final : Weave}
    (hfinal : ({} : Weave).after (before ++ .action creation :: steps) = final) (owner : UInt64) {solo : Solo}
    (hsolo : Solo.run owner (steps.filterMap (Step.lineOn? number)) = solo) :
    ∃ environment renumber, final.store.environment? number = some environment ∧ StrictMono renumber ∧
      (renumbering renumber owner (.ofNat number)).Pasts solo.past (final.pasts number) ∧
      (renumbering renumber owner (.ofNat number)).Environments solo.environment environment ∧
      (created.supply = {} → Sole number steps final.store → renumber = id ∧
        (owner = .ofNat number → solo.past = final.pasts number ∧ solo.environment = environment)) := by
  obtain ⟨environment, drawn, numbers, henvironment, hafter, hrange⟩ := (abreast_created hbefore hcreated owner).after
    hcreated hown
  have hfinal : (({} : Weave).after before |>.next (.action creation)).after steps = final := by
    rw [← hfinal, Weave.after_append, Weave.after_cons]
  rw [hfinal] at henvironment hafter hrange
  rw [show (steps.filterMap (Step.lineOn? number)).foldl Solo.step { environment := { owner } } = solo from hsolo]
    at hafter
  by_cases hprivate : created.supply = {} ∧ Sole number steps final.store
  · obtain ⟨hnew, hsole⟩ := hprivate
    have hnumbers : numbers = List.range drawn := hrange (by rw [hnew]; rfl) hsole
    have hbegins : Begins numbers id := hnumbers ▸ begins_range drawn
    refine ⟨environment, id, henvironment, strictMono_id, hafter.pasts id hbegins, hafter.environments id hbegins,
      fun _ _ => ⟨rfl, fun howner => ?_⟩⟩
    have hexact := exact_renumbering_id owner
    have hpasts := hafter.pasts id hbegins
    have henvironments := hafter.environments id hbegins
    rw [← howner] at hpasts henvironments
    refine ⟨hexact.past_eq hpasts, hexact.environment_eq henvironments ?_⟩
    rw [hafter.supply, hafter.soloSupply, hnumbers, List.length_range]
  · obtain ⟨renumber, hincreasing, hbegins⟩ := exists_begins hafter.increasing hafter.lt_issued
    exact ⟨environment, renumber, henvironment, hincreasing, hafter.pasts renumber hbegins,
      hafter.environments renumber hbegins, fun hnew hsole => absurd ⟨hnew, hsole⟩ hprivate⟩

/-- A routine with references to temporaries, to a symbol that is gone and to a handle that no longer fits. -/
def busyRoutine : List Line :=
  [⟨{}, .newTemporary .int (.int 5)⟩, ⟨{}, .operate (.arithmetic .add) (.current 0) (.literal ⟨"1", .int 1⟩)⟩,
    ⟨{}, .operate (.arithmetic .mul) (.current 1) (.literal ⟨"_temp0", .bool true⟩)⟩, ⟨{}, .get 1⟩,
    ⟨{}, .releaseTemporaries⟩, ⟨{}, .negate (.returned 3)⟩, ⟨{}, .negate (.current 1)⟩, ⟨{}, .table⟩]

/-- A routine that declares a name and assigns to it from a temporary. -/
def quietRoutine : List Line :=
  [⟨{}, .declareWith "x" (.int 1)⟩, ⟨{}, .operate (.arithmetic .sub) (.current 0) (.literal ⟨"2", .int 2⟩)⟩,
    ⟨{}, .assignFrom "x" (.current 1)⟩, ⟨{}, .lookup "x"⟩]

/-- The first routine on an environment that shares its supply, and the second on one that does not, in turn and with
draws by others in between. -/
def mixedSteps : List Step :=
  [.action (.call 0 {} (.newTemporary .bool (.bool true)))] ++
    (busyRoutine.take 2).map (.line 1) ++ [.action (.takeName 0)] ++ (quietRoutine.take 3).map (.line 2) ++
    (busyRoutine.drop 2).map (.line 1) ++ [.action (.call 0 {} .releaseTemporaries)] ++
    (quietRoutine.drop 3).map (.line 2)

def mixedRun : Weave :=
  ({} : Weave).after (.action .newEnvironment :: .action (.newEnvironmentOn 0) :: .action .newEnvironment :: mixedSteps)

theorem sole_mixedRun : Sole 2 mixedSteps mixedRun.store := by
  have hplace (other : Nat) (hone : [0, 0, 1][other]? = some 1) : other = 2 := by
    match other with
    | 0 => simp at hone
    | 1 => simp at hone
    | 2 => rfl
    | _ + 3 => simp at hone
  have hsupplies : mixedRun.store.residents.toList.map Resident.supply = [0, 0, 1] := by decide +kernel
  have hsupply {other : Nat} {resident : Resident} (hresident : mixedRun.store.residents[other]? = some resident) :
      [0, 0, 1][other]? = some resident.supply := by
    rw [← hsupplies, List.getElem?_map, Array.getElem?_toList, hresident, Option.map_some]
  intro own hown
  have hlast : own.supply = 1 := (Option.some.inj (hsupply hown)).symm
  refine ⟨fun other resident hresident hshared => ?_, ?_⟩
  · have hone := hsupply hresident
    rw [hshared, hlast] at hone
    exact hplace other hone
  · rw [hlast]
    simp [mixedSteps, busyRoutine, quietRoutine]

theorem routines_isolated_mixed :
    ∃ shared alone renumber, mixedRun.store.environment? 1 = some shared ∧ StrictMono renumber ∧
      (renumbering renumber 7 1).Pasts (Solo.run 7 busyRoutine).past (mixedRun.pasts 1) ∧
      mixedRun.store.environment? 2 = some alone ∧ (Solo.run 2 quietRoutine).past = mixedRun.pasts 2 ∧
      (Solo.run 2 quietRoutine).environment = alone := by
  have hshared (context : Context) (call : Call Handle Symbol) :
      .action (.call 1 context call) ∉ .action .newEnvironment :: mixedSteps := by
    simp [mixedSteps, busyRoutine, quietRoutine]
  have halone (context : Context) (call : Call Handle Symbol) : .action (.call 2 context call) ∉ mixedSteps := by
    simp [mixedSteps, busyRoutine, quietRoutine]
  have hbusy : (.action .newEnvironment :: mixedSteps).filterMap (Step.lineOn? 1) = busyRoutine := rfl
  have hquiet : mixedSteps.filterMap (Step.lineOn? 2) = quietRoutine := rfl
  have hfirst : ((({} : Weave).after [.action .newEnvironment]).store.next (.newEnvironmentOn 0)).environment? 1 =
      some _ := rfl
  have hsecond : ((({} : Weave).after [.action .newEnvironment, .action (.newEnvironmentOn 0)]).store.next
      .newEnvironment).environment? 2 = some _ := rfl
  obtain ⟨shared, renumber, hlast, hincreasing, hpasts, -, -⟩ :=
    routines_isolated rfl hfirst hshared (rfl : _ = mixedRun) 7 (congrArg (Solo.run 7) hbusy)
  obtain ⟨alone, _, hfinal, -, -, -, hsame⟩ :=
    routines_isolated rfl hsecond halone (rfl : _ = mixedRun) 2 (congrArg (Solo.run 2) hquiet)
  obtain ⟨-, hequal⟩ := hsame rfl sole_mixedRun
  obtain ⟨hpast, henvironment⟩ := hequal rfl
  exact ⟨shared, alone, renumber, hlast, hincreasing, hpasts, hfinal, hpast, henvironment⟩

end Routine

end SymbolTable
