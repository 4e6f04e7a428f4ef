import SymbolTable.Proofs.Handle.Standing
import SymbolTable.Proofs.Log.Report

/-!
# A ledger kept from the log

A reader of the log who knows nothing but messages and fields can keep a ledger of what an environment holds: an event
of a declaration or of a new temporary adds an entry, and an event of a release strikes all entries of its kind. What a
call logs takes the ledger of the environment before it to that of the environment after it (`ledger_step`), a release
tells how many entries it strikes, and the last assignment to a name tells the value under it.
-/

namespace SymbolTable

/-- The text in a field of an event. -/
def Event.text? (event : Event) (field : String) : Option String :=
  match event.fields.lookup field with
  | some (.text text) => some text
  | _ => none

/-- Names with the types, and for temporaries the values, that were told of them. -/
structure Ledger where
  declared : List (String × String) := []
  temporaries : List (String × String × String) := []

namespace Ledger

/-- The ledger after an event, read off the message and the fields of the event. -/
def enter (ledger : Ledger) (event : Event) : Ledger :=
  match event.message with
  | "declared symbol" =>
    { ledger with declared := ledger.declared ++ (do return (← event.text? "name", ← event.text? "ty")).toList }
  | "new temporary" =>
    { ledger with
      temporaries := ledger.temporaries ++
        (do return (← event.text? "name", ← event.text? "ty", ← event.text? "value")).toList }
  | "releasing declared symbols" => { ledger with declared := [] }
  | "releasing temporaries" => { ledger with temporaries := [] }
  | _ => ledger

/-- The ledger after some events. -/
def enterAll (ledger : Ledger) (events : List Event) : Ledger := events.foldl enter ledger

variable (ledger : Ledger)

@[simp] theorem enter_declared (name : String) (ty : Ty) (line : UInt32) :
    ledger.enter (.declared name ty line) = { ledger with declared := ledger.declared ++ [(name, ty.text)] } := rfl

@[simp] theorem enter_temporary (name : String) (value : Value) :
    ledger.enter (.temporary name value) =
      { ledger with temporaries := ledger.temporaries ++ [(name, value.ty.text, value.text)] } := rfl

@[simp] theorem enter_assigned (name : String) (value : Value) (line : UInt32) :
    ledger.enter (.assigned name value line) = ledger := rfl

theorem enterAll_append (events others : List Event) :
    ledger.enterAll (events ++ others) = (ledger.enterAll events).enterAll others := List.foldl_append

/-- What a refused call logs leaves the ledger as it is. -/
theorem enterAll_event? (diagnostic : Diagnostic) : ledger.enterAll diagnostic.event?.toList = ledger := by
  obtain ⟨fault, line⟩ := diagnostic
  cases fault <;> rfl

/-- Whether the count of a release is that of the entries it strikes. -/
def TellsCount (event : Event) : Prop :=
  match event.message with
  | "releasing declared symbols" => event.fields.lookup "count" = some (.number ledger.declared.length)
  | "releasing temporaries" => event.fields.lookup "count" = some (.number ledger.temporaries.length)
  | _ => True

/-- All releases among some events tell how many entries they strike. -/
def TellsCounts (ledger : Ledger) : List Event → Prop
  | [] => True
  | event :: events => ledger.TellsCount event ∧ (ledger.enter event).TellsCounts events

theorem tellsCounts_append {ledger : Ledger} {events others : List Event} :
    ledger.TellsCounts (events ++ others) ↔
      ledger.TellsCounts events ∧ (ledger.enterAll events).TellsCounts others := by
  induction events generalizing ledger with
  | nil => exact (iff_of_eq (true_and _)).symm
  | cons event events ih => exact (and_congr_right fun _ => ih).trans and_assoc.symm

theorem tellsCounts_event? (diagnostic : Diagnostic) : ledger.TellsCounts diagnostic.event?.toList := by
  obtain ⟨fault, line⟩ := diagnostic
  cases fault with
  | typeMismatch | divisionByZero | operandCount | duplicateDeclaration => exact ⟨trivial, trivial⟩
  | overflow | undeclaredVariable | valueTypeMismatch => exact trivial

end Ledger

/-- The value that an event tells of an assignment to a name. -/
def Event.assignment? (name : String) (event : Event) : Option String :=
  if event.message = "assigned" ∧ event.text? "name" = some name then event.text? "value" else none

theorem Event.assignment?_assigned (name target : String) (value : Value) (line : UInt32) :
    (Event.assigned target value line).assignment? name = if target = name then some value.text else none := by
  show (if "assigned" = "assigned" ∧ some target = some name then some value.text else none) = _
  simp only [true_and, Option.some.injEq]

/-- The value that some events tell of the last assignment to a name. -/
def lastAssignment? (name : String) (events : List Event) : Option String :=
  (events.filterMap (Event.assignment? name)).getLast?

theorem assignment?_event? (name : String) (diagnostic : Diagnostic) :
    diagnostic.event?.toList.filterMap (Event.assignment? name) = [] := by
  obtain ⟨fault, line⟩ := diagnostic
  cases fault <;> rfl

namespace Request

/-- What a granted request makes of the names that were assigned to since the declared symbols were last released. -/
def noteAssignment (names : List String) : Request → List String
  | .assign name _ => name :: names
  | .release .declared => []
  | .declare _ | .create _ | .locate _ | .inspect | .release .temporary => names

/-- The names that were assigned to since the declared symbols were last released. -/
def assignedNames (requests : List Request) : List String := requests.foldl noteAssignment []

theorem mem_noteAssignment {name : String} {names : List String} {request : Request} (hmem : name ∈ names)
    (hkept : .release .declared ≠ request) : name ∈ noteAssignment names request := by
  cases request with
  | assign other value => exact List.mem_cons_of_mem other hmem
  | release kind =>
    cases kind with
    | declared => exact absurd rfl hkept
    | temporary => exact hmem
  | _ => exact hmem

theorem mem_foldl_noteAssignment {name : String} {value : Value} {names : List String} {requests : List Request}
    (hkept : .release .declared ∉ requests) (hmem : name ∈ names ∨ .assign name value ∈ requests) :
    name ∈ requests.foldl noteAssignment names := by
  induction requests generalizing names with
  | nil => exact hmem.resolve_right List.not_mem_nil
  | cons request requests ih =>
    rw [List.mem_cons, not_or] at hkept
    obtain ⟨hfirst, hrest⟩ := hkept
    refine ih hrest ?_
    obtain hnoted | hassigned := hmem
    · exact .inl (mem_noteAssignment hnoted hfirst)
    · obtain rfl | hlater := List.mem_cons.1 hassigned
      · exact .inl List.mem_cons_self
      · exact .inr hlater

/-- An assignment counts if no release of the declared symbols followed. -/
theorem mem_assignedNames {name : String} {value : Value} {before after : List Request}
    (hkept : .release .declared ∉ after) (hassigned : .assign name value ∈ after) :
    name ∈ assignedNames (before ++ after) := by
  rw [assignedNames, List.foldl_append]
  exact mem_foldl_noteAssignment hkept (.inr hassigned)

end Request

/-- What a ledger says of an environment that it agrees with. -/
def Arenas.ledger (arenas : Arenas) : Ledger where
  declared := arenas.declaredSymbols.map fun symbol => (symbol.name, symbol.ty.text)
  temporaries := arenas.temporarySymbols.map fun symbol => (symbol.name, symbol.ty.text, symbol.value.text)

/-- Another value of the same type changes neither the name nor the type of a declaration. -/
theorem Declarations.map_setValue {declarations : Declarations} {position : Nat} {symbol : Symbol} {value : Value}
    (hget : declarations.get? position = some symbol) (hty : symbol.ty = value.ty) :
    (declarations.setValue position value).toList.map (fun symbol => (symbol.name, symbol.ty.text)) =
      declarations.toList.map fun symbol => (symbol.name, symbol.ty.text) := by
  apply List.ext_getElem?
  intro other
  rw [List.getElem?_map, List.getElem?_map, ← get?_eq_getElem?, ← get?_eq_getElem?, get?_setValue]
  split
  · next hsame =>
    rw [← hsame, hget, Option.map_some, Option.map_some, Option.map_some, hty]
    rfl
  · rfl

namespace Environment

variable {environment later : Environment} {context : Context} {request : Request}
  {result : Except Diagnostic Reply} {reply : Reply} {events : List Event}

/-- What a call logs takes the ledger of the environment before it to that of the environment after it. -/
theorem ledger_step (heffect : environment.Effect context request result later)
    (hreports : environment.Reports context request result events) :
    environment.ledger.enterAll events = later.ledger := by
  cases heffect with
  | @declared symbol extended hinsert =>
    cases hreports
    simp [Ledger.enterAll, Arenas.ledger, Arenas.declaredSymbols, Arenas.temporarySymbols,
      Declarations.toList_insert? hinsert]
  | assigned hlocate hty =>
    cases hreports
    obtain ⟨hget, -⟩ := Declarations.locate?_eq_some_iff.1 hlocate
    have hrows := Declarations.map_setValue hget hty
    simp [Ledger.enterAll, Arenas.ledger, Arenas.declaredSymbols, Arenas.temporarySymbols, hrows]
  | created value =>
    have hpush : (environment.push value).ledger = environment.ledger.enter (.temporary environment.supply.name value) := by
      simp [Arenas.ledger, Arenas.declaredSymbols, Arenas.temporarySymbols, push, Symbol.ty]
    rw [hpush]
    cases hreports <;> rfl
  | located name =>
    cases hreports
    rfl
  | releasedDeclared =>
    cases hreports
    rfl
  | releasedTemporaries =>
    cases hreports
    rfl
  | inspected hresult => cases hreports with
    | refused _ diagnostic => exact Ledger.enterAll_event? _ diagnostic
    | inspected _ => rfl
  | _ =>
    cases hreports
    exact Ledger.enterAll_event? _ _

theorem Reports.tellsCounts (hreports : environment.Reports context request result events) :
    environment.ledger.TellsCounts events := by
  cases hreports with
  | refused request diagnostic => exact Ledger.tellsCounts_event? _ diagnostic
  | releasedDeclared reply =>
    refine ⟨?_, trivial⟩
    simp [Ledger.TellsCount, Event.message, Event.fields, Arenas.ledger, Arenas.declaredCount, Arenas.declaredSymbols,
      Declarations.size_eq_length]
  | releasedTemporaries reply =>
    refine ⟨?_, trivial⟩
    simp [Ledger.TellsCount, Event.message, Event.fields, Arenas.ledger, Arenas.temporaryCount,
      Arenas.temporarySymbols]
  | _ => simp [Ledger.TellsCounts, Ledger.TellsCount, Event.message]

/-- What assignments tell of a name agrees with the value under it as long as it is not declared anew. -/
theorem lastAssignment?_step {past : List Request} {told : List Event}
    (htold : ∀ name ∈ Request.assignedNames past,
      ∃ value, environment.value? name = some value ∧ lastAssignment? name told = some value.text)
    (heffect : environment.Effect context request (.ok reply) later)
    (hreports : environment.Reports context request (.ok reply) events) :
    ∀ name ∈ Request.assignedNames (past ++ [request]),
      ∃ value, later.value? name = some value ∧ lastAssignment? name (told ++ events) = some value.text := by
  have hkept {name : String} (hmem : name ∈ Request.assignedNames past)
      (hvalue : later.value? name = environment.value? name)
      (hevents : events.filterMap (Event.assignment? name) = []) :
      ∃ value, later.value? name = some value ∧ lastAssignment? name (told ++ events) = some value.text := by
    obtain ⟨value, hcurrent, hlast⟩ := htold name hmem
    refine ⟨value, hvalue.trans hcurrent, ?_⟩
    rw [lastAssignment?, List.filterMap_append, hevents, List.append_nil]
    exact hlast
  have hvalue := heffect.value?_eq
  intro name hmem
  rw [Request.assignedNames, List.foldl_append] at hmem
  cases heffect with
  | @declared symbol extended hinsert =>
    cases hreports
    refine hkept hmem ?_ rfl
    obtain ⟨value, hcurrent, -⟩ := htold name hmem
    rw [hvalue, Request.revise, if_neg]
    intro hname
    subst hname
    rw [Arenas.value?, Arenas.find?, Declarations.find?_of_insert? hinsert] at hcurrent
    cases hcurrent
  | @assigned target value position symbol hlocate hty =>
    cases hreports
    by_cases hname : target = name
    · subst hname
      refine ⟨value, ?_, ?_⟩
      · rw [hvalue, Request.revise, if_pos rfl]
      · simp [lastAssignment?, Event.assignment?_assigned]
    · refine hkept ?_ ?_ ?_
      · exact (List.mem_cons.1 hmem).resolve_left (Ne.symm hname)
      · rw [hvalue, Request.revise, if_neg hname]
      · simp [Event.assignment?_assigned, hname]
  | created value => cases hreports <;> exact hkept hmem rfl rfl
  | located target =>
    cases hreports
    exact hkept hmem rfl rfl
  | inspected hresult =>
    cases hreports
    exact hkept hmem rfl rfl
  | releasedDeclared => cases hmem
  | releasedTemporaries =>
    cases hreports
    exact hkept hmem rfl rfl

end Environment

end SymbolTable
