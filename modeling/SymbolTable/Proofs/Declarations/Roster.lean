import SymbolTable.Proofs.Handle.Standing
import SymbolTable.Proofs.Store.Run

/-!
# Declarations as a list

A roster is the plain account of what is declared: a list that grows at its end and is scanned from the front. It
follows the requests alone and knows neither positions nor handles, nor whether a request was granted. Whatever
happens to an environment after its creation, everything that it tells about its declared symbols, and its answer
to the next request about them, can be read off its roster (`agrees_roster`).
-/

namespace SymbolTable

abbrev Roster := List Symbol

namespace Roster

/-- The first symbol that has a name. -/
def scan (roster : Roster) (name : String) : Option Symbol := roster.find? fun symbol => symbol.name = name

def declare (roster : Roster) (symbol : Symbol) : Roster :=
  if (roster.scan symbol.name).isSome then roster else roster ++ [symbol]

/-- The first symbol that has a name takes a value of its type. -/
def assign (name : String) (value : Value) : Roster → Roster
  | [] => []
  | symbol :: rest =>
    if symbol.name = name then (if symbol.ty = value.ty then { symbol with value } else symbol) :: rest
    else symbol :: assign name value rest

def serve (roster : Roster) : Request → Roster
  | .declare symbol => roster.declare symbol
  | .assign name value => roster.assign name value
  | .release .declared => []
  | .create _ | .locate _ | .inspect | .release .temporary => roster

theorem assign_cons (name : String) (value : Value) (symbol : Symbol) (rest : Roster) :
    assign name value (symbol :: rest) =
      if symbol.name = name then (if symbol.ty = value.ty then { symbol with value } else symbol) :: rest
      else symbol :: assign name value rest := rfl

theorem assign_of_absent {roster : Roster} {name : String} (habsent : roster.scan name = none) (value : Value) :
    roster.assign name value = roster := by
  induction roster with
  | nil => rfl
  | cons symbol rest ih =>
    rw [scan, List.find?_cons] at habsent
    split at habsent
    · cases habsent
    · next hname => rw [assign_cons, if_neg (by simpa using hname), ih habsent]

theorem assign_of_mistyped {roster : Roster} {name : String} {symbol : Symbol} {value : Value}
    (hscan : roster.scan name = some symbol) (hty : symbol.ty ≠ value.ty) : roster.assign name value = roster := by
  induction roster with
  | nil => rfl
  | cons first rest ih =>
    rw [scan, List.find?_cons] at hscan
    split at hscan
    · next hname =>
      cases hscan
      rw [assign_cons, if_pos (by simpa using hname), if_neg hty]
    · next hname => rw [assign_cons, if_neg (by simpa using hname), ih hscan]

/-- Where the names are distinct, the place of a name is the one that an assignment to it changes. -/
theorem assign_eq_modify {roster : Roster} {name : String} {position : Nat} {symbol : Symbol} {value : Value}
    (hnodup : (roster.map Symbol.name).Nodup) (hposition : roster[position]? = some symbol)
    (hname : symbol.name = name) (hty : symbol.ty = value.ty) :
    roster.assign name value = roster.modify position fun symbol => { symbol with value } := by
  induction roster generalizing position with
  | nil => cases hposition
  | cons first rest ih =>
    cases position with
    | zero =>
      cases hposition
      rw [assign_cons, if_pos hname, if_pos hty, List.modify_zero_cons]
    | succ position =>
      rw [List.map_cons, List.nodup_cons] at hnodup
      rw [List.getElem?_cons_succ] at hposition
      have hfirst : first.name ≠ name := fun hsame =>
        hnodup.1 (List.mem_map.2 ⟨symbol, List.mem_of_getElem? hposition, hname.trans hsame.symm⟩)
      rw [assign_cons, if_neg hfirst, ih hnodup.2 hposition, List.modify_succ_cons]

end Roster

namespace Environment

variable {environment later : Environment} {context : Context}

theorem find?_eq_scan (environment : Environment) (name : String) :
    environment.find? name = Roster.scan environment.declaredSymbols name :=
  Declarations.find?_eq_scan _ name

theorem Effect.declaredSymbols_eq {request : Request} {result : Except Diagnostic Reply}
    (heffect : environment.Effect context request result later) :
    later.declaredSymbols = Roster.serve environment.declaredSymbols request := by
  cases heffect with
  | @declared symbol extended hinsert =>
    have hfresh := Declarations.find?_of_insert? hinsert
    rw [Declarations.find?_eq_scan] at hfresh
    rw [Roster.serve, Roster.declare, if_neg]
    · exact Declarations.toList_insert? hinsert
    · simpa [Roster.scan, Arenas.declaredSymbols] using hfresh
  | @duplicate symbol hinsert =>
    have htaken := Declarations.isSome_find?_of_insert? hinsert
    rw [Declarations.find?_eq_scan] at htaken
    exact (if_pos htaken).symm
  | @assigned name value position symbol hlocate hty =>
    obtain ⟨hget, hname⟩ := Declarations.locate?_eq_some_iff.1 hlocate
    rw [Declarations.get?_eq_getElem?] at hget
    exact (Declarations.toList_setValue ..).trans
      (Roster.assign_eq_modify (Declarations.nodup_names _) hget hname hty).symm
  | undeclared hlocate =>
    refine (Roster.assign_of_absent ?_ _).symm
    exact (environment.find?_eq_scan _).symm.trans (Declarations.find?_of_locate?_eq_none hlocate)
  | mistyped hlocate hty =>
    refine (Roster.assign_of_mistyped ?_ hty).symm
    exact (environment.find?_eq_scan _).symm.trans (Declarations.find?_of_locate? hlocate)
  | created value => rfl
  | faulty fault => rfl
  | located name => rfl
  | inspected hresult => rfl
  | releasedDeclared => rfl
  | releasedTemporaries => rfl

/-- An operation brings a handle, and the handle leads to a symbol. -/
def Yields (outcome : Outcome Environment Handle) (symbol : Symbol) : Prop :=
  ∃ handle, outcome.result = .ok handle ∧ outcome.state.get? handle = some symbol

/-- What an environment tells and answers about its declared symbols is what a roster says. -/
structure Agrees (environment : Environment) (roster : Roster) : Prop where
  declaredSymbols : environment.declaredSymbols = roster
  nodup_names : (roster.map Symbol.name).Nodup
  keys : ∀ name position, environment.declared.contents.positions[name]? = some position ↔
    (roster[position]?).map Symbol.name = some name
  find? : ∀ name, environment.find? name = roster.scan name
  lookup : ∀ context name, (environment.lookup context name).result =
    match roster.scan name with
    | some symbol => .ok symbol
    | none => .error ⟨.undeclaredVariable name, context.line⟩
  contains : ∀ name, environment.contains name = (roster.scan name).isSome
  handle? : ∀ name, (environment.handle? name).bind environment.get? = roster.scan name
  declaredCount : environment.declaredCount = roster.length
  isEmpty : environment.isEmpty = roster.isEmpty
  declareWith : ∀ context name value,
    match roster.scan name with
    | none => Yields (environment.declareWith context name value) ⟨name, value⟩
    | some _ => (environment.declareWith context name value).result =
        .error ⟨.duplicateDeclaration name, context.line⟩
  declare : ∀ context name ty,
    match roster.scan name with
    | none => Yields (environment.declare context name ty) ⟨name, ty.zero⟩
    | some _ => (environment.declare context name ty).result = .error ⟨.duplicateDeclaration name, context.line⟩
  assign : ∀ context name value,
    match roster.scan name with
    | none => (environment.assign context name value).result = .error ⟨.undeclaredVariable name, context.line⟩
    | some symbol =>
      if symbol.ty = value.ty then Yields (environment.assign context name value) ⟨name, value⟩
      else (environment.assign context name value).result =
        .error ⟨.valueTypeMismatch name symbol.ty value.ty, context.line⟩

theorem lookup_result (environment : Environment) (context : Context) (name : String) :
    (environment.lookup context name).result =
      match environment.find? name with
      | some symbol => .ok symbol
      | none => .error ⟨.undeclaredVariable name, context.line⟩ := by
  rw [lookup]
  cases environment.find? name with
  | some symbol => rfl
  | none => rfl

theorem handle?_bind_get? (environment : Environment) (name : String) :
    (environment.handle? name).bind environment.get? = environment.find? name := by
  cases hhandle : environment.handle? name with
  | some handle => exact Arenas.get?_of_handle? hhandle
  | none =>
    rw [Arenas.handle?, Option.map_eq_none_iff] at hhandle
    rw [Arenas.find?, Declarations.find?_eq_bind, hhandle]
    rfl

theorem contains_eq_isSome (environment : Environment) (name : String) :
    environment.contains name = (environment.find? name).isSome := by
  rw [Arenas.contains, Declarations.contains, Arenas.find?, Declarations.find?_eq_bind]
  cases hposition : environment.declared.contents.position? name with
  | none => rfl
  | some position =>
    obtain ⟨symbol, hget, _⟩ := Option.map_eq_some_iff.1 (Declarations.position?_eq_some_iff.1 hposition)
    rw [Option.bind_some, hget]
    rfl

theorem declareWith_answer (environment : Environment) (context : Context) (name : String) (value : Value) :
    match environment.find? name with
    | none => Yields (environment.declareWith context name value) ⟨name, value⟩
    | some _ => (environment.declareWith context name value).result =
        .error ⟨.duplicateDeclaration name, context.line⟩ := by
  cases hinsert : environment.declared.contents.insert? ⟨name, value⟩ with
  | none =>
    obtain ⟨taken, htaken⟩ := Option.isSome_iff_exists.1 (Declarations.isSome_find?_of_insert? hinsert)
    simp only [Arenas.find?, htaken, declareWith, hinsert]
    rfl
  | some extended =>
    have hfresh := Declarations.find?_of_insert? hinsert
    simp only [Arenas.find?, hfresh, declareWith, hinsert]
    refine ⟨_, rfl, (Arenas.get?_declaredHandle ..).trans ?_⟩
    exact (Declarations.get?_insert? hinsert _).trans (if_pos rfl)

theorem assign_answer (environment : Environment) (context : Context) (name : String) (value : Value) :
    match environment.find? name with
    | none => (environment.assign context name value).result = .error ⟨.undeclaredVariable name, context.line⟩
    | some symbol =>
      if symbol.ty = value.ty then Yields (environment.assign context name value) ⟨name, value⟩
      else (environment.assign context name value).result =
        .error ⟨.valueTypeMismatch name symbol.ty value.ty, context.line⟩ := by
  cases hlocate : environment.declared.contents.locate? name with
  | none =>
    simp only [Arenas.find?, Declarations.find?_of_locate?_eq_none hlocate, assign, hlocate]
    rfl
  | some located =>
    obtain ⟨position, symbol⟩ := located
    simp only [Arenas.find?, Declarations.find?_of_locate? hlocate, assign, hlocate]
    split
    · obtain ⟨hget, hname⟩ := Declarations.locate?_eq_some_iff.1 hlocate
      refine ⟨_, rfl, (Arenas.get?_declaredHandle ..).trans ?_⟩
      refine (Declarations.get?_setValue ..).trans ?_
      rw [if_pos rfl, hget, ← hname]
      rfl
    · rfl

theorem agrees_declaredSymbols (environment : Environment) : environment.Agrees environment.declaredSymbols where
  declaredSymbols := rfl
  nodup_names := Declarations.nodup_names _
  keys name position := by
    rw [environment.declared.contents.positions_eq_some_iff]
    exact Declarations.get?_eq_getElem? _ position ▸ Iff.rfl
  find? := environment.find?_eq_scan
  lookup context name := environment.find?_eq_scan name ▸ environment.lookup_result context name
  contains name := environment.find?_eq_scan name ▸ environment.contains_eq_isSome name
  handle? name := environment.find?_eq_scan name ▸ environment.handle?_bind_get? name
  declaredCount := Declarations.size_eq_length _
  isEmpty := (Array.isEmpty_toList ..).symm
  declareWith context name value := environment.find?_eq_scan name ▸ environment.declareWith_answer context name value
  declare context name ty := environment.find?_eq_scan name ▸ environment.declareWith_answer context name ty.zero
  assign context name value := environment.find?_eq_scan name ▸ environment.assign_answer context name value

end Environment

namespace Store

variable {store : Store} {number : Nat} {environment later : Environment}

/-- Along a run the declared symbols of an environment become what its requests make of them as a roster. -/
theorem declaredSymbols_after (henvironment : store.environment? number = some environment) (actions : List Action)
    (hlater : (store.after actions).environment? number = some later) :
    later.declaredSymbols =
      (actions.filterMap (Action.requestOn? number)).foldl Roster.serve environment.declaredSymbols := by
  rw [← map_fst_transcript henvironment, ← arenas_of_environment? hlater]
  refine transcript_rule (P := fun arenas past =>
    arenas.declaredSymbols = (past.map Prod.fst).foldl Roster.serve environment.declaredSymbols) ?_ [] ?_ actions
  · intro changed later context request result past hpast heffect
    rw [heffect.declaredSymbols_eq, hpast, List.map_append, List.foldl_append]
    rfl
  · rw [arenas_of_environment? henvironment]
    rfl

/-- In every state of every run after an environment was created, everything that it tells about its declared
symbols, and its answer to the next request about them, is what its roster says. -/
theorem agrees_roster {creation : Action} {outcome : Outcome Store Response}
    (hcreation : store.act? creation = some outcome) (hnumber : outcome.result = .ok (.environment number))
    (actions : List Action) :
    ∃ environment, (outcome.state.after actions).environment? number = some environment ∧
      environment.Agrees ((actions.filterMap (Action.requestOn? number)).foldl Roster.serve []) := by
  obtain ⟨created, hcreated, hempty⟩ := environment?_of_created hcreation hnumber
  obtain ⟨environment, henvironment⟩ := environment?_after hcreated actions
  refine ⟨environment, henvironment, ?_⟩
  have hroster := declaredSymbols_after hcreated actions henvironment
  rw [hempty] at hroster
  exact hroster ▸ environment.agrees_declaredSymbols

/-- Declarations and assignments, some of them refused, before and after a release and among calls on another
environment with the same supply. -/
def redeclarations : List Action :=
  [.call 1 {} (.declareWith "x" (.int 1)), .call 0 {} (.declare "x" .bool), .call 1 {} (.declare "x" .bool),
    .call 1 {} .releaseDeclared, .call 1 {} (.declare "" .int), .call 1 {} (.newTemporary .int (.int 8)),
    .call 1 {} (.declareWith "x" (.bool true)), .call 1 {} (.assign "x" (.int 2)), .call 0 {} .releaseDeclared,
    .call 1 {} (.assign "" (.int 3)), .call 1 {} (.declare "_temp0" .unknown), .call 1 {} (.assign "y" (.int 4))]

theorem agrees_roster_redeclarations :
    ∃ environment, (((({} : Store).after [.newEnvironment]).next (.newEnvironmentOn 0)).after
        redeclarations).environment? 1 = some environment ∧
      environment.Agrees [⟨"", .int 3⟩, ⟨"x", .bool true⟩, ⟨"_temp0", .error⟩] := by
  have hroster : (redeclarations.filterMap (Action.requestOn? 1)).foldl Roster.serve [] =
      [⟨"", .int 3⟩, ⟨"x", .bool true⟩, ⟨"_temp0", .error⟩] := by decide
  have hcreation : (({} : Store).after [.newEnvironment]).act? (.newEnvironmentOn 0) = some _ := rfl
  rw [← hroster]
  exact agrees_roster hcreation rfl redeclarations

end Store

end SymbolTable
