import SymbolTable.Expr.Typing
import SymbolTable.Proofs.Effect

/-!
# What a handle stands for

The handle of a declared symbol stands for a name with its type, and the value under the name may change; the
handle of a temporary stands for the symbol itself. `Arenas.StandsFor` says this of the arenas of an environment.
A handle that a call returns stands for its symbol, every effect but a release of its arena keeps that, and a
handle resolves to what it stands for.
-/

namespace SymbolTable

/-- Whether a request releases an arena. -/
def Request.releases (kind : ArenaKind) : Request → Bool
  | .release released => released == kind
  | _ => false

/-- What a granted request makes of the value under a name. -/
def Request.revise (name : String) (value : Option Value) : Request → Option Value
  | .declare symbol => if symbol.name = name then some symbol.value else value
  | .assign target assigned => if target = name then some assigned else value
  | .release .declared => none
  | _ => value

/-- The symbol that a request returns a handle for, given the values under names and the name of the next
temporary. -/
def Request.subject? (values : String → Option Value) (temporary : String) : Request → Option Symbol
  | .declare symbol => some symbol
  | .assign name value => some ⟨name, value⟩
  | .create (.ok value) => some ⟨temporary, value⟩
  | .locate name => (values name).map (⟨name, ·⟩)
  | _ => none

namespace Arenas

variable {arenas : Arenas} {handle : Handle} {name : String}

def generation (arenas : Arenas) : ArenaKind → UInt32
  | .declared => arenas.declared.generation
  | .temporary => arenas.temporaries.generation

/-- The value under a declared name. -/
def value? (arenas : Arenas) (name : String) : Option Value := (arenas.find? name).map Symbol.value

theorem get?_eq_none_of_owner (howner : handle.owner ≠ arenas.owner) : arenas.get? handle = none := by
  rw [get?, if_pos howner]

theorem get?_eq_none_of_generation (hgeneration : handle.generation ≠ arenas.generation handle.kind) :
    arenas.get? handle = none := by
  unfold get?
  split
  · rfl
  · cases hkind : handle.kind with
    | declared =>
      rw [hkind] at hgeneration
      exact if_neg hgeneration
    | temporary =>
      rw [hkind] at hgeneration
      exact if_neg hgeneration

theorem get?_declaredHandle (arenas : Arenas) (position : Nat) :
    arenas.get? (arenas.declaredHandle position) = arenas.declared.contents.get? position := by
  simp [get?, declaredHandle]

theorem get?_temporaryHandle (arenas : Arenas) (position : Nat) :
    arenas.get? (arenas.temporaryHandle position) = arenas.temporaries.contents[position]? := by
  simp [get?, temporaryHandle]

theorem get?_eq_some_iff_of_temporary {symbol : Symbol} (hkind : handle.kind = .temporary) :
    arenas.get? handle = some symbol ↔
      ∃ position, arenas.temporaries.contents[position]? = some symbol ∧ arenas.temporaryHandle position = handle := by
  constructor
  · intro hget
    have howner : handle.owner = arenas.owner := by
      refine Decidable.not_not.1 fun hne => ?_
      rw [get?_eq_none_of_owner hne] at hget
      cases hget
    have hgeneration : handle.generation = arenas.temporaries.generation := by
      refine Decidable.not_not.1 fun hne => ?_
      rw [get?_eq_none_of_generation (by rwa [hkind])] at hget
      cases hget
    have hhandle : arenas.temporaryHandle handle.position = handle := by
      rw [temporaryHandle, ← howner, ← hgeneration, ← hkind]
    rw [← hhandle, get?_temporaryHandle] at hget
    exact ⟨handle.position, hget, hhandle⟩
  · intro hposition
    obtain ⟨position, hsymbol, rfl⟩ := hposition
    rw [get?_temporaryHandle, hsymbol]

theorem handle?_eq_some_iff :
    arenas.handle? name = some handle ↔
      ∃ position, arenas.declared.contents.position? name = some position ∧ arenas.declaredHandle position = handle :=
  Option.map_eq_some_iff

theorem get?_of_handle? (hhandle : arenas.handle? name = some handle) : arenas.get? handle = arenas.find? name := by
  obtain ⟨position, hposition, rfl⟩ := handle?_eq_some_iff.1 hhandle
  rw [get?_declaredHandle, find?, Declarations.find?_eq_bind, hposition, Option.bind_some]

/-- A handle stands for a symbol. That of a declared symbol is the one that its name leads to, whatever the
symbol holds by now. -/
def StandsFor (arenas : Arenas) (handle : Handle) (symbol : Symbol) : Prop :=
  match handle.kind with
  | .declared => arenas.handle? symbol.name = some handle ∧ arenas.declaredTy? symbol.name = some symbol.ty
  | .temporary => arenas.get? handle = some symbol

namespace StandsFor

variable {symbol : Symbol}

theorem owner_eq (hstands : arenas.StandsFor handle symbol) : handle.owner = arenas.owner := by
  unfold StandsFor at hstands
  split at hstands
  · obtain ⟨position, _, rfl⟩ := handle?_eq_some_iff.1 hstands.1
    rfl
  · next hkind =>
    obtain ⟨position, _, rfl⟩ := (get?_eq_some_iff_of_temporary hkind).1 hstands
    rfl

theorem generation_eq (hstands : arenas.StandsFor handle symbol) :
    handle.generation = arenas.generation handle.kind := by
  unfold StandsFor at hstands
  split at hstands
  · obtain ⟨position, _, rfl⟩ := handle?_eq_some_iff.1 hstands.1
    rfl
  · next hkind =>
    obtain ⟨position, _, rfl⟩ := (get?_eq_some_iff_of_temporary hkind).1 hstands
    rfl

/-- A handle resolves to the symbol that it stands for, and a declared one then holds the value under its name. -/
theorem get?_eq (hstands : arenas.StandsFor handle symbol) :
    ∃ found, arenas.get? handle = some found ∧ found.name = symbol.name ∧ found.ty = symbol.ty ∧
      match handle.kind with
      | .declared => arenas.value? symbol.name = some found.value
      | .temporary => found = symbol := by
  unfold StandsFor at hstands
  split at hstands
  · obtain ⟨hhandle, hty⟩ := hstands
    obtain ⟨found, hfound, hfoundTy⟩ := Option.map_eq_some_iff.1 hty
    refine ⟨found, (get?_of_handle? hhandle).trans hfound, Declarations.name_of_find? hfound, hfoundTy, ?_⟩
    rw [value?, hfound, Option.map_some]
  · exact ⟨symbol, hstands, rfl, rfl, rfl⟩

end StandsFor

end Arenas

namespace Environment

/-- The next temporary is the value that is stored last. -/
theorem get?_nextTemporary (environment : Environment) (value : Value) :
    (environment.push value).get? environment.nextTemporary = some ⟨environment.supply.name, value⟩ :=
  (Arenas.get?_temporaryHandle ..).trans Array.getElem?_push_size

namespace Effect

variable {environment later : Environment} {context : Context} {request : Request}
  {result : Except Diagnostic Reply}

theorem owner_eq (heffect : environment.Effect context request result later) : later.owner = environment.owner := by
  cases heffect <;> rfl

theorem generation_eq (heffect : environment.Effect context request result later) (kind : ArenaKind) :
    later.generation kind = environment.generation kind + if request.releases kind then 1 else 0 := by
  cases heffect <;> cases kind <;> simp [Arenas.generation, Request.releases, Arena.release, push]

theorem value?_eq {reply : Reply} (heffect : environment.Effect context request (.ok reply) later) (name : String) :
    later.value? name = request.revise name (environment.value? name) := by
  cases heffect with
  | declared hinsert =>
    simp only [Arenas.value?, Arenas.find?, Request.revise, Declarations.find?_insert? hinsert]
    split <;> rfl
  | assigned hlocate hty =>
    simp only [Arenas.value?, Arenas.find?, Request.revise, Declarations.find?_setValue hlocate]
    split <;> rfl
  | created value => rfl
  | located name => rfl
  | inspected hresult => rfl
  | releasedDeclared => simp [Arenas.value?, Arenas.find?, Arena.release, Request.revise]
  | releasedTemporaries => rfl

variable {handle : Handle} {symbol : Symbol}

/-- The handle of a name stays the same until the declarations are released. -/
theorem handle?_later {name : String} (heffect : environment.Effect context request result later)
    (hkept : request.releases .declared = false) (hhandle : environment.handle? name = some handle) :
    later.handle? name = some handle := by
  cases heffect with
  | declared hinsert =>
    obtain ⟨position, hposition, rfl⟩ := Arenas.handle?_eq_some_iff.1 hhandle
    refine Arenas.handle?_eq_some_iff.2 ⟨position, ?_, rfl⟩
    rw [Declarations.position?_insert? hinsert, if_neg, hposition]
    intro hname
    subst hname
    rw [Declarations.position?_of_insert? hinsert] at hposition
    cases hposition
  | releasedDeclared => cases hkept
  | _ => exact hhandle

/-- A declared name keeps its type until the declarations are released. -/
theorem declaredTy?_later {name : String} {ty : Ty} (heffect : environment.Effect context request result later)
    (hkept : request.releases .declared = false) (hty : environment.declaredTy? name = some ty) :
    later.declaredTy? name = some ty := by
  cases heffect with
  | declared hinsert =>
    simp only [Arenas.declaredTy?, Arenas.find?, Declarations.find?_insert? hinsert] at hty ⊢
    rw [if_neg, hty]
    intro hname
    subst hname
    rw [Declarations.find?_of_insert? hinsert] at hty
    cases hty
  | assigned hlocate hsame =>
    simp only [Arenas.declaredTy?, Arenas.find?, Declarations.find?_setValue hlocate] at hty ⊢
    split
    · next hname =>
      rw [← hname, Declarations.find?_of_locate? hlocate, Option.map_some, hsame] at hty
      exact hty
    · exact hty
  | releasedDeclared => cases hkept
  | _ => exact hty

/-- A temporary stays where it is until the temporaries are released. -/
theorem get?_later (heffect : environment.Effect context request result later) (hkind : handle.kind = .temporary)
    (hkept : request.releases .temporary = false) (hget : environment.get? handle = some symbol) :
    later.get? handle = some symbol := by
  rw [Arenas.get?_eq_some_iff_of_temporary hkind] at hget ⊢
  obtain ⟨position, hsymbol, rfl⟩ := hget
  cases heffect with
  | created value =>
    obtain ⟨hlt, hentry⟩ := Array.getElem?_eq_some_iff.1 hsymbol
    refine ⟨position, ?_, rfl⟩
    rw [push, Array.getElem?_push_lt hlt, hentry]
  | releasedTemporaries => cases hkept
  | _ => exact ⟨position, hsymbol, rfl⟩

theorem standsFor_later (heffect : environment.Effect context request result later)
    (hkept : request.releases handle.kind = false) (hstands : environment.StandsFor handle symbol) :
    later.StandsFor handle symbol := by
  unfold Arenas.StandsFor at hstands ⊢
  cases hkind : handle.kind with
  | declared =>
    rw [hkind] at hstands hkept
    exact ⟨heffect.handle?_later hkept hstands.1, heffect.declaredTy?_later hkept hstands.2⟩
  | temporary =>
    rw [hkind] at hstands hkept
    exact heffect.get?_later hkind hkept hstands

/-- A handle that is returned stands for the symbol that it is returned for. -/
theorem standsFor_of_handle? {reply : Reply} (heffect : environment.Effect context request (.ok reply) later)
    (hhandle : reply.handle? = some handle) :
    ∃ symbol, request.subject? environment.value? environment.supply.name = some symbol ∧
      later.StandsFor handle symbol := by
  cases heffect with
  | @declared symbol extended hinsert =>
    cases hhandle
    refine ⟨symbol, rfl, Arenas.handle?_eq_some_iff.2 ⟨_, ?_, rfl⟩, ?_⟩
    · rw [Declarations.position?_insert? hinsert, if_pos rfl]
      rfl
    · rw [Arenas.declaredTy?, Arenas.find?, Declarations.find?_insert? hinsert, if_pos rfl, Option.map_some]
  | @assigned name value position symbol hlocate hty =>
    cases hhandle
    have hposition := Declarations.position?_of_locate? hlocate
    refine ⟨⟨name, value⟩, rfl, Arenas.handle?_eq_some_iff.2 ⟨position, ?_, rfl⟩, ?_⟩
    · rw [Declarations.position?_setValue, hposition]
    · rw [Arenas.declaredTy?, Arenas.find?, Declarations.find?_setValue hlocate, if_pos rfl, Option.map_some]
      rfl
  | created value =>
    cases hhandle
    exact ⟨⟨environment.supply.name, value⟩, rfl, get?_nextTemporary environment value⟩
  | located name =>
    obtain ⟨position, hposition, rfl⟩ := Arenas.handle?_eq_some_iff.1 hhandle
    have hfind := Arenas.get?_of_handle? hhandle
    rw [Arenas.get?_declaredHandle] at hfind
    obtain ⟨symbol, hget, hname⟩ := Option.map_eq_some_iff.1 (Declarations.position?_eq_some_iff.1 hposition)
    rw [hget] at hfind
    refine ⟨⟨name, symbol.value⟩, ?_, hhandle, ?_⟩
    · rw [Request.subject?, Arenas.value?, ← hfind]
      rfl
    · rw [Arenas.declaredTy?, ← hfind]
      rfl
  | inspected hresult =>
    rw [hresult reply rfl] at hhandle
    cases hhandle
  | releasedDeclared => cases hhandle
  | releasedTemporaries => cases hhandle

end Effect

end Environment

end SymbolTable
