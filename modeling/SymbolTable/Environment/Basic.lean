import SymbolTable.Environment.Declarations
import SymbolTable.Environment.NameSupply
import SymbolTable.Handle
import SymbolTable.Outcome

/-!
# Environments

An environment owns the symbols of one evaluation session in two arenas: the declared symbols, which are found
by name, and the temporaries, which are not. Each arena is released as a whole, and its generation counts the
releases. A handle resolves only in the environment that issued it and only in the generation of its arena
that it was issued in.
-/

namespace SymbolTable

/-- Symbols that are released together, with the number of releases before. -/
structure Arena (κ : Type) where
  contents : κ
  generation : UInt32 := 0

/-- An arena emptied, so that handles into it no longer fit. -/
def Arena.release {κ : Type} (arena : Arena κ) (empty : κ) : Arena κ := ⟨empty, arena.generation + 1⟩

/-- The symbols of an environment; its owner number stands in every handle that it issues. -/
structure Arenas where
  owner : UInt64
  declared : Arena Declarations := ⟨{}, 0⟩
  temporaries : Arena (Array Symbol) := ⟨#[], 0⟩

namespace Arenas

def declaredHandle (arenas : Arenas) (position : Nat) : Handle :=
  ⟨arenas.owner, .declared, position, arenas.declared.generation⟩

def temporaryHandle (arenas : Arenas) (position : Nat) : Handle :=
  ⟨arenas.owner, .temporary, position, arenas.temporaries.generation⟩

/-- The symbol that a handle refers to, unless the handle is of another environment or was issued before a
release of its arena. -/
def get? (arenas : Arenas) (handle : Handle) : Option Symbol :=
  if handle.owner ≠ arenas.owner then none
  else match handle.kind with
    | .declared =>
      if handle.generation = arenas.declared.generation then
        arenas.declared.contents.get? handle.position
      else none
    | .temporary =>
      if handle.generation = arenas.temporaries.generation then
        arenas.temporaries.contents[handle.position]?
      else none

/-- The declared symbol that has a name. -/
def find? (arenas : Arenas) (name : String) : Option Symbol := arenas.declared.contents.find? name

def contains (arenas : Arenas) (name : String) : Bool := arenas.declared.contents.contains name

/-- The handle of the declared symbol that has a name. -/
def handle? (arenas : Arenas) (name : String) : Option Handle :=
  (arenas.declared.contents.position? name).map arenas.declaredHandle

/-- The declared symbols in the order of their declarations. -/
def declaredSymbols (arenas : Arenas) : List Symbol := arenas.declared.contents.toList

/-- The temporaries in the order of their creation. -/
def temporarySymbols (arenas : Arenas) : List Symbol := arenas.temporaries.contents.toList

def declaredCount (arenas : Arenas) : Nat := arenas.declared.contents.size

def temporaryCount (arenas : Arenas) : Nat := arenas.temporaries.contents.size

/-- Whether nothing is declared; temporaries do not count. -/
def isEmpty (arenas : Arenas) : Bool := arenas.declared.contents.isEmpty

end Arenas

/-- The symbols of an environment together with the supply that names its temporaries. -/
structure Environment extends Arenas where
  supply : NameSupply := {}

namespace Environment

variable (environment : Environment) (context : Context)

/-- The declared symbol that has a name, which has to exist. -/
def lookup (name : String) : Outcome Environment Symbol :=
  match environment.find? name with
  | some symbol => .done environment symbol []
  | none => .refuse environment context (.undeclaredVariable name)

/-- Declares a name, which has to be new, with an initial value; its type is the type of that value. -/
def declareWith (name : String) (value : Value) : Outcome Environment Handle :=
  match environment.declared.contents.insert? ⟨name, value⟩ with
  | none => .refuse environment context (.duplicateDeclaration name)
  | some extended =>
    .done { environment with declared.contents := extended }
      (environment.declaredHandle environment.declaredCount)
      [.declared name value.ty context.line]

/-- Declares a name with the zero value of a type. -/
def declare (name : String) (ty : Ty) : Outcome Environment Handle :=
  environment.declareWith context name ty.zero

/-- Stores a value under a declared name of the same type. -/
def assign (name : String) (value : Value) : Outcome Environment Handle :=
  match environment.declared.contents.locate? name with
  | none => .refuse environment context (.undeclaredVariable name)
  | some (position, symbol) =>
    if symbol.ty = value.ty then
      .done { environment with declared.contents := environment.declared.contents.setValue position value }
        (environment.declaredHandle position)
        [.assigned name value context.line]
    else .refuse environment context (.valueTypeMismatch name symbol.ty value.ty)

/-- The environment with one more temporary, which takes the next name of the supply. -/
def push (value : Value) : Environment :=
  { environment with
    temporaries.contents := environment.temporaries.contents.push ⟨environment.supply.name, value⟩
    supply := environment.supply.advance }

/-- Where the next temporary goes. -/
def nextTemporary : Handle := environment.temporaryHandle environment.temporaryCount

/-- Creates a temporary of a type that has to be the type of its value; a refusal takes no name. -/
def newTemporary (ty : Ty) (value : Value) : Outcome Environment Handle :=
  if value.ty = ty then
    .done (environment.push value) environment.nextTemporary [.temporary environment.supply.name value]
  else .refuse environment context (.valueTypeMismatch temporaryStem ty value.ty)

/-- Drops every declared symbol. -/
def releaseDeclared : Outcome Environment Unit :=
  .done { environment with declared := environment.declared.release {} } ()
    [.releasingDeclared environment.declaredCount]

/-- Drops every temporary; the supply goes on counting, so no name comes back. -/
def releaseTemporaries : Outcome Environment Unit :=
  .done { environment with temporaries := environment.temporaries.release #[] } ()
    [.releasingTemporaries environment.temporaryCount]

end Environment

end SymbolTable
