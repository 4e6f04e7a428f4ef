/-!
# Names of temporaries

A supply gives out the names of temporaries, numbered from zero. Several environments may draw from one
supply, so that none of their temporaries share a name.
-/

namespace SymbolTable

/-- What the name of every temporary starts with. -/
def temporaryStem : String := "_temp"

/-- The name of the temporary with a given number. -/
def temporaryName (number : Nat) : String := temporaryStem ++ number.repr

/-- How many names have been given out. -/
structure NameSupply where
  issued : UInt64 := 0
  deriving DecidableEq

namespace NameSupply

/-- The name that is given out next. -/
def name (supply : NameSupply) : String := temporaryName supply.issued.toNat

/-- The supply after its next name has been given out. -/
def advance (supply : NameSupply) : NameSupply := ⟨supply.issued + 1⟩

end NameSupply

end SymbolTable
