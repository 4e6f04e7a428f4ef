import SymbolTable.Value

/-!
# Symbols

A symbol is a name with a value. Its type is the tag of the value, so the two never disagree.
-/

namespace SymbolTable

structure Symbol where
  name : String
  value : Value
  deriving DecidableEq

namespace Symbol

/-- A symbol that holds the zero value of a type. -/
def ofTy (name : String) (ty : Ty) : Symbol := ⟨name, ty.zero⟩

def ty (symbol : Symbol) : Ty := symbol.value.ty

def text (symbol : Symbol) : String :=
  symbol.name ++ ": " ++ symbol.ty.text ++ " = " ++ symbol.value.text

end Symbol

end SymbolTable
