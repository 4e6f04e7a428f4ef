/-!
# Version
-/

namespace SymbolTable

/-- The version of the language of symbols, values and operators. -/
def version : String := "0.0.1"

end SymbolTable
