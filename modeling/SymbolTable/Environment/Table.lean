import SymbolTable.Environment.Basic
import SymbolTable.Text.Layout

/-!
# The table of declared symbols

A table has a title, a row of column heads, a rule, one row for each declared symbol in the order of the
declarations, and an empty line. Names and types stand in columns, and the value ends the row.
-/

namespace SymbolTable

namespace Symbol

def nameWidth : Nat := 15

def typeWidth : Nat := 10

/-- The row of a symbol in a table. -/
def row (symbol : Symbol) : String :=
  column nameWidth symbol.name ++ " " ++ column typeWidth symbol.ty.text ++ " " ++ symbol.value.text ++ "\n"

end Symbol

/-- What stands above the rows of a table. -/
def tableHead : String :=
  "\nSymbol Table Contents:\n"
    ++ column Symbol.nameWidth "Name" ++ " " ++ column Symbol.typeWidth "Type" ++ " "
    ++ column Symbol.typeWidth "Value" ++ "\n"
    ++ "----------------------------------------\n"

/-- The declared symbols as a table; temporaries are never listed. -/
def Arenas.table (arenas : Arenas) : String :=
  tableHead ++ String.join (arenas.declaredSymbols.map Symbol.row) ++ "\n"

end SymbolTable
