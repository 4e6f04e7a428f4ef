import SymbolTable.Diagnostic
import SymbolTable.Text.Layout

/-!
# Writing things into fields

Everything that has a text can be written into a field, but only values and types take notice of its layout.
-/

namespace SymbolTable

inductive Item where
  | value (value : Value)
  | ty (ty : Ty)
  | operator (op : Operator)
  | comparison (op : Comparison)
  | symbol (symbol : Symbol)
  | operand (operand : Operand)
  | mismatch (mismatch : Mismatch)
  | diagnostic (diagnostic : Diagnostic)

def Item.write (layout : Layout) : Item → String
  | .value v => layout.pad v.text
  | .ty t => layout.pad t.text
  | .operator op => op.spelling
  | .comparison op => op.spelling
  | .symbol s => s.text
  | .operand o => o.text
  | .mismatch m => m.text
  | .diagnostic d => d.text

end SymbolTable
