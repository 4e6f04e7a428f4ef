import SymbolTable.Word

/-!
# Integer arithmetic of the language

Four operations on machine words. A division looks at its divisor before anything else, quotients are
truncated toward zero, and a result that no word can hold is refused.
-/

namespace SymbolTable

inductive Arithmetic where
  | add
  | sub
  | mul
  | div
  deriving DecidableEq

/-- Why an operation on two integers has no result. -/
inductive Arithmetic.Failure where
  | divisionByZero
  | overflow
  deriving DecidableEq

namespace Arithmetic

def spelling : Arithmetic → String
  | .add => "+"
  | .sub => "-"
  | .mul => "*"
  | .div => "/"

def description : Arithmetic → String
  | .add => "addition"
  | .sub => "subtraction"
  | .mul => "multiplication"
  | .div => "division"

/-- The result of an operation as long as it fits; it never sees a zero divisor. -/
def checked : Arithmetic → Int64 → Int64 → Option Int64
  | .add => Word.add?
  | .sub => Word.sub?
  | .mul => Word.mul?
  | .div => Word.div?

def apply (op : Arithmetic) (left right : Int64) : Except Failure Int64 :=
  if op = .div ∧ right = 0 then .error .divisionByZero
  else match op.checked left right with
    | some result => .ok result
    | none => .error .overflow

end Arithmetic

end SymbolTable
