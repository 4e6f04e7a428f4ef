/-!
# Values and their types

The language has machine integers and booleans. A third kind of value marks the result of a failed
computation. The type of a value is its tag, and each type has a zero value that a variable of the type
starts from.
-/

namespace SymbolTable

inductive Ty where
  | int
  | bool
  | unknown
  deriving DecidableEq

inductive Value where
  | int (n : Int64)
  | bool (b : Bool)
  | error
  deriving DecidableEq

namespace Ty

/-- The name of a type in diagnostics and tables. -/
def text : Ty → String
  | .int => "int"
  | .bool => "bool"
  | .unknown => "unknown"

/-- What a variable of the type holds before anything is stored in it. -/
def zero : Ty → Value
  | .int => .int 0
  | .bool => .bool false
  | .unknown => .error

end Ty

namespace Value

def ty : Value → Ty
  | .int _ => .int
  | .bool _ => .bool
  | .error => .unknown

/-- Integers are written in decimal with a sign only if negative. -/
def text : Value → String
  | .int n => n.toInt.repr
  | .bool true => "true"
  | .bool false => "false"
  | .error => "error"

def int? : Value → Option Int64
  | .int n => some n
  | _ => none

def bool? : Value → Option Bool
  | .bool b => some b
  | _ => none

def isInt (value : Value) : Bool := value.ty == .int

def isBool (value : Value) : Bool := value.ty == .bool

def isError (value : Value) : Bool := value.ty == .unknown

/-- Whether a value is the one that variables of its type start from. -/
def isZero (value : Value) : Bool := value == value.ty.zero

end Value

@[simp] theorem Ty.ty_zero (ty : Ty) : ty.zero.ty = ty := by
  cases ty <;> rfl

end SymbolTable
