/-!
# Comparisons

The six comparisons of the language. What each means is given once for any type with a comparison
function, through the three-way answer that the function gives.
-/

namespace SymbolTable

inductive Comparison where
  | lt
  | gt
  | le
  | ge
  | eq
  | ne
  deriving DecidableEq

namespace Comparison

def spelling : Comparison → String
  | .lt => "<"
  | .gt => ">"
  | .le => "<="
  | .ge => ">="
  | .eq => "=="
  | .ne => "!="

/-- Whether a comparison asks for an order, and not only for equality. -/
def isOrdering : Comparison → Bool
  | .eq | .ne => false
  | _ => true

/-- Whether a comparison accepts a pair that compares in the given way. -/
def accepts : Comparison → Ordering → Bool
  | .lt, order => order.isLT
  | .gt, order => order.isGT
  | .le, order => order.isLE
  | .ge, order => order.isGE
  | .eq, order => order.isEq
  | .ne, order => order.isNe

/-- Whether a comparison holds between two values of an ordered type. -/
def holds {α : Type} [Ord α] (comparison : Comparison) (left right : α) : Bool :=
  comparison.accepts (compare left right)

end Comparison

end SymbolTable
