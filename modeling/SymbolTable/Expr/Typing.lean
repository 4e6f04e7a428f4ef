import SymbolTable.Expr.Basic

/-!
# Types of expressions

An expression is typed from the types of its literals and the declared types of its variables alone.
-/

namespace SymbolTable

/-- The operators over two operands, with the types that they take and give. -/
inductive BinaryOperator.HasTy : BinaryOperator → Ty → Ty → Prop where
  | arithmetic (op : Arithmetic) : HasTy (.arithmetic op) .int .int
  | comparison (op : Comparison) : HasTy (.comparison op) .int .bool
  | equality (op : Comparison) (hop : op = .eq ∨ op = .ne) : HasTy (.comparison op) .bool .bool
  | connective (op : Connective) : HasTy (.connective op) .bool .bool

/-- An expression has a type under declared types. -/
inductive Expr.HasTy (declared : String → Option Ty) : Expr → Ty → Prop where
  | literal (symbol : Symbol) : HasTy declared (.literal symbol) symbol.ty
  | variable {name : String} {ty : Ty} (hname : declared name = some ty) : HasTy declared (.variable name) ty
  | not {operand : Expr} (hoperand : HasTy declared operand .bool) :
      HasTy declared (.unary .not operand) .bool
  | binary {op : BinaryOperator} {left right : Expr} {operand result : Ty} (hop : op.HasTy operand result)
      (hleft : HasTy declared left operand) (hright : HasTy declared right operand) :
      HasTy declared (.binary (.binary op) left right) result

/-- The type under which a name is declared. -/
def Arenas.declaredTy? (arenas : Arenas) (name : String) : Option Ty := (arenas.find? name).map Symbol.ty

end SymbolTable
