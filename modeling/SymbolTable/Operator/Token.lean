import SymbolTable.Operator.Basic

/-!
# Reading operator tokens

A token is read either as a comparison or as any operator of the expression language. A token that is no
operator of the family asked for is reported unchanged, together with that family.
-/

namespace SymbolTable

/-- The operators that a token was expected to be one of. -/
inductive OperatorFamily where
  | comparison
  | expression
  deriving DecidableEq

def OperatorFamily.text : OperatorFamily → String
  | .comparison => "comparison"
  | .expression => "expression"

structure UnknownOperator where
  family : OperatorFamily
  token : String
  deriving DecidableEq

def UnknownOperator.text (unknown : UnknownOperator) : String :=
  "Unknown " ++ unknown.family.text ++ " operator '" ++ unknown.token ++ "'"

def Comparison.parse (token : String) : Except UnknownOperator Comparison :=
  match token with
  | "<" => .ok .lt
  | ">" => .ok .gt
  | "<=" => .ok .le
  | ">=" => .ok .ge
  | "==" => .ok .eq
  | "!=" => .ok .ne
  | _ => .error ⟨.comparison, token⟩

/-- Whatever is no other operator is tried as a comparison, and refused as an expression operator. -/
def Operator.parse (token : String) : Except UnknownOperator Operator :=
  match token with
  | "+" => .ok (.binary (.arithmetic .add))
  | "-" => .ok (.binary (.arithmetic .sub))
  | "*" => .ok (.binary (.arithmetic .mul))
  | "/" => .ok (.binary (.arithmetic .div))
  | "&&" => .ok (.binary (.connective .and))
  | "||" => .ok (.binary (.connective .or))
  | "!" => .ok .not
  | _ => match Comparison.parse token with
    | .ok comparison => .ok (.binary (.comparison comparison))
    | .error unknown => .error { unknown with family := .expression }

end SymbolTable
