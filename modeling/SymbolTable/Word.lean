/-!
# Checked arithmetic on machine words

Each operation works on 64-bit signed words and says when the exact result leaves their range. A sum or
difference that wraps lands on the wrong side of its left operand, and a product that wraps does not divide
back. The one quotient that does not fit is that of the least word by minus one. What the rest of the library
knows of these tests are `add?_eq`, `sub?_eq`, `mul?_eq` and `div?_eq`: each result is `inRange?` of the exact
one.
-/

namespace SymbolTable

namespace Word

/-- The integers that a word can hold, those from -2 ^ 63 to 2 ^ 63 - 1. -/
def Fits (n : Int) : Prop := -9223372036854775808 ≤ n ∧ n < 9223372036854775808

instance (n : Int) : Decidable (Fits n) := inferInstanceAs (Decidable (_ ∧ _))

/-- The word that stands for an integer, if there is one. -/
def inRange? (n : Int) : Option Int64 := if Fits n then some (Int64.ofInt n) else none

def add? (a b : Int64) : Option Int64 :=
  let sum := a + b
  if (0 ≤ b ∧ sum < a) ∨ (b < 0 ∧ a < sum) then none else some sum

def sub? (a b : Int64) : Option Int64 :=
  let difference := a - b
  if (0 ≤ b ∧ a < difference) ∨ (b < 0 ∧ difference < a) then none else some difference

def mul? (a b : Int64) : Option Int64 :=
  let product := a * b
  if a = 0 then some 0
  else if (a = -1 ∧ b = Int64.minValue) ∨ product / a ≠ b then none
  else some product

def div? (a b : Int64) : Option Int64 :=
  if a = Int64.minValue ∧ b = -1 then none else some (a / b)

theorem fits_toInt (a : Int64) : Fits a.toInt := ⟨Int64.le_toInt a, Int64.toInt_lt a⟩

/-- A word that is an integer up to wrapping stands for that integer if it fits. -/
theorem inRange?_of_fits {n : Int} {a : Int64} (hfits : Fits n) (ha : a.toInt = n.bmod Int64.size) :
    inRange? n = some a := by
  rw [inRange?, if_pos hfits]
  congr 1
  apply Int64.toInt_inj.1
  exact Int64.toInt_ofInt.trans ha.symm

theorem inRange?_eq_none {n : Int} (hout : ¬Fits n) : inRange? n = none := if_neg hout

theorem add?_eq (a b : Int64) : add? a b = inRange? (a.toInt + b.toInt) := by
  have ha := fits_toInt a
  have hb := fits_toInt b
  have hsum := Int64.toInt_add a b
  simp only [add?, Int64.lt_iff_toInt_lt, Int64.le_iff_toInt_le, Int64.toInt_zero]
  unfold Fits at ha hb
  split
  · next hwrapped =>
    rw [hsum, Int.bmod_def] at hwrapped
    rw [inRange?_eq_none (by unfold Fits; omega)]
  · next hwithin =>
    rw [hsum, Int.bmod_def] at hwithin
    exact (inRange?_of_fits (by unfold Fits; omega) hsum).symm

theorem sub?_eq (a b : Int64) : sub? a b = inRange? (a.toInt - b.toInt) := by
  have ha := fits_toInt a
  have hb := fits_toInt b
  have hdifference := Int64.toInt_sub a b
  simp only [sub?, Int64.lt_iff_toInt_lt, Int64.le_iff_toInt_le, Int64.toInt_zero]
  unfold Fits at ha hb
  split
  · next hwrapped =>
    rw [hdifference, Int.bmod_def] at hwrapped
    rw [inRange?_eq_none (by unfold Fits; omega)]
  · next hwithin =>
    rw [hdifference, Int.bmod_def] at hwithin
    exact (inRange?_of_fits (by unfold Fits; omega) hdifference).symm

/-- A quotient is no larger than what is divided, so only a change of sign can leave the range. -/
theorem fits_tdiv {a b : Int} (ha : Fits a) (hcase : ¬(a = -9223372036854775808 ∧ b = -1)) : Fits (a.tdiv b) := by
  have hsize : (a.tdiv b).natAbs = a.natAbs / b.natAbs := Int.natAbs_tdiv a b
  unfold Fits at ha ⊢
  by_cases hone : b.natAbs = 1
  · have hb : b = 1 ∨ b = -1 := by omega
    rcases hb with rfl | rfl
    · simpa using ha
    · simp only [Int.tdiv_neg, Int.tdiv_one] at hsize ⊢
      omega
  · by_cases hzero : b.natAbs = 0
    · rw [hzero, Nat.div_zero] at hsize
      omega
    · have hhalf : a.natAbs / b.natAbs ≤ a.natAbs / 2 := Nat.div_le_div_left (by omega) (by omega)
      omega

theorem div?_eq (a b : Int64) : div? a b = inRange? (a.toInt.tdiv b.toInt) := by
  unfold div?
  split
  · next hcase =>
    rw [hcase.1, hcase.2]
    rfl
  · next hcase =>
    have hcase' : ¬(a.toInt = -9223372036854775808 ∧ b.toInt = -1) := fun h =>
      hcase ⟨Int64.toInt_inj.1 h.1, Int64.toInt_inj.1 h.2⟩
    exact (inRange?_of_fits (fits_tdiv (fits_toInt a) hcase') (Int64.toInt_div a b)).symm

theorem bmod_of_fits {n : Int} (hfits : Fits n) : n.bmod Int64.size = n := by
  unfold Fits at hfits
  rw [Int.bmod_eq_of_le] <;> simp only [Int64.size] <;> omega

/-- A product that divides back is exact: the two differ by a multiple of the word size that is smaller
than a word. -/
theorem mul_eq_of_tdiv {x y p : Int} (hx : Fits x) (hx0 : x ≠ 0) (hp : p = (x * y).bmod Int64.size)
    (hback : p.tdiv x = y) : p = x * y := by
  have hdvd : (18446744073709551616 : Int) ∣ x * y - p := by
    rw [hp, Int.bmod_def, Int64.size]
    omega
  have hsplit : x * y + p.tmod x = p := hback ▸ Int.mul_tdiv_add_tmod p x
  have hrest : (p.tmod x).natAbs < x.natAbs := by
    rw [Int.natAbs_tmod]
    exact Nat.mod_lt _ (by omega)
  unfold Fits at hx
  omega

theorem mul?_eq (a b : Int64) : mul? a b = inRange? (a.toInt * b.toInt) := by
  have hproduct : (a * b).toInt = (a.toInt * b.toInt).bmod Int64.size := Int64.toInt_mul a b
  unfold mul?
  split
  · next hzero => simp [hzero, inRange?, Fits]
  · next hzero =>
    have hx : a.toInt ≠ 0 := fun h => hzero (Int64.toInt_inj.1 h)
    have hquotient : (a * b / a).toInt = ((a * b).toInt.tdiv a.toInt).bmod Int64.size := Int64.toInt_div (a * b) a
    simp only
    split
    · next hcase =>
      symm
      rcases hcase with ⟨rfl, rfl⟩ | hback
      · rfl
      · by_cases hin : Fits (a.toInt * b.toInt)
        · refine absurd (Int64.toInt_inj.1 ?_) hback
          rw [hquotient, hproduct, bmod_of_fits hin, Int.mul_tdiv_cancel_left _ hx, bmod_of_fits (fits_toInt b)]
        · exact inRange?_eq_none hin
    · next hcase =>
      obtain ⟨hmin, hback⟩ := not_or.1 hcase
      have hback := Decidable.not_not.1 hback
      by_cases hone : a.toInt = -1
      · have ha : a = -1 := Int64.toInt_inj.1 hone
        have hb : b.toInt ≠ -9223372036854775808 := fun h => hmin ⟨ha, Int64.toInt_inj.1 h⟩
        have hfits := fits_toInt b
        rw [hone] at hproduct ⊢
        exact (inRange?_of_fits (by unfold Fits at hfits ⊢; omega) hproduct).symm
      · have hwhole : (a * b).toInt.tdiv a.toInt = b.toInt := by
          rw [← congrArg Int64.toInt hback, hquotient]
          exact (bmod_of_fits (fits_tdiv (fits_toInt (a * b)) fun h => hone h.2)).symm
        have hexact := mul_eq_of_tdiv (fits_toInt a) hx hproduct hwhole
        rw [← hexact]
        exact (inRange?_of_fits (fits_toInt (a * b)) (bmod_of_fits (fits_toInt (a * b))).symm).symm

end Word

end SymbolTable
