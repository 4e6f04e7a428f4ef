import SymbolTable.Expr.Meaning
import SymbolTable.Proofs.Effect

/-!
# Operators are exact

What an operator makes of machine words is what it means over unbounded integers, as long as that fits into a
word, and it finds a fault exactly where there is no meaning or it does not fit. `computeBinary_eq` and
`computeUnary_eq` say this of all operators and all operands, with the faults as they are reported.
-/

namespace SymbolTable

/-- What a symbol means: its name stays and its value loses its bounds. -/
def Symbol.meaning (symbol : Symbol) : Meaning := ⟨symbol.name, symbol.value.datum⟩

namespace Arithmetic

theorem checked_eq (op : Arithmetic) (a b : Int64) : op.checked a b = Word.inRange? (op.exact a.toInt b.toInt) := by
  cases op with
  | add => exact Word.add?_eq a b
  | sub => exact Word.sub?_eq a b
  | mul => exact Word.mul?_eq a b
  | div => exact Word.div?_eq a b

/-- An operation on words gives the exact result, or says why there is none. -/
theorem apply_eq (op : Arithmetic) (a b : Int64) :
    (op.apply a b).map Int64.toInt =
      if op = .div ∧ b.toInt = 0 then .error .divisionByZero
      else if Word.Fits (op.exact a.toInt b.toInt) then .ok (op.exact a.toInt b.toInt)
      else .error .overflow := by
  have hzero : b.toInt = 0 ↔ b = 0 := by rw [← Int64.toInt_zero, Int64.toInt_inj]
  rw [apply, checked_eq, Word.inRange?]
  simp only [hzero]
  split
  · rfl
  · by_cases hfits : Word.Fits (op.exact a.toInt b.toInt)
    · rw [if_pos hfits, if_pos hfits]
      exact congrArg Except.ok (Int64.toInt_ofInt_of_le hfits.1 hfits.2)
    · rw [if_neg hfits, if_neg hfits]
      rfl

end Arithmetic

namespace Comparison

/-- Words compare as the integers that they stand for. -/
theorem compare_word (a b : Int64) : compare a b = compare a.toInt b.toInt := by
  show compareOfLessAndEq a b = compareOfLessAndEq a.toInt b.toInt
  simp only [compareOfLessAndEq, Int64.lt_iff_toInt_lt, Int64.toInt_inj]

theorem holds_word (op : Comparison) (a b : Int64) : op.holds a b = decide (op.Relates a.toInt b.toInt) := by
  rw [holds, compare_word, Bool.eq_iff_iff, decide_eq_true_iff]
  cases op with
  | lt => exact Ordering.isLT_iff_eq_lt.trans Int.compare_eq_lt
  | gt => exact Ordering.isGT_iff_eq_gt.trans Int.compare_eq_gt
  | le => exact Int.isLE_compare
  | ge => exact Int.isGE_compare
  | eq => exact Ordering.isEq_iff_eq_eq.trans Int.compare_eq_eq
  | ne => exact Ordering.isNe_iff_ne_eq.trans (not_congr Int.compare_eq_eq)

end Comparison

namespace BinaryOperator

variable (left right : Symbol)

theorem compute_arithmetic (op : Arithmetic) :
    (compute (.arithmetic op) left right).map Value.datum =
      meaning (.arithmetic op) left.meaning right.meaning := by
  obtain ⟨leftName, leftValue⟩ := left
  obtain ⟨rightName, rightValue⟩ := right
  cases leftValue with
  | int a =>
    cases rightValue with
    | int b =>
      have hdatum : (compute (.arithmetic op) ⟨leftName, .int a⟩ ⟨rightName, .int b⟩).map Value.datum =
          (((op.apply a b).map Int64.toInt).map Datum.int).mapError (·.fault op) := by
        show (((op.apply a b).map Value.int).mapError (·.fault op)).map Value.datum = _
        cases op.apply a b <;> rfl
      rw [hdatum, op.apply_eq, meaning_arithmetic op rfl rfl]
      split
      · rfl
      · split <;> rfl
    | bool b => rfl
    | error => rfl
  | bool a => cases rightValue <;> rfl
  | error => cases rightValue <;> rfl

theorem compute_comparison (op : Comparison) :
    (compute (.comparison op) left right).map Value.datum =
      meaning (.comparison op) left.meaning right.meaning := by
  obtain ⟨leftName, leftValue⟩ := left
  obtain ⟨rightName, rightValue⟩ := right
  cases leftValue with
  | int a =>
    cases rightValue with
    | int b =>
      rw [meaning_comparison op rfl rfl, ← op.holds_word]
      rfl
    | bool b => rfl
    | error => rfl
  | bool a =>
    cases rightValue with
    | bool b => cases op <;> cases a <;> cases b <;> rfl
    | int b => rfl
    | error => rfl
  | error => cases rightValue <;> rfl

theorem compute_connective (op : Connective) :
    (compute (.connective op) left right).map Value.datum =
      meaning (.connective op) left.meaning right.meaning := by
  obtain ⟨leftName, leftValue⟩ := left
  obtain ⟨rightName, rightValue⟩ := right
  cases leftValue with
  | bool a =>
    cases rightValue with
    | bool b => cases op <;> cases a <;> cases b <;> rfl
    | int b => rfl
    | error => rfl
  | int a => cases rightValue <;> rfl
  | error => cases rightValue <;> rfl

/-- What an operator over two operands makes of symbols is what it means. -/
theorem compute_eq (op : BinaryOperator) :
    (op.compute left right).map Value.datum = op.meaning left.meaning right.meaning := by
  cases op with
  | arithmetic op => exact compute_arithmetic left right op
  | comparison op => exact compute_comparison left right op
  | connective op => exact compute_connective left right op

end BinaryOperator

namespace Operator

theorem computeBinary_eq (op : Operator) (left right : Symbol) :
    (op.computeBinary left right).map Value.datum = op.binaryMeaning left.meaning right.meaning := by
  cases op with
  | binary op => exact op.compute_eq left right
  | not => rfl

theorem computeUnary_eq (op : Operator) (operand : Symbol) :
    (op.computeUnary operand).map Value.datum = op.unaryMeaning operand.meaning := by
  obtain ⟨name, value⟩ := operand
  cases op with
  | binary op => rfl
  | not =>
    cases value with
    | bool b => cases b <;> rfl
    | int n => rfl
    | error => rfl

end Operator

end SymbolTable
