import SymbolTable.Operator.Token

/-!
# Tokens and spellings

A reader of tokens fits a spelling if it takes every token that spells an operator for that operator, and refuses every
other token unchanged, for the family that it was asked to read (`Reads`). Both readers fit the spellings of their
operators, although the one for all operators hands what it does not know to the other. So nothing but a spelling is read,
neither a part of one nor one with blanks around it, and the two readers agree on comparisons (`tokens_read_exactly`).
-/

namespace SymbolTable

/-- What a reader makes of each token: the operator that the token spells, or a refusal of the token for a family. -/
structure Reads {α : Type} (read : String → Except UnknownOperator α) (spelling : α → String)
    (family : OperatorFamily) : Prop where
  spelled : ∀ op, read (spelling op) = .ok op
  refused : ∀ token, (∀ op, token ≠ spelling op) → read token = .error ⟨family, token⟩

namespace Reads

variable {α : Type} {read : String → Except UnknownOperator α} {spelling : α → String} {family : OperatorFamily}

/-- Every token is a spelling or is refused. -/
theorem spelled_or_refused (hreads : Reads read spelling family) (token : String) :
    (∃ op, token = spelling op ∧ read token = .ok op) ∨
      (∀ op, token ≠ spelling op) ∧ read token = .error ⟨family, token⟩ := by
  by_cases hspelled : ∃ op, token = spelling op
  · obtain ⟨op, rfl⟩ := hspelled
    exact .inl ⟨op, rfl, hreads.spelled op⟩
  · have hother : ∀ op, token ≠ spelling op := fun op htoken => hspelled ⟨op, htoken⟩
    exact .inr ⟨hother, hreads.refused token hother⟩

theorem eq_ok_iff (hreads : Reads read spelling family) {token : String} {op : α} :
    read token = .ok op ↔ token = spelling op := by
  constructor
  · intro hread
    obtain ⟨spelled, htoken, hspelled⟩ | ⟨_, hrefused⟩ := hreads.spelled_or_refused token
    · rw [hspelled] at hread
      rw [htoken, Except.ok.inj hread]
    · rw [hrefused] at hread
      cases hread
  · rintro rfl
    exact hreads.spelled op

theorem eq_error_iff (hreads : Reads read spelling family) {token : String} {unknown : UnknownOperator} :
    read token = .error unknown ↔ (∀ op, token ≠ spelling op) ∧ unknown = ⟨family, token⟩ := by
  constructor
  · intro hread
    obtain ⟨_, _, hspelled⟩ | ⟨hother, hrefused⟩ := hreads.spelled_or_refused token
    · rw [hspelled] at hread
      cases hread
    · rw [hrefused] at hread
      exact ⟨hother, (Except.error.inj hread).symm⟩
  · rintro ⟨hother, rfl⟩
    exact hreads.refused token hother

/-- No two operators are spelled alike, since a spelling is read as one of them only. -/
theorem spelling_injective (hreads : Reads read spelling family) : Function.Injective spelling := by
  intro op other hspelling
  have hread : read (spelling op) = .ok other := by rw [hspelling, hreads.spelled]
  exact Except.ok.inj ((hreads.spelled op).symm.trans hread)

end Reads

theorem OperatorFamily.text_injective : Function.Injective OperatorFamily.text := by
  intro family other htext
  cases family with
  | comparison =>
    cases other with
    | comparison => rfl
    | expression => exact absurd htext (by decide)
  | expression =>
    cases other with
    | comparison => exact absurd htext (by decide)
    | expression => rfl

/-- A refusal is known by its token and the text of its family. -/
theorem UnknownOperator.eq_mk_iff {unknown : UnknownOperator} {family : OperatorFamily} {token : String} :
    unknown = ⟨family, token⟩ ↔ unknown.token = token ∧ unknown.family.text = family.text := by
  constructor
  · rintro rfl
    exact ⟨rfl, rfl⟩
  · rintro ⟨rfl, hfamily⟩
    rw [← OperatorFamily.text_injective hfamily]

namespace Comparison

theorem reads : Reads Comparison.parse Comparison.spelling .comparison where
  spelled op := by cases op <;> rfl
  refused token hother := by
    unfold Comparison.parse
    split
    · exact absurd rfl (hother .lt)
    · exact absurd rfl (hother .gt)
    · exact absurd rfl (hother .le)
    · exact absurd rfl (hother .ge)
    · exact absurd rfl (hother .eq)
    · exact absurd rfl (hother .ne)
    · rfl

end Comparison

namespace Operator

theorem reads : Reads Operator.parse Operator.spelling .expression where
  spelled op := by
    rcases op with ((op | op | op) | _)
    · cases op <;> rfl
    · cases op <;> rfl
    · cases op <;> rfl
    · rfl
  refused token hother := by
    -- A token that spells no operator spells no comparison either, so the inner reader refuses it, too.
    have hinner : Comparison.parse token = .error ⟨.comparison, token⟩ :=
      Comparison.reads.refused token fun op => hother (.binary (.comparison op))
    unfold Operator.parse
    split
    · exact absurd rfl (hother (.binary (.arithmetic .add)))
    · exact absurd rfl (hother (.binary (.arithmetic .sub)))
    · exact absurd rfl (hother (.binary (.arithmetic .mul)))
    · exact absurd rfl (hother (.binary (.arithmetic .div)))
    · exact absurd rfl (hother (.binary (.connective .and)))
    · exact absurd rfl (hother (.binary (.connective .or)))
    · exact absurd rfl (hother .not)
    · rw [hinner]

theorem spelling_injective : Function.Injective spelling := reads.spelling_injective

end Operator

/-- A token is read exactly if it spells an operator, and both readers then read the same comparison. Every other token is
refused as it is, under the name of the family that was asked for. -/
theorem tokens_read_exactly (token : String) :
    (∀ op, Operator.parse token = .ok op ↔ token = op.spelling) ∧
    (∀ op, Comparison.parse token = .ok op ↔ token = op.spelling) ∧
    (∀ op, Comparison.parse token = .ok op ↔ Operator.parse token = .ok (.binary (.comparison op))) ∧
    (∀ unknown, Operator.parse token = .error unknown ↔
      (∀ op : Operator, token ≠ op.spelling) ∧ unknown.token = token ∧ unknown.family.text = "expression") ∧
    (∀ unknown, Comparison.parse token = .error unknown ↔
      (∀ op : Comparison, token ≠ op.spelling) ∧ unknown.token = token ∧ unknown.family.text = "comparison") := by
  refine ⟨fun op => Operator.reads.eq_ok_iff, fun op => Comparison.reads.eq_ok_iff, fun op => ?_, fun unknown => ?_,
    fun unknown => ?_⟩
  · rw [Comparison.reads.eq_ok_iff, Operator.reads.eq_ok_iff]
    rfl
  · rw [Operator.reads.eq_error_iff, UnknownOperator.eq_mk_iff]
    rfl
  · rw [Comparison.reads.eq_error_iff, UnknownOperator.eq_mk_iff]
    rfl

end SymbolTable
