import SymbolTable.Proofs.Text.Pieces

/-!
# Texts tell diagnostics apart

Two faults are alike if they differ at most in comparisons that their texts do not spell. Faults are alike exactly if they
have the same opening and the same pieces, so that names without quotes, whatever else they hold, cannot make the texts of
two other faults equal. The text of a diagnostic starts with its line in decimal, and nothing after the line is taken for
a part of it (`Diagnostic.texts_identify`).
-/

namespace SymbolTable

/-! ### Operators of one description -/

/-- Two operators are the same, or both are comparisons. -/
def Operator.Merges (op other : Operator) : Prop := op = other ∨ op.isComparison = true ∧ other.isComparison = true

namespace Operator

variable {op other : Operator}

theorem representative_of_comparison (hop : op.isComparison = true) : op.representative = .binary (.comparison .eq) := by
  rcases op with ((op | op | op) | _)
  · cases hop
  · rfl
  · cases hop
  · cases hop

theorem representative_of_not_comparison (hop : op.isComparison = false) : op.representative = op := by
  rcases op with ((op | op | op) | _)
  · rfl
  · cases hop
  · rfl
  · rfl

theorem isComparison_eq_of_representative (hsame : op.representative = other.representative) :
    op.isComparison = other.isComparison := by
  rw [← op.isComparison_representative, hsame, other.isComparison_representative]

theorem representative_eq_iff : op.representative = other.representative ↔ op.Merges other := by
  constructor
  · intro hsame
    have hkind := isComparison_eq_of_representative hsame
    cases hop : op.isComparison with
    | true => exact .inr ⟨hop, hkind ▸ hop⟩
    | false =>
      rw [representative_of_not_comparison hop, representative_of_not_comparison (hkind ▸ hop)] at hsame
      exact .inl hsame
  · rintro (rfl | ⟨hop, hother⟩)
    · rfl
    · rw [representative_of_comparison hop, representative_of_comparison hother]

theorem Merges.description_eq (hop : op.Merges other) : op.description = other.description := by
  rw [← op.description_representative, representative_eq_iff.2 hop, other.description_representative]

end Operator

/-! ### Faults alike -/

/-- Two faults are alike if they differ at most in comparisons that their texts do not spell. -/
inductive Fault.Alike : Fault → Fault → Prop where
  | refl (fault : Fault) : Alike fault fault
  | mismatch {op other : Operator} {left : Operand} {right : Option Operand} (hop : op.Merges other)
      (hspells : Mismatch.spells ⟨op, left, right⟩ = false) (hother : Mismatch.spells ⟨other, left, right⟩ = false) :
      Alike (.typeMismatch ⟨op, left, right⟩) (.typeMismatch ⟨other, left, right⟩)
  | overflow {op other : Operator} (hop : op.Merges other) : Alike (.overflow op) (.overflow other)

namespace Mismatch

variable {op other : Operator} {left otherLeft : Operand} {right otherRight : Operand}

theorem opening_ne_unary (op taken : Operator) (left right : Operand) :
    opening ⟨op, left, some right⟩ ≠ .unary taken := by
  cases hspells : spells ⟨op, left, some right⟩ with
  | false =>
    rw [opening_of_not_spells hspells]
    nofun
  | true =>
    rw [opening_of_spells hspells]
    nofun

theorem opening_eq_ordering_iff : opening ⟨op, left, some right⟩ = .ordering ↔ spells ⟨op, left, some right⟩ = true := by
  cases hspells : spells ⟨op, left, some right⟩ with
  | false =>
    rw [opening_of_not_spells hspells]
    exact iff_of_false nofun nofun
  | true => exact iff_of_true (opening_of_spells hspells) rfl

/-- Mismatches of two operands in the same pieces are alike. -/
theorem alike_of_pieces_binary
    (hopening : opening ⟨op, left, some right⟩ = opening ⟨other, otherLeft, some otherRight⟩)
    (hpieces : pieces ⟨op, left, some right⟩ = pieces ⟨other, otherLeft, some otherRight⟩) :
    Fault.Alike (.typeMismatch ⟨op, left, some right⟩) (.typeMismatch ⟨other, otherLeft, some otherRight⟩) := by
  -- The opening says whether the operator is spelled, and so which pieces are which.
  have hsame : spells ⟨op, left, some right⟩ = spells ⟨other, otherLeft, some otherRight⟩ := by
    rw [Bool.eq_iff_iff, ← opening_eq_ordering_iff, ← opening_eq_ordering_iff, hopening]
  cases hspells : spells ⟨op, left, some right⟩ with
  | false =>
    have hother := hsame ▸ hspells
    rw [opening_of_not_spells hspells, opening_of_not_spells hother] at hopening
    have hop : op.representative = other.representative := Opening.binary.inj hopening
    have hjoint : joint op = joint other := by
      rw [joint, joint, Operator.isComparison_eq_of_representative hop]
    rw [pieces_of_not_spells hspells, pieces_of_not_spells hother, hjoint] at hpieces
    obtain ⟨rfl, rfl⟩ := Operand.pieces_append_inj hpieces
    exact .mismatch (Operator.representative_eq_iff.1 hop) hspells hother
  | true =>
    rw [pieces_of_spells hspells, pieces_of_spells (hsame ▸ hspells)] at hpieces
    obtain ⟨hspelling, hrest⟩ := List.cons.inj hpieces
    obtain rfl := Operator.spelling_injective hspelling
    obtain ⟨rfl, rfl⟩ := Operand.pieces_append_inj (List.cons.inj hrest).2
    exact .refl _

theorem alike_of_pieces {mismatch other : Mismatch} (hopening : mismatch.opening = other.opening)
    (hpieces : mismatch.pieces = other.pieces) : Fault.Alike (.typeMismatch mismatch) (.typeMismatch other) := by
  obtain ⟨op, left, _ | right⟩ := mismatch
  · obtain ⟨other, otherLeft, _ | otherRight⟩ := other
    · obtain rfl := Operand.pieces_inj hpieces
      have hop := Operator.representative_eq_iff.1 (Opening.unary.inj hopening)
      exact .mismatch hop (spells_unary op left) (spells_unary other left)
    · exact absurd hopening.symm (opening_ne_unary other _ otherLeft otherRight)
  · obtain ⟨other, otherLeft, _ | otherRight⟩ := other
    · exact absurd hopening (opening_ne_unary op _ left right)
    · exact alike_of_pieces_binary hopening hpieces

/-- Operators that are not told apart leave the text of a mismatch as it is. -/
theorem text_eq_of_merges {right : Option Operand} (hop : op.Merges other) (hspells : spells ⟨op, left, right⟩ = false)
    (hother : spells ⟨other, left, right⟩ = false) : text ⟨op, left, right⟩ = text ⟨other, left, right⟩ := by
  have hsame := Operator.representative_eq_iff.2 hop
  rw [text_eq_intercalate, text_eq_intercalate]
  cases right with
  | none => rw [opening, opening, hsame, pieces, pieces]
  | some right =>
    have hjoint : joint op = joint other := by
      rw [joint, joint, Operator.isComparison_eq_of_representative hsame]
    rw [opening_of_not_spells hspells, opening_of_not_spells hother, hsame, pieces_of_not_spells hspells,
      pieces_of_not_spells hother, hjoint]

end Mismatch

namespace Fault

variable {fault other : Fault}

/-- Faults in the same pieces are alike. -/
theorem alike_of_pieces (hopening : fault.opening = other.opening) (hpieces : fault.pieces = other.pieces) :
    fault.Alike other := by
  cases fault with
  | typeMismatch mismatch =>
    cases other with
    | typeMismatch other => exact Mismatch.alike_of_pieces (Opening.mismatch.inj hopening) hpieces
    | _ => cases hopening
  | divisionByZero =>
    cases other with
    | divisionByZero => exact .refl _
    | _ => cases hopening
  | overflow op =>
    cases other with
    | overflow other => exact .overflow (Operator.representative_eq_iff.1 (Opening.overflow.inj hopening))
    | _ => cases hopening
  | operandCount op =>
    cases other with
    | operandCount other =>
      obtain rfl := Operator.spelling_injective (List.cons.inj hpieces).1
      exact .refl _
    | _ => cases hopening
  | duplicateDeclaration name =>
    cases other with
    | duplicateDeclaration other =>
      obtain rfl := (List.cons.inj hpieces).1
      exact .refl _
    | undeclaredVariable other => exact absurd (List.cons.inj (List.cons.inj hpieces).2).1 (by decide)
    | _ => cases hopening
  | undeclaredVariable name =>
    cases other with
    | undeclaredVariable other =>
      obtain rfl := (List.cons.inj hpieces).1
      exact .refl _
    | duplicateDeclaration other => exact absurd (List.cons.inj (List.cons.inj hpieces).2).1 (by decide)
    | _ => cases hopening
  | valueTypeMismatch name expected found =>
    cases other with
    | valueTypeMismatch other otherExpected otherFound =>
      obtain ⟨rfl, rfl⟩ := Operand.mk.inj (Operand.pieces_inj hpieces)
      obtain rfl := Opening.store.inj hopening
      exact .refl _
    | _ => cases hopening

theorem Alike.text_eq (halike : fault.Alike other) : fault.text = other.text := by
  cases halike with
  | refl fault => rfl
  | mismatch hop hspells hother => exact Mismatch.text_eq_of_merges hop hspells hother
  | overflow hop => exact congrArg ("Integer overflow in " ++ ·) hop.description_eq

/-- The texts of faults are equal exactly if the faults are alike. -/
theorem text_eq_iff (hnames : ∀ name ∈ fault.names, Lacks '\'' name) (hothers : ∀ name ∈ other.names, Lacks '\'' name) :
    fault.text = other.text ↔ fault.Alike other := by
  constructor
  · intro htext
    have hpieces : fault.opening.text :: fault.pieces = other.opening.text :: other.pieces := by
      rw [← betweenQuotes_text hnames, htext, betweenQuotes_text hothers]
    obtain ⟨hopening, hpieces⟩ := List.cons.inj hpieces
    exact alike_of_pieces (Opening.text_injOn fault.opening_mem other.opening_mem hopening) hpieces
  · exact Alike.text_eq

end Fault

/-! ### Diagnostics -/

namespace Diagnostic

variable {first second : Diagnostic}

theorem text_eq_append (diagnostic : Diagnostic) :
    diagnostic.text = "Error at line " ++ (diagnostic.line.toNat.repr ++ (": " ++ diagnostic.fault.text)) := by
  show "Error at line " ++ diagnostic.line.toNat.repr ++ ": " ++ diagnostic.fault.text = _
  rw [String.append_assoc, String.append_assoc]

theorem takeWhile_line (diagnostic : Diagnostic) :
    (diagnostic.line.toNat.repr ++ (": " ++ diagnostic.fault.text)).toList.takeWhile (· != ':') =
      diagnostic.line.toNat.repr.toList := by
  have hdigits : ∀ c ∈ diagnostic.line.toNat.repr.toList, (c != ':') = true := by
    intro c hc
    rw [bne_iff_ne]
    rintro rfl
    exact lacks_repr (by decide) _ hc
  rw [String.toList_append, List.takeWhile_append_of_pos hdigits, String.toList_append]
  exact List.append_nil _

/-- The line ends at the first colon. -/
theorem text_eq_text_iff :
    first.text = second.text ↔ first.line = second.line ∧ first.fault.text = second.fault.text := by
  constructor
  · intro htext
    rw [text_eq_append, text_eq_append, String.append_right_inj] at htext
    have hdigits : first.line.toNat.repr = second.line.toNat.repr := by
      rw [← String.toList_inj, ← takeWhile_line first, htext, takeWhile_line second]
    rw [hdigits, String.append_right_inj, String.append_right_inj] at htext
    exact ⟨UInt32.toNat_inj.1 (repr_injective hdigits), htext⟩
  · rintro ⟨hline, hfault⟩
    rw [text_eq_append, text_eq_append, hline, hfault]

/-- The text of every diagnostic starts with the line in decimal. Without quotes in names, two texts are equal exactly if the
lines are the same and the faults are alike. -/
theorem texts_identify :
    (∀ diagnostic : Diagnostic, ∃ rest,
      diagnostic.text = "Error at line " ++ diagnostic.line.toNat.repr ++ ": " ++ rest) ∧
    ∀ first second : Diagnostic, (∀ name ∈ first.fault.names, Lacks '\'' name) →
      (∀ name ∈ second.fault.names, Lacks '\'' name) →
      (first.text = second.text ↔ first.line = second.line ∧ first.fault.Alike second.fault) := by
  refine ⟨fun diagnostic => ⟨diagnostic.fault.text, rfl⟩, ?_⟩
  intro first second hfirst hsecond
  rw [text_eq_text_iff, Fault.text_eq_iff hfirst hsecond]

/-- Two comparisons of one variable, whose name looks like the end of an operand, with another. -/
theorem texts_identify_comparisons :
    text ⟨.typeMismatch ⟨.binary (.comparison .lt), ⟨"a (int) with b", .int⟩, some ⟨"c", .bool⟩⟩, 3⟩ =
        text ⟨.typeMismatch ⟨.binary (.comparison .eq), ⟨"a (int) with b", .int⟩, some ⟨"c", .bool⟩⟩, 3⟩ ∧
      text ⟨.typeMismatch ⟨.binary (.comparison .lt), ⟨"a (int) with b", .int⟩, some ⟨"c", .int⟩⟩, 3⟩ ≠
        text ⟨.typeMismatch ⟨.binary (.comparison .eq), ⟨"a (int) with b", .int⟩, some ⟨"c", .int⟩⟩, 3⟩ := by
  constructor
  · exact (texts_identify.2 _ _ (by decide) (by decide)).2 ⟨rfl, .mismatch (.inr ⟨rfl, rfl⟩) rfl rfl⟩
  · refine mt (texts_identify.2 _ _ (by decide) (by decide)).1 ?_
    rintro ⟨-, halike⟩
    cases halike with
    | mismatch hop hspells hother => cases hspells

end Diagnostic

end SymbolTable
