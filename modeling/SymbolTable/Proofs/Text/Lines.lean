import SymbolTable.Diagnostic

/-!
# Texts and their lines

A text is cut at its line feeds into pieces. Lines that hold no line feed themselves, each written with one after it,
are what the text is cut into (`pieces_join`). The text of a diagnostic is one such line, unless a name in it has a line
feed (`Diagnostic.lacks_feed_text`).
-/

namespace SymbolTable

/-- A character does not occur in a text. -/
def Lacks (c : Char) (text : String) : Prop := c ∉ text.toList

instance (c : Char) (text : String) : Decidable (Lacks c text) := inferInstanceAs (Decidable (c ∉ text.toList))

/-- What stands between the line feeds of a text. -/
def pieces (text : String) : List String := (text.toList.splitOn '\n').map String.ofList

variable {c : Char}

@[simp] theorem lacks_append {text other : String} : Lacks c (text ++ other) ↔ Lacks c text ∧ Lacks c other := by
  simp [Lacks]

/-- A number is written with digits only. -/
theorem lacks_repr (hdigit : c.isDigit = false) (n : Nat) : Lacks c n.repr := by
  intro hmem
  rw [Nat.toList_repr] at hmem
  rw [Nat.isDigit_of_mem_toDigits (by decide) (by decide) hmem] at hdigit
  cases hdigit

/-- Different numbers are written differently. -/
theorem repr_injective : Function.Injective Nat.repr := by
  intro i j hsame
  have hdigits : Nat.toDigits 10 i = Nat.toDigits 10 j := by
    rw [← Nat.toList_repr, ← Nat.toList_repr, hsame]
  calc i = Nat.ofDigitChars 10 (Nat.toDigits 10 i) 0 := Nat.ofDigitChars_ten_toDigits.symm
    _ = Nat.ofDigitChars 10 (Nat.toDigits 10 j) 0 := by rw [hdigits]
    _ = j := Nat.ofDigitChars_ten_toDigits

theorem splitOn_feed {text : String} (hfeed : Lacks '\n' text) (rest : List Char) :
    (text.toList ++ '\n' :: rest).splitOn '\n' = text.toList :: rest.splitOn '\n' := by
  have hone : text.toList.splitOnP (fun c => c == '\n') = [text.toList] := by
    refine List.splitOnP_eq_singleton fun c hc => ?_
    rw [beq_eq_false_iff_ne]
    intro hsame
    exact hfeed (hsame ▸ hc)
  calc (text.toList ++ '\n' :: rest).splitOn '\n'
      = text.toList.splitOnP (fun c => c == '\n') ++ rest.splitOn '\n' := List.splitOnP_append_cons _ _ rfl
    _ = text.toList :: rest.splitOn '\n' := by rw [hone]; rfl

/-- Lines written one after the other are found again. -/
theorem pieces_join {lines : List String} (hlines : ∀ line ∈ lines, Lacks '\n' line) :
    pieces (String.join (lines.map (· ++ "\n"))) = lines ++ [""] := by
  unfold pieces
  rw [String.toList_join, List.flatMap_map]
  induction lines with
  | nil => rfl
  | cons line lines ih =>
    have hrest := ih fun other hother => hlines other (List.mem_cons_of_mem _ hother)
    have hfirst : (line ++ "\n").toList ++ lines.flatMap (fun other => (other ++ "\n").toList) =
        line.toList ++ '\n' :: lines.flatMap (fun other => (other ++ "\n").toList) := by
      rw [String.toList_append, List.append_assoc]
      rfl
    rw [List.flatMap_cons, hfirst, splitOn_feed (hlines line List.mem_cons_self), List.map_cons, hrest,
      String.ofList_toList]
    rfl

/-! ### Lines of diagnostics -/

/-- The names that a fault tells. -/
def Fault.names : Fault → List String
  | .typeMismatch mismatch => mismatch.left.name :: (mismatch.right.map Operand.name).toList
  | .duplicateDeclaration name | .undeclaredVariable name | .valueTypeMismatch name _ _ => [name]
  | .divisionByZero | .overflow _ | .operandCount _ => []

/-- The characters that texts are cut at: line feeds and quotes. -/
def IsCut (c : Char) : Prop := c = '\n' ∨ c = '\''

theorem Ty.lacks_text (hcut : IsCut c) (ty : Ty) : Lacks c ty.text := by
  obtain rfl | rfl := hcut
  · cases ty <;> decide
  · cases ty <;> decide

theorem Operator.lacks_feed_description (op : Operator) : Lacks '\n' op.description := by
  rcases op with ((op | op | op) | _)
  · cases op <;> decide
  · exact (by decide : Lacks '\n' "comparison")
  · cases op <;> decide
  · decide

theorem Operator.lacks_spelling (hcut : IsCut c) (op : Operator) : Lacks c op.spelling := by
  rcases op with ((op | op | op) | _)
  · obtain rfl | rfl := hcut <;> cases op <;> decide
  · obtain rfl | rfl := hcut <;> cases op <;> decide
  · obtain rfl | rfl := hcut <;> cases op <;> decide
  · obtain rfl | rfl := hcut <;> decide

theorem Operand.lacks_feed_text {operand : Operand} (hname : Lacks '\n' operand.name) :
    Lacks '\n' operand.text := by
  unfold Operand.text
  simp only [lacks_append]
  exact ⟨⟨⟨⟨by decide, hname⟩, by decide⟩, operand.ty.lacks_text (.inl rfl)⟩, by decide⟩

namespace Mismatch

theorem lacks_feed_unaryText (op : Operator) {operand : Operand} (hname : Lacks '\n' operand.name) :
    Lacks '\n' (unaryText op operand) := by
  unfold unaryText
  split
  · exact lacks_append.2 ⟨by decide, operand.lacks_feed_text hname⟩
  · simp only [lacks_append]
    exact ⟨⟨⟨by decide, op.lacks_feed_description⟩, by decide⟩, operand.lacks_feed_text hname⟩

theorem lacks_feed_binaryText (op : Operator) {left right : Operand} (hleft : Lacks '\n' left.name)
    (hright : Lacks '\n' right.name) : Lacks '\n' (binaryText op left right) := by
  have hleft := left.lacks_feed_text hleft
  have hright := right.lacks_feed_text hright
  unfold binaryText
  split
  · next comparison =>
    have hspelling : Lacks '\n' comparison.spelling := (Operator.binary (.comparison comparison)).lacks_spelling (.inl rfl)
    split
    · simp only [lacks_append]
      exact ⟨⟨⟨⟨⟨by decide, hspelling⟩, by decide⟩, hleft⟩, by decide⟩, hright⟩
    · simp only [lacks_append]
      exact ⟨⟨⟨by decide, hleft⟩, by decide⟩, hright⟩
  · next connective =>
    simp only [lacks_append]
    refine ⟨⟨⟨⟨?_, by decide⟩, hleft⟩, by decide⟩, hright⟩
    cases connective <;> decide
  · simp only [lacks_append]
    exact ⟨⟨⟨⟨⟨by decide, op.lacks_feed_description⟩, by decide⟩, hleft⟩, by decide⟩, hright⟩

end Mismatch

theorem Fault.lacks_feed_text {fault : Fault} (hnames : ∀ name ∈ fault.names, Lacks '\n' name) :
    Lacks '\n' fault.text := by
  unfold Fault.text
  split
  · next mismatch =>
    obtain ⟨op, left, _ | right⟩ := mismatch
    · exact Mismatch.lacks_feed_unaryText op (hnames _ List.mem_cons_self)
    · exact Mismatch.lacks_feed_binaryText op (hnames _ List.mem_cons_self)
        (hnames _ (List.mem_cons_of_mem _ List.mem_cons_self))
  · decide
  · next op => exact lacks_append.2 ⟨by decide, op.lacks_feed_description⟩
  · next op =>
    simp only [lacks_append]
    exact ⟨⟨by decide, op.lacks_spelling (.inl rfl)⟩, by decide⟩
  · next name =>
    simp only [lacks_append]
    exact ⟨⟨by decide, hnames name List.mem_cons_self⟩, by decide⟩
  · next name =>
    simp only [lacks_append]
    exact ⟨⟨by decide, hnames name List.mem_cons_self⟩, by decide⟩
  · next name expected found =>
    simp only [lacks_append]
    exact ⟨⟨⟨⟨⟨⟨by decide, found.lacks_text (.inl rfl)⟩, by decide⟩, hnames name List.mem_cons_self⟩, by decide⟩,
      expected.lacks_text (.inl rfl)⟩, by decide⟩

/-- A diagnostic is one line, unless a name in it is more. -/
theorem Diagnostic.lacks_feed_text {diagnostic : Diagnostic}
    (hnames : ∀ name ∈ diagnostic.fault.names, Lacks '\n' name) : Lacks '\n' diagnostic.text := by
  unfold Diagnostic.text
  simp only [lacks_append]
  exact ⟨⟨⟨by decide, lacks_repr (by decide) _⟩, by decide⟩, Fault.lacks_feed_text hnames⟩

end SymbolTable
