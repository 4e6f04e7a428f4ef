import Mathlib.Data.List.DropRight
import Std.Data.String.ToInt
import SymbolTable.Word
import SymbolTable.Proofs.Text.Lines

/-!
# Values and types read back

The texts of values and types have no blanks, so they stand between the blanks of a longer text. A text is cut at the last
place where a character stands (`cutLast?`), and what is cut off at its end is read as a value or a type again. A text is
read as a value only if it is the text of that value (`Value.read?_eq_some_iff`): an integer with a plus sign or with zeros
before it is no such text.
-/

namespace SymbolTable

/-! ### Types -/

/-- The type that a text names. -/
def Ty.read? : String → Option Ty
  | "int" => some .int
  | "bool" => some .bool
  | "unknown" => some .unknown
  | _ => none

theorem Ty.read?_eq_some_iff {text : String} {ty : Ty} : Ty.read? text = some ty ↔ text = ty.text := by
  constructor
  · intro hread
    unfold read? at hread
    split at hread <;> cases hread <;> rfl
  · rintro rfl
    cases ty <;> rfl

/-! ### Values -/

/-- The integer that a text is the decimal of. -/
def readInteger? (text : String) : Option Int64 :=
  (text.toInt?.bind Word.inRange?).filter fun n => n.toInt.repr = text

theorem readInteger?_eq_some_iff {text : String} {n : Int64} : readInteger? text = some n ↔ text = n.toInt.repr := by
  constructor
  · intro hread
    exact (of_decide_eq_true (Option.filter_eq_some_iff.1 hread).2).symm
  · rintro rfl
    have hword : Word.inRange? n.toInt = some n :=
      Word.inRange?_of_fits (Word.fits_toInt n) (Word.bmod_of_fits (Word.fits_toInt n)).symm
    rw [readInteger?, Int.toInt?_repr, Option.bind_some, hword]
    exact Option.filter_eq_some_iff.2 ⟨rfl, decide_eq_true rfl⟩

/-- An integer is written with digits and a sign only. -/
theorem lacks_repr_int {c : Char} (hdigit : c.isDigit = false) (hsign : c ≠ '-') (n : Int) : Lacks c n.repr := by
  cases n with
  | ofNat n => exact lacks_repr hdigit n
  | negSucc n =>
    have hminus : Lacks c "-" := by
      intro hmem
      exact hsign (List.mem_singleton.1 hmem)
    exact lacks_append.2 ⟨hminus, lacks_repr hdigit n.succ⟩

namespace Value

/-- The value that a text is the text of. -/
def read? (text : String) : Option Value :=
  match text with
  | "true" => some (.bool true)
  | "false" => some (.bool false)
  | "error" => some .error
  | text => (readInteger? text).map .int

/-- A word with an `e` is no integer. -/
theorem read?_of_lacks {text : String} (hlacks : Lacks 'e' text) : read? text = (readInteger? text).map .int := by
  unfold read?
  split
  · exact absurd hlacks (by decide)
  · exact absurd hlacks (by decide)
  · exact absurd hlacks (by decide)
  · rfl

theorem read?_text (value : Value) : read? value.text = some value := by
  cases value with
  | int n =>
    calc read? n.toInt.repr
        = (readInteger? n.toInt.repr).map Value.int := read?_of_lacks (lacks_repr_int (by decide) (by decide) n.toInt)
      _ = some (.int n) := congrArg (Option.map Value.int) (readInteger?_eq_some_iff.2 rfl)
  | bool b => cases b <;> rfl
  | error => rfl

theorem read?_eq_some_iff {text : String} {value : Value} : read? text = some value ↔ text = value.text := by
  constructor
  · intro hread
    unfold read? at hread
    split at hread
    · cases hread
      rfl
    · cases hread
      rfl
    · cases hread
      rfl
    · obtain ⟨n, hn, rfl⟩ := Option.map_eq_some_iff.1 hread
      exact readInteger?_eq_some_iff.1 hn
  · rintro rfl
    exact value.read?_text

theorem text_injective : Function.Injective text := by
  intro value other htext
  have hread : read? value.text = some other := by rw [htext, other.read?_text]
  exact Option.some.inj (value.read?_text.symm.trans hread)

end Value

/-! ### Blanks -/

theorem Ty.lacks_blank_text (ty : Ty) : Lacks ' ' ty.text := by
  cases ty <;> decide

theorem Value.lacks_text {c : Char} (hc : c = ' ' ∨ c = '\n') (value : Value) : Lacks c value.text := by
  cases value with
  | int n => obtain rfl | rfl := hc <;> exact lacks_repr_int (by decide) (by decide) n.toInt
  | bool b => obtain rfl | rfl := hc <;> cases b <;> decide
  | error => obtain rfl | rfl := hc <;> decide

/-! ### The last place of a character -/

/-- What stands before and after the last place of a character in a text. -/
def cutLast? (c : Char) (text : String) : Option (String × String) :=
  if text.toList.rdropWhile (· != c) = [] then none
  else some (String.ofList (text.toList.rdropWhile (· != c)).dropLast,
    String.ofList (text.toList.rtakeWhile (· != c)))

section

variable {c : Char} {text front last : String}

/-- Where a character does not come again, the text is cut there. -/
theorem cutLast?_append (front : String) (hlast : Lacks c last) :
    cutLast? c (front ++ String.singleton c ++ last) = some (front, last) := by
  have hskipped : ∀ d ∈ last.toList.reverse, (d != c) = true := by
    intro d hd
    rw [bne_iff_ne]
    rintro rfl
    exact hlast (List.mem_reverse.1 hd)
  have hstop : ¬(c != c) = true := by simp
  have hreverse : (front ++ String.singleton c ++ last).toList.reverse =
      last.toList.reverse ++ c :: front.toList.reverse := by
    simp only [String.toList_append, String.toList_singleton, List.reverse_append, List.reverse_singleton]
    rfl
  have hupTo : (front ++ String.singleton c ++ last).toList.rdropWhile (· != c) = front.toList ++ [c] := by
    rw [List.rdropWhile, hreverse, List.dropWhile_append_of_pos hskipped, List.dropWhile_cons_of_neg (p := (· != c)) hstop,
      List.reverse_cons, List.reverse_reverse]
  have hafter : (front ++ String.singleton c ++ last).toList.rtakeWhile (· != c) = last.toList := by
    rw [List.rtakeWhile, hreverse, List.takeWhile_append_of_pos hskipped, List.takeWhile_cons_of_neg (p := (· != c)) hstop,
      List.append_nil, List.reverse_reverse]
  rw [cutLast?, hupTo, hafter]
  simp

theorem cutLast?_eq_some_iff :
    cutLast? c text = some (front, last) ↔ text = front ++ String.singleton c ++ last ∧ Lacks c last := by
  constructor
  · intro hcut
    unfold cutLast? at hcut
    split at hcut
    · cases hcut
    · next hne =>
      cases hcut
      have hend : (text.toList.rdropWhile (· != c)).getLast hne = c := by
        simpa using List.rdropWhile_last_not (· != c) text.toList hne
      have hupTo : (text.toList.rdropWhile (· != c)).dropLast ++ [c] = text.toList.rdropWhile (· != c) := by
        conv_rhs => rw [← List.dropLast_append_getLast hne, hend]
      constructor
      · rw [← String.toList_inj]
        simp only [String.toList_append, String.toList_ofList, String.toList_singleton]
        rw [hupTo, List.rdropWhile_append_rtakeWhile]
      · intro hmem
        rw [String.toList_ofList] at hmem
        simpa using List.mem_rtakeWhile_imp hmem
  · rintro ⟨rfl, hlast⟩
    exact cutLast?_append front hlast

end

end SymbolTable
