import SymbolTable.Symbol
import SymbolTable.Proofs.Text.Values

/-!
# Texts tell symbols apart

The text of a symbol is read from its end: the value is what stands after the last blank, an equality sign is what stands
before that, and the type is what stands before the sign. What is left is the name with a colon, so a name can be anything,
even the text of another symbol. Exactly the texts of this form are read (`readBinding?_eq_some_iff`), and the text of a
symbol is read as its name, its type and its value (`Symbol.texts_unambiguous`).
-/

namespace SymbolTable

/-- Reads a text of the form `name: type = value` from its end. -/
def readBinding? (text : String) : Option (String × Ty × Value) := do
  let (typed, valueText) ← cutLast? ' ' text
  let (typed, sign) ← cutLast? ' ' typed
  let (named, tyText) ← cutLast? ' ' typed
  let (name, rest) ← cutLast? ':' named
  let ty ← Ty.read? tyText
  let value ← Value.read? valueText
  if sign = "=" ∧ rest = "" then some (name, ty, value) else none

/-- A text of the form, cut at the places where it is read. -/
theorem binding_eq (name : String) (ty : Ty) (value : Value) :
    name ++ ": " ++ ty.text ++ " = " ++ value.text =
      name ++ String.singleton ':' ++ "" ++ String.singleton ' ' ++ ty.text ++ String.singleton ' ' ++ "=" ++
        String.singleton ' ' ++ value.text := by
  show name ++ (String.singleton ':' ++ ("" ++ String.singleton ' ')) ++ ty.text ++
    (String.singleton ' ' ++ ("=" ++ String.singleton ' ')) ++ value.text = _
  simp only [String.append_assoc]

theorem readBinding?_eq_some_iff {text name : String} {ty : Ty} {value : Value} :
    readBinding? text = some (name, ty, value) ↔ text = name ++ ": " ++ ty.text ++ " = " ++ value.text := by
  simp only [readBinding?, Option.bind_eq_bind, Option.bind_eq_some_iff, Prod.exists, cutLast?_eq_some_iff,
    Ty.read?_eq_some_iff, Value.read?_eq_some_iff, Option.ite_none_right_eq_some, Option.some.injEq, Prod.mk.injEq,
    binding_eq]
  constructor
  · rintro ⟨_, _, ⟨rfl, -⟩, _, _, ⟨rfl, -⟩, _, _, ⟨rfl, -⟩, _, _, ⟨rfl, -⟩, _, rfl, _, rfl, ⟨rfl, rfl⟩, rfl, rfl, rfl⟩
    rfl
  · rintro rfl
    exact ⟨_, _, ⟨rfl, value.lacks_text (.inl rfl)⟩, _, _, ⟨rfl, by decide⟩, _, _, ⟨rfl, ty.lacks_blank_text⟩, _, _,
      ⟨rfl, by decide⟩, ty, rfl, value, rfl, ⟨rfl, rfl⟩, rfl, rfl, rfl⟩

namespace Symbol

theorem readBinding?_text (symbol : Symbol) : readBinding? symbol.text = some (symbol.name, symbol.ty, symbol.value) :=
  readBinding?_eq_some_iff.2 rfl

theorem text_injective : Function.Injective text := by
  intro symbol other htext
  have hread : some (symbol.name, symbol.ty, symbol.value) = some (other.name, other.ty, other.value) := by
    rw [← symbol.readBinding?_text, htext, other.readBinding?_text]
  rw [Option.some.injEq, Prod.mk.injEq, Prod.mk.injEq] at hread
  obtain ⟨hname, -, hvalue⟩ := hread
  calc symbol = ⟨symbol.name, symbol.value⟩ := rfl
    _ = ⟨other.name, other.value⟩ := by rw [hname, hvalue]

/-- Name, type and value of a symbol are recovered from its text, and no text that is not of the form is read. So two symbols
have the same text exactly if they are the same, whatever their names are. -/
theorem texts_unambiguous :
    (∀ symbol : Symbol, readBinding? symbol.text = some (symbol.name, symbol.ty, symbol.value)) ∧
    (∀ text name ty value, readBinding? text = some (name, ty, value) ↔
      text = name ++ ": " ++ ty.text ++ " = " ++ value.text) ∧
    ∀ symbol other : Symbol, symbol.text = other.text ↔ symbol = other :=
  ⟨readBinding?_text, fun _ _ _ _ => readBinding?_eq_some_iff, fun _ _ => text_injective.eq_iff⟩

end Symbol

end SymbolTable
