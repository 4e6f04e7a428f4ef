/-!
# Laying text out in a field

Values and type names are written into fields of a chosen width. A layout first cuts the text to its
precision and then fills it up to its width. Both count characters, that is, Unicode scalar values. What
the rest of the library uses is `Layout.pad`, and `column` for the columns of a table.
-/

namespace SymbolTable

/-- The side of the field on which the text stands. -/
inductive Alignment where
  | left
  | center
  | right
  deriving DecidableEq

namespace Alignment

/-- The sign that asks for an alignment. -/
def ofChar? : Char → Option Alignment
  | '<' => some .left
  | '^' => some .center
  | '>' => some .right
  | _ => none

/-- How much of the free room goes before the text; the centre leaves an odd place after it. -/
def leading : Alignment → Nat → Nat
  | .left, _ => 0
  | .center, room => room / 2
  | .right, room => room

theorem leading_le (alignment : Alignment) (room : Nat) : alignment.leading room ≤ room := by
  cases alignment
  · exact Nat.zero_le room
  · exact Nat.div_le_self room 2
  · exact Nat.le_refl room

end Alignment

/-- Requests that concern the writing of numbers, and so change nothing in a text. -/
inductive Flag where
  | zero
  | plus
  | alternate
  deriving DecidableEq

/-- The sign that sets a flag. -/
def Flag.ofChar? : Char → Option Flag
  | '0' => some .zero
  | '+' => some .plus
  | '#' => some .alternate
  | _ => none

/-- How a field is filled. -/
inductive Filling where
  | plain
  | aligned (fill : Char) (alignment : Alignment)
  | flagged (flag : Flag)
  deriving DecidableEq

namespace Filling

/-- Text stands on the left unless the field says otherwise. -/
def alignment : Filling → Alignment
  | .aligned _ alignment => alignment
  | _ => .left

/-- Free room is blank unless the field says otherwise. -/
def fill : Filling → Char
  | .aligned fill _ => fill
  | _ => ' '

/-- Reads a filling: nothing, an alignment with or without a fill character before it, or a flag. -/
def parse? (text : String) : Option Filling :=
  match text.toList with
  | [] => some .plain
  | [c] => ((Alignment.ofChar? c).map (.aligned ' ')).or ((Flag.ofChar? c).map .flagged)
  | [fill, c] => (Alignment.ofChar? c).map (.aligned fill)
  | _ => none

end Filling

/-- A field: how it is filled, its least width, and the most characters of the text it shows. -/
structure Layout where
  filling : Filling := .plain
  width : Nat := 0
  precision : Option Nat := none

namespace Layout

/-- The characters of a text that the field shows. -/
def shown (layout : Layout) (text : List Char) : List Char :=
  match layout.precision with
  | none => text
  | some precision => text.take precision

/-- The text cut to the precision, then filled up to the width. -/
def pad (layout : Layout) (text : String) : String :=
  let shown := layout.shown text.toList
  let room := layout.width - shown.length
  let before := layout.filling.alignment.leading room
  String.ofList (List.replicate before layout.filling.fill ++ shown
    ++ List.replicate (room - before) layout.filling.fill)

/-- A field without width and precision leaves a text as it is. -/
theorem pad_default (text : String) : ({} : Layout).pad text = text := by
  simp [pad, shown, Filling.alignment, Alignment.leading]

end Layout

/-- A text at the left of a column, which a longer text overruns. -/
def column (width : Nat) (text : String) : String :=
  Layout.pad ⟨.plain, width, none⟩ text

end SymbolTable
