import Mathlib.Data.List.Nodup
import SymbolTable.Proofs.Operator.Tokens
import SymbolTable.Proofs.Text.Lines

/-!
# Texts of faults in pieces

The text of a fault is cut at its quotes. The opening, up to the first quote, is one of a few that all read differently;
the pieces after it hold a name or an operator each, or the types and the words between them. Opening and pieces make up
the text (`Fault.text_eq_intercalate`), and as long as no name has a quote they are what the text is cut into
(`Fault.betweenQuotes_text`).
-/

namespace SymbolTable

/-! ### Types and operators -/

theorem Ty.text_injective : Function.Injective Ty.text := by
  intro ty other htext
  cases ty <;> cases other <;> first | rfl | exact absurd htext (by decide)

namespace Operator

/-- One operator for all that have the same description. -/
def representative : Operator → Operator
  | .binary (.comparison _) => .binary (.comparison .eq)
  | op => op

def representatives : List Operator :=
  [.binary (.arithmetic .add), .binary (.arithmetic .sub), .binary (.arithmetic .mul), .binary (.arithmetic .div),
    .binary (.comparison .eq), .binary (.connective .and), .binary (.connective .or), .not]

theorem representative_mem (op : Operator) : op.representative ∈ representatives := by
  rcases op with ((op | op | op) | _)
  · cases op <;> decide
  · exact (by decide : .binary (.comparison .eq) ∈ representatives)
  · cases op <;> decide
  · decide

@[simp] theorem isComparison_representative (op : Operator) : op.representative.isComparison = op.isComparison := by
  rcases op with ((op | op | op) | _) <;> rfl

@[simp] theorem description_representative (op : Operator) : op.representative.description = op.description := by
  rcases op with ((op | op | op) | _) <;> rfl

end Operator

/-! ### Openings -/

/-- How the text of a mismatch starts, up to its first quote. -/
inductive Mismatch.Opening where
  | unary (op : Operator)
  | binary (op : Operator)
  | ordering
  deriving DecidableEq

namespace Mismatch.Opening

def text : Opening → String
  | .unary .not => "Logical NOT requires boolean operand, got "
  | .unary op => "Cannot perform " ++ op.description ++ " on "
  | .binary (.binary (.comparison _)) => "Cannot compare "
  | .binary (.binary (.connective .and)) => "Logical AND requires boolean operands, got "
  | .binary (.binary (.connective .or)) => "Logical OR requires boolean operands, got "
  | .binary op => "Cannot perform " ++ op.description ++ " between "
  | .ordering => "Cannot perform "

def all : List Opening :=
  .ordering :: (Operator.representatives.map .unary ++ Operator.representatives.map .binary)

end Mismatch.Opening

/-- How the text of a fault starts, up to its first quote. -/
inductive Fault.Opening where
  | mismatch (opening : Mismatch.Opening)
  | divisionByZero
  | overflow (op : Operator)
  | operandCount
  | variable
  | store (found : Ty)
  deriving DecidableEq

namespace Fault.Opening

def text : Opening → String
  | .mismatch opening => opening.text
  | .divisionByZero => "Division by zero"
  | .overflow op => "Integer overflow in " ++ op.description
  | .operandCount => "Wrong number of operands for "
  | .variable => "Variable "
  | .store found => "Cannot store " ++ found.text ++ " value in "

def all : List Opening :=
  [.divisionByZero, .operandCount, .variable, .store .int, .store .bool, .store .unknown]
    ++ (Operator.representatives.map .overflow ++ Mismatch.Opening.all.map .mismatch)

/-- No two openings read the same. -/
theorem text_injOn {opening other : Opening} (hopening : opening ∈ all) (hother : other ∈ all)
    (htext : opening.text = other.text) : opening = other :=
  List.inj_on_of_nodup_map (by decide +kernel : (all.map text).Nodup) hopening hother htext

theorem lacks_quote_text {opening : Opening} (hopening : opening ∈ all) : Lacks '\'' opening.text :=
  (by decide +kernel : ∀ opening ∈ all, Lacks '\'' opening.text) opening hopening

end Fault.Opening

/-! ### Operands -/

namespace Operand

/-- The pieces of an operand, with what is written after it. -/
def pieces (operand : Operand) (after : String) : List String :=
  [operand.name, " (" ++ operand.ty.text ++ ")" ++ after]

theorem intercalate_pieces (operand : Operand) (before after : String) :
    "'".intercalate (before :: operand.pieces after) = before ++ operand.text ++ after := by
  simp only [pieces, String.intercalate_cons_cons, String.intercalate_singleton]
  show _ = before ++ ("'" ++ operand.name ++ ("'" ++ " (") ++ operand.ty.text ++ ")") ++ after
  simp only [String.append_assoc]

theorem intercalate_pieces_append (left right : Operand) (before joint : String) :
    "'".intercalate (before :: (left.pieces joint ++ right.pieces "")) =
      before ++ left.text ++ joint ++ right.text := by
  have hcut : "'".intercalate (before :: (left.pieces joint ++ right.pieces "")) =
      before ++ "'" ++ (left.name ++ "'" ++
        "'".intercalate ((" (" ++ left.ty.text ++ ")" ++ joint) :: right.pieces "")) := by
    simp only [pieces, List.cons_append, List.nil_append, String.intercalate_cons_cons]
  calc _ = _ := hcut
    _ = before ++ ("'" ++ left.name ++ ("'" ++ " (") ++ left.ty.text ++ ")") ++ joint ++ right.text := by
        simp only [intercalate_pieces, String.append_assoc, String.append_empty]

theorem pieces_inj {operand other : Operand} {after : String} (hpieces : operand.pieces after = other.pieces after) :
    operand = other := by
  obtain ⟨name, ty⟩ := operand
  obtain ⟨otherName, otherTy⟩ := other
  obtain ⟨rfl, hrest⟩ := List.cons.inj hpieces
  have htyped : " (" ++ ty.text ++ ")" ++ after = " (" ++ otherTy.text ++ ")" ++ after := (List.cons.inj hrest).1
  simp only [String.append_left_inj, String.append_right_inj] at htyped
  rw [Ty.text_injective htyped]

theorem pieces_append_inj {left right otherLeft otherRight : Operand} {joint : String}
    (hpieces : left.pieces joint ++ right.pieces "" = otherLeft.pieces joint ++ otherRight.pieces "") :
    left = otherLeft ∧ right = otherRight := by
  obtain ⟨hleft, hright⟩ := List.append_inj hpieces rfl
  exact ⟨pieces_inj hleft, pieces_inj hright⟩

theorem lacks_quote_pieces {operand : Operand} {after : String} (hname : Lacks '\'' operand.name)
    (hafter : Lacks '\'' after) : ∀ piece ∈ operand.pieces after, Lacks '\'' piece := by
  simp only [pieces, List.forall_mem_cons, lacks_append]
  exact ⟨hname, ⟨⟨⟨by decide, operand.ty.lacks_text (.inr rfl)⟩, by decide⟩, hafter⟩, List.forall_mem_nil _⟩

end Operand

/-! ### Mismatches -/

namespace Mismatch

/-- Whether the text spells the operator, which is then an ordering of operands of one type. -/
def spells (mismatch : Mismatch) : Bool :=
  match mismatch.op, mismatch.right with
  | .binary (.comparison op), some right => op.isOrdering && mismatch.left.ty == right.ty
  | _, _ => false

def opening (mismatch : Mismatch) : Opening :=
  match mismatch.right with
  | none => .unary mismatch.op.representative
  | some _ => if mismatch.spells then .ordering else .binary mismatch.op.representative

/-- What stands between two operands. -/
def joint (op : Operator) : String := if op.isComparison then " with " else " and "

/-- The pieces after the opening. -/
def pieces (mismatch : Mismatch) : List String :=
  match mismatch.right with
  | none => mismatch.left.pieces ""
  | some right =>
    if mismatch.spells then
      mismatch.op.spelling :: " comparison between " :: (mismatch.left.pieces " and " ++ right.pieces "")
    else mismatch.left.pieces (joint mismatch.op) ++ right.pieces ""

section

variable {op : Operator} {left right : Operand}

theorem spells_unary (op : Operator) (left : Operand) : spells ⟨op, left, none⟩ = false := by
  rcases op with ((op | op | op) | _) <;> rfl

theorem spells_comparison_iff {op : Comparison} :
    spells ⟨.binary (.comparison op), left, some right⟩ = true ↔ op.isOrdering = true ∧ left.ty = right.ty := by
  simp [spells]

theorem eq_comparison_of_spells (hspells : spells ⟨op, left, some right⟩ = true) :
    ∃ comparison, op = .binary (.comparison comparison) := by
  rcases op with ((op | op | op) | _)
  · cases hspells
  · exact ⟨op, rfl⟩
  · cases hspells
  · cases hspells

theorem opening_of_spells (hspells : spells ⟨op, left, some right⟩ = true) :
    opening ⟨op, left, some right⟩ = .ordering := if_pos hspells

theorem opening_of_not_spells (hspells : spells ⟨op, left, some right⟩ = false) :
    opening ⟨op, left, some right⟩ = .binary op.representative := if_neg (Bool.eq_false_iff.1 hspells)

theorem pieces_of_spells (hspells : spells ⟨op, left, some right⟩ = true) :
    pieces ⟨op, left, some right⟩ =
      op.spelling :: " comparison between " :: (left.pieces " and " ++ right.pieces "") := if_pos hspells

theorem pieces_of_not_spells (hspells : spells ⟨op, left, some right⟩ = false) :
    pieces ⟨op, left, some right⟩ = left.pieces (joint op) ++ right.pieces "" := if_neg (Bool.eq_false_iff.1 hspells)

end

theorem text_eq_intercalate (mismatch : Mismatch) :
    mismatch.text = "'".intercalate (mismatch.opening.text :: mismatch.pieces) := by
  obtain ⟨op, left, _ | right⟩ := mismatch
  · simp only [pieces, Operand.intercalate_pieces, String.append_empty]
    rcases op with ((op | op | op) | _)
    · cases op <;> rfl
    · rfl
    · cases op <;> rfl
    · rfl
  · cases hspells : spells ⟨op, left, some right⟩ with
    | false =>
      rw [opening_of_not_spells hspells, pieces_of_not_spells hspells, Operand.intercalate_pieces_append]
      rcases op with ((op | op | op) | _)
      · cases op <;> rfl
      · exact if_neg (mt spells_comparison_iff.2 (Bool.eq_false_iff.1 hspells))
      · cases op <;> rfl
      · rfl
    | true =>
      obtain ⟨op, rfl⟩ := eq_comparison_of_spells hspells
      rw [opening_of_spells hspells, pieces_of_spells hspells]
      simp only [String.intercalate_cons_cons, Operand.intercalate_pieces_append]
      calc text ⟨.binary (.comparison op), left, some right⟩
          = ("Cannot perform " ++ "'") ++ op.spelling ++ ("'" ++ " comparison between ") ++ left.text ++ " and "
              ++ right.text := if_pos (spells_comparison_iff.1 hspells)
        _ = "Cannot perform " ++ "'" ++ (op.spelling ++ "'" ++
              (" comparison between " ++ left.text ++ " and " ++ right.text)) := by
            simp only [String.append_assoc]

theorem opening_mem (mismatch : Mismatch) : mismatch.opening ∈ Opening.all := by
  have hop := mismatch.op.representative_mem
  obtain ⟨op, left, _ | right⟩ := mismatch
  · exact List.mem_cons_of_mem _ (List.mem_append_left _ (List.mem_map_of_mem hop))
  · cases hspells : spells ⟨op, left, some right⟩ with
    | false =>
      rw [opening_of_not_spells hspells]
      exact List.mem_cons_of_mem _ (List.mem_append_right _ (List.mem_map_of_mem hop))
    | true =>
      rw [opening_of_spells hspells]
      exact List.mem_cons_self

theorem lacks_quote_pieces {mismatch : Mismatch}
    (hnames : ∀ name ∈ mismatch.left.name :: (mismatch.right.map Operand.name).toList, Lacks '\'' name) :
    ∀ piece ∈ mismatch.pieces, Lacks '\'' piece := by
  obtain ⟨hleft, hright⟩ := List.forall_mem_cons.1 hnames
  obtain ⟨op, left, _ | right⟩ := mismatch
  · exact Operand.lacks_quote_pieces hleft (by decide)
  · have hright := Operand.lacks_quote_pieces (hright right.name List.mem_cons_self) (by decide : Lacks '\'' "")
    cases hspells : spells ⟨op, left, some right⟩ with
    | false =>
      have hjoint : Lacks '\'' (joint op) := by
        unfold joint
        split <;> decide
      rw [pieces_of_not_spells hspells]
      exact List.forall_mem_append.2 ⟨Operand.lacks_quote_pieces hleft hjoint, hright⟩
    | true =>
      have hleft := Operand.lacks_quote_pieces hleft (by decide : Lacks '\'' " and ")
      rw [pieces_of_spells hspells]
      simp only [List.forall_mem_cons, List.forall_mem_append]
      exact ⟨op.lacks_spelling (.inr rfl), by decide, hleft, hright⟩

end Mismatch

/-! ### Faults -/

/-- What stands between the quotes of a text. -/
def betweenQuotes (text : String) : List String := (text.toList.splitOn '\'').map String.ofList

/-- Pieces without quotes are found again when quotes are written between them. -/
theorem betweenQuotes_intercalate {parts : List String} (hparts : ∀ part ∈ parts, Lacks '\'' part) (hne : parts ≠ []) :
    betweenQuotes ("'".intercalate parts) = parts := by
  have hlists : ∀ part ∈ parts.map String.toList, '\'' ∉ part := by
    intro part hpart
    obtain ⟨text, htext, rfl⟩ := List.mem_map.1 hpart
    exact hparts text htext
  have hcut : (['\''].intercalate (parts.map String.toList)).splitOn '\'' = parts.map String.toList :=
    List.splitOn_intercalate '\'' hlists (mt List.map_eq_nil_iff.1 hne)
  calc betweenQuotes ("'".intercalate parts)
      = ((['\''].intercalate (parts.map String.toList)).splitOn '\'').map String.ofList := by
        rw [betweenQuotes, String.toList_intercalate]
        rfl
    _ = parts := by simp [hcut]

namespace Fault

def opening : Fault → Opening
  | .typeMismatch mismatch => .mismatch mismatch.opening
  | .divisionByZero => .divisionByZero
  | .overflow op => .overflow op.representative
  | .operandCount _ => .operandCount
  | .duplicateDeclaration _ | .undeclaredVariable _ => .variable
  | .valueTypeMismatch _ _ found => .store found

/-- The pieces after the opening. -/
def pieces : Fault → List String
  | .typeMismatch mismatch => mismatch.pieces
  | .divisionByZero | .overflow _ => []
  | .operandCount op => [op.spelling, ""]
  | .duplicateDeclaration name => [name, " already declared"]
  | .undeclaredVariable name => [name, " not declared"]
  | .valueTypeMismatch name expected _ => Operand.pieces ⟨name, expected⟩ ""

/-- A text is its opening and its pieces with quotes between them. -/
theorem text_eq_intercalate (fault : Fault) : fault.text = "'".intercalate (fault.opening.text :: fault.pieces) := by
  cases fault with
  | typeMismatch mismatch => exact mismatch.text_eq_intercalate
  | divisionByZero => exact (String.intercalate_singleton (t := "Division by zero")).symm
  | overflow op =>
    rw [pieces, String.intercalate_singleton]
    show "Integer overflow in " ++ op.description = "Integer overflow in " ++ op.representative.description
    rw [op.description_representative]
  | operandCount op =>
    simp only [pieces, String.intercalate_cons_cons, String.intercalate_singleton]
    show ("Wrong number of operands for " ++ "'") ++ op.spelling ++ ("'" ++ "") =
      "Wrong number of operands for " ++ "'" ++ (op.spelling ++ "'" ++ "")
    simp only [String.append_assoc]
  | duplicateDeclaration name =>
    simp only [pieces, String.intercalate_cons_cons, String.intercalate_singleton]
    show ("Variable " ++ "'") ++ name ++ ("'" ++ " already declared") =
      "Variable " ++ "'" ++ (name ++ "'" ++ " already declared")
    simp only [String.append_assoc]
  | undeclaredVariable name =>
    simp only [pieces, String.intercalate_cons_cons, String.intercalate_singleton]
    show ("Variable " ++ "'") ++ name ++ ("'" ++ " not declared") =
      "Variable " ++ "'" ++ (name ++ "'" ++ " not declared")
    simp only [String.append_assoc]
  | valueTypeMismatch name expected found =>
    simp only [pieces, Operand.intercalate_pieces, String.append_empty]
    show "Cannot store " ++ found.text ++ (" value in " ++ "'") ++ name ++ ("'" ++ " (") ++ expected.text ++ ")" =
      "Cannot store " ++ found.text ++ " value in " ++ ("'" ++ name ++ ("'" ++ " (") ++ expected.text ++ ")")
    simp only [String.append_assoc]

theorem opening_mem (fault : Fault) : fault.opening ∈ Opening.all := by
  cases fault with
  | typeMismatch mismatch =>
    exact List.mem_append_right _ (List.mem_append_right _ (List.mem_map_of_mem mismatch.opening_mem))
  | divisionByZero => decide
  | overflow op => exact List.mem_append_right _ (List.mem_append_left _ (List.mem_map_of_mem op.representative_mem))
  | operandCount op => exact (by decide : .operandCount ∈ Opening.all)
  | duplicateDeclaration name => exact (by decide : .variable ∈ Opening.all)
  | undeclaredVariable name => exact (by decide : .variable ∈ Opening.all)
  | valueTypeMismatch name expected found =>
    cases found with
    | int => exact (by decide : .store .int ∈ Opening.all)
    | bool => exact (by decide : .store .bool ∈ Opening.all)
    | unknown => exact (by decide : .store .unknown ∈ Opening.all)

theorem lacks_quote_pieces {fault : Fault} (hnames : ∀ name ∈ fault.names, Lacks '\'' name) :
    ∀ piece ∈ fault.pieces, Lacks '\'' piece := by
  cases fault with
  | typeMismatch mismatch => exact Mismatch.lacks_quote_pieces hnames
  | divisionByZero => exact List.forall_mem_nil _
  | overflow op => exact List.forall_mem_nil _
  | operandCount op =>
    simp only [pieces, List.forall_mem_cons]
    exact ⟨op.lacks_spelling (.inr rfl), by decide, List.forall_mem_nil _⟩
  | duplicateDeclaration name =>
    simp only [pieces, List.forall_mem_cons]
    exact ⟨hnames name List.mem_cons_self, by decide, List.forall_mem_nil _⟩
  | undeclaredVariable name =>
    simp only [pieces, List.forall_mem_cons]
    exact ⟨hnames name List.mem_cons_self, by decide, List.forall_mem_nil _⟩
  | valueTypeMismatch name expected found =>
    exact Operand.lacks_quote_pieces (hnames name List.mem_cons_self) (by decide)

/-- A text is cut into its opening and its pieces, unless a name has a quote. -/
theorem betweenQuotes_text {fault : Fault} (hnames : ∀ name ∈ fault.names, Lacks '\'' name) :
    betweenQuotes fault.text = fault.opening.text :: fault.pieces := by
  have hparts : ∀ part ∈ fault.opening.text :: fault.pieces, Lacks '\'' part :=
    List.forall_mem_cons.2 ⟨Opening.lacks_quote_text fault.opening_mem, lacks_quote_pieces hnames⟩
  rw [text_eq_intercalate, betweenQuotes_intercalate hparts nofun]

end Fault

end SymbolTable
