import Mathlib.Logic.ExistsUnique
import SymbolTable.Proofs.Declarations.Roster
import SymbolTable.Proofs.Expr.Evaluation

/-!
# Comparisons and one order

The comparisons of a type all look at one three-way answer, so negation and exchange of the sides turn one comparison into
another whatever the answer is. If the answers are those of a total order, the comparisons are the relations of that order
(`Comparison.Coherent`). For lists the order is the lexicographic one, which `Comparison.Precedes` says without a recursion,
and texts are ordered as the lists of their characters. A comparison of integer symbols stores what holds between their
values, so what the laws say of values can be seen in the temporaries (`Comparison.comparisons_coherent`).
-/

namespace SymbolTable

namespace Comparison

/-- The comparison that holds where a comparison does not. -/
def complement : Comparison → Comparison
  | .lt => .ge
  | .gt => .le
  | .le => .gt
  | .ge => .lt
  | .eq => .ne
  | .ne => .eq

/-- The comparison that says the same with its sides exchanged. -/
def converse : Comparison → Comparison
  | .lt => .gt
  | .gt => .lt
  | .le => .ge
  | .ge => .le
  | .eq => .eq
  | .ne => .ne

theorem accepts_complement (op : Comparison) (order : Ordering) : op.complement.accepts order = !(op.accepts order) := by
  cases op <;> cases order <;> rfl

theorem accepts_converse (op : Comparison) (order : Ordering) : op.converse.accepts order = op.accepts order.swap := by
  cases op <;> cases order <;> rfl

/-- Each of the three answers is accepted by one of the three comparisons that ask for one answer. -/
theorem existsUnique_accepts (order : Ordering) : ∃! op, op ∈ [lt, eq, gt] ∧ op.accepts order = true := by
  cases order with
  | lt => exact ⟨lt, by decide, fun op => by cases op <;> decide⟩
  | eq => exact ⟨eq, by decide, fun op => by cases op <;> decide⟩
  | gt => exact ⟨gt, by decide, fun op => by cases op <;> decide⟩

section

variable {α : Type} [Ord α]

theorem holds_lt_iff {a b : α} : lt.holds a b = true ↔ compare a b = .lt := Ordering.isLT_iff_eq_lt

theorem holds_eq_iff {a b : α} : eq.holds a b = true ↔ compare a b = .eq := Ordering.isEq_iff_eq_eq

theorem holds_complement (op : Comparison) (a b : α) : op.complement.holds a b = !(op.holds a b) :=
  op.accepts_complement _

theorem holds_converse [Std.OrientedOrd α] (op : Comparison) (a b : α) : op.converse.holds b a = op.holds a b := by
  have hswap : (compare b a).swap = compare a b := Std.OrientedOrd.eq_swap.symm
  rw [holds, accepts_converse, hswap, holds]

variable (α) in
/-- The comparisons of a type are the relations of one total order. -/
structure Coherent : Prop where
  trichotomy : ∀ a b : α, ∃! op, op ∈ [lt, eq, gt] ∧ op.holds a b = true
  complement : ∀ (op : Comparison) (a b : α), op.complement.holds a b = !(op.holds a b)
  converse : ∀ (op : Comparison) (a b : α), op.converse.holds b a = op.holds a b
  lt_trans : ∀ a b c : α, lt.holds a b = true → lt.holds b c = true → lt.holds a c = true
  le_trans : ∀ a b c : α, le.holds a b = true → le.holds b c = true → le.holds a c = true
  antisymm : ∀ a b : α, le.holds a b = true → le.holds b a = true → eq.holds a b = true

theorem coherent [Std.TransOrd α] : Coherent α where
  trichotomy a b := existsUnique_accepts (compare a b)
  complement := holds_complement
  converse := holds_converse
  lt_trans _ _ _ hab hbc := holds_lt_iff.2 (Std.TransCmp.lt_trans (holds_lt_iff.1 hab) (holds_lt_iff.1 hbc))
  le_trans _ _ _ hab hbc := Std.TransOrd.isLE_trans hab hbc
  antisymm _ _ hab hba := holds_eq_iff.2 (Std.OrientedCmp.isLE_antisymm hab hba)

/-- The comparisons of a type are the relations of a given order, and only a value itself equals it. -/
structure OrderedBy (before : α → α → Prop) : Prop extends Coherent α where
  lt_iff : ∀ a b, lt.holds a b = true ↔ before a b
  eq_iff : ∀ a b : α, eq.holds a b = true ↔ a = b

theorem orderedBy [Std.TransOrd α] [Std.LawfulEqOrd α] {before : α → α → Prop}
    (hbefore : ∀ a b, compare a b = .lt ↔ before a b) : OrderedBy before where
  toCoherent := coherent
  lt_iff a b := holds_lt_iff.trans (hbefore a b)
  eq_iff _ _ := holds_eq_iff.trans Std.LawfulEqOrd.compare_eq_iff_eq

end

/-! ### Lexicographic order -/

section

variable {α : Type} {before : α → α → Prop}

/-- A list stands before another in lexicographic order: it is a beginning of the other, which is longer, or its item comes
before that of the other at the first place where they differ. -/
def Precedes (before : α → α → Prop) (left right : List α) : Prop :=
  (∃ item rest, right = left ++ item :: rest) ∨
    ∃ shared item other leftRest rightRest, left = shared ++ item :: leftRest ∧ right = shared ++ other :: rightRest ∧
      before item other

theorem precedes_nil_cons (item : α) (rest : List α) : Precedes before [] (item :: rest) := .inl ⟨item, rest, rfl⟩

theorem not_precedes_nil (left : List α) : ¬Precedes before left [] := by
  rintro (⟨item, rest, hright⟩ | ⟨shared, item, other, leftRest, rightRest, -, hright, -⟩)
  · exact List.append_ne_nil_of_right_ne_nil left (List.cons_ne_nil item rest) hright.symm
  · exact List.append_ne_nil_of_right_ne_nil shared (List.cons_ne_nil other rightRest) hright.symm

theorem precedes_cons_cons {a b : α} {as bs : List α} :
    Precedes before (a :: as) (b :: bs) ↔ before a b ∨ a = b ∧ Precedes before as bs := by
  constructor
  · rintro (⟨item, rest, hright⟩ | ⟨shared, item, other, leftRest, rightRest, hleft, hright, hbefore⟩)
    · obtain ⟨rfl, hrest⟩ := List.cons.inj hright
      exact .inr ⟨rfl, .inl ⟨item, rest, hrest⟩⟩
    · cases shared with
      | nil =>
        obtain ⟨rfl, -⟩ := List.cons.inj hleft
        obtain ⟨rfl, -⟩ := List.cons.inj hright
        exact .inl hbefore
      | cons first shared =>
        rw [List.cons_append, List.cons.injEq] at hleft hright
        refine .inr ⟨hleft.1.trans hright.1.symm, .inr ?_⟩
        exact ⟨shared, item, other, leftRest, rightRest, hleft.2, hright.2, hbefore⟩
  · rintro (hbefore | ⟨rfl, ⟨item, rest, rfl⟩ | ⟨shared, item, other, leftRest, rightRest, rfl, rfl, hbefore⟩⟩)
    · exact .inr ⟨[], a, b, as, bs, rfl, rfl, hbefore⟩
    · exact .inl ⟨item, rest, rfl⟩
    · exact .inr ⟨a :: shared, item, other, leftRest, rightRest, rfl, rfl, hbefore⟩

/-- A relation that goes through two lists item by item is the lexicographic order. -/
theorem iff_precedes (relation : List α → List α → Prop) (hnil : ∀ left, ¬relation left [])
    (hend : ∀ item rest, relation [] (item :: rest))
    (hstep : ∀ a b as bs, relation (a :: as) (b :: bs) ↔ before a b ∨ a = b ∧ relation as bs) (left right : List α) :
    relation left right ↔ Precedes before left right := by
  induction left generalizing right with
  | nil =>
    cases right with
    | nil => exact iff_of_false (hnil []) (not_precedes_nil [])
    | cons b bs => exact iff_of_true (hend b bs) (precedes_nil_cons b bs)
  | cons a as ih =>
    cases right with
    | nil => exact iff_of_false (hnil (a :: as)) (not_precedes_nil (a :: as))
    | cons b bs => rw [hstep, precedes_cons_cons, ih]

/-- Lists of ordered items are ordered lexicographically. -/
theorem compare_list_iff [Ord α] [Std.LawfulEqOrd α] (hbefore : ∀ a b, compare a b = .lt ↔ before a b)
    (left right : List α) : compare left right = .lt ↔ Precedes before left right := by
  refine iff_precedes (fun left right => compare left right = .lt) ?_ ?_ ?_ left right
  · intro left
    cases left <;> nofun
  · intro item rest
    rfl
  · intro a b as bs
    rw [List.compare_cons_cons, Ordering.then_eq_lt, hbefore, Std.LawfulEqOrd.compare_eq_iff_eq]

end

/-! ### Orders of the types at hand -/

theorem compare_bool_iff (a b : Bool) : compare a b = .lt ↔ a = false ∧ b = true := by
  cases a <;> cases b <;> decide

theorem compare_word_iff (a b : Int64) : compare a b = .lt ↔ a.toInt < b.toInt := by
  rw [compare_word, Int.compare_eq_lt]

/-- Texts are ordered as the lists of their characters, and characters by their code points. -/
theorem compare_string_iff (text other : String) :
    compare text other = .lt ↔ Precedes (fun c d : Char => c.toNat < d.toNat) text.toList other.toList := by
  calc compare text other = .lt
      ↔ text.toList < other.toList := compareOfLessAndEq_eq_lt.trans String.lt_iff
    _ ↔ Precedes (fun c d : Char => c.toNat < d.toNat) text.toList other.toList :=
        iff_precedes (fun left right => left < right) List.not_lt_nil List.nil_lt_cons
          (fun _ _ _ _ => List.cons_lt_cons_iff) _ _

/-! ### Stored comparisons -/

section

variable (environment : Environment) (context later : Context) (op : Comparison) (leftName rightName : String)
  (a b : Int64)

/-- A comparison of integers creates a temporary that tells whether it holds. -/
theorem yields_operate_word :
    Environment.Yields (environment.operate context (.comparison op) ⟨leftName, .int a⟩ ⟨rightName, .int b⟩)
      ⟨environment.supply.name, .bool (op.holds a b)⟩ :=
  ⟨environment.nextTemporary, rfl, environment.get?_nextTemporary _⟩

/-- A comparison and the negation of its converse with the operands exchanged leave opposite results. -/
theorem opposite_results :
    let first := environment.operate context (.comparison op) ⟨leftName, .int a⟩ ⟨rightName, .int b⟩
    let second := first.state.operate later (.comparison op.complement.converse) ⟨rightName, .int b⟩ ⟨leftName, .int a⟩
    ∃ handle other truth, first.result = .ok handle ∧ second.result = .ok other ∧
      (second.state.get? handle).map Symbol.value = some (.bool truth) ∧
      (second.state.get? other).map Symbol.value = some (.bool !truth) := by
  intro first second
  have hopposite : op.complement.converse.holds b a = !(op.holds a b) :=
    (holds_converse op.complement a b).trans (holds_complement op a b)
  have hfirst : first.state.get? environment.nextTemporary = some ⟨environment.supply.name, .bool (op.holds a b)⟩ :=
    environment.get?_nextTemporary _
  have hkept : second.state.get? environment.nextTemporary = some ⟨environment.supply.name, .bool (op.holds a b)⟩ :=
    (Environment.Extends.push first.state _).get?_later hfirst
  have hsecond : second.state.get? first.state.nextTemporary =
      some ⟨first.state.supply.name, .bool (op.complement.converse.holds b a)⟩ := first.state.get?_nextTemporary _
  refine ⟨environment.nextTemporary, first.state.nextTemporary, op.holds a b, rfl, rfl, ?_, ?_⟩
  · rw [hkept, Option.map_some]
  · rw [hsecond, Option.map_some, hopposite]

end

/-- The comparisons of every totally ordered type are the relations of its order; for integers, booleans, texts and lists of
integers it is said which order that is. In every environment a comparison of integers stores what holds between them, so
that the results of two comparisons that contradict each other are opposite, such as `a < b` and `b <= a`. -/
theorem comparisons_coherent :
    (∀ (α : Type) [Ord α] [Std.TransOrd α], Coherent α) ∧
    OrderedBy (fun a b : Int64 => a.toInt < b.toInt) ∧
    OrderedBy (fun a b : Bool => a = false ∧ b = true) ∧
    OrderedBy (fun text other : String =>
      Precedes (fun c d : Char => c.toNat < d.toNat) text.toList other.toList) ∧
    OrderedBy (Precedes fun a b : Int64 => a.toInt < b.toInt) ∧
    (∀ (environment : Environment) (context : Context) (op : Comparison) (leftName rightName : String) (a b : Int64),
      Environment.Yields (environment.operate context (.comparison op) ⟨leftName, .int a⟩ ⟨rightName, .int b⟩)
        ⟨environment.supply.name, .bool (op.holds a b)⟩) ∧
    ∀ (environment : Environment) (context later : Context) (op : Comparison) (leftName rightName : String)
      (a b : Int64),
      let first := environment.operate context (.comparison op) ⟨leftName, .int a⟩ ⟨rightName, .int b⟩
      let second :=
        first.state.operate later (.comparison op.complement.converse) ⟨rightName, .int b⟩ ⟨leftName, .int a⟩
      ∃ handle other truth, first.result = .ok handle ∧ second.result = .ok other ∧
        (second.state.get? handle).map Symbol.value = some (.bool truth) ∧
        (second.state.get? other).map Symbol.value = some (.bool !truth) := by
  refine ⟨fun α _ _ => coherent, ?_, ?_, ?_, ?_, yields_operate_word, opposite_results⟩
  · exact orderedBy compare_word_iff
  · exact orderedBy compare_bool_iff
  · exact orderedBy compare_string_iff
  · exact orderedBy (compare_list_iff compare_word_iff)

/-- Lists of three lengths, the first of which is a beginning of the second. -/
theorem comparisons_coherent_lists :
    (lt.holds [1, 2] ([1, 2, -7] : List Int64) = true ∧ lt.holds [1, 2, -7] ([3] : List Int64) = true) ∧
      lt.holds [1, 2] ([3] : List Int64) = true ∧ ge.holds [1, 2] ([3] : List Int64) = false := by
  have hfirst : lt.holds [1, 2] ([1, 2, -7] : List Int64) = true := by decide
  have hsecond : lt.holds [1, 2, -7] ([3] : List Int64) = true := by decide
  have hlt := (comparisons_coherent.1 (List Int64)).lt_trans _ _ _ hfirst hsecond
  refine ⟨⟨hfirst, hsecond⟩, hlt, ?_⟩
  exact ((comparisons_coherent.1 (List Int64)).complement .lt [1, 2] [3]).trans (by rw [hlt]; rfl)

end Comparison

end SymbolTable
