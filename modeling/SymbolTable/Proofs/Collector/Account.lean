import SymbolTable.Collector
import SymbolTable.Proofs.Text.Lines

/-!
# What a collector accounts for

A collector is handed diagnostics, directly or in results that are recorded. However many there are, the first of them
are stored, as many as the limit allows, and the others are counted (`Accounts`), so that nothing is lost silently:
everything that a collector tells agrees with the diagnostics that it was handed (`accounts_for_entries`).
-/

namespace SymbolTable

namespace Collector

/-- What a collector is handed. -/
inductive Entry : Type 1 where
  | push (diagnostic : Diagnostic)
  | record {α : Type} (result : Except Diagnostic α)

namespace Entry

/-- The diagnostic that is handed over, if there is one. -/
def diagnostic? : Entry → Option Diagnostic
  | .push diagnostic => some diagnostic
  | .record (.error diagnostic) => some diagnostic
  | .record (.ok _) => none

end Entry

/-- The collector after an entry, and what is logged. -/
def enter (collector : Collector) : Entry → Collector × Log
  | .push diagnostic => collector.push diagnostic
  | .record result => (collector.record result).2

/-- The collector after some entries, and what is logged. -/
def enterAll (collector : Collector) : List Entry → Collector × Log
  | [] => (collector, [])
  | entry :: entries =>
    let entered := collector.enter entry
    let rest := entered.1.enterAll entries
    (rest.1, entered.2 ++ rest.2)

/-- How many of a number of diagnostics are stored. -/
def room (limit : Option Nat) (count : Nat) : Nat := limit.elim count (min count)

theorem room_le (limit : Option Nat) (count : Nat) : room limit count ≤ count := by
  cases limit with
  | none => exact Nat.le_refl count
  | some limit => exact Nat.min_le_left count limit

/-- A collector stores the first of some diagnostics and counts the others. -/
structure Accounts (collector : Collector) (diagnostics : List Diagnostic) : Prop where
  stored_eq : collector.stored.toList = diagnostics.take (room collector.limit diagnostics.length)
  dropped_eq : collector.dropped = diagnostics.length - room collector.limit diagnostics.length

theorem accounts_new (limit : Option Nat) : Accounts { limit } [] where
  stored_eq := List.take_nil.symm
  dropped_eq := (Nat.zero_sub _).symm

/-- An entry without a diagnostic changes nothing, and one with a diagnostic is a push. -/
theorem enter_eq (collector : Collector) (entry : Entry) :
    collector.enter entry = entry.diagnostic?.elim (collector, []) collector.push := by
  cases entry with
  | push diagnostic => rfl
  | record result => cases result <;> rfl

theorem limit_push (collector : Collector) (diagnostic : Diagnostic) :
    (collector.push diagnostic).1.limit = collector.limit := by
  unfold push
  split <;> rfl

namespace Accounts

variable {collector : Collector} {diagnostics : List Diagnostic}

theorem size_eq (haccounts : collector.Accounts diagnostics) :
    collector.size = room collector.limit diagnostics.length := by
  calc collector.size = collector.stored.toList.length := Array.length_toList.symm
    _ = min (room collector.limit diagnostics.length) diagnostics.length := by
      rw [haccounts.stored_eq, List.length_take]
    _ = room collector.limit diagnostics.length := Nat.min_eq_left (room_le _ _)

/-- A full collector has stored as many diagnostics as its limit says. -/
theorem room_of_isFull (haccounts : collector.Accounts diagnostics) (hfull : collector.isFull = true) :
    room collector.limit (diagnostics.length + 1) = room collector.limit diagnostics.length := by
  obtain ⟨limit, hlimit, hle⟩ := (Option.any_eq_true ..).1 hfull
  have hle := of_decide_eq_true hle
  rw [haccounts.size_eq, hlimit] at hle
  simp only [hlimit, room, Option.elim_some] at hle ⊢
  omega

/-- A collector that is not full has stored all diagnostics so far and has room for another. -/
theorem room_of_not_isFull (haccounts : collector.Accounts diagnostics) (hfull : collector.isFull = false) :
    room collector.limit diagnostics.length = diagnostics.length ∧
      room collector.limit (diagnostics.length + 1) = diagnostics.length + 1 := by
  cases hlimit : collector.limit with
  | none => exact ⟨rfl, rfl⟩
  | some limit =>
    have hlt : ¬limit ≤ collector.size := by
      rw [isFull, hlimit] at hfull
      exact of_decide_eq_false hfull
    rw [haccounts.size_eq, hlimit] at hlt
    simp only [room, Option.elim_some] at hlt ⊢
    omega

theorem push (haccounts : collector.Accounts diagnostics) (diagnostic : Diagnostic) :
    (collector.push diagnostic).1.Accounts (diagnostics ++ [diagnostic]) := by
  have hlength : (diagnostics ++ [diagnostic]).length = diagnostics.length + 1 := List.length_append
  have hle := room_le collector.limit diagnostics.length
  cases hfull : collector.isFull with
  | true =>
    have hroom := haccounts.room_of_isFull hfull
    simp only [Collector.push, hfull, if_true]
    refine ⟨?_, ?_⟩
    · rw [hlength, hroom, List.take_append_of_le_length hle, haccounts.stored_eq]
    · rw [hlength, hroom, haccounts.dropped_eq, Nat.succ_sub hle]
  | false =>
    obtain ⟨hall, hmore⟩ := haccounts.room_of_not_isFull hfull
    simp only [Collector.push, hfull, Bool.false_eq_true, if_false]
    refine ⟨?_, ?_⟩
    · rw [hlength, hmore, ← hlength, List.take_length, Array.toList_push, haccounts.stored_eq, hall, List.take_length]
    · rw [hlength, hmore, haccounts.dropped_eq, hall, Nat.sub_self, Nat.sub_self]

theorem hasErrors_iff (haccounts : collector.Accounts diagnostics) :
    collector.hasErrors = true ↔ 0 < diagnostics.length := by
  have hsize := haccounts.size_eq
  have hdropped := haccounts.dropped_eq
  have hle := room_le collector.limit diagnostics.length
  simp only [size] at hsize
  simp only [hasErrors, Collector.isEmpty, Array.isEmpty, hsize, Bool.or_eq_true, Bool.not_eq_true',
    decide_eq_false_iff_not, decide_eq_true_eq, ne_eq, hdropped]
  omega

theorem verdict_eq (haccounts : collector.Accounts diagnostics) :
    collector.verdict = if diagnostics = [] then .ok () else .error collector.stored.toList := by
  have herrors := haccounts.hasErrors_iff
  unfold verdict
  cases diagnostics with
  | nil =>
    rw [if_neg fun hsome => Nat.lt_irrefl 0 (herrors.1 hsome), if_pos rfl]
  | cons diagnostic diagnostics =>
    rw [if_pos (herrors.2 (Nat.succ_pos _)), if_neg (List.cons_ne_nil _ _)]

end Accounts

/-! ### Texts -/

/-- The lines of the text of a collector. -/
def lines (collector : Collector) : List String :=
  collector.stored.toList.map Diagnostic.text ++
    if collector.dropped = 0 then [] else ["... and " ++ collector.dropped.repr ++ " more errors"]

theorem text_eq_join (collector : Collector) :
    collector.text = String.join (collector.lines.map (· ++ "\n")) := by
  apply String.toList_inj.1
  unfold text lines
  split
  · simp [List.flatMap_map]
  · simp [List.flatMap_map]

/-- The text of a collector is cut into its lines, unless a name in a diagnostic has more than one. -/
theorem pieces_text {collector : Collector}
    (hnames : ∀ diagnostic ∈ collector.stored.toList, ∀ name ∈ diagnostic.fault.names, Lacks '\n' name) :
    pieces collector.text = collector.lines ++ [""] := by
  rw [text_eq_join]
  apply pieces_join
  intro line hline
  obtain hstored | hcount := List.mem_append.1 hline
  · obtain ⟨diagnostic, hdiagnostic, rfl⟩ := List.mem_map.1 hstored
    exact Diagnostic.lacks_feed_text (hnames diagnostic hdiagnostic)
  · split at hcount
    · cases hcount
    · rw [List.mem_singleton.1 hcount]
      simp only [lacks_append]
      exact ⟨⟨by decide, lacks_repr (by decide) _⟩, by decide⟩

/-! ### Runs of entries -/

/-- The collector keeps its account along all entries, and every diagnostic is logged once. -/
theorem accounts_enterAll {collector : Collector} {past : List Diagnostic} (haccounts : collector.Accounts past)
    (entries : List Entry) :
    (collector.enterAll entries).1.Accounts (past ++ entries.filterMap Entry.diagnostic?) ∧
      (collector.enterAll entries).1.limit = collector.limit ∧
      (collector.enterAll entries).2 =
        (entries.filterMap Entry.diagnostic?).map fun diagnostic => .event none (.reported diagnostic) := by
  induction entries generalizing collector past with
  | nil =>
    rw [List.filterMap_nil, List.append_nil]
    exact ⟨haccounts, rfl, rfl⟩
  | cons entry entries ih =>
    rw [enterAll, enter_eq, List.filterMap_cons]
    cases entry.diagnostic? with
    | none => exact ih haccounts
    | some diagnostic =>
      obtain ⟨hrest, hlimit, hlog⟩ := ih (haccounts.push diagnostic)
      rw [List.append_assoc] at hrest
      exact ⟨hrest, hlimit.trans (limit_push collector diagnostic), congrArg (_ :: ·) hlog⟩

/-- A collector with any limit or none loses nothing silently. A result that is recorded comes back, and without a
diagnostic it changes nothing. Of the diagnostics that were handed over, directly or in results, the first are stored in
their order, as many as the limit allows, and the others are counted; what the collector tells about errors is about all
of them, each is logged once as an error with its text and its line, and the text of the collector has one line for each
stored one and one for the number of the others. -/
theorem accounts_for_entries {limit : Option Nat} {entries : List Entry} {diagnostics : List Diagnostic}
    {final : Collector} {log : Log} {stored : Nat} (hdiagnostics : entries.filterMap Entry.diagnostic? = diagnostics)
    (hfinal : ({ limit } : Collector).enterAll entries = (final, log)) (hstored : room limit diagnostics.length = stored) :
    (∀ (collector : Collector) (α : Type) (result : Except Diagnostic α),
      (collector.record result).1 = result.toOption ∧
        ∀ value, result = .ok value → (collector.record result).2 = (collector, [])) ∧
      final.stored.toList = diagnostics.take stored ∧
      final.size = stored ∧ final.dropped = diagnostics.length - stored ∧
      (final.isEmpty = true ↔ stored = 0) ∧ (final.hasErrors = true ↔ 0 < diagnostics.length) ∧
      final.verdict = (if diagnostics.length = 0 then .ok () else .error (diagnostics.take stored)) ∧
      log = diagnostics.map (fun diagnostic => .event none (.reported diagnostic)) ∧
      (∀ diagnostic, (Event.reported diagnostic).level = .error ∧
        (Event.reported diagnostic).message = diagnostic.text ∧
        (Event.reported diagnostic).fields = [("line", .number diagnostic.line.toNat)]) ∧
      final.text = String.join ((diagnostics.take stored).map fun diagnostic => diagnostic.text ++ "\n") ++
        (if stored < diagnostics.length then
          "... and " ++ (diagnostics.length - stored).repr ++ " more errors\n" else "") ∧
      ((∀ diagnostic ∈ diagnostics, ∀ name ∈ diagnostic.fault.names, Lacks '\n' name) →
        pieces final.text = (diagnostics.take stored).map Diagnostic.text ++
          (if stored < diagnostics.length then
            ["... and " ++ (diagnostics.length - stored).repr ++ " more errors"] else []) ++ [""]) := by
  obtain ⟨haccounts, hlimit, hlog⟩ := accounts_enterAll (accounts_new limit) entries
  rw [hdiagnostics, List.nil_append] at haccounts
  rw [hdiagnostics] at hlog
  rw [hfinal] at haccounts hlimit hlog
  obtain rfl : final.limit = limit := hlimit
  have hcount : (stored < diagnostics.length) = ¬diagnostics.length - stored = 0 := by
    rw [Nat.sub_eq_zero_iff_le, Nat.not_le]
  have hdropped := haccounts.dropped_eq
  have hlist := haccounts.stored_eq
  have hsize := haccounts.size_eq
  rw [hstored] at hdropped hlist hsize
  refine ⟨?_, hlist, hsize, hdropped, ?_, haccounts.hasErrors_iff, ?_, hlog, fun _ => ⟨rfl, rfl, rfl⟩, ?_, ?_⟩
  · intro collector α result
    cases result with
    | ok value => exact ⟨rfl, fun _ _ => rfl⟩
    | error diagnostic => exact ⟨rfl, nofun⟩
  · rw [← hsize]
    simp [isEmpty, size]
  · rw [haccounts.verdict_eq, hlist]
    simp only [List.length_eq_zero_iff]
  · rw [text, hlist, hdropped]
    simp only [hcount, ite_not]
  · intro hnames
    rw [pieces_text, lines, hlist, hdropped]
    · simp only [hcount, ite_not]
    · intro diagnostic hmem
      rw [hlist] at hmem
      exact hnames diagnostic (List.mem_of_mem_take hmem)

/-- Diagnostics that are handed over in both ways, among a result that is none. -/
def mixedEntries : List Entry :=
  [.push ⟨.undeclaredVariable "x", 3⟩, .record (.ok 5 : Except Diagnostic Nat),
    .record (.error ⟨.divisionByZero, 4⟩ : Except Diagnostic String), .push ⟨.duplicateDeclaration "", 7⟩]

theorem accounts_for_entries_limited :
    (({ limit := some 1 } : Collector).enterAll mixedEntries).1.dropped = 2 ∧
      (({ limit := some 1 } : Collector).enterAll mixedEntries).1.verdict =
        .error [⟨.undeclaredVariable "x", 3⟩] ∧
      pieces (({ limit := some 1 } : Collector).enterAll mixedEntries).1.text =
        ["Error at line 3: Variable 'x' not declared", "... and 2 more errors", ""] := by
  obtain ⟨-, -, -, hdropped, -, -, hverdict, -, -, -, hpieces⟩ :=
    accounts_for_entries (rfl : mixedEntries.filterMap Entry.diagnostic? = _)
      (rfl : ({ limit := some 1 } : Collector).enterAll mixedEntries = (_, _)) (rfl : room _ _ = 1)
  exact ⟨hdropped, hverdict, hpieces (by decide)⟩

end Collector

end SymbolTable
