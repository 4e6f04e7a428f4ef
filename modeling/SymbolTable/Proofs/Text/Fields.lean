import SymbolTable.Text.Item
import SymbolTable.Proofs.Text.Values

/-!
# Fields filled

A field shows the first characters of a text, as many as its precision allows, and fills the room that they leave of its
width. The filling says with which character, and how much of the room is before the text and how much after it
(`Filling.Shares`); it is asked for in four ways only (`Filling.parse?_eq_some_iff`). What a layout writes is the one field
that is filled in this way (`Layout.pad_eq_iff`). A text without the character that fills is found again between the fillers
(`Layout.strip_pad`). Values and types are such texts for blanks, and in a field an integer is a text as well, which gets
neither a sign nor zeros (`Item.fields_filled`).
-/

namespace SymbolTable

/-! ### Fillers -/

/-- One character, written a number of times. -/
def filler (fill : Char) (n : Nat) : String := String.ofList (List.replicate n fill)

/-- The first characters of a text, or all of them if there are fewer. -/
def firstChars (n : Nat) (text : String) : String := String.ofList (text.toList.take n)

/-- A text without the occurrences of a character at its two ends. -/
def strip (c : Char) (text : String) : String :=
  String.ofList ((text.toList.dropWhile (· == c)).rdropWhile (· == c))

section

variable {c : Char} {text : String}

theorem filler_zero (fill : Char) : filler fill 0 = "" := rfl

theorem length_filler (fill : Char) (n : Nat) : (filler fill n).length = n := by
  rw [filler, String.length_ofList, List.length_replicate]

theorem length_firstChars (n : Nat) (text : String) : (firstChars n text).length = min n text.length := by
  rw [firstChars, String.length_ofList, List.length_take, String.length_toList]

theorem lacks_filler {fill : Char} (hfill : c ≠ fill) (n : Nat) : Lacks c (filler fill n) := by
  intro hmem
  rw [filler, String.toList_ofList] at hmem
  exact hfill (List.eq_of_mem_replicate hmem)

theorem lacks_firstChars (hlacks : Lacks c text) (n : Nat) : Lacks c (firstChars n text) := by
  intro hmem
  rw [firstChars, String.toList_ofList] at hmem
  exact hlacks (List.mem_of_mem_take hmem)

/-- What starts a text with fillers after it starts the text itself, unless the character that fills is in it. -/
theorem startsWith_of_append_filler {front : List Char} (hfront : c ∉ front) {n : Nat}
    (hstarts : front <+: (text ++ filler c n).toList) : front <+: text.toList := by
  obtain ⟨rest, hrest⟩ := hstarts
  rw [String.toList_append, filler, String.toList_ofList] at hrest
  obtain ⟨between, htext, -⟩ | ⟨surplus, hsurplus, hfiller⟩ := List.append_eq_append_iff.1 hrest
  · exact ⟨between, htext.symm⟩
  · have hnone : surplus = [] := by
      refine List.eq_nil_iff_forall_not_mem.2 fun d hd => ?_
      have hfill : d ∈ List.replicate n c := hfiller ▸ List.mem_append_left rest hd
      exact hfront (List.eq_of_mem_replicate hfill ▸ hsurplus ▸ List.mem_append_right text.toList hd)
    exact ⟨[], by rw [List.append_nil, hsurplus, hnone, List.append_nil]⟩

theorem rdropWhile_append_replicate (c : Char) (front : List Char) (n : Nat) :
    (front ++ List.replicate n c).rdropWhile (· == c) = front.rdropWhile (· == c) := by
  induction n with
  | zero => rw [List.replicate_zero, List.append_nil]
  | succ n ih => rw [List.replicate_succ', ← List.append_assoc, List.rdropWhile_concat_pos _ _ _ (by simp), ih]

/-- Fillers around a text are told apart from the text, if it lacks the character that fills. -/
theorem strip_filler (hlacks : Lacks c text) (before after : Nat) :
    strip c (filler c before ++ text ++ filler c after) = text := by
  have hfiller : ∀ d ∈ List.replicate before c, (d == c) = true := by
    intro d hd
    rw [List.eq_of_mem_replicate hd, beq_self_eq_true]
  have hother : ∀ d ∈ text.toList, ¬(d == c) = true := by
    intro d hd hsame
    rw [beq_iff_eq] at hsame
    exact hlacks (hsame ▸ hd)
  have hend : text.toList.rdropWhile (· == c) = text.toList :=
    List.rdropWhile_eq_self_iff.2 fun hne => hother _ (List.getLast_mem hne)
  have hinner : ((text.toList ++ List.replicate after c).dropWhile (· == c)).rdropWhile (· == c) = text.toList := by
    cases htext : text.toList with
    | nil =>
      -- Nothing stops the first run, which takes the fillers behind the empty text as well.
      simp
    | cons d rest =>
      rw [htext] at hother hend
      rw [List.cons_append, List.dropWhile_cons_of_neg (p := (· == c)) (hother d List.mem_cons_self), ← List.cons_append,
        rdropWhile_append_replicate, hend]
  rw [strip, String.toList_append, String.toList_append, filler, filler, String.toList_ofList, String.toList_ofList,
    List.append_assoc, List.dropWhile_append_of_pos hfiller, hinner, String.ofList_toList]

end

/-! ### Fillings -/

namespace Alignment

/-- The sign that asks for an alignment. -/
def sign : Alignment → Char
  | .left => '<'
  | .center => '^'
  | .right => '>'

theorem ofChar?_eq_some_iff {c : Char} {alignment : Alignment} : ofChar? c = some alignment ↔ c = alignment.sign := by
  constructor
  · intro hread
    unfold ofChar? at hread
    split at hread <;> cases hread <;> rfl
  · rintro rfl
    cases alignment <;> rfl

end Alignment

namespace Flag

/-- The sign that sets a flag. -/
def sign : Flag → Char
  | .zero => '0'
  | .plus => '+'
  | .alternate => '#'

theorem ofChar?_eq_some_iff {c : Char} {flag : Flag} : ofChar? c = some flag ↔ c = flag.sign := by
  constructor
  · intro hread
    unfold ofChar? at hread
    split at hread <;> cases hread <;> rfl
  · rintro rfl
    cases flag <;> rfl

end Flag

namespace Filling

/-- The ways to ask for a filling: nothing, an alignment with blanks or with a fill character before it, or a flag. -/
inductive Asked : String → Filling → Prop
  | plain : Asked "" .plain
  | blank (alignment : Alignment) : Asked (String.ofList [alignment.sign]) (.aligned ' ' alignment)
  | filled (fill : Char) (alignment : Alignment) : Asked (String.ofList [fill, alignment.sign]) (.aligned fill alignment)
  | flagged (flag : Flag) : Asked (String.ofList [flag.sign]) (.flagged flag)

theorem parse?_eq_some_iff {text : String} {filling : Filling} : parse? text = some filling ↔ Asked text filling := by
  constructor
  · intro hread
    have htext : text = String.ofList text.toList := String.ofList_toList.symm
    unfold parse? at hread
    split at hread
    · next hchars =>
      cases hread
      rw [htext, hchars]
      exact .plain
    · next c hchars =>
      rw [hchars] at htext
      rw [htext]
      obtain halignment | ⟨-, hflag⟩ := Option.or_eq_some_iff.1 hread
      · obtain ⟨alignment, hsign, rfl⟩ := Option.map_eq_some_iff.1 halignment
        rw [Alignment.ofChar?_eq_some_iff.1 hsign]
        exact .blank alignment
      · obtain ⟨flag, hsign, rfl⟩ := Option.map_eq_some_iff.1 hflag
        rw [Flag.ofChar?_eq_some_iff.1 hsign]
        exact .flagged flag
    · next fill c hchars =>
      rw [hchars] at htext
      rw [htext]
      obtain ⟨alignment, hsign, rfl⟩ := Option.map_eq_some_iff.1 hread
      rw [Alignment.ofChar?_eq_some_iff.1 hsign]
      exact .filled fill alignment
    · cases hread
  · rintro (_ | alignment | ⟨fill, alignment⟩ | flag)
    · rfl
    · cases alignment <;> rfl
    · rw [parse?, String.toList_ofList]
      exact congrArg (Option.map (aligned fill)) (Alignment.ofChar?_eq_some_iff.2 rfl)
    · cases flag <;> rfl

/-- How a filling shares out the room that a text leaves: the character that fills, how often it is before the text and how
often after it. -/
inductive Shares (room : Nat) : Filling → Char → Nat → Nat → Prop
  | plain : Shares room .plain ' ' 0 room
  | flagged (flag : Flag) : Shares room (.flagged flag) ' ' 0 room
  | left (fill : Char) : Shares room (.aligned fill .left) fill 0 room
  | right (fill : Char) : Shares room (.aligned fill .right) fill room 0
  | center (fill : Char) : Shares room (.aligned fill .center) fill (room / 2) (room - room / 2)

theorem shares_iff {filling : Filling} {room : Nat} {fill : Char} {before after : Nat} :
    filling.Shares room fill before after ↔
      fill = filling.fill ∧ before = filling.alignment.leading room ∧ after = room - before := by
  constructor
  · rintro (_ | flag | fill | fill | fill)
    · exact ⟨rfl, rfl, rfl⟩
    · exact ⟨rfl, rfl, rfl⟩
    · exact ⟨rfl, rfl, rfl⟩
    · exact ⟨rfl, rfl, (Nat.sub_self room).symm⟩
    · exact ⟨rfl, rfl, rfl⟩
  · rintro ⟨rfl, rfl, rfl⟩
    obtain _ | ⟨fill, _ | _ | _⟩ | flag := filling
    · exact .plain
    · exact .left fill
    · exact .center fill
    · show Shares room (.aligned fill .right) fill room (room - room)
      rw [Nat.sub_self]
      exact .right fill
    · exact .flagged flag

/-- The room is filled, and not more than it. -/
theorem Shares.add_eq {filling : Filling} {room : Nat} {fill : Char} {before after : Nat}
    (hshares : filling.Shares room fill before after) : before + after = room := by
  obtain ⟨-, rfl, rfl⟩ := shares_iff.1 hshares
  exact Nat.add_sub_of_le (filling.alignment.leading_le room)

end Filling

/-! ### Fields -/

namespace Layout

variable {layout : Layout} {text field : String}

/-- How many characters of a text are shown: as many as it has, or as the precision allows. -/
def reach (layout : Layout) (text : String) : Nat :=
  match layout.precision with
  | none => text.length
  | some precision => min text.length precision

/-- A field with the first characters of a text, whose room is filled as the filling shares it out. -/
def Filled (layout : Layout) (text field : String) : Prop :=
  ∃ fill before after, layout.filling.Shares (layout.width - layout.reach text) fill before after ∧
    field = filler fill before ++ firstChars (layout.reach text) text ++ filler fill after

theorem reach_le (layout : Layout) (text : String) : layout.reach text ≤ text.length := by
  unfold reach
  split
  · exact Nat.le_refl text.length
  · exact Nat.min_le_left text.length _

theorem firstChars_reach (layout : Layout) (text : String) :
    firstChars (layout.reach text) text = String.ofList (layout.shown text.toList) := by
  unfold firstChars reach shown
  cases layout.precision with
  | none => rw [← String.length_toList, List.take_length]
  | some precision =>
    show String.ofList (text.toList.take (min text.length precision)) = String.ofList (text.toList.take precision)
    rw [← String.length_toList, Nat.min_comm, ← List.take_eq_take_min]

theorem length_shown (layout : Layout) (text : String) : (layout.shown text.toList).length = layout.reach text := by
  rw [← String.length_ofList, ← firstChars_reach, length_firstChars, Nat.min_eq_left (layout.reach_le text)]

/-- A layout writes the field that is filled by its rules, and no other field is. -/
theorem pad_eq_iff : layout.pad text = field ↔ layout.Filled text field := by
  have hpad : layout.pad text =
      filler layout.filling.fill (layout.filling.alignment.leading (layout.width - layout.reach text)) ++
        firstChars (layout.reach text) text ++ filler layout.filling.fill (layout.width - layout.reach text -
          layout.filling.alignment.leading (layout.width - layout.reach text)) := by
    rw [firstChars_reach, ← layout.length_shown text, filler, filler, ← String.ofList_append, ← String.ofList_append]
    rfl
  constructor
  · rintro rfl
    exact ⟨_, _, _, Filling.shares_iff.2 ⟨rfl, rfl, rfl⟩, hpad⟩
  · rintro ⟨fill, before, after, hshares, rfl⟩
    obtain ⟨rfl, rfl, rfl⟩ := Filling.shares_iff.1 hshares
    exact hpad

theorem filled_pad (layout : Layout) (text : String) : layout.Filled text (layout.pad text) := pad_eq_iff.1 rfl

theorem length_pad (layout : Layout) (text : String) : (layout.pad text).length = max layout.width (layout.reach text) := by
  obtain ⟨fill, before, after, hshares, hfield⟩ := layout.filled_pad text
  have hroom := hshares.add_eq
  have hreach := layout.reach_le text
  rw [hfield, String.length_append, String.length_append, length_filler, length_filler, length_firstChars]
  omega

/-- What a field shows of a text is found between its fillers, if the text lacks the character that fills. -/
theorem strip_pad (hlacks : Lacks layout.filling.fill text) :
    strip layout.filling.fill (layout.pad text) = firstChars (layout.reach text) text := by
  obtain ⟨fill, before, after, hshares, hfield⟩ := layout.filled_pad text
  obtain ⟨rfl, -, -⟩ := Filling.shares_iff.1 hshares
  rw [hfield, strip_filler (lacks_firstChars hlacks _)]

theorem firstChars_reach_of_whole (hwhole : layout.precision = none) : firstChars (layout.reach text) text = text := by
  rw [firstChars_reach, shown, hwhole, String.ofList_toList]

/-- A field without a filling of its own shows the text on the left and blanks after it. -/
theorem pad_plain (width : Nat) (precision : Option Nat) (text : String) :
    pad ⟨.plain, width, precision⟩ text =
      firstChars (reach ⟨.plain, width, precision⟩ text) text ++
        filler ' ' (width - reach ⟨.plain, width, precision⟩ text) :=
  pad_eq_iff.2 ⟨' ', 0, _, .plain, by rw [filler_zero, String.empty_append]⟩

/-- A flag leaves a text as it is without the flag. -/
theorem pad_flagged (flag : Flag) (width : Nat) (precision : Option Nat) (text : String) :
    pad ⟨.flagged flag, width, precision⟩ text = pad ⟨.plain, width, precision⟩ text := rfl

end Layout

/-! ### Decimals in fields -/

/-- A zero before another digit starts a text, or follows the sign of a negative number that starts it. -/
def ZeroPadded (text : String) : Prop :=
  ∃ digit : Char, digit.isDigit = true ∧ (['0', digit] <+: text.toList ∨ ['-', '0', digit] <+: text.toList)

namespace ZeroPadded

variable {text : String} {n : Nat}

theorem of_firstChars (hpadded : ZeroPadded (firstChars n text)) : ZeroPadded text := by
  obtain ⟨digit, hdigit, hfront⟩ := hpadded
  have htake : (firstChars n text).toList <+: text.toList := by
    rw [firstChars, String.toList_ofList]
    exact List.take_prefix n text.toList
  exact ⟨digit, hdigit, hfront.imp (·.trans htake) (·.trans htake)⟩

theorem of_append_blanks (hpadded : ZeroPadded (text ++ filler ' ' n)) : ZeroPadded text := by
  obtain ⟨digit, hdigit, hfront⟩ := hpadded
  have hblank : ' ' ≠ digit := by
    rintro rfl
    exact absurd hdigit (by decide)
  refine ⟨digit, hdigit, hfront.imp (startsWith_of_append_filler ?_) (startsWith_of_append_filler ?_)⟩
  · simp [hblank]
  · simp [hblank]

end ZeroPadded

/-- Only zero has a decimal that starts with a zero. -/
theorem eq_zero_of_head_toDigits {n : Nat} (hhead : (Nat.toDigits 10 n).head? = some '0') : n = 0 := by
  induction n using Nat.strong_induction_on with
  | _ n ih =>
    obtain hsmall | hlarge := Nat.lt_or_ge n 10
    · rw [Nat.toDigits_of_lt_base hsmall] at hhead
      exact (by decide : ∀ digit < 10, [Nat.digitChar digit].head? = some '0' → digit = 0) n hsmall hhead
    · rw [Nat.toDigits_of_base_le (by decide) hlarge, List.head?_append_of_ne_nil _ Nat.toDigits_ne_nil] at hhead
      have hquotient : n / 10 = 0 := ih (n / 10) (by omega) hhead
      omega

theorem not_prefix_toDigits (n : Nat) (digit : Char) : ¬['0', digit] <+: Nat.toDigits 10 n := by
  rintro ⟨rest, hdigits⟩
  obtain rfl : n = 0 := eq_zero_of_head_toDigits (by rw [← hdigits]; rfl)
  simp at hdigits

/-- The decimal of an integer has no zeros before its digits. -/
theorem not_zeroPadded_repr (n : Int) : ¬ZeroPadded n.repr := by
  rintro ⟨digit, -, hfront⟩
  cases n with
  | ofNat n =>
    have hdecimal : (Int.repr (.ofNat n)).toList = Nat.toDigits 10 n := Nat.toList_repr
    rw [hdecimal] at hfront
    obtain hzero | hminus := hfront
    · exact not_prefix_toDigits n digit hzero
    · have hmem : '-' ∈ Nat.toDigits 10 n := hminus.subset List.mem_cons_self
      exact absurd (Nat.isDigit_of_mem_toDigits (by decide) (by decide) hmem) (by decide)
  | negSucc n =>
    have hdecimal : (Int.repr (.negSucc n)).toList = '-' :: Nat.toDigits 10 n.succ := by
      rw [← Nat.toList_repr]
      exact String.toList_append
    rw [hdecimal] at hfront
    obtain hzero | hminus := hfront
    · exact absurd (List.cons_prefix_cons.1 hzero).1 (by decide)
    · exact not_prefix_toDigits n.succ digit (List.cons_prefix_cons.1 hminus).2

/-! ### Items in fields -/

namespace Item

/-- The items that take notice of a layout, with their texts. -/
inductive Padded : Item → String → Prop
  | value (value : Value) : Padded (.value value) value.text
  | ty (ty : Ty) : Padded (.ty ty) ty.text

namespace Padded

variable {item : Item} {text : String}

theorem write_eq (hpadded : item.Padded text) (layout : Layout) : item.write layout = layout.pad text := by
  cases hpadded with
  | value value => rfl
  | ty ty => rfl

theorem lacks_blank (hpadded : item.Padded text) : Lacks ' ' text := by
  cases hpadded with
  | value value => exact value.lacks_text (.inl rfl)
  | ty ty => exact ty.lacks_blank_text

end Padded

theorem lacks_plus_write (flag : Flag) (width : Nat) (precision : Option Nat) (n : Int64) :
    Lacks '+' (write ⟨.flagged flag, width, precision⟩ (.value (.int n))) := by
  have hdecimal : Lacks '+' n.toInt.repr := lacks_repr_int (by decide) (by decide) n.toInt
  rw [(Padded.value (.int n)).write_eq, Layout.pad_flagged, Layout.pad_plain]
  exact lacks_append.2 ⟨lacks_firstChars hdecimal _, lacks_filler (by decide) _⟩

theorem not_zeroPadded_write (flag : Flag) (width : Nat) (precision : Option Nat) (n : Int64) :
    ¬ZeroPadded (write ⟨.flagged flag, width, precision⟩ (.value (.int n))) := by
  intro hpadded
  rw [(Padded.value (.int n)).write_eq, Layout.pad_flagged, Layout.pad_plain] at hpadded
  exact not_zeroPadded_repr n.toInt hpadded.of_append_blanks.of_firstChars

/-- A filling is asked for in four ways. A value or a type is cut to the precision of its field and filled up to the width in
the way that the filling says, and if it is not cut, its text is what is left of the field without the blanks that fill it.
Flags change nothing, so an integer gets neither a plus sign nor zeros. -/
theorem fields_filled :
    (∀ text filling, Filling.parse? text = some filling ↔ Filling.Asked text filling) ∧
    (∀ {item : Item} {text : String}, item.Padded text → item.write {} = text ∧
      (∀ layout field, item.write layout = field ↔ layout.Filled text field) ∧
      (∀ layout, (item.write layout).length = max layout.width (layout.reach text)) ∧
      ∀ layout : Layout, layout.precision = none → layout.filling.fill = ' ' → strip ' ' (item.write layout) = text) ∧
    ∀ flag width precision n,
      write ⟨.flagged flag, width, precision⟩ (.value (.int n)) = write ⟨.plain, width, precision⟩ (.value (.int n)) ∧
      Lacks '+' (write ⟨.flagged flag, width, precision⟩ (.value (.int n))) ∧
      ¬ZeroPadded (write ⟨.flagged flag, width, precision⟩ (.value (.int n))) := by
  refine ⟨fun text filling => Filling.parse?_eq_some_iff, fun {item text} hpadded => ⟨?_, ?_, ?_, ?_⟩,
    fun flag width precision n => ⟨?_, ?_, ?_⟩⟩
  · rw [hpadded.write_eq, Layout.pad_default]
  · intro layout field
    rw [hpadded.write_eq, Layout.pad_eq_iff]
  · intro layout
    rw [hpadded.write_eq, Layout.length_pad]
  · intro layout hwhole hblank
    have hlacks : Lacks layout.filling.fill text := hblank ▸ hpadded.lacks_blank
    rw [hpadded.write_eq, ← hblank, Layout.strip_pad hlacks, Layout.firstChars_reach_of_whole hwhole]
  · exact Layout.pad_flagged flag width precision _
  · exact lacks_plus_write flag width precision n
  · exact not_zeroPadded_write flag width precision n

/-- The least integer, cut to five characters, and a type in the middle of their fields, with odd room around both. -/
theorem fields_filled_centered :
    Filling.parse? "→^" = some (.aligned '→' .center) ∧
    Padded (.value (.int (-9223372036854775808))) "-9223372036854775808" ∧ Padded (.ty .unknown) "unknown" ∧
    write ⟨.aligned '→' .center, 8, some 5⟩ (.value (.int (-9223372036854775808))) = "→-9223→→" ∧
    write ⟨.aligned ' ' .center, 10, none⟩ (.ty .unknown) = " unknown  " ∧
    strip ' ' (write ⟨.aligned ' ' .center, 10, none⟩ (.ty .unknown)) = "unknown" := by
  have hdecimal : (Value.int (-9223372036854775808)).text = "-9223372036854775808" := by decide +kernel
  have hinteger : Padded (.value (.int (-9223372036854775808))) "-9223372036854775808" := hdecimal ▸ .value _
  have htype : Padded (.ty .unknown) "unknown" := .ty .unknown
  refine ⟨(fields_filled.1 _ _).2 (.filled '→' .center), hinteger, htype,
    ((fields_filled.2.1 hinteger).2.1 _ _).2 ⟨'→', 1, 2, .center '→', ?_⟩,
    ((fields_filled.2.1 htype).2.1 _ _).2 ⟨' ', 1, 2, .center ' ', ?_⟩, (fields_filled.2.1 htype).2.2.2 _ rfl rfl⟩
  · decide
  · decide

end Item

end SymbolTable
