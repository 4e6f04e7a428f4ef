import SymbolTable.Symbol
import Std.Data.TreeMap

/-!
# Declared symbols

Declarations stand in the order in which they were made, and an index finds the position of a name. The two
are tied together by `positions_eq_some_iff`, a field of the structure: a name is indexed at a position exactly
if the symbol there has that name. So no two declarations share a name. The rest of the library sees
declarations as `toList`, and what each operation does to that list is stated here.
-/

namespace SymbolTable

theorem Declarations.positions_empty (name : String) (position : Nat) :
    (∅ : Std.TreeMap String Nat)[name]? = some position ↔
      (#[] : Array Symbol)[position]?.map Symbol.name = some name := by
  simp

structure Declarations where
  entries : Array Symbol := #[]
  positions : Std.TreeMap String Nat := ∅
  positions_eq_some_iff : ∀ name position, positions[name]? = some position ↔
    entries[position]?.map Symbol.name = some name := by exact Declarations.positions_empty

namespace Declarations

def toList (declarations : Declarations) : List Symbol := declarations.entries.toList

def size (declarations : Declarations) : Nat := declarations.entries.size

def isEmpty (declarations : Declarations) : Bool := declarations.entries.isEmpty

/-- The symbol at a position. -/
def get? (declarations : Declarations) (position : Nat) : Option Symbol := declarations.entries[position]?

/-- The position of the symbol that has a name. -/
def position? (declarations : Declarations) (name : String) : Option Nat := declarations.positions[name]?

def contains (declarations : Declarations) (name : String) : Bool := (declarations.position? name).isSome

/-- The symbol that has a name, with its position. -/
def locate? (declarations : Declarations) (name : String) : Option (Nat × Symbol) :=
  (declarations.position? name).bind fun position => (declarations.get? position).map (position, ·)

/-- The symbol that has a name. -/
def find? (declarations : Declarations) (name : String) : Option Symbol :=
  (declarations.locate? name).map Prod.snd

theorem position?_eq_some_iff {declarations : Declarations} {name : String} {position : Nat} :
    declarations.position? name = some position ↔
      (declarations.get? position).map Symbol.name = some name :=
  declarations.positions_eq_some_iff name position

theorem lt_size_of_position? {declarations : Declarations} {name : String} {position : Nat}
    (hposition : declarations.position? name = some position) : position < declarations.size := by
  have hentry := position?_eq_some_iff.1 hposition
  by_cases hlt : position < declarations.size
  · exact hlt
  · rw [get?, Array.getElem?_eq_none (Nat.le_of_not_lt hlt)] at hentry
    cases hentry

/-- The declarations with one more at the end, unless its name is taken. -/
def insert? (declarations : Declarations) (symbol : Symbol) : Option Declarations :=
  if hfresh : declarations.position? symbol.name = none then
    some {
      entries := declarations.entries.push symbol
      positions := declarations.positions.insert symbol.name declarations.size
      positions_eq_some_iff := fun name position => by
        have hold := declarations.positions_eq_some_iff name position
        rw [Std.TreeMap.getElem?_insert, Array.getElem?_push]
        by_cases hname : symbol.name = name
        · subst hname
          rw [if_pos Std.ReflCmp.compare_self, Option.some.injEq, size]
          split
          · next hlast => simp [hlast]
          · next hlast =>
            rw [position?] at hfresh
            simp [← hold, hfresh, Ne.symm hlast]
        · rw [if_neg (mt Std.LawfulEqCmp.eq_of_compare hname)]
          split
          · next hlast =>
            simp only [Option.map_some, Option.some.injEq, hname, iff_false]
            intro htaken
            exact absurd (lt_size_of_position? htaken) (by simp [size, hlast])
          · exact hold }
  else none

/-- The declarations with another value at a position. -/
def setValue (declarations : Declarations) (position : Nat) (value : Value) : Declarations where
  entries := declarations.entries.modify position fun symbol => { symbol with value }
  positions := declarations.positions
  positions_eq_some_iff name other := by
    rw [declarations.positions_eq_some_iff, Array.getElem?_modify]
    split
    · simp [Option.map_map, Function.comp_def]
    · rfl

theorem get?_eq_getElem? (declarations : Declarations) (position : Nat) :
    declarations.get? position = declarations.toList[position]? := by
  simp [get?, toList]

theorem size_eq_length (declarations : Declarations) : declarations.size = declarations.toList.length := by
  simp [size, toList]

theorem position?_name_getElem (declarations : Declarations) {position : Nat}
    (hlt : position < declarations.toList.length) :
    declarations.position? declarations.toList[position].name = some position := by
  rw [position?_eq_some_iff, get?_eq_getElem?, List.getElem?_eq_getElem hlt, Option.map_some]

theorem nodup_names (declarations : Declarations) : (declarations.toList.map Symbol.name).Nodup := by
  rw [List.Nodup, List.pairwise_map, List.pairwise_iff_getElem]
  intro i j hi hj hlt hsame
  have hpositions := congrArg declarations.position? hsame
  rw [position?_name_getElem, position?_name_getElem] at hpositions
  exact Nat.ne_of_lt hlt (Option.some.inj hpositions)

theorem position?_eq_none_iff {declarations : Declarations} {name : String} :
    declarations.position? name = none ↔ name ∉ declarations.toList.map Symbol.name := by
  rw [List.mem_map, Option.eq_none_iff_forall_ne_some]
  constructor
  · intro habsent hname
    obtain ⟨symbol, hmem, rfl⟩ := hname
    obtain ⟨position, hposition⟩ := List.mem_iff_getElem?.1 hmem
    refine habsent position (position?_eq_some_iff.2 ?_)
    rw [get?_eq_getElem?, hposition, Option.map_some]
  · intro habsent position hposition
    obtain ⟨symbol, hentry, hname⟩ := Option.map_eq_some_iff.1 (position?_eq_some_iff.1 hposition)
    rw [get?_eq_getElem?] at hentry
    exact habsent ⟨symbol, List.mem_of_getElem? hentry, hname⟩

/-- The index finds what a scan of the declarations finds. -/
theorem find?_eq_scan (declarations : Declarations) (name : String) :
    declarations.find? name = declarations.toList.find? (fun symbol => symbol.name = name) := by
  unfold find? locate?
  cases hposition : declarations.position? name with
  | none =>
    have habsent := position?_eq_none_iff.1 hposition
    symm
    rw [Option.bind_none, Option.map_none, List.find?_eq_none]
    intro symbol hmem hname
    exact habsent (List.mem_map.2 ⟨symbol, hmem, of_decide_eq_true hname⟩)
  | some position =>
    obtain ⟨symbol, hentry, hname⟩ := Option.map_eq_some_iff.1 (position?_eq_some_iff.1 hposition)
    rw [Option.bind_some, hentry, Option.map_some, Option.map_some]
    rw [get?_eq_getElem?] at hentry
    obtain ⟨hlt, hsymbol⟩ := List.getElem?_eq_some_iff.1 hentry
    symm
    rw [List.find?_eq_some_iff_getElem]
    refine ⟨by simpa using hname, position, hlt, hsymbol, fun other hother => ?_⟩
    simp only [Bool.not_eq_eq_eq_not, Bool.not_true, decide_eq_false_iff_not]
    intro hname
    subst hname
    have hother' := position?_name_getElem declarations (Nat.lt_trans hother hlt)
    exact Nat.ne_of_lt hother (Option.some.inj (hother'.symm.trans hposition))

theorem find?_eq_bind (declarations : Declarations) (name : String) :
    declarations.find? name = (declarations.position? name).bind declarations.get? := by
  unfold find? locate?
  cases declarations.position? name with
  | none => rfl
  | some position =>
    rw [Option.bind_some, Option.map_map, Option.bind_some]
    exact Option.map_id' ..

theorem name_of_find? {declarations : Declarations} {name : String} {symbol : Symbol}
    (hfind : declarations.find? name = some symbol) : symbol.name = name := by
  rw [find?_eq_scan] at hfind
  simpa using List.find?_some hfind

theorem locate?_eq_some_iff {declarations : Declarations} {name : String} {position : Nat} {symbol : Symbol} :
    declarations.locate? name = some (position, symbol) ↔
      declarations.get? position = some symbol ∧ symbol.name = name := by
  rw [locate?, Option.bind_eq_some_iff]
  constructor
  · intro hfound
    obtain ⟨found, hposition, hentry⟩ := hfound
    obtain ⟨_, hget, hpair⟩ := Option.map_eq_some_iff.1 hentry
    cases hpair
    have hname := position?_eq_some_iff.1 hposition
    rw [hget, Option.map_some] at hname
    exact ⟨hget, Option.some.inj hname⟩
  · intro hsymbol
    obtain ⟨hget, rfl⟩ := hsymbol
    exact ⟨position, position?_eq_some_iff.2 (by rw [hget, Option.map_some]), by rw [hget, Option.map_some]⟩

theorem position?_of_locate? {declarations : Declarations} {name : String} {position : Nat} {symbol : Symbol}
    (hlocate : declarations.locate? name = some (position, symbol)) : declarations.position? name = some position := by
  obtain ⟨hget, hname⟩ := locate?_eq_some_iff.1 hlocate
  rw [position?_eq_some_iff, hget, Option.map_some, hname]

theorem find?_of_locate? {declarations : Declarations} {name : String} {position : Nat} {symbol : Symbol}
    (hlocate : declarations.locate? name = some (position, symbol)) : declarations.find? name = some symbol := by
  rw [find?, hlocate, Option.map_some]

theorem find?_of_locate?_eq_none {declarations : Declarations} {name : String}
    (hlocate : declarations.locate? name = none) : declarations.find? name = none := by
  rw [find?, hlocate, Option.map_none]

theorem toList_insert? {declarations extended : Declarations} {symbol : Symbol}
    (hinsert : declarations.insert? symbol = some extended) :
    extended.toList = declarations.toList ++ [symbol] := by
  unfold insert? at hinsert
  split at hinsert
  · cases hinsert
    simp [toList]
  · cases hinsert

theorem insert?_eq_none_iff {declarations : Declarations} {symbol : Symbol} :
    declarations.insert? symbol = none ↔ symbol.name ∈ declarations.toList.map Symbol.name := by
  rw [← Decidable.not_iff_not (b := _ ∈ _), ← position?_eq_none_iff, insert?]
  split
  · next hfresh => simp [hfresh]
  · next htaken => simp [htaken]

theorem isSome_find?_of_insert? {declarations : Declarations} {symbol : Symbol}
    (hinsert : declarations.insert? symbol = none) : (declarations.find? symbol.name).isSome := by
  obtain ⟨taken, hmem, hname⟩ := List.mem_map.1 (insert?_eq_none_iff.1 hinsert)
  rw [find?_eq_scan, List.find?_isSome]
  exact ⟨taken, hmem, decide_eq_true hname⟩

theorem get?_insert? {declarations extended : Declarations} {symbol : Symbol}
    (hinsert : declarations.insert? symbol = some extended) (position : Nat) :
    extended.get? position =
      if position = declarations.size then some symbol else declarations.get? position := by
  rw [get?_eq_getElem?, toList_insert? hinsert, size_eq_length, get?_eq_getElem?]
  split
  · next hlast => rw [hlast, List.getElem?_concat_length]
  · next hlast => grind

theorem position?_insert? {declarations extended : Declarations} {symbol : Symbol}
    (hinsert : declarations.insert? symbol = some extended) (name : String) :
    extended.position? name =
      if symbol.name = name then some declarations.size else declarations.position? name := by
  unfold insert? at hinsert
  split at hinsert
  · cases hinsert
    rw [position?, Std.TreeMap.getElem?_insert, position?]
    congr 1
    exact propext Std.LawfulEqCmp.compare_eq_iff_eq
  · cases hinsert

theorem position?_of_insert? {declarations extended : Declarations} {symbol : Symbol}
    (hinsert : declarations.insert? symbol = some extended) : declarations.position? symbol.name = none := by
  unfold insert? at hinsert
  split at hinsert
  · assumption
  · cases hinsert

theorem toList_setValue (declarations : Declarations) (position : Nat) (value : Value) :
    (declarations.setValue position value).toList =
      declarations.toList.modify position fun symbol => { symbol with value } := by
  simp [setValue, toList]

@[simp] theorem position?_setValue (declarations : Declarations) (position : Nat) (value : Value) (name : String) :
    (declarations.setValue position value).position? name = declarations.position? name := rfl

theorem get?_setValue (declarations : Declarations) (position other : Nat) (value : Value) :
    (declarations.setValue position value).get? other =
      if position = other then (declarations.get? other).map fun symbol => { symbol with value }
      else declarations.get? other :=
  Array.getElem?_modify

theorem find?_insert? {declarations extended : Declarations} {symbol : Symbol}
    (hinsert : declarations.insert? symbol = some extended) (name : String) :
    extended.find? name = if symbol.name = name then some symbol else declarations.find? name := by
  rw [find?_eq_bind, position?_insert? hinsert, find?_eq_bind]
  split
  · rw [Option.bind_some, get?_insert? hinsert, if_pos rfl]
  · cases hposition : declarations.position? name with
    | none => rfl
    | some position =>
      have hne := Nat.ne_of_lt (lt_size_of_position? hposition)
      rw [Option.bind_some, Option.bind_some, get?_insert? hinsert, if_neg hne]

theorem find?_setValue {declarations : Declarations} {name : String} {position : Nat} {symbol : Symbol}
    (hlocate : declarations.locate? name = some (position, symbol)) (value : Value) (other : String) :
    (declarations.setValue position value).find? other =
      if name = other then some { symbol with value } else declarations.find? other := by
  obtain ⟨hget, hname⟩ := locate?_eq_some_iff.1 hlocate
  rw [find?_eq_bind, position?_setValue, find?_eq_bind]
  split
  · next hsame =>
    rw [← hsame, position?_of_locate? hlocate, Option.bind_some, get?_setValue, if_pos rfl, hget, Option.map_some]
  · next hother =>
    cases hposition : declarations.position? other with
    | none => rfl
    | some found =>
      rw [Option.bind_some, Option.bind_some, get?_setValue, if_neg]
      intro hsame
      subst hsame
      have hfound := position?_eq_some_iff.1 hposition
      rw [hget, Option.map_some, hname] at hfound
      exact hother (Option.some.inj hfound)

theorem find?_of_insert? {declarations extended : Declarations} {symbol : Symbol}
    (hinsert : declarations.insert? symbol = some extended) : declarations.find? symbol.name = none := by
  rw [find?_eq_bind, position?_of_insert? hinsert, Option.bind_none]

@[simp] theorem find?_empty (name : String) : ({} : Declarations).find? name = none := by
  simp [find?_eq_scan, toList]

end Declarations

end SymbolTable
