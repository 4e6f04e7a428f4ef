import SymbolTable.Environment.Table
import SymbolTable.Proofs.Declarations.Roster
import SymbolTable.Proofs.Text.Fields

/-!
# Tables read back

A table is four fixed lines, a line for each declared symbol and an empty one (`Arenas.table_eq`), and after any run it is
settled by what was asked about declared symbols alone (`Store.table_after`). A line is read from its end: neither the value
nor the field of the type is ambiguous there, and all before them is the name with blanks after it, however long the name is.
So the table tells what is declared, unless a name has a line feed or ends in a blank (`Environment.table_tells_declarations`).
-/

namespace SymbolTable

/-! ### Blanks at the end -/

def blanks (n : Nat) : String := String.ofList (List.replicate n ' ')

def EndsInBlank (text : String) : Prop := text.toList.getLast? = some ' '

instance (text : String) : Decidable (EndsInBlank text) := inferInstanceAs (Decidable (_ = _))

/-- A text without the blanks at its end. -/
def trimEnd (text : String) : String := String.ofList (text.toList.rdropWhile (· == ' '))

theorem not_endsInBlank_of_lacks {text : String} (hlacks : Lacks ' ' text) : ¬EndsInBlank text := by
  intro hend
  exact hlacks (List.mem_of_getLast? hend)

theorem lacks_blanks {c : Char} (hc : c ≠ ' ') (n : Nat) : Lacks c (blanks n) := lacks_filler hc n

/-- Blanks after a text are told apart from the text, unless it ends in a blank itself. -/
theorem trimEnd_append_blanks {text : String} (hend : ¬EndsInBlank text) (n : Nat) : trimEnd (text ++ blanks n) = text := by
  have hself : text.toList.rdropWhile (· == ' ') = text.toList := by
    rw [List.rdropWhile_eq_self_iff]
    intro hne hblank
    rw [beq_iff_eq] at hblank
    exact hend ((List.getLast?_eq_some_getLast hne).trans (congrArg some hblank))
  rw [trimEnd, String.toList_append, blanks, String.toList_ofList, rdropWhile_append_replicate, hself, String.ofList_toList]

theorem column_eq (width : Nat) (text : String) : column width text = text ++ blanks (width - text.length) := by
  rw [column, Layout.pad_plain, Layout.firstChars_reach_of_whole rfl]
  rfl

/-! ### Rows -/

/-- The texts in a row of a table. -/
structure Cells where
  name : String
  ty : String
  value : String
  deriving DecidableEq

namespace Symbol

def cells (symbol : Symbol) : Cells := ⟨symbol.name, symbol.ty.text, symbol.value.text⟩

/-- The row of a symbol without its line feed: the name fills up 15 places or more, and the type 10. -/
def line (symbol : Symbol) : String :=
  symbol.name ++ blanks (15 - symbol.name.length) ++ " " ++ (symbol.ty.text ++ blanks (10 - symbol.ty.text.length)) ++ " "
    ++ symbol.value.text

theorem cells_injective : Function.Injective cells := by
  intro symbol other hcells
  obtain ⟨hname, -, hvalue⟩ := Cells.mk.inj hcells
  calc symbol = ⟨symbol.name, symbol.value⟩ := rfl
    _ = ⟨other.name, other.value⟩ := by rw [hname, Value.text_injective hvalue]

theorem row_eq (symbol : Symbol) : symbol.row = symbol.line ++ "\n" := by
  simp only [row, column_eq]
  rfl

end Symbol

/-- Cuts a row at its last blank, at the ten characters before that, and at the blank before those. -/
def readRow? (line : String) : Option Cells := do
  let (front, value) ← cutLast? ' ' line
  let (name, rest) ← cutLast? ' ' (String.ofList (front.toList.rdrop 10))
  if rest = "" then some ⟨trimEnd name, trimEnd (String.ofList (front.toList.rtake 10)), value⟩ else none

theorem Ty.length_field (ty : Ty) : (ty.text ++ blanks (10 - ty.text.length)).toList.length = 10 := by
  cases ty <;> decide

/-- The last characters of a text with a field of their number at its end are the field. -/
theorem rtake_append_field (front : String) {field : String} {width : Nat} (hfield : field.toList.length = width) :
    String.ofList ((front ++ field).toList.rtake width) = field := by
  rw [String.toList_append, ← hfield, List.rtake, List.length_append, Nat.add_sub_cancel, List.drop_left,
    String.ofList_toList]

theorem rdrop_append_field (front : String) {field : String} {width : Nat} (hfield : field.toList.length = width) :
    String.ofList ((front ++ field).toList.rdrop width) = front := by
  rw [String.toList_append, ← hfield, List.rdrop_append_length, String.ofList_toList]

theorem readRow?_line {symbol : Symbol} (hend : ¬EndsInBlank symbol.name) : readRow? symbol.line = some symbol.cells := by
  have hty : ¬EndsInBlank symbol.ty.text := not_endsInBlank_of_lacks symbol.ty.lacks_blank_text
  obtain ⟨named, hnamed⟩ : ∃ named, named = symbol.name ++ blanks (15 - symbol.name.length) := ⟨_, rfl⟩
  obtain ⟨field, hfield⟩ : ∃ field, field = symbol.ty.text ++ blanks (10 - symbol.ty.text.length) := ⟨_, rfl⟩
  have hlength : field.toList.length = 10 := hfield ▸ symbol.ty.length_field
  have hline : symbol.line = named ++ " " ++ field ++ String.singleton ' ' ++ symbol.value.text := by
    rw [hnamed, hfield]
    rfl
  have hblank : named ++ " " = named ++ String.singleton ' ' ++ "" := String.append_empty.symm
  rw [readRow?, hline, cutLast?_append _ (symbol.value.lacks_text (.inl rfl))]
  simp only [Option.bind_eq_bind, Option.bind_some]
  rw [rdrop_append_field _ hlength, rtake_append_field _ hlength, hblank, cutLast?_append named (by decide : Lacks ' ' "")]
  rw [Option.bind_some, if_pos rfl, hnamed, hfield, trimEnd_append_blanks hend, trimEnd_append_blanks hty, Symbol.cells]

/-- A blank at the end of a short name is lost among those that fill up the column. -/
theorem Symbol.line_append_blank {name : String} (hshort : name.length < 15) (value : Value) :
    line ⟨name ++ " ", value⟩ = line ⟨name, value⟩ := by
  have hlonger : (name ++ " ").length = name.length + 1 := String.length_append name " "
  have hlength : 15 - name.length = 15 - (name ++ " ").length + 1 := by omega
  have hcolumn : name ++ " " ++ blanks (15 - (name ++ " ").length) = name ++ blanks (15 - name.length) := by
    rw [hlength, String.append_assoc, ← String.toList_inj]
    simp [blanks, List.replicate_succ]
  rw [line, hcolumn]
  rfl

/-! ### Tables -/

/-- What a table says above its rows. -/
def headLines : List String :=
  ["", "Symbol Table Contents:", "Name            Type       Value     ", "----------------------------------------"]

/-- The lines of a table of symbols. -/
def tableLines (symbols : List Symbol) : List String := headLines ++ symbols.map Symbol.line ++ [""]

/-- The lines of a table, each with a line feed after it. -/
def tableText (symbols : List Symbol) : String := String.join ((tableLines symbols).map (· ++ "\n"))

theorem tableHead_eq : tableHead = String.join (headLines.map (· ++ "\n")) := by
  decide

/-- A table is its lines, of which the symbols have one each in the order of their declarations. -/
theorem Arenas.table_eq (arenas : Arenas) : arenas.table = tableText arenas.declaredSymbols := by
  have hrows : (arenas.declaredSymbols.map Symbol.line).map (· ++ "\n") = arenas.declaredSymbols.map Symbol.row := by
    rw [List.map_map]
    exact List.map_congr_left fun symbol _ => symbol.row_eq.symm
  rw [tableText, tableLines, List.map_append, List.map_append, String.join_append, String.join_append, hrows, ← tableHead_eq]
  rfl

theorem lacks_feed_line {symbol : Symbol} (hname : Lacks '\n' symbol.name) : Lacks '\n' symbol.line := by
  unfold Symbol.line
  simp only [lacks_append]
  exact ⟨⟨⟨⟨⟨hname, lacks_blanks (by decide) _⟩, by decide⟩, symbol.ty.lacks_text (.inl rfl), lacks_blanks (by decide) _⟩,
    by decide⟩, symbol.value.lacks_text (.inr rfl)⟩

theorem lacks_feed_tableLines {symbols : List Symbol} (hnames : ∀ symbol ∈ symbols, Lacks '\n' symbol.name) :
    ∀ line ∈ tableLines symbols, Lacks '\n' line := by
  intro line hline
  simp only [tableLines, List.mem_append, List.mem_map, List.mem_singleton] at hline
  obtain (hhead | ⟨symbol, hsymbol, rfl⟩) | rfl := hline
  · exact (by decide : ∀ line ∈ headLines, Lacks '\n' line) line hhead
  · exact lacks_feed_line (hnames symbol hsymbol)
  · decide

/-- Reads the rows of a table, which stand between the four lines above and the empty line below. -/
def readTable? (text : String) : Option (List Cells) := (((pieces text).drop 4).dropLast.dropLast).mapM readRow?

theorem mapM_readRow? {symbols : List Symbol} (hends : ∀ symbol ∈ symbols, ¬EndsInBlank symbol.name) :
    (symbols.map Symbol.line).mapM readRow? = some (symbols.map Symbol.cells) := by
  induction symbols with
  | nil => rfl
  | cons symbol symbols ih =>
    have hfirst := readRow?_line (hends symbol List.mem_cons_self)
    have hrest := ih fun other hother => hends other (List.mem_cons_of_mem _ hother)
    rw [List.map_cons, List.mapM_cons, hfirst, hrest]
    rfl

/-- A name that can be told from what surrounds it in a table. -/
def Legible (name : String) : Prop := Lacks '\n' name ∧ ¬EndsInBlank name

instance (name : String) : Decidable (Legible name) := inferInstanceAs (Decidable (_ ∧ _))

theorem readTable?_tableText {symbols : List Symbol} (hnames : ∀ symbol ∈ symbols, Legible symbol.name) :
    readTable? (tableText symbols) = some (symbols.map Symbol.cells) := by
  have hpieces : pieces (tableText symbols) = tableLines symbols ++ [""] :=
    pieces_join (lacks_feed_tableLines fun symbol hsymbol => (hnames symbol hsymbol).1)
  have hrows : (((tableLines symbols ++ [""]).drop 4).dropLast).dropLast = symbols.map Symbol.line := by
    show (symbols.map Symbol.line ++ [""] ++ [""]).dropLast.dropLast = _
    rw [List.dropLast_concat, List.dropLast_concat]
  rw [readTable?, hpieces, hrows]
  exact mapM_readRow? fun symbol hsymbol => (hnames symbol hsymbol).2

/-- Tables of symbols with legible names are equal only if the symbols are. -/
theorem tableText_inj {symbols others : List Symbol} (hnames : ∀ symbol ∈ symbols, Legible symbol.name)
    (hothers : ∀ symbol ∈ others, Legible symbol.name) : tableText symbols = tableText others ↔ symbols = others := by
  constructor
  · intro htext
    have hcells : some (symbols.map Symbol.cells) = some (others.map Symbol.cells) := by
      rw [← readTable?_tableText hnames, htext, readTable?_tableText hothers]
    exact Symbol.cells_injective.list_map (Option.some.inj hcells)
  · rintro rfl
    rfl

/-! ### Tables along a run -/

/-- Whether a request can change what is declared. -/
def Request.isDeclarative : Request → Bool
  | .declare _ | .assign _ _ | .release .declared => true
  | .create _ | .locate _ | .inspect | .release .temporary => false

theorem Roster.serve_of_not_declarative (roster : Roster) {request : Request} (hrequest : request.isDeclarative = false) :
    roster.serve request = roster := by
  unfold Request.isDeclarative at hrequest
  split at hrequest
  · cases hrequest
  · cases hrequest
  · cases hrequest
  · rfl
  · rfl
  · rfl
  · rfl

/-- Requests about temporaries leave no trace in a roster. -/
theorem Roster.foldl_serve_filter (requests : List Request) (roster : Roster) :
    (requests.filter Request.isDeclarative).foldl Roster.serve roster = requests.foldl Roster.serve roster := by
  induction requests generalizing roster with
  | nil => rfl
  | cons request requests ih =>
    cases hrequest : request.isDeclarative with
    | true => rw [List.filter_cons_of_pos hrequest, List.foldl_cons, List.foldl_cons, ih]
    | false =>
      rw [List.filter_cons_of_neg (Bool.eq_false_iff.1 hrequest), List.foldl_cons,
        roster.serve_of_not_declarative hrequest, ih]

namespace Store

variable {store : Store} {creation : Action} {outcome : Outcome Store Response} {number : Nat}

/-- The symbols that a run declares in an environment, told by the requests about declared symbols alone. -/
def declaredAlong (number : Nat) (actions : List Action) : Roster :=
  ((actions.filterMap (Action.requestOn? number)).filter Request.isDeclarative).foldl Roster.serve []

theorem table_after (hcreation : store.act? creation = some outcome)
    (hnumber : outcome.result = .ok (.environment number)) (actions : List Action) :
    ∃ environment, (outcome.state.after actions).environment? number = some environment ∧
      environment.declaredSymbols = declaredAlong number actions ∧
      environment.table = tableText (declaredAlong number actions) := by
  obtain ⟨created, hcreated, hempty⟩ := environment?_of_created hcreation hnumber
  obtain ⟨environment, henvironment⟩ := environment?_after hcreated actions
  have hdeclared : environment.declaredSymbols = declaredAlong number actions := by
    rw [declaredAlong, Roster.foldl_serve_filter, declaredSymbols_after hcreated actions henvironment, hempty]
    rfl
  refine ⟨environment, henvironment, hdeclared, ?_⟩
  rw [← hdeclared, Arenas.table_eq]

end Store

/-- After every run a table is its head, a row for each symbol that the run declared, whatever it did with temporaries, and an
empty line. As long as the names are legible, the texts of all cells are read back, so that two tables are equal exactly if
the same is declared. -/
theorem Environment.table_tells_declarations :
    (∀ {store : Store} {creation : Action} {outcome : Outcome Store Response} {number : Nat},
      store.act? creation = some outcome → outcome.result = .ok (.environment number) → ∀ actions,
      ∃ environment, (outcome.state.after actions).environment? number = some environment ∧
        environment.declaredSymbols = Store.declaredAlong number actions ∧
        environment.table = tableText (Store.declaredAlong number actions)) ∧
    (∀ environment : Environment, environment.table = tableText environment.declaredSymbols) ∧
    (∀ environment : Environment, (∀ symbol ∈ environment.declaredSymbols, Legible symbol.name) →
      readTable? environment.table = some (environment.declaredSymbols.map Symbol.cells)) ∧
    ∀ first second : Environment, (∀ symbol ∈ first.declaredSymbols, Legible symbol.name) →
      (∀ symbol ∈ second.declaredSymbols, Legible symbol.name) →
      (first.table = second.table ↔ first.declaredSymbols = second.declaredSymbols) := by
  refine ⟨Store.table_after, fun environment => environment.table_eq, fun environment hnames => ?_,
    fun first second hfirst hsecond => ?_⟩
  · rw [Arenas.table_eq, readTable?_tableText hnames]
  · rw [Arenas.table_eq, Arenas.table_eq, tableText_inj hfirst hsecond]

/-- Declarations of an empty name, of one that is longer than its column and looks like a row, and of one with letters that
take two bytes, among calls on temporaries and on another environment. -/
def tabulated : List Action :=
  [.call 1 {} (.declare "" .bool), .call 1 {} (.newTemporary .int (.int 8)), .call 0 {} (.declare "x" .bool),
    .call 1 {} (.declareWith "x               int        5" (.int (-9223372036854775808))),
    .call 1 {} .releaseTemporaries, .call 1 {} (.assign "" (.bool true)), .call 1 {} (.declareWith " größe" .error)]

theorem Environment.table_tells_declarations_tabulated :
    ∃ environment, (((({} : Store).after [.newEnvironment]).next (.newEnvironmentOn 0)).after
        tabulated).environment? 1 = some environment ∧
      environment.table = "\nSymbol Table Contents:\nName            Type       Value     \n" ++
        "----------------------------------------\n                bool       true\n" ++
        "x               int        5 int        -9223372036854775808\n" ++
        " größe          unknown    error\n\n" ∧
      readTable? environment.table = some [⟨"", "bool", "true"⟩,
        ⟨"x               int        5", "int", "-9223372036854775808"⟩, ⟨" größe", "unknown", "error"⟩] := by
  have hcreation : (({} : Store).after [.newEnvironment]).act? (.newEnvironmentOn 0) = some _ := rfl
  have hdeclared : Store.declaredAlong 1 tabulated = [⟨"", .bool true⟩,
      ⟨"x               int        5", .int (-9223372036854775808)⟩, ⟨" größe", .error⟩] := by decide
  obtain ⟨environment, henvironment, hsymbols, htable⟩ :=
    Environment.table_tells_declarations.1 hcreation (show _ = Except.ok (Response.environment 1) from rfl) tabulated
  have hread := Environment.table_tells_declarations.2.2.1 environment (by rw [hsymbols, hdeclared]; decide)
  rw [hsymbols, hdeclared] at hread
  refine ⟨environment, henvironment, ?_, hread⟩
  rw [htable, hdeclared]
  decide +kernel

end SymbolTable
