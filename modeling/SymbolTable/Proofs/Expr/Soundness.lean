import SymbolTable.Proofs.Declarations.Roster
import SymbolTable.Proofs.Expr.Evaluation

/-!
# Types are sound and complete

An expression that has a type evaluates to a symbol of this type, or an operation on its integers fails. An expression
of declared variables that has no type never evaluates to a symbol. Both are shown for the meaning of expressions, by
induction over the typing and over the expression. A declared type outlasts everything but a release of the
declarations, so that what was typed once is still typed later (`evaluate_typed`).
-/

namespace SymbolTable

namespace Fault

/-- Whether the fault lies in the integers that an operation is used on. -/
def isArithmetic : Fault → Bool
  | .divisionByZero | .overflow _ => true
  | _ => false

/-- Whether the fault lies in the types or in the number of the operands of an operator. -/
def isMisuse : Fault → Bool
  | .typeMismatch _ | .operandCount _ => true
  | _ => false

end Fault

namespace Datum

variable {datum : Datum}

theorem eq_int_of_ty (hty : datum.ty = .int) : ∃ n, datum = .int n := by
  cases datum with
  | int n => exact ⟨n, rfl⟩
  | bool b => cases hty
  | error => cases hty

theorem eq_bool_of_ty (hty : datum.ty = .bool) : ∃ b, datum = .bool b := by
  cases datum with
  | bool b => exact ⟨b, rfl⟩
  | int n => cases hty
  | error => cases hty

end Datum

theorem Value.ty_datum (value : Value) : value.datum.ty = value.ty := by
  cases value <;> rfl

/-! ### Operators -/

namespace BinaryOperator

variable {op : BinaryOperator} {left right : Meaning}

/-- On operands of the types that it takes an operator gives its type, or the operation on the integers fails. -/
theorem meaning_of_hasTy {operand result : Ty} (hop : op.HasTy operand result) (hleft : left.datum.ty = operand)
    (hright : right.datum.ty = operand) :
    (∃ datum, op.meaning left right = .ok datum ∧ datum.ty = result) ∨
      ∃ fault, op.meaning left right = .error fault ∧ fault.isArithmetic = true := by
  cases hop with
  | arithmetic op =>
    obtain ⟨a, ha⟩ := Datum.eq_int_of_ty hleft
    obtain ⟨b, hb⟩ := Datum.eq_int_of_ty hright
    rw [meaning_arithmetic op ha hb]
    split
    · exact .inr ⟨_, rfl, rfl⟩
    · split
      · exact .inl ⟨_, rfl, rfl⟩
      · exact .inr ⟨_, rfl, rfl⟩
  | comparison op =>
    obtain ⟨a, ha⟩ := Datum.eq_int_of_ty hleft
    obtain ⟨b, hb⟩ := Datum.eq_int_of_ty hright
    exact .inl ⟨_, meaning_comparison op ha hb, rfl⟩
  | equality op hop =>
    obtain ⟨a, ha⟩ := Datum.eq_bool_of_ty hleft
    obtain ⟨b, hb⟩ := Datum.eq_bool_of_ty hright
    obtain ⟨heq, hne, -⟩ := meaning_of_bool ha hb
    left
    obtain rfl | rfl := hop
    · exact ⟨_, heq, rfl⟩
    · exact ⟨_, hne, rfl⟩
  | connective op =>
    obtain ⟨a, ha⟩ := Datum.eq_bool_of_ty hleft
    obtain ⟨b, hb⟩ := Datum.eq_bool_of_ty hright
    obtain ⟨-, -, hand, hor⟩ := meaning_of_bool ha hb
    left
    cases op with
    | and => exact ⟨_, hand, rfl⟩
    | or => exact ⟨_, hor, rfl⟩

/-- On all other operands it reports their types. -/
theorem meaning_of_untyped (hop : ∀ result, left.datum.ty = right.datum.ty → ¬ op.HasTy left.datum.ty result) :
    op.meaning left right = .error (.typeMismatch ⟨.binary op, left.operand, some right.operand⟩) := by
  obtain ⟨leftName, leftDatum⟩ := left
  obtain ⟨rightName, rightDatum⟩ := right
  cases op with
  | arithmetic op =>
    cases leftDatum with
    | int a =>
      cases rightDatum with
      | int b => exact absurd (.arithmetic op) (hop .int rfl)
      | bool b => rfl
      | error => rfl
    | bool a => rfl
    | error => rfl
  | comparison op =>
    cases leftDatum with
    | int a =>
      cases rightDatum with
      | int b => exact absurd (.comparison op) (hop .bool rfl)
      | bool b => rfl
      | error => rfl
    | bool a =>
      cases rightDatum with
      | bool b =>
        cases op with
        | eq => exact absurd (.equality .eq (.inl rfl)) (hop .bool rfl)
        | ne => exact absurd (.equality .ne (.inr rfl)) (hop .bool rfl)
        | _ => rfl
      | int b => rfl
      | error => rfl
    | error => cases rightDatum <;> rfl
  | connective op =>
    cases leftDatum with
    | bool a =>
      cases rightDatum with
      | bool b => exact absurd (.connective op) (hop .bool rfl)
      | int b => rfl
      | error => rfl
    | int a => cases rightDatum <;> rfl
    | error => cases rightDatum <;> rfl

end BinaryOperator

namespace Operator

variable {op : Operator} {operand : Meaning}

theorem unaryMeaning_of_bool (hoperand : operand.datum.ty = .bool) :
    ∃ datum, Operator.not.unaryMeaning operand = .ok datum ∧ datum.ty = .bool := by
  obtain ⟨b, hb⟩ := Datum.eq_bool_of_ty hoperand
  simp only [unaryMeaning, hb]
  exact ⟨_, rfl, rfl⟩

/-- A single operand is refused unless it is a boolean to be negated. -/
theorem unaryMeaning_of_untyped (hoperand : op = .not → operand.datum.ty ≠ .bool) :
    ∃ fault, op.unaryMeaning operand = .error fault ∧ fault.isMisuse = true := by
  obtain ⟨name, datum⟩ := operand
  cases op with
  | not =>
    cases datum with
    | bool b => exact absurd rfl (hoperand rfl)
    | int n => exact ⟨_, rfl, rfl⟩
    | error => exact ⟨_, rfl, rfl⟩
  | binary op => exact ⟨_, rfl, rfl⟩

/-- Two operands are refused unless they are of one type that the operator takes. -/
theorem binaryMeaning_of_untyped {left right : Meaning}
    (hop : ∀ taken result, op = .binary taken → left.datum.ty = right.datum.ty → ¬ taken.HasTy left.datum.ty result) :
    ∃ fault, op.binaryMeaning left right = .error fault ∧ fault.isMisuse = true := by
  cases op with
  | binary op => exact ⟨_, op.meaning_of_untyped fun result hsame => hop op result rfl hsame, rfl⟩
  | not => exact ⟨_, rfl, rfl⟩

end Operator

/-! ### Expressions -/

/-- Two results that are the same up to names: related values, the same fault, or two faults of misuse, which tell the
names of operands. -/
inductive Alike {α β : Type} (R : α → β → Prop) : Except Fault α → Except Fault β → Prop where
  | value {first : α} {second : β} (hvalue : R first second) : Alike R (.ok first) (.ok second)
  | fault (fault : Fault) : Alike R (.error fault) (.error fault)
  | misuse {first second : Fault} (hfirst : first.isMisuse = true) (hsecond : second.isMisuse = true) :
      Alike R (.error first) (.error second)

theorem Alike.bind {α β γ δ : Type} {R : α → β → Prop} {S : γ → δ → Prop} {first : Except Fault α}
    {second : Except Fault β} {f : α → Except Fault γ} {g : β → Except Fault δ} (halike : Alike R first second)
    (hnext : ∀ a b, R a b → Alike S (f a) (g b)) : Alike S (first.bind f) (second.bind g) := by
  cases halike with
  | value hvalue => exact hnext _ _ hvalue
  | fault fault => exact .fault fault
  | misuse hfirst hsecond => exact .misuse hfirst hsecond

theorem Alike.issue {first second : Except Fault Datum} (halike : Alike Eq first second) (supply other : NameSupply) :
    Alike (fun a b => a.1.datum = b.1.datum) (first.map supply.issue) (second.map other.issue) := by
  cases halike with
  | value hvalue => exact .value hvalue
  | fault fault => exact .fault fault
  | misuse hfirst hsecond => exact .misuse hfirst hsecond

theorem Alike.of_eq {first second : Except Fault Datum} (hsame : first = second) : Alike Eq first second := by
  subst hsame
  cases first with
  | ok datum => exact .value rfl
  | error fault => exact .fault fault

/-- An operator sees the names of its operands only to report them. -/
theorem BinaryOperator.meaning_alike (op : BinaryOperator) {left right first second : Meaning}
    (hleft : left.datum = first.datum) (hright : right.datum = second.datum) :
    Alike Eq (op.meaning left right) (op.meaning first second) := by
  obtain ⟨leftName, leftDatum⟩ := left
  obtain ⟨rightName, rightDatum⟩ := right
  obtain ⟨firstName, firstDatum⟩ := first
  obtain ⟨secondName, secondDatum⟩ := second
  cases hleft
  cases hright
  by_cases htyped : ∃ result, leftDatum.ty = rightDatum.ty ∧ op.HasTy leftDatum.ty result
  · refine .of_eq ?_
    obtain ⟨result, hsame, hop⟩ := htyped
    generalize hty : leftDatum.ty = taken at hop
    rw [hty] at hsame
    cases hop with
    | arithmetic op =>
      obtain ⟨a, rfl⟩ := Datum.eq_int_of_ty hty
      obtain ⟨b, rfl⟩ := Datum.eq_int_of_ty hsame.symm
      rfl
    | comparison op =>
      obtain ⟨a, rfl⟩ := Datum.eq_int_of_ty hty
      obtain ⟨b, rfl⟩ := Datum.eq_int_of_ty hsame.symm
      rfl
    | equality op hop =>
      obtain ⟨a, rfl⟩ := Datum.eq_bool_of_ty hty
      obtain ⟨b, rfl⟩ := Datum.eq_bool_of_ty hsame.symm
      obtain rfl | rfl := hop <;> rfl
    | connective op =>
      obtain ⟨a, rfl⟩ := Datum.eq_bool_of_ty hty
      obtain ⟨b, rfl⟩ := Datum.eq_bool_of_ty hsame.symm
      cases op <;> rfl
  · have huntyped (result : Ty) (hsame : leftDatum.ty = rightDatum.ty) : ¬ op.HasTy leftDatum.ty result :=
      fun hop => htyped ⟨result, hsame, hop⟩
    rw [op.meaning_of_untyped huntyped, op.meaning_of_untyped huntyped]
    exact .misuse rfl rfl

theorem Operator.binaryMeaning_alike (op : Operator) {left right first second : Meaning}
    (hleft : left.datum = first.datum) (hright : right.datum = second.datum) :
    Alike Eq (op.binaryMeaning left right) (op.binaryMeaning first second) := by
  cases op with
  | binary op => exact op.meaning_alike hleft hright
  | not => exact .of_eq rfl

theorem Operator.unaryMeaning_alike (op : Operator) {operand other : Meaning} (hoperand : operand.datum = other.datum) :
    Alike Eq (op.unaryMeaning operand) (op.unaryMeaning other) := by
  obtain ⟨name, datum⟩ := operand
  obtain ⟨otherName, otherDatum⟩ := other
  cases hoperand
  cases op with
  | binary op => exact .of_eq rfl
  | not =>
    cases datum with
    | bool b => exact .of_eq rfl
    | int n => exact .misuse rfl rfl
    | error => exact .misuse rfl rfl

namespace Expr

/-- The names of the variables in an expression. -/
def variableNames : Expr → List String
  | .literal _ => []
  | .variable name => [name]
  | .unary _ operand => operand.variableNames
  | .binary _ left right => left.variableNames ++ right.variableNames

/-- An expression and all expressions in it. -/
def parts : Expr → List Expr
  | .literal symbol => [.literal symbol]
  | .variable name => [.variable name]
  | .unary op operand => .unary op operand :: operand.parts
  | .binary op left right => .binary op left right :: (left.parts ++ right.parts)

theorem mem_parts (expr : Expr) : expr ∈ expr.parts := by
  cases expr <;> exact List.mem_cons_self

theorem mem_variableNames_of_mem_parts {expr part : Expr} {name : String} (hpart : part ∈ expr.parts)
    (hname : name ∈ part.variableNames) : name ∈ expr.variableNames := by
  induction expr with
  | literal symbol =>
    cases List.mem_singleton.1 hpart
    exact hname
  | «variable» other =>
    cases List.mem_singleton.1 hpart
    exact hname
  | unary op operand ih =>
    obtain rfl | hinner := List.mem_cons.1 hpart
    · exact hname
    · exact ih hinner
  | binary op left right ihleft ihright =>
    obtain rfl | hinner := List.mem_cons.1 hpart
    · exact hname
    · obtain hleft | hright := List.mem_append.1 hinner
      · exact List.mem_append_left _ (ihleft hleft)
      · exact List.mem_append_right _ (ihright hright)

variable {declared : String → Option Value} {types others : String → Option Ty} {expr : Expr} {ty : Ty}

/-- Only the types of the variables in an expression matter. -/
theorem HasTy.of_agree (htyped : expr.HasTy types ty)
    (hagree : ∀ name ∈ expr.variableNames, ∀ ty, types name = some ty → others name = some ty) : expr.HasTy others ty := by
  induction htyped with
  | literal symbol => exact .literal symbol
  | «variable» hname => exact .variable (hagree _ List.mem_cons_self _ hname)
  | not hoperand ih => exact .not (ih hagree)
  | binary hop hleft hright ihleft ihright =>
    refine .binary hop (ihleft fun name hname => ?_) (ihright fun name hname => ?_)
    · exact hagree name (List.mem_append_left _ hname)
    · exact hagree name (List.mem_append_right _ hname)

/-- An expression that has a type means something of this type, or an operation on its integers fails. -/
theorem meaning_of_hasTy (htypes : ∀ name, types name = (declared name).map Value.ty) (htyped : expr.HasTy types ty)
    (supply : NameSupply) :
    (∃ meant later, expr.meaning declared supply = .ok (meant, later) ∧ meant.datum.ty = ty) ∨
      ∃ fault, expr.meaning declared supply = .error fault ∧ fault.isArithmetic = true := by
  induction htyped generalizing supply with
  | literal symbol => exact .inl ⟨_, _, rfl, symbol.value.ty_datum⟩
  | @«variable» name ty hname =>
    rw [htypes, Option.map_eq_some_iff] at hname
    obtain ⟨value, hvalue, rfl⟩ := hname
    left
    rw [meaning_variable, hvalue]
    exact ⟨_, _, rfl, value.ty_datum⟩
  | @not operand hoperand ih =>
    obtain ⟨meant, later, hmeant, hty⟩ | ⟨fault, hfault, harithmetic⟩ := ih supply
    · obtain ⟨datum, hdatum, hbool⟩ := Operator.unaryMeaning_of_bool hty
      left
      rw [meaning_unary_of_ok .not hmeant, hdatum]
      exact ⟨_, _, rfl, hbool⟩
    · exact .inr ⟨fault, meaning_unary_of_error .not hfault, harithmetic⟩
  | @binary op left right operand result hop hleft hright ihleft ihright =>
    obtain ⟨first, middle, hfirst, hfirstTy⟩ | ⟨fault, hfault, harithmetic⟩ := ihleft supply
    · obtain ⟨second, later, hsecond, hsecondTy⟩ | ⟨fault, hfault, harithmetic⟩ := ihright middle
      · rw [meaning_binary_of_ok _ hfirst hsecond, Operator.binaryMeaning]
        obtain ⟨datum, hdatum, hty⟩ | ⟨fault, hfault, harithmetic⟩ := op.meaning_of_hasTy hop hfirstTy hsecondTy
        · rw [hdatum]
          exact .inl ⟨_, _, rfl, hty⟩
        · rw [hfault]
          exact .inr ⟨fault, rfl, harithmetic⟩
      · exact .inr ⟨fault, meaning_binary_of_right_error _ hfirst hfault, harithmetic⟩
    · exact .inr ⟨fault, meaning_binary_of_left_error _ hfault right, harithmetic⟩

/-- The names that are given to results change no datum and no fault of an operation on integers. -/
theorem meaning_alike (declared : String → Option Value) (expr : Expr) (supply other : NameSupply) :
    Alike (fun a b => a.1.datum = b.1.datum) (expr.meaning declared supply) (expr.meaning declared other) := by
  induction expr generalizing supply other with
  | literal symbol => exact .value rfl
  | «variable» name =>
    rw [meaning_variable, meaning_variable]
    cases declared name with
    | some value => exact .value rfl
    | none => exact .fault _
  | unary op operand ih =>
    rw [meaning_unary, meaning_unary]
    refine (ih supply other).bind fun operand renamed hoperand => ?_
    exact (op.unaryMeaning_alike hoperand).issue ..
  | binary op left right ihleft ihright =>
    rw [meaning_binary, meaning_binary]
    refine (ihleft supply other).bind fun left first hleft => ?_
    refine (ihright left.2 first.2).bind fun right second hright => ?_
    exact (op.binaryMeaning_alike hleft hright).issue ..

theorem meaning_eq_of_arithmetic {fault : Fault} {supply : NameSupply}
    (hfault : expr.meaning declared supply = .error fault) (harithmetic : fault.isArithmetic = true)
    (other : NameSupply) : expr.meaning declared other = .error fault := by
  have halike := expr.meaning_alike declared supply other
  rw [hfault] at halike
  generalize expr.meaning declared other = found at halike
  cases halike with
  | fault fault => rfl
  | misuse hmisuse _ =>
    cases fault with
    | divisionByZero => cases hmisuse
    | overflow op => cases hmisuse
    | _ => cases harithmetic

/-- Why an expression has a fault: an operator is misused, or an operation on integers fails in a part that has a
type, whatever names are given to results. -/
def Blames (declared : String → Option Value) (types : String → Option Ty) (expr : Expr) (fault : Fault) : Prop :=
  fault.isMisuse = true ∨ fault.isArithmetic = true ∧ ∃ part ∈ expr.parts, (∃ ty, part.HasTy types ty) ∧
    ∀ supply, part.meaning declared supply = .error fault

theorem Blames.within {part : Expr} {fault : Fault} (hblames : part.Blames declared types fault)
    (hparts : ∀ inner ∈ part.parts, inner ∈ expr.parts) : expr.Blames declared types fault := by
  obtain hmisuse | ⟨harithmetic, inner, hinner, hfault⟩ := hblames
  · exact .inl hmisuse
  · exact .inr ⟨harithmetic, inner, hparts inner hinner, hfault⟩

/-- An expression of declared variables has a type if it means something, and otherwise its fault is that an operator
is misused or that an operation on integers fails in a part that has a type. -/
theorem hasTy_or_blames (htypes : ∀ name, types name = (declared name).map Value.ty)
    (hdeclared : ∀ name ∈ expr.variableNames, (types name).isSome) (supply : NameSupply) :
    (∃ meant later, expr.meaning declared supply = .ok (meant, later) ∧ expr.HasTy types meant.datum.ty) ∨
      ∃ fault, expr.meaning declared supply = .error fault ∧ expr.Blames declared types fault := by
  induction expr generalizing supply with
  | literal symbol =>
    refine .inl ⟨_, _, rfl, ?_⟩
    rw [Value.ty_datum]
    exact .literal symbol
  | «variable» name =>
    obtain ⟨ty, hname⟩ := Option.isSome_iff_exists.1 (hdeclared name List.mem_cons_self)
    have hty := hname
    rw [htypes, Option.map_eq_some_iff] at hty
    obtain ⟨value, hvalue, rfl⟩ := hty
    left
    rw [meaning_variable, hvalue]
    refine ⟨_, _, rfl, ?_⟩
    rw [Value.ty_datum]
    exact .variable hname
  | unary op operand ih =>
    obtain ⟨meant, later, hmeant, hty⟩ | ⟨fault, hfault, hblames⟩ := ih hdeclared supply
    · rw [meaning_unary_of_ok op hmeant]
      by_cases htaken : op = .not ∧ meant.datum.ty = .bool
      · obtain ⟨rfl, hbool⟩ := htaken
        obtain ⟨datum, hdatum, hresult⟩ := Operator.unaryMeaning_of_bool hbool
        rw [hdatum]
        refine .inl ⟨_, _, rfl, ?_⟩
        rw [hbool] at hty
        exact hresult ▸ .not hty
      · obtain ⟨fault, hfault, hmisuse⟩ := Operator.unaryMeaning_of_untyped fun hop hbool => htaken ⟨hop, hbool⟩
        rw [hfault]
        exact .inr ⟨fault, rfl, .inl hmisuse⟩
    · refine .inr ⟨fault, meaning_unary_of_error op hfault, hblames.within fun inner hinner => ?_⟩
      exact List.mem_cons_of_mem _ hinner
  | binary op left right ihleft ihright =>
    have hleft := ihleft (fun name hname => hdeclared name (List.mem_append_left _ hname)) supply
    obtain ⟨first, middle, hfirst, hfirstTy⟩ | ⟨fault, hfault, hblames⟩ := hleft
    · have hright := ihright (fun name hname => hdeclared name (List.mem_append_right _ hname)) middle
      obtain ⟨second, later, hsecond, hsecondTy⟩ | ⟨fault, hfault, hblames⟩ := hright
      · have hnode := meaning_binary_of_ok op hfirst hsecond
        by_cases htaken : ∃ taken result, op = .binary taken ∧ first.datum.ty = second.datum.ty ∧
            taken.HasTy first.datum.ty result
        · obtain ⟨taken, result, rfl, hsame, hop⟩ := htaken
          rw [← hsame] at hsecondTy
          have htyped : (binary (.binary taken) left right).HasTy types result := .binary hop hfirstTy hsecondTy
          obtain ⟨datum, hdatum, rfl⟩ | ⟨fault, hfault, harithmetic⟩ := taken.meaning_of_hasTy hop rfl hsame.symm
          · rw [hnode, Operator.binaryMeaning, hdatum]
            exact .inl ⟨_, _, rfl, htyped⟩
          · rw [Operator.binaryMeaning, hfault] at hnode
            refine .inr ⟨fault, hnode, .inr ⟨harithmetic, _, mem_parts _, ⟨result, htyped⟩, ?_⟩⟩
            exact meaning_eq_of_arithmetic hnode harithmetic
        · obtain ⟨fault, hfault, hmisuse⟩ := Operator.binaryMeaning_of_untyped fun taken result hop hsame hresult =>
            htaken ⟨taken, result, hop, hsame, hresult⟩
          rw [hnode, hfault]
          exact .inr ⟨fault, rfl, .inl hmisuse⟩
      · refine .inr ⟨fault, meaning_binary_of_right_error op hfirst hfault, hblames.within fun inner hinner => ?_⟩
        exact List.mem_cons_of_mem _ (List.mem_append_right _ hinner)
    · refine .inr ⟨fault, meaning_binary_of_left_error op hfault right, hblames.within fun inner hinner => ?_⟩
      exact List.mem_cons_of_mem _ (List.mem_append_left _ hinner)

end Expr

/-! ### Evaluation -/

namespace Environment

variable {environment later : Environment}

theorem declaredTy?_eq (environment : Environment) (name : String) :
    environment.declaredTy? name = (environment.value? name).map Value.ty := by
  rw [Arenas.declaredTy?, Arenas.value?, Option.map_map]
  rfl

/-- Under the declarations of an environment an expression that has a type comes to a symbol of this type, which can be
stored under every declared name of the type, or an operation on its integers fails. -/
theorem evaluate_of_hasTy {expr : Expr} {ty : Ty} (htyped : expr.HasTy environment.declaredTy? ty)
    (context : Context) :
    (∃ reference symbol, (expr.evaluate context environment).result = .ok (some reference) ∧
      (expr.evaluate context environment).state.deref? reference = some symbol ∧ symbol.ty = ty ∧
      ∀ (other : Context) (name : String), environment.declaredTy? name = some ty →
        Yields ((expr.evaluate context environment).state.assign other name symbol.value) ⟨name, symbol.value⟩) ∨
    ∃ fault, (expr.evaluate context environment).result = .error ⟨fault, context.line⟩ ∧
      fault.isArithmetic = true := by
  obtain ⟨hmeans, hextends⟩ := expr.evaluate_means context environment
  obtain ⟨meant, supply, hmeant, hty⟩ | ⟨fault, hfault, harithmetic⟩ :=
    Expr.meaning_of_hasTy environment.declaredTy?_eq htyped environment.supply
  · rw [hmeant] at hmeans
    obtain ⟨reference, symbol, hresult, hderef, rfl, _⟩ := hmeans
    have hsymbol : symbol.ty = ty := (symbol.value.ty_datum).symm.trans hty
    refine .inl ⟨reference, symbol, hresult, hderef, hsymbol, fun other name hname => ?_⟩
    have hanswer := (expr.evaluate context environment).state.assign_answer other name symbol.value
    obtain ⟨held, hheld, hheldTy⟩ := Option.map_eq_some_iff.1 hname
    have hfind : (expr.evaluate context environment).state.find? name = some held := by
      rw [Arenas.find?, hextends.declared_eq]
      exact hheld
    rw [hfind] at hanswer
    exact (if_pos (hheldTy.trans hsymbol.symm)).mp hanswer
  · rw [hfault] at hmeans
    exact .inr ⟨fault, hmeans, harithmetic⟩

/-- An expression of declared variables that has no type comes to a diagnostic: an operator is misused, or a part that
has a type comes to the same fault of an operation on integers by itself. -/
theorem evaluate_of_untyped {expr : Expr}
    (hdeclared : ∀ name ∈ expr.variableNames, (environment.declaredTy? name).isSome)
    (huntyped : ∀ ty, ¬ expr.HasTy environment.declaredTy? ty) (context : Context) :
    ∃ fault, (expr.evaluate context environment).result = .error ⟨fault, context.line⟩ ∧
      (fault.isMisuse = true ∨ fault.isArithmetic = true ∧
        ∃ part ∈ expr.parts, (∃ ty, part.HasTy environment.declaredTy? ty) ∧
          (part.evaluate context environment).result = .error ⟨fault, context.line⟩) := by
  obtain ⟨hmeans, -⟩ := expr.evaluate_means context environment
  obtain ⟨meant, _, _, htyped⟩ | ⟨fault, hfault, hblames⟩ :=
    Expr.hasTy_or_blames environment.declaredTy?_eq hdeclared environment.supply
  · exact absurd htyped (huntyped _)
  · rw [hfault] at hmeans
    refine ⟨fault, hmeans, hblames.imp_right fun hpart => ?_⟩
    obtain ⟨harithmetic, part, hpart, htyped, hfault⟩ := hpart
    obtain ⟨hmeans, -⟩ := part.evaluate_means context environment
    rw [hfault] at hmeans
    exact ⟨harithmetic, part, hpart, htyped, hmeans⟩

end Environment

namespace Store

variable {store : Store} {number : Nat} {environment : Environment}

theorem releases_request {call : Call Handle Symbol} (hcall : call ≠ .releaseDeclared) :
    call.request.releases .declared = false := by
  cases call with
  | releaseDeclared => exact absurd rfl hcall
  | _ => rfl

theorem declaredTy?_next (henvironment : store.environment? number = some environment) {action : Action}
    (haction : ∀ context, action ≠ .call number context .releaseDeclared) :
    ∃ later, (store.next action).environment? number = some later ∧
      ∀ name ty, environment.declaredTy? name = some ty → later.declaredTy? name = some ty := by
  obtain ⟨later, hlater, hbecomes⟩ := environment?_next henvironment action
  refine ⟨later, hlater, fun name ty hty => ?_⟩
  cases hcall : action.callOn? number with
  | none =>
    rw [hcall] at hbecomes
    rwa [hbecomes]
  | some made =>
    obtain ⟨context, call⟩ := made
    rw [hcall] at hbecomes
    cases Action.callOn?_eq_some_iff.1 hcall
    have hkept : call ≠ .releaseDeclared := fun hrelease => haction context (by rw [hrelease])
    rw [hbecomes]
    exact (Environment.effect_perform call).declaredTy?_later (releases_request hkept) hty

/-- Along a run without a release of its declarations an environment keeps the types of its declared names. -/
theorem declaredTy?_after (henvironment : store.environment? number = some environment) {actions : List Action}
    (hkept : ∀ context, .call number context .releaseDeclared ∉ actions) :
    ∃ later, (store.after actions).environment? number = some later ∧
      ∀ name ty, environment.declaredTy? name = some ty → later.declaredTy? name = some ty := by
  induction actions generalizing store environment with
  | nil => exact ⟨environment, henvironment, fun _ _ hty => hty⟩
  | cons action actions ih =>
    obtain ⟨middle, hmiddle, hfirst⟩ := declaredTy?_next henvironment fun context haction =>
      hkept context (haction ▸ List.mem_cons_self)
    obtain ⟨later, hlater, hrest⟩ := ih hmiddle fun context hmem => hkept context (List.mem_cons_of_mem _ hmem)
    exact ⟨later, hlater, fun name ty hty => hrest name ty (hfirst name ty hty)⟩

/-- Types that expressions have under the declarations of an environment stay sound and complete for their evaluation
along every run without a release of these declarations. In each later state the declared names have their types, and
an expression that had a type comes to a symbol of this type, which can be stored under every declared name of the
type, or an operation on its integers fails. One of declared variables that had no type comes to the misuse of an
operator, unless a part that had a type already fails by itself in an operation on integers. -/
theorem evaluate_typed (henvironment : store.environment? number = some environment) {actions : List Action}
    (hkept : ∀ context, .call number context .releaseDeclared ∉ actions) :
    ∃ later, (store.after actions).environment? number = some later ∧
      (∀ name ty, environment.declaredTy? name = some ty → later.declaredTy? name = some ty) ∧
      ∀ (context : Context) (expr : Expr),
        (∀ ty, expr.HasTy environment.declaredTy? ty →
          (∃ reference symbol, (expr.evaluate context later).result = .ok (some reference) ∧
            (expr.evaluate context later).state.deref? reference = some symbol ∧ symbol.ty = ty ∧
            ∀ (other : Context) (name : String), later.declaredTy? name = some ty →
              Environment.Yields ((expr.evaluate context later).state.assign other name symbol.value)
                ⟨name, symbol.value⟩) ∨
          ∃ fault, (expr.evaluate context later).result = .error ⟨fault, context.line⟩ ∧ fault.isArithmetic = true) ∧
        ((∀ name ∈ expr.variableNames, (environment.declaredTy? name).isSome) →
          (∀ ty, ¬ expr.HasTy environment.declaredTy? ty) →
          ∃ fault, (expr.evaluate context later).result = .error ⟨fault, context.line⟩ ∧
            (fault.isMisuse = true ∨ fault.isArithmetic = true ∧
              ∃ part ∈ expr.parts, (∃ ty, part.HasTy environment.declaredTy? ty) ∧
                (part.evaluate context later).result = .error ⟨fault, context.line⟩)) := by
  obtain ⟨later, hlater, htypes⟩ := declaredTy?_after henvironment hkept
  refine ⟨later, hlater, htypes, fun context expr => ⟨fun ty htyped => ?_, fun hdeclared huntyped => ?_⟩⟩
  · exact Environment.evaluate_of_hasTy (htyped.of_agree fun name _ => htypes name) context
  · -- The variables of the expression were declared already, so they have no other types now.
    have hback (name : String) (hname : name ∈ expr.variableNames) (ty : Ty) (hty : later.declaredTy? name = some ty) :
        environment.declaredTy? name = some ty := by
      obtain ⟨kept, hkept⟩ := Option.isSome_iff_exists.1 (hdeclared name hname)
      rwa [hkept, ← htypes name kept hkept]
    have hstill (name : String) (hname : name ∈ expr.variableNames) : (later.declaredTy? name).isSome := by
      obtain ⟨kept, hkept⟩ := Option.isSome_iff_exists.1 (hdeclared name hname)
      rw [htypes name kept hkept, Option.isSome_some]
    obtain ⟨fault, hfault, hreason⟩ := Environment.evaluate_of_untyped hstill
      (fun ty htyped => huntyped ty (htyped.of_agree hback)) context
    refine ⟨fault, hfault, hreason.imp_right fun hpart => ?_⟩
    obtain ⟨harithmetic, part, hpart, ⟨ty, htyped⟩, hfails⟩ := hpart
    refine ⟨harithmetic, part, hpart, ⟨ty, htyped.of_agree fun name hname => ?_⟩, hfails⟩
    exact hback name (Expr.mem_variableNames_of_mem_parts hpart hname)

/-- Declarations of an integer and of a boolean. -/
def typedDeclarations : List Action :=
  [.newEnvironment, .call 0 {} (.declareWith "n" (.int 6)), .call 0 {} (.declareWith "p" (.bool true))]

/-- Assignments, a temporary that is released, and an attempt to change a type. -/
def typedReassignments : List Action :=
  [.call 0 {} (.assign "n" (.int 0)), .newEnvironment, .call 0 {} (.newTemporary .int (.int 3)),
    .call 0 {} (.assign "n" (.bool true)), .call 1 {} .releaseDeclared, .call 0 {} .releaseTemporaries,
    .call 0 {} (.declareWith "q" (.bool false))]

/-- A comparison of a quotient by the integer with a literal. -/
def typedComparison : Expr :=
  .binary (.binary (.comparison .lt))
    (.binary (.binary (.arithmetic .div)) (.literal ⟨"6", .int 6⟩) (.variable "n")) (.literal ⟨"2", .int 2⟩)

theorem evaluate_typed_reassigned :
    ∃ later, ((({} : Store).after typedDeclarations).after typedReassignments).environment? 0 = some later ∧
      later.declaredTy? "n" = some .int ∧
      ((∃ reference symbol, (typedComparison.evaluate {} later).result = .ok (some reference) ∧
          (typedComparison.evaluate {} later).state.deref? reference = some symbol ∧ symbol.ty = .bool) ∨
        ∃ fault, (typedComparison.evaluate {} later).result = .error ⟨fault, 1⟩ ∧ fault.isArithmetic = true) ∧
      ∃ fault, ((Expr.unary .not (.variable "n")).evaluate {} later).result = .error ⟨fault, 1⟩ := by
  have hcreated : ((({} : Store).after typedDeclarations).environment? 0).isSome := by decide
  have hdeclared : ((({} : Store).after typedDeclarations).environment? 0).bind (·.declaredTy? "n") = some .int := by
    decide
  obtain ⟨environment, henvironment⟩ := Option.isSome_iff_exists.1 hcreated
  rw [henvironment, Option.bind_some] at hdeclared
  have hkept (context : Context) : Action.call 0 context .releaseDeclared ∉ typedReassignments := by
    simp [typedReassignments]
  obtain ⟨later, hlater, htypes, hevaluate⟩ := evaluate_typed henvironment hkept
  refine ⟨later, hlater, htypes _ _ hdeclared, ?_, ?_⟩
  · have htyped : typedComparison.HasTy environment.declaredTy? .bool :=
      .binary (.comparison .lt) (.binary (.arithmetic .div) (.literal _) (.variable hdeclared)) (.literal _)
    obtain ⟨reference, symbol, hresult, hderef, hty, -⟩ | hfault := (hevaluate {} typedComparison).1 .bool htyped
    · exact .inl ⟨reference, symbol, hresult, hderef, hty⟩
    · exact .inr hfault
  · have hnames : ∀ name ∈ (Expr.unary .not (.variable "n")).variableNames,
        (environment.declaredTy? name).isSome := by
      intro name hname
      rw [List.mem_singleton.1 hname, hdeclared]
      rfl
    have huntyped : ∀ ty, ¬ (Expr.unary .not (.variable "n")).HasTy environment.declaredTy? ty := by
      intro ty htyped
      cases htyped with
      | not hoperand =>
        cases hoperand with
        | «variable» hname =>
          rw [hdeclared] at hname
          cases hname
    obtain ⟨fault, hfault, -⟩ := (hevaluate {} (.unary .not (.variable "n"))).2 hnames huntyped
    exact ⟨fault, hfault⟩

end Store

end SymbolTable
