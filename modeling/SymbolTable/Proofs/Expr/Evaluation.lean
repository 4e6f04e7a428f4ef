import SymbolTable.Proofs.Handle.Standing
import SymbolTable.Proofs.Operator.Exact

/-!
# Evaluation computes the meaning

An environment that evaluates an expression comes to what the expression means, or to the fault that the meaning
has, at the line of the context. On the way it only adds temporaries, one for the result of each operator, so that
every handle still resolves when its symbol is needed (`evaluate_eq_meaning`).
-/

namespace SymbolTable

namespace Outcome

variable {σ α β : Type} {outcome : Outcome σ α}

theorem andThen_of_ok {value : α} (hresult : outcome.result = .ok value) (next : α → σ → Outcome σ β) :
    outcome.andThen next =
      { next value outcome.state with log := outcome.log ++ (next value outcome.state).log } := by
  rw [andThen, hresult]

theorem andThen_of_error {diagnostic : Diagnostic} (hresult : outcome.result = .error diagnostic)
    (next : α → σ → Outcome σ β) : outcome.andThen next = ⟨.error diagnostic, outcome.state, outcome.log⟩ := by
  rw [andThen, hresult]

end Outcome

namespace Environment

variable {environment middle later : Environment} {context : Context} {added others : List Meaning}

/-- An environment after temporaries with given meanings have been added, each of which took a name. -/
structure Extends (environment later : Environment) (added : List Meaning) : Prop where
  owner_eq : later.owner = environment.owner
  declared_eq : later.declared = environment.declared
  generation_eq : later.temporaries.generation = environment.temporaries.generation
  temporaries_eq : ∃ symbols, later.temporarySymbols = environment.temporarySymbols ++ symbols ∧
    symbols.map Symbol.meaning = added
  supply_eq : later.supply = added.foldl (fun supply _ => supply.advance) environment.supply

namespace Extends

theorem refl (environment : Environment) : environment.Extends environment [] where
  owner_eq := rfl
  declared_eq := rfl
  generation_eq := rfl
  temporaries_eq := ⟨[], (List.append_nil _).symm, rfl⟩
  supply_eq := rfl

theorem trans (hfirst : environment.Extends middle added) (hsecond : middle.Extends later others) :
    environment.Extends later (added ++ others) where
  owner_eq := hsecond.owner_eq.trans hfirst.owner_eq
  declared_eq := hsecond.declared_eq.trans hfirst.declared_eq
  generation_eq := hsecond.generation_eq.trans hfirst.generation_eq
  temporaries_eq := by
    obtain ⟨symbols, hsymbols, hadded⟩ := hfirst.temporaries_eq
    obtain ⟨more, hmore, hothers⟩ := hsecond.temporaries_eq
    refine ⟨symbols ++ more, ?_, ?_⟩
    · rw [hmore, hsymbols, List.append_assoc]
    · rw [List.map_append, hadded, hothers]
  supply_eq := by rw [hsecond.supply_eq, hfirst.supply_eq, List.foldl_append]

theorem push (environment : Environment) (value : Value) :
    environment.Extends (environment.push value) [⟨environment.supply.name, value.datum⟩] where
  owner_eq := rfl
  declared_eq := rfl
  generation_eq := rfl
  temporaries_eq := ⟨[⟨environment.supply.name, value⟩], Array.toList_push, rfl⟩
  supply_eq := rfl

theorem value?_eq (hextends : environment.Extends later added) : later.value? = environment.value? := by
  funext name
  rw [Arenas.value?, Arenas.find?, hextends.declared_eq]
  rfl

/-- What a handle resolves to is not touched by what is added. -/
theorem get?_later {handle : Handle} {symbol : Symbol} (hextends : environment.Extends later added)
    (hget : environment.get? handle = some symbol) : later.get? handle = some symbol := by
  obtain ⟨symbols, hsymbols, _⟩ := hextends.temporaries_eq
  have hgrown (position : Nat) (hposition : environment.temporaries.contents[position]? = some symbol) :
      later.temporaries.contents[position]? = some symbol := by
    rw [← Array.getElem?_toList] at hposition ⊢
    have hlt := (List.getElem?_eq_some_iff.1 hposition).1
    exact ((congrArg (·[position]?) hsymbols).trans (List.getElem?_append_left hlt)).trans hposition
  unfold Arenas.get? at hget ⊢
  rw [hextends.owner_eq, hextends.declared_eq, hextends.generation_eq]
  split at hget
  · cases hget
  · next howner =>
    rw [if_neg howner]
    split at hget
    · exact hget
    · split at hget
      · next hgeneration =>
        rw [if_pos hgeneration]
        exact hgrown _ hget
      · cases hget

theorem deref?_later {reference : Operand.Reference} {symbol : Symbol} (hextends : environment.Extends later added)
    (hderef : environment.deref? reference = some symbol) : later.deref? reference = some symbol := by
  cases reference with
  | copy copied => exact hderef
  | handle handle => exact hextends.get?_later hderef

end Extends

/-- A result, with the environment after it, is what an expression means: it stands for a symbol of this meaning and
the supply is where the meaning leaves it, or else it is a diagnostic of the fault. -/
def Means (context : Context) (result : Except Diagnostic (Option Operand.Reference)) (later : Environment) :
    Except Fault (Meaning × NameSupply) → Prop
  | .ok (meaning, supply) => ∃ reference symbol, result = .ok (some reference) ∧
      later.deref? reference = some symbol ∧ symbol.meaning = meaning ∧ later.supply = supply
  | .error fault => result = .error ⟨fault, context.line⟩

/-- An operator leaves what it makes of its operands in a temporary. -/
theorem means_create (context : Context) {outcome : Outcome Environment Handle} {computed : Except Fault Value}
    (heffect : environment.Effect context (.create computed) (outcome.map .handle).result outcome.state) :
    Means context (outcome.map (some ∘ .handle)).result outcome.state
        ((computed.map Value.datum).map environment.supply.issue) ∧
      environment.Extends outcome.state
        (((computed.map Value.datum).map environment.supply.issue).toOption.toList.map Prod.fst) := by
  obtain ⟨result, state, log⟩ := outcome
  cases computed with
  | error fault =>
    cases result with
    | error diagnostic =>
      cases heffect
      exact ⟨rfl, .refl _⟩
    | ok handle => cases heffect
  | ok value =>
    cases result with
    | error diagnostic => cases heffect
    | ok handle =>
      cases heffect
      have hget := environment.get?_nextTemporary value
      exact ⟨⟨.handle environment.nextTemporary, _, rfl, hget, rfl, rfl⟩, .push ..⟩

end Environment

namespace Expr

open Environment

variable {declared : String → Option Value} {supply : NameSupply} {context : Context} {environment : Environment}
  {operand left right : Expr} (op : Operator)

/-! ### Steps of the meaning -/

theorem meaning_unary_of_error {fault : Fault} (hoperand : operand.meaning declared supply = .error fault) :
    (unary op operand).meaning declared supply = .error fault := by
  rw [meaning_unary, hoperand]
  rfl

theorem meaning_unary_of_ok {meant : Meaning} {later : NameSupply}
    (hoperand : operand.meaning declared supply = .ok (meant, later)) :
    (unary op operand).meaning declared supply = (op.unaryMeaning meant).map later.issue := by
  rw [meaning_unary, hoperand]
  rfl

theorem meaning_binary_of_left_error {fault : Fault} (hleft : left.meaning declared supply = .error fault)
    (right : Expr) :
    (binary op left right).meaning declared supply = .error fault := by
  rw [meaning_binary, hleft]
  rfl

theorem meaning_binary_of_right_error {first : Meaning} {middle : NameSupply} {fault : Fault}
    (hleft : left.meaning declared supply = .ok (first, middle))
    (hright : right.meaning declared middle = .error fault) :
    (binary op left right).meaning declared supply = .error fault := by
  rw [meaning_binary, hleft, Except.bind, hright]
  rfl

theorem meaning_binary_of_ok {first second : Meaning} {middle later : NameSupply}
    (hleft : left.meaning declared supply = .ok (first, middle))
    (hright : right.meaning declared middle = .ok (second, later)) :
    (binary op left right).meaning declared supply = (op.binaryMeaning first second).map later.issue := by
  rw [meaning_binary, hleft, Except.bind, hright]
  rfl

/-! ### Steps of the evaluation -/

theorem evaluate_unary_of_error {diagnostic : Diagnostic}
    (hoperand : (operand.evaluate context environment).result = .error diagnostic) :
    ((unary op operand).evaluate context environment).result = .error diagnostic ∧
      ((unary op operand).evaluate context environment).state = (operand.evaluate context environment).state := by
  rw [evaluate_unary, Outcome.andThen_of_error hoperand]
  exact ⟨rfl, rfl⟩

theorem evaluate_unary_of_ok {reference : Operand.Reference} {symbol : Symbol} {middle : Environment}
    (hoperand : (operand.evaluate context environment).result = .ok (some reference))
    (hmiddle : (operand.evaluate context environment).state = middle)
    (hderef : middle.deref? reference = some symbol) :
    ((unary op operand).evaluate context environment).result =
        ((middle.evalUnary context op symbol).map (some ∘ .handle)).result ∧
      ((unary op operand).evaluate context environment).state = (middle.evalUnary context op symbol).state := by
  rw [evaluate_unary, Outcome.andThen_of_ok hoperand, hmiddle]
  constructor
  · simp only [Option.bind_some, hderef]
  · simp only [Option.bind_some, hderef]
    rfl

theorem evaluate_binary_of_left_error {diagnostic : Diagnostic}
    (hleft : (left.evaluate context environment).result = .error diagnostic) (right : Expr) :
    ((binary op left right).evaluate context environment).result = .error diagnostic ∧
      ((binary op left right).evaluate context environment).state = (left.evaluate context environment).state := by
  rw [evaluate_binary, Outcome.andThen_of_error hleft]
  exact ⟨rfl, rfl⟩

theorem evaluate_binary_of_right_error {reference : Option Operand.Reference} {middle : Environment}
    {diagnostic : Diagnostic} (hleft : (left.evaluate context environment).result = .ok reference)
    (hmiddle : (left.evaluate context environment).state = middle)
    (hright : (right.evaluate context middle).result = .error diagnostic) :
    ((binary op left right).evaluate context environment).result = .error diagnostic ∧
      ((binary op left right).evaluate context environment).state = (right.evaluate context middle).state := by
  rw [evaluate_binary, Outcome.andThen_of_ok hleft, hmiddle, Outcome.andThen_of_error hright]
  exact ⟨rfl, rfl⟩

theorem evaluate_binary_of_ok {first second : Operand.Reference} {leftSymbol rightSymbol : Symbol}
    {middle later : Environment} (hleft : (left.evaluate context environment).result = .ok (some first))
    (hmiddle : (left.evaluate context environment).state = middle)
    (hright : (right.evaluate context middle).result = .ok (some second))
    (hlater : (right.evaluate context middle).state = later)
    (hfirst : later.deref? first = some leftSymbol) (hsecond : later.deref? second = some rightSymbol) :
    ((binary op left right).evaluate context environment).result =
        ((later.evalBinary context op leftSymbol rightSymbol).map (some ∘ .handle)).result ∧
      ((binary op left right).evaluate context environment).state =
        (later.evalBinary context op leftSymbol rightSymbol).state := by
  rw [evaluate_binary, Outcome.andThen_of_ok hleft, hmiddle, Outcome.andThen_of_ok hright, hlater]
  constructor
  · simp only [Option.bind_some, hfirst, hsecond]
  · simp only [Option.bind_some, hfirst, hsecond]
    rfl

/-- The evaluation of an expression comes to its meaning, and extends the environment by the results of its operators.
The two go together: the left operand is still there after the right one because that has only added to it. -/
theorem evaluate_means (context : Context) (expr : Expr) (environment : Environment) :
    Means context (expr.evaluate context environment).result (expr.evaluate context environment).state
        (expr.meaning environment.value? environment.supply) ∧
      environment.Extends (expr.evaluate context environment).state
        (expr.results environment.value? environment.supply) := by
  induction expr generalizing environment with
  | literal symbol =>
    exact ⟨⟨.copy symbol, symbol, rfl, rfl, rfl, rfl⟩, .refl environment⟩
  | «variable» name =>
    rw [evaluate_variable, lookup, meaning_variable, results, Arenas.value?]
    cases hfind : environment.find? name with
    | none => exact ⟨rfl, .refl environment⟩
    | some symbol =>
      have hname : symbol.name = name := Declarations.name_of_find? hfind
      refine ⟨⟨.copy symbol, symbol, rfl, rfl, ?_, rfl⟩, .refl environment⟩
      rw [Symbol.meaning, hname]
  | unary op operand ih =>
    obtain ⟨hmeans, hextends⟩ := ih environment
    rw [results]
    cases hmeaning : operand.meaning environment.value? environment.supply with
    | error fault =>
      rw [hmeaning] at hmeans
      obtain ⟨hresult, hstate⟩ := evaluate_unary_of_error op hmeans
      rw [meaning_unary_of_error op hmeaning, hresult, hstate]
      exact ⟨rfl, hextends.trans (.refl _)⟩
    | ok meant =>
      obtain ⟨meaning, supply⟩ := meant
      rw [hmeaning] at hmeans
      obtain ⟨reference, symbol, hoperand, hderef, rfl, rfl⟩ := hmeans
      obtain ⟨hresult, hstate⟩ := evaluate_unary_of_ok op hoperand rfl hderef
      rw [meaning_unary_of_ok op hmeaning, ← op.computeUnary_eq, hresult, hstate]
      obtain ⟨hnode, hadded⟩ := means_create context (effect_evalUnary op symbol)
      exact ⟨hnode, hextends.trans hadded⟩
  | binary op left right ihleft ihright =>
    obtain ⟨hmeans, hextends⟩ := ihleft environment
    rw [results]
    cases hleft : left.meaning environment.value? environment.supply with
    | error fault =>
      rw [hleft] at hmeans
      obtain ⟨hresult, hstate⟩ := evaluate_binary_of_left_error op hmeans right
      rw [meaning_binary_of_left_error op hleft, hresult, hstate]
      exact ⟨rfl, (hextends.trans (.refl _)).trans (.refl _)⟩
    | ok first =>
      obtain ⟨first, middle⟩ := first
      rw [hleft] at hmeans
      obtain ⟨firstReference, leftSymbol, hfirst, hfirstDeref, rfl, rfl⟩ := hmeans
      -- The declared values are what they were, so the right operand means the same after the left one.
      obtain ⟨hmeans, hmore⟩ := ihright (left.evaluate context environment).state
      rw [hextends.value?_eq] at hmeans hmore
      cases hright : right.meaning environment.value? (left.evaluate context environment).state.supply with
      | error fault =>
        rw [hright] at hmeans
        obtain ⟨hresult, hstate⟩ := evaluate_binary_of_right_error op hfirst rfl hmeans
        rw [meaning_binary_of_right_error op hleft hright, hresult, hstate]
        exact ⟨rfl, (hextends.trans hmore).trans (.refl _)⟩
      | ok second =>
        obtain ⟨second, later⟩ := second
        rw [hright] at hmeans
        obtain ⟨secondReference, rightSymbol, hsecond, hsecondDeref, rfl, rfl⟩ := hmeans
        have hfirstLater := hmore.deref?_later hfirstDeref
        obtain ⟨hresult, hstate⟩ := evaluate_binary_of_ok op hfirst rfl hsecond rfl hfirstLater hsecondDeref
        rw [meaning_binary_of_ok op hleft hright, ← op.computeBinary_eq, hresult, hstate]
        obtain ⟨hnode, hadded⟩ := means_create context (effect_evalBinary op leftSymbol rightSymbol)
        exact ⟨hnode, (hextends.trans hmore).trans hadded⟩

end Expr

end SymbolTable
