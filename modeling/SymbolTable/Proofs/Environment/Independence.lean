import SymbolTable.Proofs.Handle.Standing
import SymbolTable.Proofs.Outcome

/-!
# The arenas of an environment are independent

A call is about the declared symbols or about the temporaries, and what it comes to depends on nothing that belongs to
the other side; names of temporaries belong to the side of the temporaries. So an environment behaves like two, of
which one keeps the declarations and the other the temporaries with the supply (`answers_splice`), and the order in
which the calls of the two sides alternate does not matter (`arenas_independent`).
-/

namespace SymbolTable

/-- The arena that a call is about. -/
def Call.arena : Call Handle Symbol → ArenaKind
  | .declare .. | .declareWith .. | .assign .. | .assignFrom .. | .lookup _ | .find _ | .contains _ | .handleOf _
  | .table | .releaseDeclared => .declared
  | .newTemporary .. | .operate .. | .negate _ | .evalBinary .. | .evalUnary .. | .releaseTemporaries => .temporary
  | .get handle => handle.kind

/-- A list that consists of two others, each in its own order. -/
inductive Interleaving {α : Type} : List α → List α → List α → Prop where
  | nil : Interleaving [] [] []
  | left (entry : α) {first second both : List α} (hrest : Interleaving first second both) :
      Interleaving (entry :: first) second (entry :: both)
  | right (entry : α) {first second both : List α} (hrest : Interleaving first second both) :
      Interleaving first (entry :: second) (entry :: both)

namespace Interleaving

variable {α : Type} {first second both : List α} {side : α → Bool}

theorem symm (hboth : Interleaving first second both) : Interleaving second first both := by
  induction hboth with
  | nil => exact .nil
  | left entry hrest ih => exact .right entry ih
  | right entry hrest ih => exact .left entry ih

/-- One list after the other. -/
theorem append (first second : List α) : Interleaving first second (first ++ second) := by
  induction first with
  | cons entry first ih => exact .left entry ih
  | nil =>
    induction second with
    | nil => exact .nil
    | cons entry second ih => exact .right entry ih

theorem filter_left (hboth : Interleaving first second both) (hfirst : ∀ entry ∈ first, side entry = true)
    (hsecond : ∀ entry ∈ second, side entry = false) : both.filter side = first := by
  induction hboth with
  | nil => rfl
  | left entry hrest ih =>
    obtain ⟨hentry, hfirst⟩ := List.forall_mem_cons.1 hfirst
    rw [List.filter_cons_of_pos hentry, ih hfirst hsecond]
  | right entry hrest ih =>
    obtain ⟨hentry, hsecond⟩ := List.forall_mem_cons.1 hsecond
    rw [List.filter_cons_of_neg (Bool.eq_false_iff.1 hentry), ih hfirst hsecond]

end Interleaving

/-- A call with the context that it is made in. -/
structure Use where
  context : Context
  call : Call Handle Symbol

/-- A use of an environment with what it came to and what it logged. -/
structure Answer where
  use : Use
  result : Except Diagnostic Reply
  log : Log

/-- Whether the call of an answer is about an arena. -/
def Answer.concerns (kind : ArenaKind) (answer : Answer) : Bool := answer.use.call.arena == kind

namespace Environment

/-- The environment after one use of it. -/
def next (environment : Environment) (use : Use) : Environment :=
  (environment.perform use.context use.call).state

def answer (environment : Environment) (use : Use) : Answer :=
  let outcome := environment.perform use.context use.call
  ⟨use, outcome.result, outcome.log⟩

/-- The environment after a sequence of uses. -/
def after (environment : Environment) (uses : List Use) : Environment := uses.foldl next environment

/-- What a sequence of uses comes to. -/
def answers (environment : Environment) : List Use → List Answer
  | [] => []
  | use :: uses => environment.answer use :: (environment.next use).answers uses

variable (front back : Environment) (context : Context)

/-- The declared symbols of one environment with the temporaries and the supply of another. -/
def splice : Environment := { front with temporaries := back.temporaries, supply := back.supply }

theorem splice_self (environment : Environment) : environment.splice environment = environment := rfl

/-! ### One call on either side -/

theorem declareWith_splice (name : String) (value : Value) :
    (front.splice back).declareWith context name value =
      (front.declareWith context name value).mapState (·.splice back) := by
  simp only [declareWith, splice]
  cases front.declared.contents.insert? ⟨name, value⟩ <;> rfl

theorem assign_splice (name : String) (value : Value) :
    (front.splice back).assign context name value = (front.assign context name value).mapState (·.splice back) := by
  simp only [assign, splice]
  cases front.declared.contents.locate? name with
  | none => rfl
  | some located =>
    dsimp only
    split <;> rfl

theorem lookup_splice (name : String) :
    (front.splice back).lookup context name = (front.lookup context name).mapState (·.splice back) := by
  have hfind : (front.splice back).find? name = front.find? name := rfl
  simp only [lookup, hfind]
  cases front.find? name <;> rfl

theorem newTemporary_splice (howner : front.owner = back.owner) (ty : Ty) (value : Value) :
    (front.splice back).newTemporary context ty value = (back.newTemporary context ty value).mapState front.splice := by
  simp only [newTemporary, nextTemporary, Arenas.temporaryHandle, ← howner]
  split <;> rfl

theorem keep_splice (howner : front.owner = back.owner) (op : Operator) (computed : Except Fault Value) :
    (front.splice back).keep context op computed = (back.keep context op computed).mapState front.splice := by
  simp only [keep, nextTemporary, Arenas.temporaryHandle, ← howner]
  cases computed <;> rfl

variable {front back context} {handle : Handle}

theorem get?_splice_of_declared (hkind : handle.kind = .declared) :
    (front.splice back).get? handle = front.get? handle := by
  simp only [Arenas.get?, hkind]
  rfl

theorem get?_splice_of_temporary (howner : front.owner = back.owner) (hkind : handle.kind = .temporary) :
    (front.splice back).get? handle = back.get? handle := by
  simp only [Arenas.get?, hkind, ← howner]
  rfl

variable {call : Call Handle Symbol}

/-- A call about the declared symbols does not touch the other side. -/
theorem perform_splice_of_declared (harena : call.arena = .declared) :
    (front.splice back).perform context call = (front.perform context call).mapState (·.splice back) := by
  cases call with
  | declare name ty => exact congrArg (Outcome.map Reply.handle) (declareWith_splice ..)
  | declareWith name value => exact congrArg (Outcome.map Reply.handle) (declareWith_splice ..)
  | assign name value => exact congrArg (Outcome.map Reply.handle) (assign_splice ..)
  | assignFrom name source => exact congrArg (Outcome.map Reply.handle) (assign_splice ..)
  | lookup name => exact congrArg (Outcome.map Reply.symbol) (lookup_splice ..)
  | get handle =>
    simp only [perform, get?_splice_of_declared harena]
    rfl
  | find _ | contains _ | handleOf _ | table | releaseDeclared => rfl
  | _ => cases harena

/-- A call about the temporaries touches neither the declared symbols nor the owner. -/
theorem perform_splice_of_temporary (howner : front.owner = back.owner) (harena : call.arena = .temporary) :
    (front.splice back).perform context call = (back.perform context call).mapState front.splice := by
  have hkeep (op : Operator) (computed : Except Fault Value) := keep_splice front back context howner op computed
  cases call with
  | newTemporary ty value => exact congrArg (Outcome.map Reply.handle) (newTemporary_splice _ _ _ howner ..)
  | operate op left right => simp only [perform, operate, hkeep]; rfl
  | negate operand => simp only [perform, negate, hkeep]; rfl
  | evalBinary op left right =>
    cases op with
    | binary op => simp only [perform, evalBinary, operate, hkeep]; rfl
    | not => rfl
  | evalUnary op operand =>
    cases op with
    | binary op => rfl
    | not => simp only [perform, evalUnary, negate, hkeep]; rfl
  | get handle =>
    simp only [perform, get?_splice_of_temporary howner harena]
    rfl
  | releaseTemporaries => rfl
  | _ => cases harena

theorem owner_next (environment : Environment) (use : Use) : (environment.next use).owner = environment.owner := by
  have heffect : environment.Effect use.context use.call.request (environment.answer use).result
      (environment.next use) := effect_perform use.call
  exact heffect.owner_eq

/-! ### Sequences of calls -/

theorem answers_append (environment : Environment) (uses others : List Use) :
    environment.answers (uses ++ others) = environment.answers uses ++ (environment.after uses).answers others := by
  induction uses generalizing environment with
  | nil => rfl
  | cons use uses ih => exact congrArg _ (ih (environment.next use))

theorem map_use_answers (environment : Environment) (uses : List Use) :
    (environment.answers uses).map Answer.use = uses := by
  induction uses generalizing environment with
  | nil => rfl
  | cons use uses ih => exact congrArg _ (ih (environment.next use))

theorem concerns_answers {kind : ArenaKind} {uses : List Use} (environment : Environment)
    (huses : ∀ use ∈ uses, use.call.arena = kind) (other : ArenaKind) :
    ∀ answer ∈ environment.answers uses, answer.concerns other = (kind == other) := by
  intro answer hanswer
  have huse : answer.use ∈ uses := by
    rw [← environment.map_use_answers uses]
    exact List.mem_map_of_mem hanswer
  rw [Answer.concerns, huses _ huse]

/-- In an interleaving of calls about the two arenas, the declared symbols live through the ones and the temporaries with
the supply through the others, as if they belonged to two environments. -/
theorem answers_splice {declarations temporaries uses : List Use}
    (hinterleaving : Interleaving declarations temporaries uses)
    (hdeclared : ∀ use ∈ declarations, use.call.arena = .declared)
    (htemporary : ∀ use ∈ temporaries, use.call.arena = .temporary) {front back : Environment}
    (howner : front.owner = back.owner) :
    Interleaving (front.answers declarations) (back.answers temporaries) ((front.splice back).answers uses) ∧
      (front.splice back).after uses = (front.after declarations).splice (back.after temporaries) := by
  induction hinterleaving generalizing front back with
  | nil => exact ⟨.nil, rfl⟩
  | left use hrest ih =>
    obtain ⟨harena, hdeclared⟩ := List.forall_mem_cons.1 hdeclared
    have hcall : (front.splice back).perform use.context use.call =
        (front.perform use.context use.call).mapState (·.splice back) := perform_splice_of_declared harena
    have hnext : (front.splice back).next use = (front.next use).splice back := congrArg Outcome.state hcall
    have hanswer : (front.splice back).answer use = front.answer use := by
      rw [answer, hcall]
      rfl
    obtain ⟨hanswers, hafter⟩ := ih hdeclared htemporary ((owner_next front use).trans howner)
    rw [← hnext] at hanswers hafter
    rw [answers, answers, hanswer]
    exact ⟨.left _ hanswers, hafter⟩
  | right use hrest ih =>
    obtain ⟨harena, htemporary⟩ := List.forall_mem_cons.1 htemporary
    have hcall : (front.splice back).perform use.context use.call =
        (back.perform use.context use.call).mapState front.splice := perform_splice_of_temporary howner harena
    have hnext : (front.splice back).next use = front.splice (back.next use) := congrArg Outcome.state hcall
    have hanswer : (front.splice back).answer use = back.answer use := by
      rw [answer, hcall]
      rfl
    obtain ⟨hanswers, hafter⟩ := ih hdeclared htemporary (howner.trans (owner_next back use).symm)
    rw [← hnext] at hanswers hafter
    rw [answers, answers, hanswer]
    exact ⟨.right _ hanswers, hafter⟩

/-- Calls about the declared symbols and calls about the temporaries come to the same in every interleaving, with the
same records in the log, as when all calls of the one side are made before all calls of the other. The environment in the
end is the same as well, with its generations and its supply. -/
theorem arenas_independent {declarations temporaries uses : List Use} (environment : Environment)
    (hdeclared : ∀ use ∈ declarations, use.call.arena = .declared)
    (htemporary : ∀ use ∈ temporaries, use.call.arena = .temporary)
    (hinterleaving : Interleaving declarations temporaries uses) :
    (environment.answers uses).filter (Answer.concerns .declared) ++
          (environment.answers uses).filter (Answer.concerns .temporary) =
        environment.answers (declarations ++ temporaries) ∧
      environment.after uses = environment.after (declarations ++ temporaries) := by
  obtain ⟨hanswers, hafter⟩ := answers_splice hinterleaving hdeclared htemporary (rfl : environment.owner = _)
  obtain ⟨hordered, horderedAfter⟩ :=
    answers_splice (.append declarations temporaries) hdeclared htemporary (rfl : environment.owner = _)
  rw [splice_self] at hanswers hafter hordered horderedAfter
  have hfront := concerns_answers environment hdeclared
  have hback := concerns_answers environment htemporary
  -- what is said after all declarations is what would be said at once
  have hlater : (environment.after declarations).answers temporaries = environment.answers temporaries := by
    have hlast := (Interleaving.append (environment.answers declarations)
      ((environment.after declarations).answers temporaries)).symm.filter_left
      (concerns_answers _ htemporary .temporary) (hfront .temporary)
    rw [← hlast, ← answers_append]
    exact hordered.symm.filter_left (hback .temporary) (hfront .temporary)
  constructor
  · rw [hanswers.filter_left (hfront .declared) (hback .declared),
      hanswers.symm.filter_left (hback .temporary) (hfront .temporary), answers_append, hlater]
  · exact hafter.trans horderedAfter.symm

/-- Declarations, among them one under the name of the first temporary, with a refusal, a release and a stale handle. -/
def declaringUses : List Use :=
  [⟨{}, .declareWith "_temp0" (.int 1)⟩, ⟨{}, .declare "_temp0" .bool⟩, ⟨{}, .releaseDeclared⟩,
    ⟨{}, .get ⟨5, .declared, 0, 0⟩⟩, ⟨{}, .declare "_temp0" .bool⟩]

/-- Temporaries, with a refusal, a release and a handle. -/
def computingUses : List Use :=
  [⟨{}, .newTemporary .int (.int 7)⟩, ⟨{}, .operate (.arithmetic .div) ⟨"_temp0", .int 7⟩ ⟨"y", .int 0⟩⟩,
    ⟨{}, .releaseTemporaries⟩, ⟨{}, .negate ⟨"p", .bool true⟩⟩, ⟨{}, .get ⟨5, .temporary, 0, 1⟩⟩]

/-- The two in turn. -/
def alternatingUses : List Use :=
  (declaringUses.zipWith (fun declaring computing => [declaring, computing]) computingUses).flatten

theorem arenas_independent_alternating :
    (({ owner := 5 } : Environment).after alternatingUses).supply = ⟨2⟩ ∧
      ({ owner := 5 } : Environment).after alternatingUses =
        ({ owner := 5 } : Environment).after (declaringUses ++ computingUses) := by
  have hturns : Interleaving declaringUses computingUses alternatingUses :=
    .left _ (.right _ (.left _ (.right _ (.left _ (.right _ (.left _ (.right _ (.left _ (.right _ .nil)))))))))
  obtain ⟨-, hafter⟩ := arenas_independent { owner := 5 } (by simp [declaringUses, Call.arena])
    (by simp [computingUses, Call.arena]) hturns
  exact ⟨by decide, hafter⟩

end Environment

end SymbolTable
