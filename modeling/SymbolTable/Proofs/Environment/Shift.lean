import SymbolTable.Proofs.Handle.Standing
import SymbolTable.Proofs.Outcome

/-!
# Environments with other owners and generations

What an environment does depends neither on its owner number nor on its generations, which only stand in the handles that
it issues. A `Shift` changes both by fixed amounts, in environments as in handles. A call on a shifted environment comes
to what it comes to on the original, with shifted handles and the same log (`Shift.perform`, `Shift.get?_environment`).
-/

namespace SymbolTable

/-- Whether a call asks for the symbol of a handle. -/
def Call.isGet {η ο : Type} : Call η ο → Bool
  | .get _ => true
  | _ => false

/-- By how much owner numbers and generations are changed. -/
structure Shift where
  owner : UInt64
  generation : ArenaKind → UInt32

namespace Shift

variable (shift : Shift)

def handle (handle : Handle) : Handle :=
  { handle with
    owner := handle.owner + shift.owner
    generation := handle.generation + shift.generation handle.kind }

/-- A reply with its handle shifted. -/
def reply : Reply → Reply
  | .handle issued => .handle (shift.handle issued)
  | .located issued => .located (issued.map shift.handle)
  | reply => reply

def environment (environment : Environment) : Environment :=
  { environment with
    owner := environment.owner + shift.owner
    declared.generation := environment.declared.generation + shift.generation .declared
    temporaries.generation := environment.temporaries.generation + shift.generation .temporary }

theorem handle_injective : Function.Injective shift.handle := by
  intro first second hsame
  obtain ⟨owner, kind, position, generation⟩ := first
  obtain ⟨otherOwner, otherKind, otherPosition, otherGeneration⟩ := second
  simp only [handle, Handle.mk.injEq] at hsame
  obtain ⟨howner, rfl, rfl, hgeneration⟩ := hsame
  rw [UInt64.add_left_inj] at howner
  rw [UInt32.add_left_inj] at hgeneration
  rw [howner, hgeneration]

variable (environment : Environment) (context : Context)

theorem generation_environment (kind : ArenaKind) :
    (shift.environment environment).generation kind = environment.generation kind + shift.generation kind := by
  cases kind <;> rfl

theorem handle?_environment (name : String) :
    (shift.environment environment).handle? name = (environment.handle? name).map shift.handle := by
  rw [Arenas.handle?, Arenas.handle?, Option.map_map]
  rfl

theorem get?_environment (issued : Handle) :
    (shift.environment environment).get? (shift.handle issued) = environment.get? issued := by
  obtain ⟨owner, kind, position, generation⟩ := issued
  have howner : owner + shift.owner ≠ environment.owner + shift.owner ↔ owner ≠ environment.owner := by
    rw [ne_eq, UInt64.add_left_inj]
  cases kind with
  | declared =>
    simp only [Arenas.get?, handle, Shift.environment, howner, UInt32.add_left_inj]
  | temporary =>
    simp only [Arenas.get?, handle, Shift.environment, howner, UInt32.add_left_inj]

/-! ### Calls -/

theorem declareWith (name : String) (value : Value) :
    (shift.environment environment).declareWith context name value =
      ((environment.declareWith context name value).map shift.handle).mapState shift.environment := by
  simp only [Environment.declareWith, Shift.environment]
  cases environment.declared.contents.insert? ⟨name, value⟩ <;> rfl

theorem assign (name : String) (value : Value) :
    (shift.environment environment).assign context name value =
      ((environment.assign context name value).map shift.handle).mapState shift.environment := by
  simp only [Environment.assign, Shift.environment]
  cases environment.declared.contents.locate? name with
  | none => rfl
  | some located =>
    dsimp only
    split <;> rfl

theorem lookup (name : String) :
    ((shift.environment environment).lookup context name).map Reply.symbol =
      (((environment.lookup context name).map Reply.symbol).map shift.reply).mapState shift.environment := by
  have hfind : (shift.environment environment).find? name = environment.find? name := rfl
  simp only [Environment.lookup, hfind]
  cases environment.find? name <;> rfl

theorem newTemporary (ty : Ty) (value : Value) :
    (shift.environment environment).newTemporary context ty value =
      ((environment.newTemporary context ty value).map shift.handle).mapState shift.environment := by
  simp only [Environment.newTemporary]
  split <;> rfl

theorem keep (op : Operator) (computed : Except Fault Value) :
    (shift.environment environment).keep context op computed =
      ((environment.keep context op computed).map shift.handle).mapState shift.environment := by
  cases computed <;> rfl

theorem operate (op : BinaryOperator) (left right : Symbol) :
    (shift.environment environment).operate context op left right =
      ((environment.operate context op left right).map shift.handle).mapState shift.environment :=
  congrArg (Outcome.within · _) (shift.keep environment context (.binary op) (op.compute left right))

theorem negate (operand : Symbol) :
    (shift.environment environment).negate context operand =
      ((environment.negate context operand).map shift.handle).mapState shift.environment :=
  congrArg (Outcome.within · _) (shift.keep environment context .not operand.negation)

theorem evalBinary (op : Operator) (left right : Symbol) :
    (shift.environment environment).evalBinary context op left right =
      ((environment.evalBinary context op left right).map shift.handle).mapState shift.environment := by
  cases op with
  | binary op => exact shift.operate environment context op left right
  | not => rfl

theorem evalUnary (op : Operator) (operand : Symbol) :
    (shift.environment environment).evalUnary context op operand =
      ((environment.evalUnary context op operand).map shift.handle).mapState shift.environment := by
  cases op with
  | binary op => rfl
  | not => exact shift.negate environment context operand

theorem generation_add_comm (generation change : UInt32) : generation + change + 1 = generation + 1 + change := by
  rw [UInt32.add_assoc, UInt32.add_comm change, ← UInt32.add_assoc]

theorem releaseDeclared :
    (shift.environment environment).releaseDeclared = environment.releaseDeclared.mapState shift.environment := by
  have hgeneration := generation_add_comm environment.declared.generation (shift.generation .declared)
  simp only [Environment.releaseDeclared, Arena.release, Shift.environment, hgeneration]
  rfl

theorem releaseTemporaries :
    (shift.environment environment).releaseTemporaries = environment.releaseTemporaries.mapState shift.environment := by
  have hgeneration := generation_add_comm environment.temporaries.generation (shift.generation .temporary)
  simp only [Environment.releaseTemporaries, Arena.release, Shift.environment, hgeneration]
  rfl

theorem map_handle {σ : Type} (outcome : Outcome σ Handle) :
    (outcome.map shift.handle).map Reply.handle = (outcome.map Reply.handle).map shift.reply := by
  obtain ⟨result, state, log⟩ := outcome
  cases result <;> rfl

variable {context}

/-- A call that is given no handle comes to the same on a shifted environment, with the handle that it returns
shifted. -/
theorem perform {call : Call Handle Symbol} (hget : call.isGet = false) :
    (shift.environment environment).perform context call =
      ((environment.perform context call).map shift.reply).mapState shift.environment := by
  have hmap (outcome : Outcome Environment Handle) :
      ((outcome.map shift.handle).mapState shift.environment).map Reply.handle =
        ((outcome.map Reply.handle).map shift.reply).mapState shift.environment :=
    congrArg (Outcome.mapState shift.environment) (shift.map_handle outcome)
  cases call with
  | declare name ty => exact (congrArg _ (shift.declareWith ..)).trans (hmap _)
  | declareWith name value => exact (congrArg _ (shift.declareWith ..)).trans (hmap _)
  | assign name value => exact (congrArg _ (shift.assign ..)).trans (hmap _)
  | assignFrom name source => exact (congrArg _ (shift.assign ..)).trans (hmap _)
  | newTemporary ty value => exact (congrArg _ (shift.newTemporary ..)).trans (hmap _)
  | operate op left right => exact (congrArg _ (shift.operate ..)).trans (hmap _)
  | negate operand => exact (congrArg _ (shift.negate ..)).trans (hmap _)
  | evalBinary op left right => exact (congrArg _ (shift.evalBinary ..)).trans (hmap _)
  | evalUnary op operand => exact (congrArg _ (shift.evalUnary ..)).trans (hmap _)
  | lookup name => exact shift.lookup environment context name
  | find name => rfl
  | contains name => rfl
  | handleOf name =>
    simp only [Environment.perform, shift.handle?_environment]
    rfl
  | get issued => cases hget
  | table => rfl
  | releaseDeclared => exact congrArg (Outcome.map fun _ => Reply.done) (shift.releaseDeclared environment)
  | releaseTemporaries => exact congrArg (Outcome.map fun _ => Reply.done) (shift.releaseTemporaries environment)

end Shift

end SymbolTable
