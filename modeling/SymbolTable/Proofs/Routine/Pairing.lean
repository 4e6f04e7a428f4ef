import Mathlib.Data.List.Forall2
import SymbolTable.Proofs.Routine.Basic

/-!
# Two runs of one routine

When one routine runs in two places, what it comes to is the same in both, except that temporaries have other names
and handles another owner. A `Pairing` says which names of temporaries correspond, and its relations say this of
symbols, faults, replies, logs, records and environments. Calls that are paired do paired things to paired environments
(`Pairing.perform`): nothing that a call does depends on the name of a temporary, on an owner or on the state of a
supply.
-/

namespace SymbolTable

theorem rel_bind {α β γ δ : Type} {R : α → β → Prop} {S : γ → δ → Prop} {first : Option α} {second : Option β}
    {f : α → Option γ} {g : β → Option δ} (hrel : Option.Rel R first second)
    (hnext : ∀ a b, R a b → Option.Rel S (f a) (g b)) : Option.Rel S (first.bind f) (second.bind g) := by
  cases hrel with
  | some hvalue => exact hnext _ _ hvalue
  | none => exact .none

theorem rel_getElem? {α β : Type} {R : α → β → Prop} {first : List α} {second : List β}
    (hrel : List.Forall₂ R first second) (position : Nat) : Option.Rel R first[position]? second[position]? := by
  induction hrel generalizing position with
  | nil => exact .none
  | cons hhead _ ih =>
    cases position with
    | zero => exact .some hhead
    | succ position => exact ih position

theorem toOption_elim_bind {α β : Type} (found : Option α) (next : α → Except Unit β) :
    (found.elim (.error ()) .ok >>= next).toOption = found.bind fun value => (next value).toOption := by
  cases found <;> rfl

/-- Whether a call has neither handles nor symbols. -/
def Call.isPlain {η ο : Type} : Call η ο → Bool
  | .assignFrom .. | .operate .. | .negate _ | .evalBinary .. | .evalUnary .. | .get _ => false
  | _ => true

/-- Whether a fault tells the names of operands. -/
def Fault.tellsOperands : Fault → Bool
  | .typeMismatch _ => true
  | _ => false

/-- Whether an event tells the name of a temporary. -/
def Event.tellsTemporary : Event → Bool
  | .temporary .. => true
  | _ => false

/-- Which names of temporaries correspond in two runs of a routine, and the owner of the handles in each. -/
structure Pairing where
  names : String → String → Prop
  owner : UInt64
  otherOwner : UInt64

namespace Pairing

variable (pairing : Pairing)

/-- Names in one place correspond if they are those of temporaries, and are the same otherwise. -/
def Names : Bool → String → String → Prop
  | true, name, other => pairing.names name other
  | false, name, other => name = other

structure Symbols (temporary : Bool) (symbol other : Symbol) : Prop where
  name : pairing.Names temporary symbol.name other.name
  value : symbol.value = other.value

/-- Handles of the two environments that differ in nothing but the owner. -/
structure Handles (handle other : Handle) : Prop where
  owner : handle.owner = pairing.owner
  other_eq : other = { handle with owner := pairing.otherOwner }

/-- Faults that tell corresponding operands, or the same fault if it tells none. -/
inductive Faults (marks : Marks) : Fault → Fault → Prop where
  | unary {op : Operator} {ty : Ty} {name other : String} (hname : pairing.Names marks.left name other) :
      Faults marks (.typeMismatch ⟨op, ⟨name, ty⟩, none⟩) (.typeMismatch ⟨op, ⟨other, ty⟩, none⟩)
  | binary {op : Operator} {leftTy rightTy : Ty} {left otherLeft right otherRight : String}
      (hleft : pairing.Names marks.left left otherLeft) (hright : pairing.Names marks.right right otherRight) :
      Faults marks (.typeMismatch ⟨op, ⟨left, leftTy⟩, some ⟨right, rightTy⟩⟩)
        (.typeMismatch ⟨op, ⟨otherLeft, leftTy⟩, some ⟨otherRight, rightTy⟩⟩)
  | same {fault : Fault} (hfault : fault.tellsOperands = false) : Faults marks fault fault

inductive Replies (marks : Marks) : Reply → Reply → Prop where
  | handle {handle other : Handle} (hhandle : pairing.Handles handle other) :
      Replies marks (.handle handle) (.handle other)
  | located {handle other : Option Handle} (hhandle : Option.Rel pairing.Handles handle other) :
      Replies marks (.located handle) (.located other)
  | symbol {symbol other : Symbol} (hsymbol : pairing.Symbols marks.left symbol other) :
      Replies marks (.symbol symbol) (.symbol other)
  | found {symbol other : Option Symbol} (hsymbol : Option.Rel (pairing.Symbols marks.left) symbol other) :
      Replies marks (.found symbol) (.found other)
  | flag (flag : Bool) : Replies marks (.flag flag) (.flag flag)
  | text (text : String) : Replies marks (.text text) (.text text)
  | done : Replies marks .done .done

inductive Results (marks : Marks) : Except Diagnostic Reply → Except Diagnostic Reply → Prop where
  | ok {reply other : Reply} (hreply : pairing.Replies marks reply other) : Results marks (.ok reply) (.ok other)
  | error {fault other : Fault} (hfault : pairing.Faults marks fault other) (line : UInt32) :
      Results marks (.error ⟨fault, line⟩) (.error ⟨other, line⟩)

inductive Spans (marks : Marks) : Span → Span → Prop where
  | binary (op : BinaryOperator) {left otherLeft right otherRight : String}
      (hleft : pairing.Names marks.left left otherLeft) (hright : pairing.Names marks.right right otherRight) :
      Spans marks (.binary op left right) (.binary op otherLeft otherRight)
  | negation {operand other : String} (hoperand : pairing.Names marks.left operand other) :
      Spans marks (.negation operand) (.negation other)

inductive Events : Event → Event → Prop where
  | temporary {name other : String} (hname : pairing.names name other) (value : Value) :
      Events (.temporary name value) (.temporary other value)
  | same {event : Event} (hevent : event.tellsTemporary = false) : Events event event

inductive LogRecords (marks : Marks) : LogRecord → LogRecord → Prop where
  | opened {span other : Span} (hspan : pairing.Spans marks span other) : LogRecords marks (.opened span) (.opened other)
  | event {inside otherInside : Option Span} {event other : Event}
      (hinside : Option.Rel (pairing.Spans marks) inside otherInside) (hevent : pairing.Events event other) :
      LogRecords marks (.event inside event) (.event otherInside other)

/-- Records of one line: the same names are marked, and what came of the line and was logged corresponds. -/
structure Records (record other : Routine.Record) : Prop where
  marks : record.marks = other.marks
  result : pairing.Results record.marks record.result other.result
  log : List.Forall₂ (pairing.LogRecords record.marks) record.log other.log

/-- Environments with the same declarations and with temporaries that correspond one by one. -/
structure Environments (environment other : Environment) : Prop where
  owner : environment.owner = pairing.owner
  otherOwner : other.owner = pairing.otherOwner
  declared : environment.declared = other.declared
  generation : environment.temporaries.generation = other.temporaries.generation
  temporaries : List.Forall₂ (pairing.Symbols true) environment.temporarySymbols other.temporarySymbols

/-- Calls that are the same up to what their operands and handles are called. -/
inductive Calls : Marks → Call Handle Symbol → Call Handle Symbol → Prop where
  | plain {call : Call Handle Symbol} (hplain : call.isPlain = true) : Calls {} call call
  | assignFrom (name : String) {source other : Symbol} (hvalue : source.value = other.value) :
      Calls {} (.assignFrom name source) (.assignFrom name other)
  | operate (op : BinaryOperator) {marks : Marks} {left otherLeft right otherRight : Symbol}
      (hleft : pairing.Symbols marks.left left otherLeft) (hright : pairing.Symbols marks.right right otherRight) :
      Calls marks (.operate op left right) (.operate op otherLeft otherRight)
  | negate {marks : Marks} {operand other : Symbol} (hoperand : pairing.Symbols marks.left operand other) :
      Calls marks (.negate operand) (.negate other)
  | evalBinary (op : Operator) {marks : Marks} {left otherLeft right otherRight : Symbol}
      (hleft : pairing.Symbols marks.left left otherLeft) (hright : pairing.Symbols marks.right right otherRight) :
      Calls marks (.evalBinary op left right) (.evalBinary op otherLeft otherRight)
  | evalUnary (op : Operator) {marks : Marks} {operand other : Symbol}
      (hoperand : pairing.Symbols marks.left operand other) :
      Calls marks (.evalUnary op operand) (.evalUnary op other)
  | get {marks : Marks} {handle other : Handle} (hmark : marks.left = handle.isTemporary)
      (hhandle : pairing.Handles handle other) : Calls marks (.get handle) (.get other)

/-- What operators make of operands. -/
inductive Computed (marks : Marks) : Except Fault Value → Except Fault Value → Prop where
  | ok (value : Value) : Computed marks (.ok value) (.ok value)
  | error {fault other : Fault} (hfault : pairing.Faults marks fault other) :
      Computed marks (.error fault) (.error other)

structure Outcomes (marks : Marks) (outcome other : Outcome Environment Reply) : Prop where
  result : pairing.Results marks outcome.result other.result
  log : List.Forall₂ (pairing.LogRecords marks) outcome.log other.log
  state : pairing.Environments outcome.state other.state

variable {pairing} {environment other : Environment} {marks : Marks} {context : Context}

/-! ### Outcomes -/

theorem log_ofEvents {events others : List Event} (hevents : List.Forall₂ pairing.Events events others) :
    List.Forall₂ (pairing.LogRecords marks) (Log.ofEvents events) (Log.ofEvents others) := by
  induction hevents with
  | nil => exact .nil
  | cons hhead _ ih => exact .cons (.event .none hhead) ih

theorem log_within {log otherLog : Log} {span otherSpan : Span}
    (hlog : List.Forall₂ (pairing.LogRecords marks) log otherLog) (hspan : pairing.Spans marks span otherSpan) :
    List.Forall₂ (pairing.LogRecords marks) (log.within span) (otherLog.within otherSpan) := by
  refine .cons (.opened hspan) ?_
  induction hlog with
  | nil => exact .nil
  | cons hhead _ ih =>
    refine .cons ?_ ih
    cases hhead with
    | opened hopened => exact .opened hopened
    | event hinside hevent =>
      cases hinside with
      | none => exact .event (.some hspan) hevent
      | some hinside => exact .event (.some hinside) hevent

theorem Faults.events {fault otherFault : Fault} (hfault : pairing.Faults marks fault otherFault) (line : UInt32) :
    List.Forall₂ pairing.Events (Diagnostic.event? ⟨fault, line⟩).toList (Diagnostic.event? ⟨otherFault, line⟩).toList := by
  cases hfault with
  | unary hname => exact .cons (.same rfl) .nil
  | binary hleft hright => exact .cons (.same rfl) .nil
  | same hfault =>
    cases fault with
    | typeMismatch mismatch => cases hfault
    | divisionByZero => exact .cons (.same rfl) .nil
    | operandCount op => exact .cons (.same rfl) .nil
    | duplicateDeclaration name => exact .cons (.same rfl) .nil
    | overflow op => exact .nil
    | undeclaredVariable name => exact .nil
    | valueTypeMismatch name expected found => exact .nil

theorem outcomes_refuse {α : Type} {f : α → Reply} {fault otherFault : Fault}
    (henvironment : pairing.Environments environment other) (hfault : pairing.Faults marks fault otherFault) :
    pairing.Outcomes marks ((Outcome.refuse environment context fault).map f)
      ((Outcome.refuse other context otherFault).map f) where
  result := .error hfault context.line
  log := log_ofEvents (hfault.events context.line)
  state := henvironment

theorem outcomes_done {α : Type} {f : α → Reply} {value otherValue : α} {events others : List Event}
    (henvironment : pairing.Environments environment other)
    (hreply : pairing.Replies marks (f value) (f otherValue)) (hevents : List.Forall₂ pairing.Events events others) :
    pairing.Outcomes marks ((Outcome.done environment value events).map f)
      ((Outcome.done other otherValue others).map f) where
  result := .ok hreply
  log := log_ofEvents hevents
  state := henvironment

theorem Outcomes.within {outcome otherOutcome : Outcome Environment Reply} {span otherSpan : Span}
    (houtcome : pairing.Outcomes marks outcome otherOutcome) (hspan : pairing.Spans marks span otherSpan) :
    pairing.Outcomes marks (outcome.within span) (otherOutcome.within otherSpan) where
  result := houtcome.result
  log := log_within houtcome.log hspan
  state := houtcome.state

/-! ### Operators -/

variable {left otherLeft right otherRight operand otherOperand : Symbol}

theorem compute (op : BinaryOperator) (hleft : pairing.Symbols marks.left left otherLeft)
    (hright : pairing.Symbols marks.right right otherRight) :
    pairing.Computed marks (op.compute left right) (op.compute otherLeft otherRight) := by
  obtain ⟨leftName, leftValue⟩ := left
  obtain ⟨rightName, rightValue⟩ := right
  obtain ⟨otherLeftName, otherLeftValue⟩ := otherLeft
  obtain ⟨otherRightName, otherRightValue⟩ := otherRight
  obtain ⟨hleftName, hleftValue⟩ := hleft
  obtain ⟨hrightName, hrightValue⟩ := hright
  cases hleftValue
  cases hrightValue
  have hmismatch : pairing.Computed marks
      (.error (.typeMismatch ⟨.binary op, ⟨leftName, leftValue.ty⟩, some ⟨rightName, rightValue.ty⟩⟩))
      (.error (.typeMismatch ⟨.binary op, ⟨otherLeftName, leftValue.ty⟩, some ⟨otherRightName, rightValue.ty⟩⟩)) :=
    .error (.binary hleftName hrightName)
  cases op with
  | arithmetic op =>
    cases leftValue with
    | int a =>
      cases rightValue with
      | int b =>
        simp only [BinaryOperator.compute]
        cases op.apply a b with
        | ok n => exact .ok (.int n)
        | error failure => cases failure <;> exact .error (.same rfl)
      | bool b => exact hmismatch
      | error => exact hmismatch
    | bool a => exact hmismatch
    | error => exact hmismatch
  | comparison op =>
    cases leftValue with
    | int a =>
      cases rightValue with
      | int b => exact .ok _
      | bool b => exact hmismatch
      | error => exact hmismatch
    | bool a =>
      cases rightValue with
      | int b => exact hmismatch
      | bool b =>
        simp only [BinaryOperator.compute]
        split
        · exact hmismatch
        · exact .ok _
      | error => exact hmismatch
    | error => cases rightValue <;> exact hmismatch
  | connective op =>
    cases leftValue with
    | int a => cases rightValue <;> exact hmismatch
    | bool a =>
      cases rightValue with
      | int b => exact hmismatch
      | bool b => exact .ok _
      | error => exact hmismatch
    | error => cases rightValue <;> exact hmismatch

theorem negation (hoperand : pairing.Symbols marks.left operand otherOperand) :
    pairing.Computed marks operand.negation otherOperand.negation := by
  obtain ⟨name, value⟩ := operand
  obtain ⟨otherName, otherValue⟩ := otherOperand
  obtain ⟨hname, hvalue⟩ := hoperand
  cases hvalue
  cases value with
  | int n => exact .error (.unary hname)
  | bool b => exact .ok _
  | error => exact .error (.unary hname)

/-! ### Environments -/

namespace Environments

variable (henvironment : pairing.Environments environment other)
include henvironment

theorem declaredHandle (position : Nat) :
    pairing.Handles (environment.declaredHandle position) (other.declaredHandle position) where
  owner := henvironment.owner
  other_eq := by rw [Arenas.declaredHandle, Arenas.declaredHandle, henvironment.otherOwner, henvironment.declared]

theorem nextTemporary : pairing.Handles environment.nextTemporary other.nextTemporary where
  owner := henvironment.owner
  other_eq := by
    have hcount : environment.temporaryCount = other.temporaryCount := henvironment.temporaries.length_eq
    rw [Environment.nextTemporary, Environment.nextTemporary, Arenas.temporaryHandle, Arenas.temporaryHandle,
      henvironment.otherOwner, henvironment.generation, hcount]

theorem find?_eq (name : String) : environment.find? name = other.find? name := by
  rw [Arenas.find?, Arenas.find?, henvironment.declared]

theorem handle? (name : String) : Option.Rel pairing.Handles (environment.handle? name) (other.handle? name) := by
  rw [Arenas.handle?, Arenas.handle?, ← henvironment.declared]
  cases environment.declared.contents.position? name with
  | none => exact .none
  | some position => exact .some (henvironment.declaredHandle position)

/-- A handle leads to corresponding symbols, or in both environments to none. -/
theorem get? {handle otherHandle : Handle} (hhandle : pairing.Handles handle otherHandle) :
    Option.Rel (pairing.Symbols handle.isTemporary) (environment.get? handle) (other.get? otherHandle) := by
  obtain ⟨howner, rfl⟩ := hhandle
  obtain ⟨owner, kind, position, generation⟩ := handle
  have hown : owner = environment.owner := howner.trans henvironment.owner.symm
  simp only [Arenas.get?, hown, henvironment.otherOwner, ne_eq, not_true_eq_false, if_false]
  cases kind with
  | declared =>
    simp only [henvironment.declared]
    split
    · cases other.declared.contents.get? position with
      | none => exact .none
      | some symbol => exact .some ⟨rfl, rfl⟩
    · exact .none
  | temporary =>
    simp only [henvironment.generation]
    split
    · rw [← Array.getElem?_toList, ← Array.getElem?_toList]
      exact rel_getElem? henvironment.temporaries position
    · exact .none

theorem push (value : Value) (hname : pairing.names environment.supply.name other.supply.name) :
    pairing.Environments (environment.push value) (other.push value) where
  owner := henvironment.owner
  otherOwner := henvironment.otherOwner
  declared := henvironment.declared
  generation := henvironment.generation
  temporaries := by
    have hnew : pairing.Symbols true ⟨environment.supply.name, value⟩ ⟨other.supply.name, value⟩ := ⟨hname, rfl⟩
    simp only [Arenas.temporarySymbols, Environment.push, Array.toList_push]
    exact List.rel_append henvironment.temporaries (.cons hnew .nil)

theorem setDeclared (declared : Arena Declarations) :
    pairing.Environments { environment with declared } { other with declared } where
  owner := henvironment.owner
  otherOwner := henvironment.otherOwner
  declared := rfl
  generation := henvironment.generation
  temporaries := henvironment.temporaries

/-! ### Calls on environments -/

theorem declareWith (name : String) (value : Value) :
    pairing.Outcomes marks ((environment.declareWith context name value).map .handle)
      ((other.declareWith context name value).map .handle) := by
  have hhandle := henvironment.declaredHandle environment.declaredCount
  simp only [Environment.declareWith, Arenas.declaredHandle, Arenas.declaredCount, ← henvironment.declared] at hhandle ⊢
  cases environment.declared.contents.insert? ⟨name, value⟩ with
  | none => exact outcomes_refuse henvironment (.same rfl)
  | some extended =>
    exact outcomes_done (henvironment.setDeclared _) (.handle hhandle) (.cons (.same rfl) .nil)

theorem assign (name : String) (value : Value) :
    pairing.Outcomes marks ((environment.assign context name value).map .handle)
      ((other.assign context name value).map .handle) := by
  simp only [Environment.assign, ← henvironment.declared]
  cases environment.declared.contents.locate? name with
  | none => exact outcomes_refuse henvironment (.same rfl)
  | some located =>
    obtain ⟨position, symbol⟩ := located
    simp only
    split
    · exact outcomes_done (henvironment.setDeclared _) (.handle (henvironment.declaredHandle position))
        (.cons (.same rfl) .nil)
    · exact outcomes_refuse henvironment (.same rfl)

theorem newTemporary (ty : Ty) (value : Value)
    (hname : value.ty = ty → pairing.names environment.supply.name other.supply.name) :
    pairing.Outcomes marks ((environment.newTemporary context ty value).map .handle)
      ((other.newTemporary context ty value).map .handle) := by
  unfold Environment.newTemporary
  split
  · next hty =>
    exact outcomes_done (henvironment.push value (hname hty)) (.handle henvironment.nextTemporary)
      (.cons (.temporary (hname hty) value) .nil)
  · exact outcomes_refuse henvironment (.same rfl)

theorem keep (op : Operator) {computed otherComputed : Except Fault Value}
    (hcomputed : pairing.Computed marks computed otherComputed)
    (hname : ∀ value, computed = .ok value → pairing.names environment.supply.name other.supply.name) :
    pairing.Outcomes marks ((environment.keep context op computed).map .handle)
      ((other.keep context op otherComputed).map .handle) := by
  cases hcomputed with
  | ok value =>
    have hnext := hname value rfl
    exact outcomes_done (henvironment.push value hnext) (.handle henvironment.nextTemporary)
      (.cons (.temporary hnext value) (.cons (.same rfl) .nil))
  | error hfault => exact outcomes_refuse henvironment hfault

theorem lookup (name : String) (hmark : marks.left = false) :
    pairing.Outcomes marks ((environment.lookup context name).map .symbol)
      ((other.lookup context name).map .symbol) := by
  simp only [Environment.lookup, henvironment.find?_eq]
  cases other.find? name with
  | none => exact outcomes_refuse henvironment (.same rfl)
  | some symbol =>
    refine outcomes_done henvironment (.symbol ⟨?_, rfl⟩) .nil
    rw [hmark]
    rfl

theorem inspect {reply otherReply : Reply} (hreply : pairing.Replies marks reply otherReply) :
    pairing.Outcomes marks (environment.inspect reply) (other.inspect otherReply) where
  result := .ok hreply
  log := .nil
  state := henvironment

theorem releaseDeclared :
    pairing.Outcomes marks (environment.releaseDeclared.map fun _ => .done)
      (other.releaseDeclared.map fun _ => .done) := by
  simp only [Environment.releaseDeclared, Arenas.declaredCount, ← henvironment.declared]
  exact outcomes_done (henvironment.setDeclared _) .done (.cons (.same rfl) .nil)

theorem releaseTemporaries :
    pairing.Outcomes marks (environment.releaseTemporaries.map fun _ => .done)
      (other.releaseTemporaries.map fun _ => .done) := by
  have hcount : environment.temporaryCount = other.temporaryCount := henvironment.temporaries.length_eq
  have hreleased : pairing.Environments environment.releaseTemporaries.state other.releaseTemporaries.state :=
    { henvironment with
      generation := congrArg (· + 1) henvironment.generation
      temporaries := .nil }
  simp only [Environment.releaseTemporaries, hcount] at hreleased ⊢
  exact outcomes_done hreleased .done (.cons (.same rfl) .nil)

theorem operate (op : BinaryOperator) (hleft : pairing.Symbols marks.left left otherLeft)
    (hright : pairing.Symbols marks.right right otherRight)
    (hname : ∀ value, op.compute left right = .ok value → pairing.names environment.supply.name other.supply.name) :
    pairing.Outcomes marks ((environment.operate context op left right).map .handle)
      ((other.operate context op otherLeft otherRight).map .handle) :=
  (henvironment.keep (.binary op) (compute op hleft hright) hname).within (.binary op hleft.name hright.name)

theorem negate (hoperand : pairing.Symbols marks.left operand otherOperand)
    (hname : ∀ value, operand.negation = .ok value → pairing.names environment.supply.name other.supply.name) :
    pairing.Outcomes marks ((environment.negate context operand).map .handle)
      ((other.negate context otherOperand).map .handle) :=
  (henvironment.keep .not (negation hoperand) hname).within (.negation hoperand.name)

/-- Calls that are the same up to names of temporaries and owners come to the same up to these, as long as the next
names of the two supplies correspond if they are taken. -/
theorem perform {call otherCall : Call Handle Symbol} (hcall : pairing.Calls marks call otherCall)
    (hname : ∀ value, call.request = .create (.ok value) →
      pairing.names environment.supply.name other.supply.name) :
    pairing.Outcomes marks (environment.perform context call) (other.perform context otherCall) := by
  cases hcall with
  | plain hplain =>
    cases call with
    | declare name ty => exact henvironment.declareWith name ty.zero
    | declareWith name value => exact henvironment.declareWith name value
    | assign name value => exact henvironment.assign name value
    | newTemporary ty value =>
      exact henvironment.newTemporary ty value fun hty => hname value (by rw [Call.request, if_pos hty])
    | lookup name => exact henvironment.lookup name rfl
    | find name =>
      refine henvironment.inspect (.found ?_)
      rw [henvironment.find?_eq]
      cases other.find? name with
      | none => exact .none
      | some symbol => exact .some ⟨rfl, rfl⟩
    | contains name =>
      simp only [Environment.perform, Arenas.contains, henvironment.declared]
      exact henvironment.inspect (.flag _)
    | handleOf name => exact henvironment.inspect (.located (henvironment.handle? name))
    | table =>
      simp only [Environment.perform, Arenas.table, Arenas.declaredSymbols, henvironment.declared]
      exact henvironment.inspect (.text _)
    | releaseDeclared => exact henvironment.releaseDeclared
    | releaseTemporaries => exact henvironment.releaseTemporaries
    | _ => cases hplain
  | @assignFrom name source otherSource hvalue =>
    simp only [Environment.perform, hvalue]
    exact henvironment.assign name otherSource.value
  | operate op hleft hright =>
    exact henvironment.operate op hleft hright fun value hvalue => hname value (congrArg Request.create hvalue)
  | negate hoperand =>
    exact henvironment.negate hoperand fun value hvalue => hname value (congrArg Request.create hvalue)
  | evalBinary op hleft hright =>
    cases op with
    | binary op =>
      exact henvironment.operate op hleft hright fun value hvalue => hname value (congrArg Request.create hvalue)
    | not => exact outcomes_refuse henvironment (.same rfl)
  | evalUnary op hoperand =>
    cases op with
    | binary op => exact outcomes_refuse henvironment (.same rfl)
    | not => exact henvironment.negate hoperand fun value hvalue => hname value (congrArg Request.create hvalue)
  | get hmark hhandle =>
    refine henvironment.inspect (.found ?_)
    rw [hmark]
    exact henvironment.get? hhandle

end Environments

/-! ### Lines of routines -/

open Routine

theorem Records.handle? {record otherRecord : Record} (hrecord : pairing.Records record otherRecord) :
    Option.Rel pairing.Handles record.handle? otherRecord.handle? := by
  obtain ⟨marks, result, log⟩ := record
  obtain ⟨otherMarks, otherResult, otherLog⟩ := otherRecord
  obtain ⟨_, hresult, _⟩ := hrecord
  cases hresult with
  | error hfault line => exact .none
  | ok hreply =>
    cases hreply with
    | handle hhandle => exact .some hhandle
    | located hhandle => exact hhandle
    | _ => exact .none

theorem Records.symbol? {record otherRecord : Record} (hrecord : pairing.Records record otherRecord) :
    Option.Rel (pairing.Symbols record.marks.left) record.symbol? otherRecord.symbol? := by
  obtain ⟨marks, result, log⟩ := record
  obtain ⟨otherMarks, otherResult, otherLog⟩ := otherRecord
  obtain ⟨_, hresult, _⟩ := hrecord
  cases hresult with
  | error hfault line => exact .none
  | ok hreply =>
    cases hreply with
    | symbol hsymbol => exact .some hsymbol
    | found hsymbol => exact hsymbol
    | _ => exact .none

variable (pairing) in
/-- Pasts of one routine that correspond line by line. -/
abbrev Pasts (past otherPast : Past) : Prop := List.Forall₂ (Option.Rel pairing.Records) past otherPast

namespace Pasts

variable {past otherPast : Past} (hpast : pairing.Pasts past otherPast)
include hpast

theorem record? (line : Nat) : Option.Rel pairing.Records (past.record? line) (otherPast.record? line) := by
  have hline := rel_getElem? hpast line
  unfold Past.record?
  generalize past[line]? = first, otherPast[line]? = second at hline
  cases hline with
  | some hrecord => exact hrecord
  | none => exact .none

theorem handle? (line : Nat) : Option.Rel pairing.Handles (past.handle? line) (otherPast.handle? line) :=
  rel_bind (hpast.record? line) fun _ _ hrecord => hrecord.handle?

theorem isTemporary_handle? (line : Nat) :
    (past.handle? line).any Handle.isTemporary = (otherPast.handle? line).any Handle.isTemporary := by
  have hhandle := hpast.handle? line
  generalize past.handle? line = first, otherPast.handle? line = second at hhandle
  cases hhandle with
  | some hhandle =>
    rw [hhandle.other_eq]
    rfl
  | none => rfl

theorem isTemporary_eq (source : Source) : source.isTemporary past = source.isTemporary otherPast := by
  cases source with
  | literal symbol => rfl
  | returned line =>
    have hrecord := hpast.record? line
    simp only [Source.isTemporary]
    generalize past.record? line = first, otherPast.record? line = second at hrecord
    cases hrecord with
    | some hrecord => rw [Option.any_some, Option.any_some, hrecord.marks]
    | none => rfl
  | current line => exact hpast.isTemporary_handle? line

theorem marks_eq (line : Line) : line.marks past = line.marks otherPast := by
  unfold Line.marks
  congr 1
  · funext reference
    exact hpast.isTemporary_handle? reference
  · funext source
    exact hpast.isTemporary_eq source

theorem symbol? (henvironment : pairing.Environments environment other) (source : Source) :
    Option.Rel (pairing.Symbols (source.isTemporary past)) (source.symbol? environment past)
      (source.symbol? other otherPast) := by
  cases source with
  | literal symbol => exact .some ⟨rfl, rfl⟩
  | returned line =>
    have hrecord := hpast.record? line
    simp only [Source.isTemporary, Source.symbol?]
    generalize past.record? line = first, otherPast.record? line = second at hrecord
    cases hrecord with
    | some hrecord => exact hrecord.symbol?
    | none => exact .none
  | current line =>
    have hhandle := hpast.handle? line
    simp only [Source.isTemporary, Source.symbol?]
    generalize past.handle? line = first, otherPast.handle? line = second at hhandle
    cases hhandle with
    | some hhandle => exact henvironment.get? hhandle
    | none => exact .none

/-- A line makes corresponding calls, or none in both places. -/
theorem call? (henvironment : pairing.Environments environment other) (line : Line) :
    Option.Rel (pairing.Calls (line.marks past)) (line.call? environment past) (line.call? other otherPast) := by
  obtain ⟨context, call⟩ := line
  have hsymbol := hpast.symbol? henvironment
  unfold Line.call?
  cases call with
  | assignFrom name source =>
    simp only [Call.resolve, toOption_elim_bind]
    exact rel_bind (hsymbol source) fun _ _ hsource => .some (.assignFrom name hsource.value)
  | operate op left right =>
    simp only [Call.resolve, toOption_elim_bind]
    exact rel_bind (hsymbol left) fun _ _ hleft => rel_bind (hsymbol right) fun _ _ hright =>
      .some (.operate op hleft hright)
  | negate operand =>
    simp only [Call.resolve, toOption_elim_bind]
    exact rel_bind (hsymbol operand) fun _ _ hoperand => .some (.negate hoperand)
  | evalBinary op left right =>
    simp only [Call.resolve, toOption_elim_bind]
    exact rel_bind (hsymbol left) fun _ _ hleft => rel_bind (hsymbol right) fun _ _ hright =>
      .some (.evalBinary op hleft hright)
  | evalUnary op operand =>
    simp only [Call.resolve, toOption_elim_bind]
    exact rel_bind (hsymbol operand) fun _ _ hoperand => .some (.evalUnary op hoperand)
  | get reference =>
    have hhandle := hpast.handle? reference
    simp only [Call.resolve, toOption_elim_bind, Line.marks, Call.marks]
    generalize past.handle? reference = first, otherPast.handle? reference = second at hhandle
    cases hhandle with
    | some hhandle => exact .some (.get rfl hhandle)
    | none => exact .none
  | _ => exact .some (.plain rfl)

/-- A line that makes corresponding calls leaves corresponding records and environments. -/
theorem record {call otherCall : Call Handle Symbol} (henvironment : pairing.Environments environment other)
    (line : Line) (hcall : pairing.Calls (line.marks past) call otherCall)
    (hname : ∀ value, call.request = .create (.ok value) →
      pairing.names environment.supply.name other.supply.name) :
    pairing.Records (line.record environment past call) (line.record other otherPast otherCall) ∧
      pairing.Environments (environment.perform line.context call).state
        (other.perform line.context otherCall).state := by
  have houtcomes : pairing.Outcomes (line.marks past) (environment.perform line.context call)
      (other.perform line.context otherCall) := henvironment.perform hcall hname
  exact ⟨⟨hpast.marks_eq line, houtcomes.result, houtcomes.log⟩, houtcomes.state⟩

end Pasts

end Pairing

end SymbolTable
