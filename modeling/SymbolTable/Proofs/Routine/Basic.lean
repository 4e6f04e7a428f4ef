import SymbolTable.Proofs.Store.Run

/-!
# Routines

A routine is a fixed sequence of calls on one environment. The operands and handles in its lines may be literals or
what earlier lines of the same routine returned. A line whose reference leads to nothing is passed over. Each line that
is carried out leaves a record of what it came to and what was logged, in which the names of temporaries among the
operands are marked. A routine runs alone from a new environment (`Solo.run`), or line by line among the routines of
other environments and whatever else is done to a store (`Weave.after`).
-/

namespace SymbolTable

/-- Which of the names of a left and a right operand are those of temporaries. -/
structure Marks where
  left : Bool := false
  right : Bool := false
  deriving DecidableEq

/-- The marks of the operands of a call; a handle that is resolved counts as a left operand. -/
def Call.marks {η ο : Type} (handle : η → Bool) (operand : ο → Bool) : Call η ο → Marks
  | .operate _ left right | .evalBinary _ left right => ⟨operand left, operand right⟩
  | .negate operated | .evalUnary _ operated => { left := operand operated }
  | .get reference => { left := handle reference }
  | _ => {}

/-- The symbol that a reply brings. -/
def Reply.symbol? : Reply → Option Symbol
  | .symbol looked => some looked
  | .found looked => looked
  | .handle _ | .located _ | .flag _ | .text _ | .done => none

namespace Routine

/-- Where a line takes an operand from. -/
inductive Source where
  | literal (symbol : Symbol)
  /-- The symbol that an earlier line returned, as it was then. -/
  | returned (line : Nat)
  /-- The symbol that the handle of an earlier line leads to when it is used. -/
  | current (line : Nat)

/-- A call in which handles are given by the lines that returned them. -/
structure Line where
  context : Context
  call : Call Nat Source

/-- What a line came to. -/
structure Record where
  marks : Marks
  result : Except Diagnostic Reply
  log : Log

namespace Record

def handle? (record : Record) : Option Handle := record.result.toOption.bind Reply.handle?

def symbol? (record : Record) : Option Symbol := record.result.toOption.bind Reply.symbol?

end Record

/-- The records of the lines so far, with none for a line that was passed over. -/
abbrev Past := List (Option Record)

namespace Past

def record? (past : Past) (line : Nat) : Option Record := past[line]?.join

def handle? (past : Past) (line : Nat) : Option Handle := (past.record? line).bind Record.handle?

end Past

namespace Source

def symbol? (environment : Environment) (past : Past) : Source → Option Symbol
  | .literal symbol => some symbol
  | .returned line => (past.record? line).bind Record.symbol?
  | .current line => (past.handle? line).bind environment.get?

/-- Whether the symbol is a temporary. -/
def isTemporary (past : Past) : Source → Bool
  | .literal _ => false
  | .returned line => (past.record? line).any (·.marks.left)
  | .current line => (past.handle? line).any Handle.isTemporary

end Source

namespace Line

variable (environment : Environment) (past : Past) (line : Line)

def marks : Marks := line.call.marks (fun reference => (past.handle? reference).any Handle.isTemporary)
  (Source.isTemporary past)

/-- The call that a line makes, unless a reference leads to nothing. -/
def call? : Option (Call Handle Symbol) :=
  (line.call.resolve (fun reference => (past.handle? reference).elim (.error ()) .ok)
    (fun source => (source.symbol? environment past).elim (.error ()) .ok)).toOption

/-- The record of a line when it makes a call. -/
def record (call : Call Handle Symbol) : Record :=
  let outcome := environment.perform line.context call
  ⟨line.marks past, outcome.result, outcome.log⟩

end Line

/-- An environment on which a routine runs alone. -/
structure Solo where
  environment : Environment
  past : Past := []

namespace Solo

def step (solo : Solo) (line : Line) : Solo :=
  match line.call? solo.environment solo.past with
  | none => { solo with past := solo.past ++ [none] }
  | some call =>
    ⟨(solo.environment.perform line.context call).state,
      solo.past ++ [some (line.record solo.environment solo.past call)]⟩

/-- Runs a routine from a new environment with a supply of its own. -/
def run (owner : UInt64) (lines : List Line) : Solo := lines.foldl step { environment := { owner } }

end Solo

/-- A step among many environments: the next line of the routine of one of them, or anything else that is done to the
store. -/
inductive Step where
  | line (number : Nat) (line : Line)
  | action (action : Action)

/-- The line that a step is for the environment that has a number. -/
def Step.lineOn? (number : Nat) : Step → Option Line
  | .line target own => if target = number then some own else none
  | .action _ => none

/-- A store with what the routines of its environments have come to so far. -/
structure Weave where
  store : Store := {}
  pasts : Nat → Past := fun _ => []

namespace Weave

/-- The weave after one more line of an environment has been recorded. -/
def append (weave : Weave) (number : Nat) (record : Option Record) : Weave :=
  { weave with pasts := fun other => if other = number then weave.pasts number ++ [record] else weave.pasts other }

/-- A line for an environment that does not exist is nothing. -/
def next (weave : Weave) : Step → Weave
  | .action action => { weave with store := weave.store.next action }
  | .line number line =>
    match weave.store.environment? number with
    | none => weave
    | some environment =>
      match line.call? environment (weave.pasts number) with
      | none => weave.append number none
      | some call =>
        { weave.append number (some (line.record environment (weave.pasts number) call)) with
          store := weave.store.next (.call number line.context call) }

/-- The weave after a run of steps. -/
def after (weave : Weave) (steps : List Step) : Weave := steps.foldl next weave

end Weave

end Routine

end SymbolTable
