import SymbolTable.Collector
import SymbolTable.Store

/-!
# Scripts

A script works on environments, supplies of names and collectors by names of its own, and keeps handles and
copies of symbols in registers. Each of its steps is one command, and a step answers or is refused. A command
that records a result takes a payload of any type.
-/

namespace SymbolTable

namespace Script

/-- Where a command finds an operand. -/
inductive Source where
  /-- A declared symbol of the step's environment. -/
  | variable (name : String)
  /-- What the handle in a register refers to in the step's environment. -/
  | handle (register : String)
  /-- The copy in a register. -/
  | copy (register : String)
  | literal (symbol : Symbol)

/-- The registers that take the handle and a copy of the symbol that a call returns. -/
structure Targets where
  handle : Option String := none
  symbol : Option String := none

inductive Command (π : Type) where
  | newContext (line : Option UInt32) (trace : Option Bool)
  | nextLine
  /-- Creates the step's environment anew, on a named supply or on one of its own. -/
  | newEnvironment (supply : Option String)
  | newSupply (supply : String)
  /-- Names the supply of the step's environment. -/
  | supplyOf (supply : String)
  | takeName (supply : String)
  | issued (supply : String)
  | call (call : Call String Source) (targets : Targets)
  /-- Keeps a copy of a symbol. -/
  | copy (source : Source) (register : Option String)
  | showHandle (register : String)
  | sameHandle (left right : String)
  | sameSymbol (left right : Source)
  /-- Lists both arenas of the step's environment. -/
  | contents
  | newCollector (collector : String) (limit : Option Nat)
  | push (collector : String) (diagnostic : Diagnostic)
  | record (collector : String) (result : Except Diagnostic π)
  | showCollector (collector : String)
  | copyCollector (collector target : String)
  /-- Ends a collector with its verdict. -/
  | finish (collector : String)

/-- The environment that every script starts with. -/
def startEnvironment : String := "e"

structure Step (π : Type) where
  command : Command π
  /-- The line that the context moves to before the command. -/
  line : Option UInt32 := none
  environment : String := startEnvironment
  /-- The collector that the answer of the command passes through. -/
  record : Option String := none

/-- Why a command has no answer. -/
inductive Refusal where
  | diagnostic (diagnostic : Diagnostic)
  /-- A register holds nothing. -/
  | unbound (register : String)
  /-- The handle in a register refers to nothing in the step's environment. -/
  | stale (register : String)

inductive Answer (π : Type) where
  | nothing
  | text (text : String)
  | number (n : Nat)
  | flag (flag : Bool)
  | context (context : Context)
  /-- A handle with the symbol that it refers to. -/
  | created (handle : Handle) (symbol : Option Symbol)
  | located (handle : Option Handle)
  | found (symbol : Option Symbol)
  | copied (symbol : Symbol)
  | handle (handle : Handle)
  | contents (arenas : Arenas)
  | tally (stored dropped : Nat)
  /-- What a recorded result passes on. -/
  | passed (payload : Option π)
  | collector (collector : Collector)
  | verdict (verdict : Except (List Diagnostic) Unit)

/-- The result of a step. -/
inductive Result (π : Type) where
  | answered (answer : Answer π)
  | refused (refusal : Refusal)
  /-- What is left of an answer or a diagnostic after a collector. -/
  | recorded (answer : Option (Answer π))

/-- The sizes of an environment: its declared symbols, its temporaries, and the names its supply has issued. -/
structure Sizes where
  declared : Nat
  temporaries : Nat
  issued : Nat

/-- What a step leaves in the record of a script. -/
structure Entry (π : Type) where
  result : Result π
  sizes : Sizes
  log : Log

/-- A name that a script uses without having introduced it. -/
inductive Missing where
  | environment (name : String)
  | supply (name : String)
  | collector (name : String)

def Missing.text : Missing → String
  | .environment name => "no environment '" ++ name ++ "'"
  | .supply name => "no supply '" ++ name ++ "'"
  | .collector name => "no collector '" ++ name ++ "'"

end Script

end SymbolTable
