import SymbolTable.Script.Basic
import Std.Data.TreeMap

/-!
# Running a script

A session holds what a script has introduced so far. `Session.step` carries out one step and `Session.run` a
whole script; only a name that the script never introduced stops it. A call that succeeds binds the registers
it names, and one that fails unbinds them. If an operand cannot be found the call does not take place, and the
registers stay as they are.
-/

namespace SymbolTable

namespace Script

structure Session where
  context : Context
  store : Store
  environments : Std.TreeMap String Nat
  supplies : Std.TreeMap String Nat := ∅
  handles : Std.TreeMap String Handle := ∅
  symbols : Std.TreeMap String Symbol := ∅
  collectors : Std.TreeMap String Collector := ∅

/-- What becomes of a session by a command. -/
structure Progress (π : Type) where
  result : Except Refusal (Answer π)
  session : Session
  log : Log := []

namespace Session

variable {π : Type}

/-- The session that a script starts from, with one environment. -/
def start : Session where
  context := {}
  store := ({} : Store).newEnvironment
  environments := (∅ : Std.TreeMap String Nat).insert startEnvironment 0

variable (session : Session)

def environmentNumber (name : String) : Except Missing Nat :=
  session.environments[name]?.elim (.error (.environment name)) .ok

def environment (name : String) : Except Missing Environment := do
  let number ← session.environmentNumber name
  (session.store.environment? number).elim (.error (.environment name)) .ok

def supplyNumber (name : String) : Except Missing Nat :=
  session.supplies[name]?.elim (.error (.supply name)) .ok

def collector (name : String) : Except Missing Collector :=
  session.collectors[name]?.elim (.error (.collector name)) .ok

/-- The handle in a register. -/
def handle (register : String) : Except Refusal Handle :=
  session.handles[register]?.elim (.error (.unbound register)) .ok

/-- The symbol that an operand stands for in an environment. -/
def symbol (environment : Environment) : Source → Except Refusal Symbol
  | .variable name => (environment.lookup session.context name).result.mapError .diagnostic
  | .handle register => do
    let handle ← session.handle register
    (environment.get? handle).elim (.error (.stale register)) .ok
  | .copy register => session.symbols[register]?.elim (.error (.unbound register)) .ok
  | .literal symbol => .ok symbol

/-- A register set to a value, or cleared if there is none; without a register nothing changes. -/
def bind {α : Type} (registers : Std.TreeMap String α) (register : Option String) (value : Option α) :
    Std.TreeMap String α :=
  match register, value with
  | none, _ => registers
  | some register, some value => registers.insert register value
  | some register, none => registers.erase register

/-- The session with the registers of a call set to what it returned, or cleared. -/
def bindTargets (targets : Targets) (handle : Option Handle) (symbol : Option Symbol) : Session :=
  { session with
    handles := bind session.handles targets.handle handle
    symbols := bind session.symbols targets.symbol symbol }

/-- The answer to a reply, with the handle and the symbol that the registers of the call take. -/
def answer (environment : Environment) : Reply → Answer π × Option Handle × Option Symbol
  | .handle handle =>
    let symbol := environment.get? handle
    (.created handle symbol, some handle, symbol)
  | .symbol symbol => (.found (some symbol), none, some symbol)
  | .found symbol => (.found symbol, none, symbol)
  | .located handle => (.located handle, handle, none)
  | .flag flag => (.flag flag, none, none)
  | .text text => (.text text, none, none)
  | .done => (.nothing, none, none)

/-- Carries out a call on the environment that has a name. -/
def call (name : String) (call : Call String Source) (targets : Targets) : Except Missing (Progress π) := do
  let number ← session.environmentNumber name
  let environment ← session.environment name
  match call.resolve session.handle (session.symbol environment) with
  | .error refusal => return { result := .error refusal, session }
  | .ok call =>
    match session.store.call? number session.context call with
    | none => throw (.environment name)
    | some outcome =>
      let session := { session with store := outcome.state }
      match outcome.result with
      | .error diagnostic =>
        return {
          result := .error (.diagnostic diagnostic)
          session := session.bindTargets targets none none
          log := outcome.log }
      | .ok reply =>
        let (answer, handle, symbol) := answer (← session.environment name) reply
        return { result := .ok answer, session := session.bindTargets targets handle symbol, log := outcome.log }

/-- Carries out a command in a step that names an environment. -/
def execute (name : String) : Command π → Except Missing (Progress π)
  | .call call targets => session.call name call targets
  | .newContext line trace =>
    let positioned := line.elim ({} : Context) Context.atLine
    let context := trace.elim positioned positioned.withTrace
    return { result := .ok (.context context), session := { session with context } }
  | .nextLine =>
    let context := session.context.next
    return { result := .ok (.context context), session := { session with context } }
  | .newEnvironment none =>
    return {
      result := .ok .nothing
      session := { session with
        store := session.store.newEnvironment
        environments := session.environments.insert name session.store.residents.size } }
  | .newEnvironment (some supply) => do
    let number ← session.supplyNumber supply
    match session.store.newEnvironmentOn? number with
    | none => throw (.supply supply)
    | some store =>
      return {
        result := .ok .nothing
        session := { session with
          store
          environments := session.environments.insert name session.store.residents.size } }
  | .newSupply supply =>
    return {
      result := .ok .nothing
      session := { session with
        store := session.store.addSupply
        supplies := session.supplies.insert supply session.store.supplies.size } }
  | .supplyOf supply => do
    let number ← session.environmentNumber name
    match session.store.residents[number]? with
    | none => throw (.environment name)
    | some resident =>
      return {
        result := .ok .nothing
        session := { session with supplies := session.supplies.insert supply resident.supply } }
  | .takeName supply => do
    let number ← session.supplyNumber supply
    match session.store.takeName? number with
    | none => throw (.supply supply)
    | some (taken, store) => return { result := .ok (.text taken), session := { session with store } }
  | .issued supply => do
    let number ← session.supplyNumber supply
    match session.store.supplies[number]? with
    | none => throw (.supply supply)
    | some names => return { result := .ok (.number names.issued.toNat), session }
  | .copy source register => do
    match session.symbol (← session.environment name) source with
    | .error refusal => return { result := .error refusal, session }
    | .ok symbol =>
      return { result := .ok (.copied symbol), session := session.bindTargets ⟨none, register⟩ none symbol }
  | .showHandle register => return { result := (session.handle register).map .handle, session }
  | .sameHandle left right =>
    let result := do
      let left ← session.handle left
      let right ← session.handle right
      return .flag (left == right)
    return { result, session }
  | .sameSymbol left right => do
    let environment ← session.environment name
    let result := do
      let left ← session.symbol environment left
      let right ← session.symbol environment right
      return .flag (left == right)
    return { result, session }
  | .contents => return { result := .ok (.contents (← session.environment name).toArenas), session }
  | .newCollector collector limit =>
    return {
      result := .ok .nothing
      session := { session with collectors := session.collectors.insert collector { limit } } }
  | .push collector diagnostic => do
    let (pushed, log) := (← session.collector collector).push diagnostic
    return {
      result := .ok (.tally pushed.size pushed.dropped)
      session := { session with collectors := session.collectors.insert collector pushed }
      log }
  | .record collector result => do
    let (payload, recorded, log) := (← session.collector collector).record result
    return {
      result := .ok (.passed payload)
      session := { session with collectors := session.collectors.insert collector recorded }
      log }
  | .showCollector collector => return { result := .ok (.collector (← session.collector collector)), session }
  | .copyCollector collector target => do
    let copied ← session.collector collector
    return {
      result := .ok .nothing
      session := { session with collectors := session.collectors.insert target copied } }
  | .finish collector => do
    let finished ← session.collector collector
    return {
      result := .ok (.verdict finished.verdict)
      session := { session with collectors := session.collectors.erase collector } }

/-- Passes what a command came to through a collector, if the step names one. A register that is not bound or
a handle that is stale passes by it. -/
def collect (record : Option String) (progress : Progress π) : Except Missing (Result π × Session × Log) :=
  match record, progress.result with
  | none, .ok answer => return (.answered answer, progress.session, progress.log)
  | none, .error refusal => return (.refused refusal, progress.session, progress.log)
  | some _, .error (.unbound register) => return (.refused (.unbound register), progress.session, progress.log)
  | some _, .error (.stale register) => return (.refused (.stale register), progress.session, progress.log)
  | some name, .ok answer => do
    let _ ← progress.session.collector name
    return (.recorded (some answer), progress.session, progress.log)
  | some name, .error (.diagnostic diagnostic) => do
    let (pushed, log) := (← progress.session.collector name).push diagnostic
    return (.recorded none,
      { progress.session with collectors := progress.session.collectors.insert name pushed },
      progress.log ++ log)

/-- The sizes of the environment that has a name. -/
def sizes (name : String) : Except Missing Sizes := do
  let environment ← session.environment name
  return ⟨environment.declaredCount, environment.temporaryCount, environment.supply.issued.toNat⟩

def step (step : Step π) : Except Missing (Entry π × Session) := do
  let session := { session with context := step.line.elim session.context session.context.withLine }
  let progress ← session.execute step.environment step.command
  let (result, session, log) ← collect step.record progress
  return (⟨result, ← session.sizes step.environment, log⟩, session)

def run (session : Session) : List (Step π) → Except Missing (List (Entry π))
  | [] => return []
  | step :: steps => do
    let (entry, session) ← session.step step
    return entry :: (← session.run steps)

end Session

end Script

end SymbolTable
