import SymbolTable.Log

/-!
# Outcomes

A fallible operation on a state yields a result or a diagnostic, the state after it, and what it logs. A
refusal leaves the state alone and logs the event of its diagnostic, if that has one.
-/

namespace SymbolTable

structure Outcome (σ α : Type) where
  result : Except Diagnostic α
  state : σ
  log : Log

namespace Outcome

variable {σ α β : Type}

def done (state : σ) (value : α) (events : List Event) : Outcome σ α :=
  ⟨.ok value, state, .ofEvents events⟩

def refuse (state : σ) (context : Context) (fault : Fault) : Outcome σ α :=
  let diagnostic : Diagnostic := ⟨fault, context.line⟩
  ⟨.error diagnostic, state, .ofEvents diagnostic.event?.toList⟩

/-- The same outcome, reached inside a span. -/
def within (outcome : Outcome σ α) (span : Span) : Outcome σ α :=
  { outcome with log := outcome.log.within span }

def map (f : α → β) (outcome : Outcome σ α) : Outcome σ β :=
  { outcome with result := outcome.result.map f }

/-- Goes on from a result in the state that came with it; a diagnostic ends the matter. -/
def andThen (outcome : Outcome σ α) (next : α → σ → Outcome σ β) : Outcome σ β :=
  match outcome.result with
  | .error diagnostic => ⟨.error diagnostic, outcome.state, outcome.log⟩
  | .ok value =>
    let rest := next value outcome.state
    { rest with log := outcome.log ++ rest.log }

end Outcome

end SymbolTable
