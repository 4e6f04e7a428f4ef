import SymbolTable.Outcome

/-!
# Outcomes on other states

An operation that does the same on two kinds of states comes to outcomes that differ in the state alone. The ways in
which outcomes are built keep that.
-/

namespace SymbolTable

namespace Outcome

variable {σ τ α β : Type} (change : σ → τ)

/-- The same outcome with another state. -/
def mapState (outcome : Outcome σ α) : Outcome τ α := ⟨outcome.result, change outcome.state, outcome.log⟩

@[simp] theorem mapState_done (state : σ) (value : α) (events : List Event) :
    (done state value events).mapState change = done (change state) value events := rfl

@[simp] theorem mapState_refuse (state : σ) (context : Context) (fault : Fault) :
    (refuse state context fault : Outcome σ α).mapState change = refuse (change state) context fault := rfl

@[simp] theorem mapState_within (outcome : Outcome σ α) (span : Span) :
    (outcome.within span).mapState change = (outcome.mapState change).within span := rfl

@[simp] theorem mapState_map (f : α → β) (outcome : Outcome σ α) :
    (outcome.map f).mapState change = (outcome.mapState change).map f := rfl

end Outcome

end SymbolTable
