import SymbolTable.Call

/-!
# Many environments

A store holds all environments and all supplies of names of a program, each under the number of its creation.
An environment draws from one supply of the store, which others may share; its owner number is its number in
the store, as a machine word. An action on a store is a call on one of its environments, a creation, or the
taking of a name from a supply.
-/

namespace SymbolTable

/-- The symbols of an environment and the number of its supply. -/
structure Resident where
  arenas : Arenas
  supply : Nat

theorem Store.supply_lt_empty :
    ∀ resident ∈ (#[] : Array Resident), resident.supply < (#[] : Array NameSupply).size := by
  simp

structure Store where
  residents : Array Resident := #[]
  supplies : Array NameSupply := #[]
  supply_lt : ∀ resident ∈ residents, resident.supply < supplies.size := by exact Store.supply_lt_empty

namespace Store

/-- The environment that has a number. -/
def environment? (store : Store) (number : Nat) : Option Environment := do
  let resident ← store.residents[number]?
  let supply ← store.supplies[resident.supply]?
  return { resident.arenas with supply }

/-- The store with a new supply. -/
def addSupply (store : Store) : Store where
  residents := store.residents
  supplies := store.supplies.push {}
  supply_lt resident hmem := by
    rw [Array.size_push]
    exact Nat.lt_succ_of_lt (store.supply_lt resident hmem)

/-- The store with a new environment that draws from a given supply. -/
def addEnvironment (store : Store) (supply : Nat) (hsupply : supply < store.supplies.size) : Store where
  residents := store.residents.push ⟨⟨.ofNat store.residents.size, ⟨{}, 0⟩, ⟨#[], 0⟩⟩, supply⟩
  supplies := store.supplies
  supply_lt resident hmem := by
    rcases Array.mem_push.1 hmem with hold | rfl
    · exact store.supply_lt resident hold
    · exact hsupply

/-- The store with the environment that has a number changed, and so the supply that it draws from. -/
def put (store : Store) (number : Nat) (environment : Environment) : Store where
  residents := store.residents.modify number fun resident => { resident with arenas := environment.toArenas }
  supplies := match store.residents[number]? with
    | some resident => store.supplies.modify resident.supply fun _ => environment.supply
    | none => store.supplies
  supply_lt resident hmem := by
    have hsize : (match store.residents[number]? with
        | some resident => store.supplies.modify resident.supply fun _ => environment.supply
        | none => store.supplies).size = store.supplies.size := by
      split <;> simp
    rw [hsize]
    obtain ⟨position, hposition⟩ := Array.mem_iff_getElem?.1 hmem
    rw [Array.getElem?_modify] at hposition
    split at hposition
    · obtain ⟨old, hold, rfl⟩ := Option.map_eq_some_iff.1 hposition
      exact store.supply_lt old (Array.mem_of_getElem? hold)
    · exact store.supply_lt resident (Array.mem_of_getElem? hposition)

/-- A new environment with a supply of its own. -/
def newEnvironment (store : Store) : Store :=
  store.addSupply.addEnvironment store.supplies.size (by simp [addSupply])

/-- A new environment that draws from a supply of the store. -/
def newEnvironmentOn? (store : Store) (supply : Nat) : Option Store :=
  if hsupply : supply < store.supplies.size then some (store.addEnvironment supply hsupply) else none

/-- The next name of a supply, and the store after it has been taken. -/
def takeName? (store : Store) (supply : Nat) : Option (String × Store) :=
  store.supplies[supply]?.map fun names =>
    (names.name,
      { store with
        supplies := store.supplies.modify supply NameSupply.advance
        supply_lt := by simpa using store.supply_lt })

/-- The outcome of a call on one of the environments. -/
def call? (store : Store) (number : Nat) (context : Context) (call : Call Handle Symbol) :
    Option (Outcome Store Reply) :=
  (store.environment? number).map fun environment =>
    let outcome := environment.perform context call
    ⟨outcome.result, store.put number outcome.state, outcome.log⟩

end Store

/-- What can be done to a store; environments and supplies are given by their numbers. -/
inductive Action where
  | newSupply
  | newEnvironment
  | newEnvironmentOn (supply : Nat)
  | takeName (supply : Nat)
  | call (environment : Nat) (context : Context) (call : Call Handle Symbol)

/-- What an action yields; a creation yields the number of what it creates. -/
inductive Response where
  | supply (number : Nat)
  | environment (number : Nat)
  | name (name : String)
  | reply (reply : Reply)

namespace Store

/-- Carries out an action, unless it names an environment or a supply that the store does not have. -/
def act? (store : Store) : Action → Option (Outcome Store Response)
  | .newSupply => some (.done store.addSupply (.supply store.supplies.size) [])
  | .newEnvironment => some (.done store.newEnvironment (.environment store.residents.size) [])
  | .newEnvironmentOn supply =>
    (store.newEnvironmentOn? supply).map (.done · (.environment store.residents.size) [])
  | .takeName supply => (store.takeName? supply).map fun (name, store) => .done store (.name name) []
  | .call number context call => (store.call? number context call).map (.map .reply)

/-- The outcomes of a run of actions, and the store after it; an action that cannot be carried out leaves the
store as it is. -/
def run (store : Store) : List Action → List (Option (Outcome Store Response)) × Store
  | [] => ([], store)
  | action :: actions =>
    let outcome := store.act? action
    let rest := (outcome.elim store Outcome.state).run actions
    (outcome :: rest.1, rest.2)

end Store

end SymbolTable
