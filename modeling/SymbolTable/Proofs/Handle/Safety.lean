import SymbolTable.Proofs.Handle.Standing
import SymbolTable.Proofs.Store.Run

/-!
# Handles are safe over whole runs

A handle never resolves in an environment that did not issue it, since owner numbers differ, nor after a release
of its arena, since the generation has moved on and does not come back within 2 ^ 32 releases. Until then it
resolves to the symbol that it was returned for, whatever happens to this and other environments
(`get?_returned_handle`). What a declared symbol holds is told by the requests that were granted:
`Request.valueAfter` reads it off them without a store.
-/

namespace SymbolTable

namespace Request

/-- The value under a name once some requests have been granted: that of the last assignment to it since its
declaration, or else the one that it was declared with. -/
def valueAfter (requests : List Request) (name : String) : Option Value :=
  requests.foldl (fun value request => request.revise name value) none

end Request

namespace Store

variable {store : Store} {number : Nat} {environment later : Environment} {handle : Handle} {symbol : Symbol}

theorem owner_after (actions : List Action) (hlater : (({} : Store).after actions).environment? number = some later) :
    later.owner = .ofNat number := by
  rw [← arenas_of_environment? hlater]
  refine granted_rule (P := fun arenas _ => arenas.owner = .ofNat number) rfl ?_ actions
  intro environment later context request reply past howner heffect
  exact heffect.owner_eq.trans howner

theorem value?_after (actions : List Action) (hlater : (({} : Store).after actions).environment? number = some later)
    (name : String) : later.value? name = Request.valueAfter (({} : Store).granted number actions) name := by
  rw [← arenas_of_environment? hlater]
  refine granted_rule (P := fun arenas past => arenas.value? name = Request.valueAfter past name) ?_ ?_ actions
  · simp [arenas, environment?, Arenas.value?, Arenas.find?, Request.valueAfter]
  · intro environment later context request reply past hvalue heffect
    rw [heffect.value?_eq, hvalue, Request.valueAfter, Request.valueAfter, List.foldl_append]
    rfl

theorem generation_after (henvironment : store.environment? number = some environment) (actions : List Action)
    (hlater : (store.after actions).environment? number = some later) (kind : ArenaKind) :
    later.generation kind =
      environment.generation kind + .ofNat ((store.granted number actions).countP (Request.releases kind)) := by
  rw [← arenas_of_environment? hlater, ← arenas_of_environment? henvironment]
  refine granted_rule (P := fun arenas past => arenas.generation kind =
    (store.arenas number).generation kind + .ofNat (past.countP (Request.releases kind))) ?_ ?_ actions
  · simp
  · intro changed later context request reply past hgeneration heffect
    rw [heffect.generation_eq, hgeneration, List.countP_append, List.countP_singleton, UInt32.ofNat_add,
      UInt32.add_assoc]
    split <;> rfl

theorem standsFor_after (henvironment : store.environment? number = some environment)
    (hstands : environment.StandsFor handle symbol) (actions : List Action)
    (hlater : (store.after actions).environment? number = some later)
    (hkept : (store.granted number actions).any (Request.releases handle.kind) = false) :
    later.StandsFor handle symbol := by
  rw [← arenas_of_environment? henvironment] at hstands
  rw [← arenas_of_environment? hlater]
  revert hkept
  refine granted_rule (P := fun arenas past => past.any (Request.releases handle.kind) = false →
    arenas.StandsFor handle symbol) (fun _ => hstands) ?_ actions
  intro changed later context request reply past hpast heffect hkept
  rw [List.any_append, Bool.or_eq_false_iff] at hkept
  exact heffect.standsFor_later (by simpa using hkept.2) (hpast hkept.1)

theorem generation_add_ofNat_ne {generation : UInt32} {releases : Nat} (hpos : 0 < releases)
    (hlt : releases < UInt32.size) : generation ≠ generation + .ofNat releases := by
  intro hsame
  have hwrap := congrArg UInt32.toNat hsame
  rw [UInt32.toNat_add, UInt32.toNat_ofNat'] at hwrap
  have := generation.toNat_lt
  simp only [UInt32.size] at hlt
  omega

theorem ownerNumber_ne {other : Nat} (hne : other ≠ number) (hother : other < UInt64.size)
    (hnumber : number < UInt64.size) : UInt64.ofNat number ≠ UInt64.ofNat other := by
  intro hsame
  have hwrap := congrArg UInt64.toNat hsame
  rw [UInt64.toNat_ofNat', UInt64.toNat_ofNat'] at hwrap
  simp only [UInt64.size] at hother hnumber
  omega

/-- A handle that stands for a symbol in one state of a run resolves in each later state exactly if its arena has
not been released in between, and then to that symbol with the value that its name has by then. -/
theorem get?_after (henvironment : store.environment? number = some environment)
    (hstands : environment.StandsFor handle symbol) (actions : List Action)
    (hreleases : (store.granted number actions).countP (Request.releases handle.kind) < UInt32.size)
    (hlater : (store.after actions).environment? number = some later) :
    if (store.granted number actions).any (Request.releases handle.kind) then later.get? handle = none
    else ∃ found, later.get? handle = some found ∧ found.name = symbol.name ∧ found.ty = symbol.ty ∧
      match handle.kind with
      | .declared => later.value? symbol.name = some found.value
      | .temporary => found = symbol := by
  split
  · next hreleased =>
    refine Arenas.get?_eq_none_of_generation ?_
    rw [generation_after henvironment actions hlater, hstands.generation_eq]
    exact generation_add_ofNat_ne (List.countP_pos_iff.2 (List.any_eq_true.1 hreleased)) hreleases
  · next hkept =>
    exact (standsFor_after henvironment hstands actions hlater (Bool.eq_false_iff.2 hkept)).get?_eq

/-- In every state of every run after a handle was returned, no other environment resolves it, and the one that
returned it does so exactly until a release of its arena, to the symbol that it was returned for: a temporary is
the very same, and a declared symbol has its name and type and the value that the requests granted in the whole
run leave under the name. -/
theorem get?_returned_handle {before after : List Action} {start returned final : Store} {number : Nat}
    {context : Context} {call : Call Handle Symbol} {environment : Environment} {reply : Reply} {handle : Handle}
    (hstart : ({} : Store).after before = start)
    (henvironment : start.environment? number = some environment)
    (hreply : (environment.perform context call).result = .ok reply) (hhandle : reply.handle? = some handle)
    (hreturned : start.next (.call number context call) = returned) (hfinal : returned.after after = final)
    (hreleases : (returned.granted number after).countP (Request.releases handle.kind) < UInt32.size)
    (henvironments : final.residents.size < UInt64.size) :
    ∃ symbol, call.request.subject? (Request.valueAfter (({} : Store).granted number before))
        environment.supply.name = some symbol ∧
      (∀ other found, other ≠ number → final.environment? other = some found → found.get? handle = none) ∧
      ∃ own, final.environment? number = some own ∧
        if (returned.granted number after).any (Request.releases handle.kind) then own.get? handle = none
        else ∃ found, own.get? handle = some found ∧ found.name = symbol.name ∧ found.ty = symbol.ty ∧
          match handle.kind with
          | .declared =>
            Request.valueAfter (({} : Store).granted number (before ++ .call number context call :: after))
              symbol.name = some found.value
          | .temporary => found = symbol := by
  subst hstart
  have heffect : environment.Effect context call.request (.ok reply) (environment.perform context call).state :=
    hreply ▸ Environment.effect_perform call
  obtain ⟨symbol, hsubject, hstands⟩ := heffect.standsFor_of_handle? hhandle
  rw [funext (value?_after before henvironment)] at hsubject
  have hissuer : returned.environment? number = some (environment.perform context call).state := by
    rw [← hreturned, next_call henvironment]
    exact environment?_put_self henvironment
  obtain ⟨own, hown⟩ := environment?_after hissuer after
  have hrun : ({} : Store).after (before ++ .call number context call :: after) = final := by
    rw [after_append, after_cons, hreturned, hfinal]
  rw [hfinal] at hown
  have hown' := hrun.symm ▸ hown
  refine ⟨symbol, hsubject, fun other found hne hfound => ?_, own, hown, ?_⟩
  · refine Arenas.get?_eq_none_of_owner ?_
    rw [hstands.owner_eq, heffect.owner_eq, owner_after before henvironment, owner_after _ (hrun.symm ▸ hfound)]
    exact ownerNumber_ne hne (Nat.lt_trans (lt_size_of_environment? hfound) henvironments)
      (Nat.lt_trans (lt_size_of_environment? hown) henvironments)
  · rw [← value?_after _ hown']
    exact get?_after hissuer hstands after hreleases (hfinal ▸ hown)

/-- Two environments on one supply that declare the same name. -/
def twinRun : List Action :=
  [.newEnvironment, .newEnvironmentOn 0, .call 1 {} (.declareWith "x" (.bool true)),
    .call 0 {} (.declareWith "x" (.int 5))]

/-- An assignment to the name in the first of them, among releases of every other arena. -/
def twinDisturbance : List Action :=
  [.call 1 {} .releaseDeclared, .call 0 {} (.assign "x" (.int 7)), .call 0 {} .releaseTemporaries]

theorem get?_returned_handle_twin :
    ∃ own, (((({} : Store).after twinRun).next (.call 0 {} (.handleOf "x"))).after twinDisturbance).environment? 0 =
        some own ∧
      own.get? ⟨0, .declared, 0, 0⟩ = some ⟨"x", .int 7⟩ := by
  have hissuer : ((({} : Store).after twinRun).environment? 0).isSome := by decide
  have hhandle : (((({} : Store).after twinRun).environment? 0).bind (·.handle? "x")) =
      some ⟨0, .declared, 0, 0⟩ := by decide
  obtain ⟨issuer, hissuer⟩ := Option.isSome_iff_exists.1 hissuer
  rw [hissuer, Option.bind_some] at hhandle
  obtain ⟨symbol, hsubject, -, own, hown, hget⟩ := get?_returned_handle rfl hissuer
    (rfl : (issuer.perform {} (.handleOf "x")).result = _) hhandle rfl
    (rfl : after _ twinDisturbance = _) (by decide) (by decide)
  have hdeclared : Request.valueAfter (({} : Store).granted 0 twinRun) "x" = some (.int 5) := by decide
  rw [Call.request, Request.subject?, hdeclared] at hsubject
  cases hsubject
  rw [if_neg (by decide)] at hget
  obtain ⟨⟨name, value⟩, hfound, hname, -, hvalue⟩ := hget
  have hassigned : some (Value.int 7) = some value := by rw [← hvalue]; decide
  cases hassigned
  cases hname
  exact ⟨own, hown, hfound⟩

end Store

end SymbolTable
