import SymbolTable.Proofs.Handle.Safety

/-!
# Handles identify what they were returned for

A granted request creates a symbol, or it is about a declared name whose symbol an earlier declaration created. Two
handles that a run returned, at any moments and by any environments, are equal exactly if they were returned for the
same creation (`handles_identify`). What carries this is that a new handle resolves to nothing before its symbol is
there, whereas a handle that is still good resolves, and one from before a release is of another generation.
-/

namespace SymbolTable

/-- The arena in which a request puts a new symbol if it is granted. -/
def Request.arena? : Request → Option ArenaKind
  | .declare _ => some .declared
  | .create _ => some .temporary
  | _ => none

/-- The declared name that a request asks for a handle of. -/
def Request.known? : Request → Option String
  | .assign name _ => some name
  | .locate name => some name
  | _ => none

theorem Request.arena?_of_known {request : Request} {name : String} (hknown : request.known? = some name) :
    request.arena? = none := by
  cases request with
  | assign name value => rfl
  | locate name => rfl
  | _ => cases hknown

theorem Request.releases_iff {kind : ArenaKind} {request : Request} :
    request.releases kind = true ↔ request = .release kind := by
  cases request <;> simp [releases]

theorem Arenas.StandsFor.handle?_eq {arenas : Arenas} {handle : Handle} {symbol : Symbol}
    (hstands : arenas.StandsFor handle symbol) (hkind : handle.kind = .declared) :
    arenas.handle? symbol.name = some handle := by
  unfold StandsFor at hstands
  rw [hkind] at hstands
  exact hstands.1

namespace Environment.Effect

variable {environment later : Environment} {context : Context} {request : Request}
  {result : Except Diagnostic Reply} {reply : Reply} {handle : Handle} {name : String}

/-- The handle of a new symbol leads nowhere before the symbol is there. -/
theorem get?_new {kind : ArenaKind} (heffect : environment.Effect context request (.ok reply) later)
    (harena : request.arena? = some kind) (hhandle : reply.handle? = some handle) :
    handle.kind = kind ∧ environment.get? handle = none := by
  cases heffect with
  | declared hinsert =>
    cases harena
    cases hhandle
    refine ⟨rfl, (Arenas.get?_declaredHandle ..).trans ?_⟩
    exact Array.getElem?_eq_none (Nat.le_refl _)
  | created value =>
    cases harena
    cases hhandle
    refine ⟨rfl, (Arenas.get?_temporaryHandle ..).trans ?_⟩
    exact Array.getElem?_eq_none (Nat.le_refl _)
  | _ => cases harena

/-- A request about a declared name returns the handle that the name has. -/
theorem handle?_of_known (heffect : environment.Effect context request (.ok reply) later)
    (hknown : request.known? = some name) (hhandle : reply.handle? = some handle) :
    environment.handle? name = some handle := by
  cases heffect with
  | assigned hlocate hty =>
    cases hknown
    cases hhandle
    exact Arenas.handle?_eq_some_iff.2 ⟨_, Declarations.position?_of_locate? hlocate, rfl⟩
  | located name =>
    cases hknown
    exact hhandle
  | _ => cases hknown

theorem exists_handle {symbol : Symbol} (heffect : environment.Effect context (.declare symbol) (.ok reply) later) :
    ∃ handle, reply.handle? = some handle := by
  cases heffect with
  | declared hinsert => exact ⟨_, rfl⟩

/-- A handle is returned for a new symbol or for a known name. -/
theorem arena?_or_known? (heffect : environment.Effect context request (.ok reply) later)
    (hhandle : reply.handle? = some handle) :
    (∃ kind, request.arena? = some kind) ∨ ∃ name, request.known? = some name := by
  cases heffect with
  | declared hinsert => exact .inl ⟨_, rfl⟩
  | created value => exact .inl ⟨_, rfl⟩
  | assigned hlocate hty => exact .inr ⟨_, rfl⟩
  | located name => exact .inr ⟨_, rfl⟩
  | inspected hresult =>
    rw [hresult reply rfl] at hhandle
    cases hhandle
  | releasedDeclared => cases hhandle
  | releasedTemporaries => cases hhandle

theorem kind_of_known (heffect : environment.Effect context request (.ok reply) later)
    (hknown : request.known? = some name) (hhandle : reply.handle? = some handle) : handle.kind = .declared := by
  obtain ⟨position, _, rfl⟩ := Arenas.handle?_eq_some_iff.1 (heffect.handle?_of_known hknown hhandle)
  rfl

/-- A name has its handle from a declaration, or it had it before. -/
theorem handle?_before (heffect : environment.Effect context request result later)
    (hhandle : later.handle? name = some handle) :
    (∃ symbol reply, request = .declare symbol ∧ result = .ok reply ∧ symbol.name = name) ∨
      environment.handle? name = some handle ∧ request ≠ .release .declared := by
  cases heffect with
  | @declared symbol extended hinsert =>
    by_cases hname : symbol.name = name
    · exact .inl ⟨symbol, _, rfl, rfl, hname⟩
    · right
      obtain ⟨position, hposition, rfl⟩ := Arenas.handle?_eq_some_iff.1 hhandle
      rw [Declarations.position?_insert? hinsert, if_neg hname] at hposition
      exact ⟨Arenas.handle?_eq_some_iff.2 ⟨position, hposition, rfl⟩, nofun⟩
  | releasedDeclared =>
    obtain ⟨position, hposition, _⟩ := Arenas.handle?_eq_some_iff.1 hhandle
    have hlt := Declarations.lt_size_of_position? hposition
    cases hlt
  | _ => exact .inr ⟨hhandle, nofun⟩

end Environment.Effect

namespace Store

variable {store : Store} {run : List Action} {moment number : Nat} {request : Request} {reply : Reply}

/-! ### Moments of a run -/

/-- At a moment of a run an environment grants a request, with a reply. -/
def GrantedAt (store : Store) (run : List Action) (moment number : Nat) (request : Request) (reply : Reply) : Prop :=
  ∃ action, run[moment]? = some action ∧
    (store.after (run.take moment)).exchange? number action = some (request, .ok reply)

theorem grantedAt_iff {action : Action} (haction : run[moment]? = some action) :
    store.GrantedAt run moment number request reply ↔
      (store.after (run.take moment)).exchange? number action = some (request, .ok reply) := by
  simp [GrantedAt, haction]

theorem after_take_succ {action : Action} (haction : run[moment]? = some action) :
    store.after (run.take (moment + 1)) = (store.after (run.take moment)).next action := by
  rw [List.take_add_one, haction, after_append]
  rfl

theorem after_take_add (store : Store) (run : List Action) (first count : Nat) :
    store.after (run.take (first + count)) = (store.after (run.take first)).after ((run.drop first).take count) := by
  rw [List.take_add, after_append]

theorem exchange?_eq_some {action : Action} {result : Except Diagnostic Reply}
    (hexchange : store.exchange? number action = some (request, result)) :
    ∃ environment context call, action = .call number context call ∧ store.environment? number = some environment ∧
      call.request = request ∧ (environment.perform context call).result = result := by
  simp only [exchange?, Option.bind_eq_bind, Option.bind_eq_some_iff, Option.pure_def, Option.some.injEq,
    Prod.mk.injEq] at hexchange
  obtain ⟨⟨context, call⟩, hcall, environment, henvironment, hrequest, hresult⟩ := hexchange
  exact ⟨environment, context, call, Action.callOn?_eq_some_iff.1 hcall, henvironment, hrequest, hresult⟩

/-- What a grant is in the states before and after it. -/
theorem GrantedAt.effect (hgranted : store.GrantedAt run moment number request reply) :
    ∃ environment later context, (store.after (run.take moment)).environment? number = some environment ∧
      (store.after (run.take (moment + 1))).environment? number = some later ∧
      environment.Effect context request (.ok reply) later := by
  obtain ⟨action, haction, hexchange⟩ := hgranted
  obtain ⟨environment, context, call, rfl, henvironment, rfl, hresult⟩ := exchange?_eq_some hexchange
  refine ⟨environment, (environment.perform context call).state, context, henvironment, ?_, ?_⟩
  · rw [after_take_succ haction, next_call henvironment]
    exact environment?_put_self henvironment
  · rw [← hresult]
    exact Environment.effect_perform call

/-- At one moment there is one grant at most. -/
theorem GrantedAt.unique {other : Nat} {otherRequest : Request} {otherReply : Reply}
    (hgranted : store.GrantedAt run moment number request reply)
    (hother : store.GrantedAt run moment other otherRequest otherReply) :
    number = other ∧ request = otherRequest ∧ reply = otherReply := by
  obtain ⟨action, haction, hexchange⟩ := hgranted
  rw [grantedAt_iff haction] at hother
  obtain ⟨environment, context, call, rfl, henvironment, rfl, hresult⟩ := exchange?_eq_some hexchange
  obtain ⟨_, _, _, hsame, hsameEnvironment, rfl, hsameResult⟩ := exchange?_eq_some hother
  cases hsame
  rw [henvironment] at hsameEnvironment
  cases hsameEnvironment
  rw [hresult] at hsameResult
  cases hsameResult
  exact ⟨rfl, rfl, rfl⟩

theorem grantedAt_succ {action : Action} :
    store.GrantedAt (action :: run) (moment + 1) number request reply ↔
      (store.next action).GrantedAt run moment number request reply := Iff.rfl

theorem granted_append (store : Store) (number : Nat) (actions others : List Action) :
    store.granted number (actions ++ others) =
      store.granted number actions ++ (store.after actions).granted number others := by
  induction actions generalizing store with
  | nil => rfl
  | cons action actions ih =>
    rw [List.cons_append, granted_cons, granted_cons, ih (store.next action), List.append_assoc]
    rfl

theorem length_granted_le (store : Store) (number : Nat) (actions : List Action) :
    (store.granted number actions).length ≤ actions.length := by
  induction actions generalizing store with
  | nil => exact Nat.le_refl _
  | cons action actions ih =>
    have hone : (Transcript.granted (store.exchange? number action).toList).length ≤ 1 :=
      Nat.le_trans (List.length_filterMap_le ..) Option.length_toList_le
    have hrest := ih (store.next action)
    rw [granted_cons, List.length_append, List.length_cons]
    omega

theorem mem_granted_exchange {exchange : Option (Request × Except Diagnostic Reply)} :
    request ∈ Transcript.granted exchange.toList ↔ ∃ reply, exchange = some (request, .ok reply) := by
  cases exchange with
  | none => exact ⟨nofun, nofun⟩
  | some exchange =>
    obtain ⟨made, result⟩ := exchange
    cases result with
    | ok reply =>
      constructor
      · intro hmem
        cases List.mem_singleton.1 hmem
        exact ⟨reply, rfl⟩
      · intro hexchange
        obtain ⟨_, hsame⟩ := hexchange
        cases hsame
        exact List.mem_singleton.2 rfl
    | error diagnostic =>
      constructor
      · intro hmem
        cases hmem
      · intro hexchange
        obtain ⟨_, hsame⟩ := hexchange
        cases hsame

/-- What is granted along a run is granted at its moments. -/
theorem mem_granted_iff :
    request ∈ store.granted number run ↔ ∃ moment reply, store.GrantedAt run moment number request reply := by
  induction run generalizing store with
  | nil =>
    constructor
    · intro hmem
      cases hmem
    · intro hgranted
      obtain ⟨moment, reply, action, haction, _⟩ := hgranted
      cases haction
  | cons action actions ih =>
    rw [granted_cons, List.mem_append, mem_granted_exchange, ih]
    constructor
    · intro hgranted
      obtain ⟨reply, hexchange⟩ | ⟨moment, reply, hlater⟩ := hgranted
      · exact ⟨0, reply, action, rfl, hexchange⟩
      · exact ⟨moment + 1, reply, hlater⟩
    · intro hgranted
      obtain ⟨moment, reply, hmoment⟩ := hgranted
      cases moment with
      | zero =>
        obtain ⟨first, hfirst, hexchange⟩ := hmoment
        cases hfirst
        exact .inl ⟨reply, hexchange⟩
      | succ moment => exact .inr ⟨moment, reply, hmoment⟩

/-- A grant within a stretch of a run is one of the run. -/
theorem GrantedAt.of_stretch {first count : Nat}
    (hgranted : (store.after (run.take first)).GrantedAt ((run.drop first).take count) moment number request reply) :
    moment < count ∧ store.GrantedAt run (first + moment) number request reply := by
  obtain ⟨action, haction, hexchange⟩ := hgranted
  rw [List.getElem?_take, List.getElem?_drop] at haction
  split at haction
  · next hlt =>
    rw [List.take_take, Nat.min_eq_left (Nat.le_of_lt hlt), ← after_take_add] at hexchange
    exact ⟨hlt, action, haction, hexchange⟩
  · cases haction

/-- A stretch of a run grants no more releases of an arena than the whole run. -/
theorem countP_stretch_le (store : Store) (run : List Action) (first count number : Nat) (kind : ArenaKind) :
    ((store.after (run.take first)).granted number ((run.drop first).take count)).countP (Request.releases kind) ≤
      (store.granted number run).countP (Request.releases kind) := by
  have hparts : run = run.take first ++ ((run.drop first).take count ++ (run.drop first).drop count) := by
    rw [List.take_append_drop, List.take_append_drop]
  have hcount := congrArg (fun actions => (store.granted number actions).countP (Request.releases kind)) hparts
  simp only [granted_append, List.countP_append] at hcount
  omega

/-! ### Returned handles -/

/-- A handle with the moment at which it was returned, the environment that returned it and the request. -/
structure Issue where
  moment : Nat
  number : Nat
  request : Request
  handle : Handle

/-- A run returns a handle. -/
def Returned (run : List Action) (issue : Issue) : Prop :=
  ∃ reply, ({} : Store).GrantedAt run issue.moment issue.number issue.request reply ∧
    reply.handle? = some issue.handle

/-- The moment at which the symbol was created that a handle was returned for. -/
inductive CreatedAt (run : List Action) (issue : Issue) : Nat → Prop where
  /-- A request for a new symbol creates it itself. -/
  | itself {kind : ArenaKind} (harena : issue.request.arena? = some kind) : CreatedAt run issue issue.moment
  /-- The symbol of a known name was created by the declaration of the name that no release has undone since. -/
  | declaration {origin : Nat} {symbol : Symbol} {reply : Reply} (hknown : issue.request.known? = some symbol.name)
      (horder : origin < issue.moment)
      (hdeclared : ({} : Store).GrantedAt run origin issue.number (.declare symbol) reply)
      (hkept : ∀ moment reply, origin < moment → moment < issue.moment →
        ¬({} : Store).GrantedAt run moment issue.number (.release .declared) reply) : CreatedAt run issue origin

/-- One moment returns one handle. -/
theorem handle_eq_of_moment {one other : Issue} (hone : Returned run one) (hother : Returned run other)
    (hmoment : one.moment = other.moment) : one.handle = other.handle := by
  obtain ⟨reply, hgranted, hhandle⟩ := hone
  obtain ⟨otherReply, hotherGranted, hotherHandle⟩ := hother
  rw [hmoment] at hgranted
  obtain ⟨_, _, rfl⟩ := hgranted.unique hotherGranted
  exact Option.some.inj (hhandle.symm.trans hotherHandle)

theorem kind_eq_temporary_iff {issue : Issue} (hissue : Returned run issue) :
    issue.handle.kind = .temporary ↔ issue.request.arena? = some .temporary := by
  obtain ⟨reply, hgranted, hhandle⟩ := hissue
  obtain ⟨_, _, _, _, _, heffect⟩ := hgranted.effect
  obtain ⟨kind, harena⟩ | ⟨name, hknown⟩ := heffect.arena?_or_known? hhandle
  · rw [(heffect.get?_new harena hhandle).1, harena, Option.some.injEq]
  · rw [heffect.kind_of_known hknown hhandle, Request.arena?_of_known hknown]
    exact ⟨nofun, nofun⟩

/-- A name that has a handle has it from a declaration that no release has undone since. -/
theorem exists_declaration {name : String} {handle : Handle}
    (hhandle : ((store.after (run.take moment)).arenas number).handle? name = some handle)
    (hstart : (store.arenas number).handle? name = none) :
    ∃ origin < moment, (∃ symbol reply, store.GrantedAt run origin number (.declare symbol) reply ∧ symbol.name = name) ∧
      ∀ between reply, origin < between → between < moment →
        ¬store.GrantedAt run between number (.release .declared) reply := by
  induction moment with
  | zero =>
    rw [List.take_zero, after_nil, hstart] at hhandle
    cases hhandle
  | succ moment ih =>
    -- Either the name had its handle before the last action, or that action is the declaration.
    have hstill (hbefore : ((store.after (run.take moment)).arenas number).handle? name = some handle)
        (hkept : ∀ reply, ¬store.GrantedAt run moment number (.release .declared) reply) :
        ∃ origin < moment + 1,
          (∃ symbol reply, store.GrantedAt run origin number (.declare symbol) reply ∧ symbol.name = name) ∧
          ∀ between reply, origin < between → between < moment + 1 →
            ¬store.GrantedAt run between number (.release .declared) reply := by
      obtain ⟨origin, hlt, hdeclared, hbetween⟩ := ih hbefore
      refine ⟨origin, Nat.lt_succ_of_lt hlt, hdeclared, fun between reply hafter hlast => ?_⟩
      obtain hbefore | rfl := Nat.lt_succ_iff_lt_or_eq.1 hlast
      · exact hbetween between reply hafter hbefore
      · exact hkept reply
    cases haction : run[moment]? with
    | none =>
      rw [List.take_add_one, haction, Option.toList_none, List.append_nil] at hhandle
      refine hstill hhandle fun reply hgranted => ?_
      obtain ⟨action, hsome, _⟩ := hgranted
      rw [haction] at hsome
      cases hsome
    | some action =>
      rw [after_take_succ haction] at hhandle
      have hbecomes := (store.after (run.take moment)).arenas_next number action
      cases hexchange : (store.after (run.take moment)).exchange? number action with
      | none =>
        rw [hexchange] at hbecomes
        rw [hbecomes] at hhandle
        refine hstill hhandle fun reply hgranted => ?_
        rw [grantedAt_iff haction, hexchange] at hgranted
        cases hgranted
      | some exchange =>
        obtain ⟨request, result⟩ := exchange
        rw [hexchange] at hbecomes
        obtain ⟨environment, later, context, henvironment, hlater, heffect⟩ := hbecomes
        rw [← hlater] at hhandle
        obtain ⟨symbol, reply, rfl, rfl, hname⟩ | ⟨hbefore, hrequest⟩ := heffect.handle?_before hhandle
        · refine ⟨moment, Nat.lt_succ_self _, ⟨symbol, reply, ⟨action, haction, hexchange⟩, hname⟩, ?_⟩
          intro between reply hafter hlast
          omega
        · rw [henvironment] at hbefore
          refine hstill hbefore fun reply hgranted => ?_
          rw [grantedAt_iff haction, hexchange] at hgranted
          cases hgranted
          exact hrequest rfl

/-- A handle of a known name is the one that the declaration of the name returned, if no release has come between. -/
theorem handle_eq_of_declaration {declaration later : Issue} {symbol : Symbol} (hdeclaration : Returned run declaration)
    (hlater : Returned run later) (hnumber : declaration.number = later.number)
    (hrequest : declaration.request = .declare symbol) (hknown : later.request.known? = some symbol.name)
    (horder : declaration.moment < later.moment)
    (hkept : ∀ moment reply, declaration.moment < moment → moment < later.moment →
      ¬({} : Store).GrantedAt run moment later.number (.release .declared) reply) :
    later.handle = declaration.handle := by
  obtain ⟨reply, hgranted, hhandle⟩ := hdeclaration
  obtain ⟨laterReply, hlaterGranted, hlaterHandle⟩ := hlater
  obtain ⟨environment, declared, context, henvironment, hdeclared, heffect⟩ := hgranted.effect
  obtain ⟨before, _, _, hbefore, _, hlaterEffect⟩ := hlaterGranted.effect
  rw [hrequest] at heffect
  obtain ⟨subject, hsubject, hstands⟩ := heffect.standsFor_of_handle? hhandle
  cases hsubject
  have harena : (Request.declare symbol).arena? = some .declared := rfl
  obtain ⟨hkind, _⟩ := heffect.get?_new harena hhandle
  have hstretch : later.moment = declaration.moment + 1 + (later.moment - (declaration.moment + 1)) := by omega
  rw [hstretch, after_take_add, ← hnumber] at hbefore
  have hstill := standsFor_after hdeclared hstands _ hbefore ?_
  · have hname := hstill.handle?_eq hkind
    rw [hlaterEffect.handle?_of_known hknown hlaterHandle] at hname
    exact Option.some.inj hname
  · rw [hkind, List.any_eq_false]
    intro request hrequest hreleases
    obtain ⟨between, betweenReply, hbetween⟩ := mem_granted_iff.1 hrequest
    obtain ⟨hlt, hbetween⟩ := hbetween.of_stretch
    obtain rfl := Request.releases_iff.1 hreleases
    exact hkept _ betweenReply (by omega) (by omega) (hnumber ▸ hbetween)

/-- What the bounds of a run rule out: that owner numbers or generations come round again. -/
structure Bounded (run : List Action) : Prop where
  environments : (({} : Store).after run).residents.size < UInt64.size
  releases : ∀ number kind, (({} : Store).granted number run).countP (Request.releases kind) < UInt32.size

/-- A run that is short enough keeps the bound on releases. -/
theorem Bounded.of_length (henvironments : (({} : Store).after run).residents.size < UInt64.size)
    (hlength : run.length < UInt32.size) : Bounded run where
  environments := henvironments
  releases number _ :=
    Nat.lt_of_le_of_lt (Nat.le_trans List.countP_le_length (length_granted_le {} number run)) hlength

theorem Bounded.lt_of_environment? (hbounded : Bounded run) {environment : Environment}
    (henvironment : (({} : Store).after (run.take moment)).environment? number = some environment) :
    number < UInt64.size := by
  obtain ⟨final, hfinal⟩ := environment?_after henvironment (run.drop moment)
  rw [← after_append, List.take_append_drop] at hfinal
  exact Nat.lt_trans (lt_size_of_environment? hfinal) hbounded.environments

/-- A handle of the current generation still resolves, since no release has come between. -/
theorem isSome_get?_of_generation {environment later : Environment} {handle : Handle} {symbol : Symbol}
    (henvironment : store.environment? number = some environment) (hstands : environment.StandsFor handle symbol)
    (actions : List Action)
    (hreleases : (store.granted number actions).countP (Request.releases handle.kind) < UInt32.size)
    (hlater : (store.after actions).environment? number = some later)
    (hgeneration : handle.generation = later.generation handle.kind) : (later.get? handle).isSome := by
  have hnone : (store.granted number actions).countP (Request.releases handle.kind) = 0 := by
    refine Decidable.not_not.1 fun hsome => ?_
    rw [generation_after henvironment actions hlater, hstands.generation_eq] at hgeneration
    exact generation_add_ofNat_ne (Nat.pos_of_ne_zero hsome) hreleases hgeneration
  have hkept : (store.granted number actions).any (Request.releases handle.kind) = false :=
    List.any_eq_false.2 (List.countP_eq_zero.1 hnone)
  obtain ⟨found, hfound, _⟩ := (standsFor_after henvironment hstands actions hlater hkept).get?_eq
  rw [hfound]
  rfl

theorem number_eq_of_owner {earlier later number other : Nat} {environment found : Environment} (hbounded : Bounded run)
    (henvironment : (({} : Store).after (run.take earlier)).environment? number = some environment)
    (hfound : (({} : Store).after (run.take later)).environment? other = some found)
    (howner : environment.owner = found.owner) : number = other := by
  refine Decidable.not_not.1 fun hne => ?_
  rw [owner_after _ henvironment, owner_after _ hfound] at howner
  exact ownerNumber_ne (Ne.symm hne) (hbounded.lt_of_environment? hfound)
    (hbounded.lt_of_environment? henvironment) howner

/-- A handle that is returned for a new symbol differs from all that creations returned before. -/
theorem handle_ne_of_created (hbounded : Bounded run) {earlier later : Issue} (hearlier : Returned run earlier)
    (hlater : Returned run later) {newKind : ArenaKind} (hnew : later.request.arena? = some newKind)
    (horder : earlier.moment < later.moment) : later.handle ≠ earlier.handle := by
  intro hsame
  obtain ⟨reply, hgranted, hhandle⟩ := hearlier
  obtain ⟨laterReply, hlaterGranted, hlaterHandle⟩ := hlater
  obtain ⟨environment, created, context, henvironment, hcreated, heffect⟩ := hgranted.effect
  obtain ⟨before, after, _, hbefore, _, hlaterEffect⟩ := hlaterGranted.effect
  rw [hsame] at hlaterHandle
  obtain ⟨symbol, _, hstands⟩ := heffect.standsFor_of_handle? hhandle
  obtain ⟨_, _, hnewStands⟩ := hlaterEffect.standsFor_of_handle? hlaterHandle
  obtain ⟨_, hnone⟩ := hlaterEffect.get?_new hnew hlaterHandle
  have hnumber : earlier.number = later.number := by
    refine number_eq_of_owner hbounded henvironment hbefore ?_
    rw [← heffect.owner_eq, ← hstands.owner_eq, hnewStands.owner_eq, hlaterEffect.owner_eq]
  have hgeneration : earlier.handle.generation = before.generation earlier.handle.kind := by
    have hnotReleased : later.request.releases earlier.handle.kind = false := by
      rw [Bool.eq_false_iff, ne_eq, Request.releases_iff]
      intro hrelease
      rw [hrelease] at hnew
      cases hnew
    rw [hnewStands.generation_eq, hlaterEffect.generation_eq, hnotReleased]
    exact UInt32.add_zero _
  have hstretch : later.moment = earlier.moment + 1 + (later.moment - (earlier.moment + 1)) := by omega
  rw [← hnumber, hstretch, after_take_add] at hbefore
  have hresolves := isSome_get?_of_generation hcreated hstands _
    (Nat.lt_of_le_of_lt (countP_stretch_le ..) (hbounded.releases ..)) hbefore hgeneration
  rw [hnone] at hresolves
  cases hresolves

/-- What a handle was returned for is told by the creation, which returned the same handle. -/
theorem CreatedAt.exists_creation {issue : Issue} {origin : Nat} (hcreated : CreatedAt run issue origin)
    (hissue : Returned run issue) :
    ∃ creation kind, Returned run creation ∧ creation.moment = origin ∧ creation.request.arena? = some kind ∧
      creation.handle = issue.handle := by
  cases hcreated with
  | itself harena => exact ⟨issue, _, hissue, rfl, harena, rfl⟩
  | @declaration origin symbol reply hknown horder hdeclared hkept =>
    obtain ⟨_, _, _, _, _, heffect⟩ := hdeclared.effect
    obtain ⟨handle, hhandle⟩ := heffect.exists_handle
    have hreturned : Returned run ⟨origin, issue.number, .declare symbol, handle⟩ := ⟨reply, hdeclared, hhandle⟩
    have hsame := handle_eq_of_declaration hreturned hissue rfl rfl hknown horder hkept
    exact ⟨_, .declared, hreturned, rfl, rfl, hsame.symm⟩

theorem exists_createdAt {issue : Issue} (hissue : Returned run issue) : ∃ origin, CreatedAt run issue origin := by
  obtain ⟨reply, hgranted, hhandle⟩ := hissue
  obtain ⟨environment, later, context, henvironment, _, heffect⟩ := hgranted.effect
  obtain ⟨kind, harena⟩ | ⟨name, hknown⟩ := heffect.arena?_or_known? hhandle
  · exact ⟨_, .itself harena⟩
  · have hbefore := heffect.handle?_of_known hknown hhandle
    rw [← arenas_of_environment? henvironment] at hbefore
    obtain ⟨origin, horder, ⟨symbol, declaredReply, hdeclared, rfl⟩, hkept⟩ := exists_declaration hbefore (by
      simp [arenas, environment?, Arenas.handle?, Declarations.position?])
    exact ⟨origin, .declaration hknown horder hdeclared hkept⟩

/-- Handles tell apart what a run creates: they are equal exactly if they were returned for one creation. -/
structure HandlesIdentify (run : List Action) : Prop where
  exists_createdAt : ∀ issue, Returned run issue → ∃ origin, CreatedAt run issue origin
  handle_eq_iff : ∀ one other origin otherOrigin, Returned run one → Returned run other →
    CreatedAt run one origin → CreatedAt run other otherOrigin → (one.handle = other.handle ↔ origin = otherOrigin)
  /-- Until a release the handle of a declared name stays the one that its declaration returned. -/
  handle_eq_of_declaration : ∀ declaration later symbol, Returned run declaration → Returned run later →
    declaration.number = later.number → declaration.request = .declare symbol →
    later.request.known? = some symbol.name → declaration.moment < later.moment →
    (∀ moment reply, declaration.moment < moment → moment < later.moment →
      ¬({} : Store).GrantedAt run moment later.number (.release .declared) reply) →
    later.handle = declaration.handle
  /-- A declaration, a new one of an old name too, and a temporary bring a handle that no call returned before. -/
  handle_ne_of_created : ∀ earlier later kind, Returned run earlier → Returned run later →
    later.request.arena? = some kind → earlier.moment < later.moment → later.handle ≠ earlier.handle
  handle_ne_of_temporary : ∀ one other, Returned run one → Returned run other →
    one.request.arena? = some .temporary → other.request.arena? ≠ some .temporary → one.handle ≠ other.handle

/-- As long as neither owner numbers nor generations come round again, handles identify what they were returned for,
along every run and across all environments. -/
theorem handles_identify (hbounded : Bounded run) : HandlesIdentify run where
  exists_createdAt issue hissue := exists_createdAt hissue
  handle_eq_iff one other origin otherOrigin hone hother hcreated hotherCreated := by
    obtain ⟨creation, kind, hcreation, rfl, harena, hhandle⟩ := hcreated.exists_creation hone
    obtain ⟨otherCreation, otherKind, hotherCreation, rfl, hotherArena, hotherHandle⟩ :=
      hotherCreated.exists_creation hother
    rw [← hhandle, ← hotherHandle]
    constructor
    · intro hsame
      obtain hlt | heq | hgt := Nat.lt_trichotomy creation.moment otherCreation.moment
      · exact absurd hsame.symm (handle_ne_of_created hbounded hcreation hotherCreation hotherArena hlt)
      · exact heq
      · exact absurd hsame (handle_ne_of_created hbounded hotherCreation hcreation harena hgt)
    · intro hmoment
      exact handle_eq_of_moment hcreation hotherCreation hmoment
  handle_eq_of_declaration declaration later symbol hdeclaration hlater hnumber hrequest hknown horder hkept :=
    handle_eq_of_declaration hdeclaration hlater hnumber hrequest hknown horder hkept
  handle_ne_of_created earlier later kind hearlier hlater hnew horder :=
    handle_ne_of_created hbounded hearlier hlater hnew horder
  handle_ne_of_temporary one other hone hother harena hotherArena hsame := by
    have hkind := (kind_eq_temporary_iff hone).2 harena
    rw [hsame] at hkind
    exact hotherArena ((kind_eq_temporary_iff hother).1 hkind)

/-- A name is declared, assigned, released and declared anew at the same place, next to a twin environment and a
temporary. -/
def redeclaredRun : List Action :=
  [.newEnvironment, .newEnvironmentOn 0, .call 0 {} (.declare "x" .int), .call 1 {} (.declare "x" .int),
    .call 0 {} (.assign "x" (.int 3)), .call 0 {} (.newTemporary .int (.int 3)), .call 0 {} .releaseDeclared,
    .call 0 {} (.declare "x" .int), .call 0 {} (.handleOf "x")]

theorem handles_identify_redeclared :
    HandlesIdentify redeclaredRun ∧
      Returned redeclaredRun ⟨4, 0, .assign "x" (.int 3), ⟨0, .declared, 0, 0⟩⟩ ∧
      Returned redeclaredRun ⟨8, 0, .locate "x", ⟨0, .declared, 0, 1⟩⟩ :=
  ⟨handles_identify (.of_length (by decide) (by decide)), ⟨_, ⟨_, rfl, rfl⟩, rfl⟩, ⟨_, ⟨_, rfl, rfl⟩, rfl⟩⟩

end Store

end SymbolTable
