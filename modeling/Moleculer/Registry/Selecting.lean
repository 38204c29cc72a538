import Moleculer.Registry.Balancer

/-! Picking endpoints with strategies that need not be right, and what is picked with those that
are. -/

namespace Moleculer.Cluster

variable {δ : Type}

namespace EndpointList

/-- The strategy returns a member of any list that has one. -/
def Picks (strategy : List (Endpoint δ) → Option (Endpoint δ)) : Prop :=
  ∀ list, list ≠ [] → ∃ ep ∈ list, strategy list = some ep

/-- `localEndpoints` holds the local ones among the endpoints. Endpoints with the same reference are
the same object. -/
structure LocalsExact (list : EndpointList δ) : Prop where
  locals : list.localEndpoints = (list.endpoints.filter (·.isLocal)).map (·.ref)
  object : ∀ ep ∈ list.endpoints, ∀ other ∈ list.endpoints, ep.ref = other.ref → ep = other

/-- What a call may return that picks among some endpoints: an available one, if there is one. -/
structure Served (endpoints : List (Endpoint δ))
    (result : Except StrategyError (Option (Endpoint δ))) : Prop where
  returns : ∃ picked, result = .ok picked
  none_iff : result = .ok none ↔ ∀ ep ∈ endpoints, ep.state = false
  picked : ∀ ep, result = .ok (some ep) → ep ∈ endpoints ∧ ep.state = true

variable {strategy : List (Endpoint δ) → Option (Endpoint δ)} {list : EndpointList δ}

theorem LocalsExact.locals_eq (exact_ : list.LocalsExact) :
    list.locals = list.endpoints.filter (·.isLocal) := by
  unfold EndpointList.locals
  apply List.filter_congr
  intro ep member
  rw [exact_.locals]
  rw [Bool.eq_iff_iff, decide_eq_true_iff, List.mem_map]
  refine ⟨?_, fun here => ⟨ep, List.mem_filter.mpr ⟨member, here⟩, rfl⟩⟩
  intro noted
  obtain ⟨other, inside, same⟩ := noted
  obtain ⟨there, here⟩ := List.mem_filter.mp inside
  rwa [exact_.object ep member other there same.symm]

theorem LocalsExact.hasLocal_iff (exact_ : list.LocalsExact) :
    list.hasLocal = true ↔ list.endpoints.filter (·.isLocal) ≠ [] := by
  rw [hasLocal, exact_.locals, Bool.not_eq_true', List.isEmpty_eq_false_iff, ne_eq,
    List.map_eq_nil_iff]

theorem served_single (item : Endpoint δ) :
    Served [item] (.ok (if item.state then some item else none)) := by
  cases available : item.state with
  | true =>
    refine ⟨⟨_, rfl⟩, ?_, ?_⟩
    · simp [available]
    · intro ep same
      simp only [if_true, Except.ok.injEq, Option.some.injEq] at same
      subst same
      exact ⟨List.mem_cons_self, available⟩
  | false =>
    refine ⟨⟨_, rfl⟩, ?_, ?_⟩
    · simp [available]
    · intro ep same
      cases same

theorem served_tryAvailable (picks : Picks strategy) (endpoints : List (Endpoint δ)) :
    Served endpoints (tryAvailable strategy endpoints) := by
  unfold tryAvailable availableWith selectWith
  dsimp only
  split
  · rename_i nothing
    have unavailable : ∀ ep ∈ endpoints, ep.state = false := by
      intro ep member
      by_contra available
      have inside : ep ∈ endpoints.filter (·.state) :=
        List.mem_filter.mpr ⟨member, by simpa using available⟩
      rw [List.eq_nil_of_length_eq_zero nothing] at inside
      cases inside
    exact ⟨⟨_, rfl⟩, ⟨fun _ => unavailable, fun _ => rfl⟩, nofun⟩
  · rename_i something
    obtain ⟨picked, member, chosen⟩ := picks (endpoints.filter (·.state)) fun nothing =>
      something (by rw [nothing]; rfl)
    obtain ⟨inside, available⟩ := List.mem_filter.mp member
    rw [chosen]
    refine ⟨⟨_, rfl⟩, ⟨nofun, fun none_ => ?_⟩, fun ep same => ?_⟩
    · rw [none_ picked inside] at available
      cases available
    · cases same
      exact ⟨inside, available⟩

/-- `nextLocal` picks among the local endpoints. -/
theorem served_tryNextLocal (exact_ : list.LocalsExact) (picks : Picks strategy) :
    Served (list.endpoints.filter (·.isLocal)) (list.tryNextLocal strategy) := by
  rw [tryNextLocal, nextLocalWith, ← exact_.locals_eq]
  split
  · rename_i empty
    rw [empty]
    exact ⟨⟨_, rfl⟩, by simp, nofun⟩
  · rename_i item only
    rw [only]
    exact served_single item
  · exact served_tryAvailable picks list.locals

/-- Where `nextLocal` does not decide alone, `next` picks among all endpoints. -/
theorem served_tryNext (exact_ : list.LocalsExact) (picks : Picks strategy) (preferLocal : Bool)
    (shared : (list.internal && list.hasLocal) = false) :
    Served list.endpoints (list.tryNext strategy preferLocal) ∧
      (preferLocal = true → (∃ ep ∈ list.endpoints, ep.isLocal = true ∧ ep.state = true) →
        ∀ ep, list.tryNext strategy preferLocal = .ok (some ep) → ep.isLocal = true) := by
  have nearby := served_tryNextLocal exact_ picks
  have anyone := served_tryAvailable picks list.endpoints
  rw [tryNext, nextWith, shared, if_neg (show ¬ false = true from nofun)]
  split
  · -- There is no endpoint at all.
    rename_i empty
    rw [List.eq_nil_of_length_eq_zero empty]
    exact ⟨⟨⟨_, rfl⟩, by simp, nofun⟩, fun _ _ => nofun⟩
  split
  · -- The only endpoint is local or there is no local one.
    rename_i item only
    refine ⟨only ▸ served_single item, fun _ near ep same => ?_⟩
    obtain ⟨found, member, here, _⟩ := near
    obtain ⟨inside, _⟩ := (served_single item).picked ep same
    rw [only, List.mem_singleton] at member
    rw [List.mem_singleton.mp inside, ← member]
    exact here
  · cases picks : preferLocal && list.hasLocal with
    | false =>
      refine ⟨anyone, fun preferred near => ?_⟩
      -- Local ones are preferred, so none is there.
      obtain ⟨found, member, here, _⟩ := near
      rw [preferred, Bool.true_and, ← Bool.not_eq_true, exact_.hasLocal_iff] at picks
      exact absurd (List.ne_nil_of_mem (List.mem_filter.mpr ⟨member, here⟩)) picks
    | true =>
      obtain ⟨picked, result⟩ := nearby.returns
      rw [if_pos rfl, ← Prod.mk.eta (p := nextLocalWith _ _ _),
        show (nextLocalWith _ _ _).2 = _ from result]
      cases picked with
      | none =>
        refine ⟨anyone, fun _ near => ?_⟩
        obtain ⟨found, member, here, available⟩ := near
        have unavailable := nearby.none_iff.mp result found (List.mem_filter.mpr ⟨member, here⟩)
        rw [unavailable] at available
        cases available
      | some ep =>
        obtain ⟨inside, available⟩ := nearby.picked ep result
        obtain ⟨member, here⟩ := List.mem_filter.mp inside
        dsimp only
        rw [if_pos available]
        refine ⟨⟨⟨_, rfl⟩, ⟨nofun, fun none_ => ?_⟩, fun other same => ?_⟩,
          fun _ _ other same => ?_⟩
        · rw [none_ ep member] at available
          cases available
        · cases same
          exact ⟨member, available⟩
        · cases same
          exact here

/-- An endpoint list picks an available endpoint whenever there is one, a local one where it should,
and no call fails. -/
theorem next_serves {list : EndpointList δ} (exact_ : list.LocalsExact)
    {strategy : List (Endpoint δ) → Option (Endpoint δ)} (picks : Picks strategy)
    (preferLocal : Bool) :
    Served (list.endpoints.filter (·.isLocal)) (list.tryNextLocal strategy) ∧
      (list.internal = true → (∃ ep ∈ list.endpoints, ep.isLocal = true) →
        Served (list.endpoints.filter (·.isLocal)) (list.tryNext strategy preferLocal)) ∧
      (list.internal = true → (¬ ∃ ep ∈ list.endpoints, ep.isLocal = true) →
        Served list.endpoints (list.tryNext strategy preferLocal)) ∧
      (list.internal = false → Served list.endpoints (list.tryNext strategy preferLocal) ∧
        (preferLocal = true → (∃ ep ∈ list.endpoints, ep.isLocal = true ∧ ep.state = true) →
          ∀ ep, list.tryNext strategy preferLocal = .ok (some ep) → ep.isLocal = true)) := by
  have shared : list.hasLocal = true ↔ ∃ ep ∈ list.endpoints, ep.isLocal = true := by
    rw [exact_.hasLocal_iff, ne_eq, List.filter_eq_nil_iff]
    simp
  refine ⟨served_tryNextLocal exact_ picks, fun internal nearby => ?_, fun _ remote => ?_,
    fun external => served_tryNext exact_ picks preferLocal (by rw [external, Bool.false_and])⟩
  · have locals := shared.mpr nearby
    obtain ⟨ep, member, _⟩ := nearby
    have result : list.tryNext strategy preferLocal = list.tryNextLocal strategy := by
      rw [tryNext, nextWith, if_neg (List.length_pos_of_mem member).ne', internal, locals]
      rfl
    rw [result]
    exact served_tryNextLocal exact_ picks
  · rw [← shared, Bool.not_eq_true] at remote
    exact (served_tryNext exact_ picks preferLocal (by rw [remote, Bool.and_false])).1

/-- A list with a local endpoint that is not available and a remote one that is. -/
def localAndRemote : EndpointList Unit where
  name := "users.list"
  group := none
  internal := false
  endpoints :=
    [⟨1, ⟨1, some "node-1"⟩, true, false, ⟨1, ⟨1, some "node-1"⟩, "users", "users"⟩, ()⟩,
      ⟨2, ⟨2, some "node-2"⟩, false, true, ⟨2, ⟨2, some "node-2"⟩, "users", "users"⟩, ()⟩]
  localEndpoints := [1]

/-- The remote endpoint is picked, although local ones are preferred. -/
theorem next_serves_remote :
    localAndRemote.tryNext List.head? true ≠ .ok none ∧
      (∃ picked, localAndRemote.tryNext List.head? true = .ok picked) := by
  have exact_ : localAndRemote.LocalsExact := ⟨by decide, by decide⟩
  have picks : Picks (List.head? : List (Endpoint Unit) → Option (Endpoint Unit)) := by
    intro list nonempty
    exact ⟨list.head nonempty, List.head_mem nonempty, List.head?_eq_some_head nonempty⟩
  have served := ((next_serves exact_ picks true).2.2.2 rfl).1
  refine ⟨fun nothing => ?_, served.returns⟩
  have unavailable := served.none_iff.mp nothing _ (List.mem_of_getElem? (i := 1) rfl)
  cases unavailable

end EndpointList

end Moleculer.Cluster
