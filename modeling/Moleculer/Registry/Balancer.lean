import Moleculer.Registry.Catalog

/-! How an endpoint list picks the endpoint that comes next. -/

namespace Moleculer.Cluster

/-- A balancer strategy, which picks a member of the list it is given. -/
structure Strategy (δ : Type) where
  select : (list : List (Endpoint δ)) → list ≠ [] → Endpoint δ
  select_mem : ∀ list nonempty, select list nonempty ∈ list

/-- `EndpointList.select` on a list that may be empty. -/
def Strategy.choose {δ : Type} (strategy : Strategy δ) (list : List (Endpoint δ)) :
    Option (Endpoint δ) :=
  if nonempty : list ≠ [] then some (strategy.select list nonempty) else none

variable {δ : Type} {list : List (Endpoint δ)}

theorem Strategy.mem_of_choose {strategy : Strategy δ} {chosen : Endpoint δ}
    (choice : strategy.choose list = some chosen) : chosen ∈ list := by
  unfold Strategy.choose at choice
  split at choice
  · rw [← Option.some.inj choice]
    exact strategy.select_mem list _
  · cases choice

theorem Strategy.exists_choose (strategy : Strategy δ) (nonempty : list ≠ []) :
    ∃ chosen ∈ list, strategy.choose list = some chosen :=
  ⟨strategy.select list nonempty, strategy.select_mem list nonempty, dif_pos nonempty⟩

theorem Strategy.choose_singleton (strategy : Strategy δ) (item : Endpoint δ) :
    strategy.choose [item] = some item := by
  obtain ⟨chosen, member, choice⟩ := strategy.exists_choose (List.cons_ne_nil item [])
  rw [choice, List.mem_singleton.mp member]

/-- A strategy that picks a certain endpoint whenever it can. -/
def Strategy.prefer {δ : Type} [DecidableEq δ] (wanted : Endpoint δ) : Strategy δ where
  select := fun list nonempty => if wanted ∈ list then wanted else list.head nonempty
  select_mem := by
    intro list nonempty
    split
    · assumption
    · exact List.head_mem nonempty

theorem Strategy.choose_prefer [DecidableEq δ] {wanted : Endpoint δ} (member : wanted ∈ list) :
    (Strategy.prefer wanted).choose list = some wanted := by
  rw [Strategy.choose, dif_pos (List.ne_nil_of_mem member)]
  exact congrArg some (if_pos member)

/-- The error that `EndpointList.select` throws. -/
structure StrategyError where
  message : String
  code : Nat
  type : String
  deriving DecidableEq, Repr

/-- The error for a strategy that returns nothing. -/
def invalidEndpoint : StrategyError :=
  ⟨"Strategy returned an invalid endpoint.", 500, "INVALID_ENDPOINT"⟩

namespace EndpointList

variable {δ σ : Type}

/-- The objects in `localEndpoints`. -/
def locals (list : EndpointList δ) : List (Endpoint δ) :=
  list.endpoints.filter fun ep => ep.ref ∈ list.localEndpoints

/-- `EndpointList.hasLocal`. -/
def hasLocal (list : EndpointList δ) : Bool := !list.localEndpoints.isEmpty

section Stateful

variable (select : σ → List (Endpoint δ) → σ × Option (Endpoint δ)) (state : σ)

/-- `EndpointList.select`: what the strategy returns, or an error if that is nothing. A strategy may
have state. -/
def selectWith (epList : List (Endpoint δ)) : σ × Except StrategyError (Option (Endpoint δ)) :=
  let (state, picked) := select state epList
  (state, match picked with
    | some ep => .ok (some ep)
    | none => .error invalidEndpoint)

/-- The end of `next` and `nextLocal`: select among those that are available. -/
def availableWith (endpoints : List (Endpoint δ)) :
    σ × Except StrategyError (Option (Endpoint δ)) :=
  let epList := endpoints.filter (·.state)
  if epList.length = 0 then (state, .ok none) else selectWith select state epList

/-- `EndpointList.nextLocal`. -/
def nextLocalWith (list : EndpointList δ) : σ × Except StrategyError (Option (Endpoint δ)) :=
  match list.locals with
  | [] => (state, .ok none)
  -- No need to select a node, return the only one.
  | [item] => (state, .ok (if item.state then some item else none))
  | several => availableWith select state several

/-- `EndpointList.next`. -/
def nextWith (list : EndpointList δ) (preferLocal : Bool) :
    σ × Except StrategyError (Option (Endpoint δ)) :=
  if list.endpoints.length = 0 then (state, .ok none)
  -- If internal (service), return the local always.
  else if list.internal && list.hasLocal then list.nextLocalWith select state
  else match list.endpoints with
    -- No need to select a node, return the only one.
    | [item] => (state, .ok (if item.state then some item else none))
    | endpoints =>
      -- Search local item.
      match if preferLocal && list.hasLocal then list.nextLocalWith select state
          else (state, .ok none) with
      | (state, .error err) => (state, .error err)
      | (state, .ok (some ep)) =>
        if ep.state then (state, .ok (some ep)) else availableWith select state endpoints
      | (state, .ok none) => availableWith select state endpoints

end Stateful

section Stateless

variable (strategy : List (Endpoint δ) → Option (Endpoint δ))

/-- The end of both with a strategy that has no state. -/
def tryAvailable (endpoints : List (Endpoint δ)) : Except StrategyError (Option (Endpoint δ)) :=
  (availableWith (fun state epList => (state, strategy epList)) () endpoints).2

/-- `nextLocal` with a strategy that has no state. -/
def tryNextLocal (list : EndpointList δ) : Except StrategyError (Option (Endpoint δ)) :=
  (list.nextLocalWith (fun state epList => (state, strategy epList)) ()).2

/-- `next` with a strategy that has no state. -/
def tryNext (list : EndpointList δ) (preferLocal : Bool) :
    Except StrategyError (Option (Endpoint δ)) :=
  (list.nextWith (fun state epList => (state, strategy epList)) () preferLocal).2

end Stateless

/-- `nextLocal` with a strategy that picks members, which never fails. -/
def nextLocal (list : EndpointList δ) (strategy : Strategy δ) : Option (Endpoint δ) :=
  (list.tryNextLocal strategy.choose).toOption.join

/-- `next` with a strategy that picks members, which never fails. -/
def next (list : EndpointList δ) (strategy : Strategy δ) (preferLocal : Bool) :
    Option (Endpoint δ) :=
  (list.tryNext strategy.choose preferLocal).toOption.join

/-- The endpoints among which the next one is picked when all are available. -/
def candidates (list : EndpointList δ) (preferLocal : Bool) : List (Endpoint δ) :=
  if (list.internal || preferLocal) && list.hasLocal then list.locals else list.endpoints

/-- Every endpoint of the list is available. -/
def AllAvailable (list : EndpointList δ) : Prop := ∀ ep ∈ list.endpoints, ep.state = true

/-- A list that notes its local endpoints notes no others. -/
def LocalsNoted (list : EndpointList δ) : Prop :=
  ∀ ref ∈ list.localEndpoints, ∃ ep ∈ list.endpoints, ep.ref = ref

variable {list : EndpointList δ}

theorem tryAvailable_eq (strategy : Strategy δ) {endpoints : List (Endpoint δ)}
    (ready : ∀ ep ∈ endpoints, ep.state = true) :
    tryAvailable strategy.choose endpoints = .ok (strategy.choose endpoints) := by
  unfold tryAvailable availableWith selectWith
  dsimp only
  rw [List.filter_eq_self.mpr ready]
  split
  · rename_i none_
    rw [List.eq_nil_of_length_eq_zero none_]
    rfl
  · rename_i some_
    have nonempty : endpoints ≠ [] := fun none_ => some_ (by rw [none_]; rfl)
    obtain ⟨chosen, _, choice⟩ := strategy.exists_choose nonempty
    rw [choice]

theorem tryNextLocal_eq (available : list.AllAvailable) (strategy : Strategy δ) :
    list.tryNextLocal strategy.choose = .ok (strategy.choose list.locals) := by
  have ready : ∀ ep ∈ list.locals, ep.state = true :=
    fun ep member => available ep (List.mem_filter.mp member).1
  unfold tryNextLocal nextLocalWith
  generalize list.locals = locals at *
  split
  · rfl
  · rename_i item
    rw [strategy.choose_singleton, if_pos (ready item List.mem_cons_self)]
  · exact tryAvailable_eq strategy ready

/-- `nextLocal` picks among the local endpoints. -/
theorem nextLocal_eq (available : list.AllAvailable) (strategy : Strategy δ) :
    list.nextLocal strategy = strategy.choose list.locals := by
  rw [nextLocal, tryNextLocal_eq available]
  rfl

theorem locals_ne_nil (noted : list.LocalsNoted) (some_ : list.hasLocal = true) :
    list.locals ≠ [] := by
  unfold hasLocal at some_
  cases found : list.localEndpoints with
  | nil => simp [found] at some_
  | cons ref rest =>
    obtain ⟨ep, inside, same⟩ := noted ref (by rw [found]; exact List.mem_cons_self)
    apply List.ne_nil_of_mem
    exact List.mem_filter.mpr ⟨inside, by simp [found, same]⟩

/-- `next` picks among the candidates. -/
theorem next_eq (noted : list.LocalsNoted) (available : list.AllAvailable) (strategy : Strategy δ)
    (preferLocal : Bool) :
    list.next strategy preferLocal = strategy.choose (list.candidates preferLocal) := by
  suffices result : list.tryNext strategy.choose preferLocal =
      .ok (strategy.choose (list.candidates preferLocal)) by
    rw [next, result]
    rfl
  have nearby := tryNextLocal_eq available strategy
  have anyone := tryAvailable_eq strategy available
  unfold tryNext nextWith
  split
  · -- Without endpoints there are no local ones either.
    rename_i none_
    have empty : list.endpoints = [] := List.eq_nil_of_length_eq_zero none_
    simp [candidates, locals, empty, Strategy.choose]
  · split
    · rename_i internal
      simp only [Bool.and_eq_true] at internal
      rw [candidates, if_pos (by simp [internal])]
      exact nearby
    · rename_i notInternal
      split
      · -- The only endpoint is picked, be it a local one or not.
        rename_i item only
        have picked : list.candidates preferLocal = [item] := by
          unfold candidates
          split
          · rename_i picks
            have some_ := locals_ne_nil noted (Bool.and_eq_true_iff.mp picks).2
            unfold locals at some_ ⊢
            rw [only] at some_ ⊢
            by_cases here : item.ref ∈ list.localEndpoints
            · simp [here]
            · simp [here] at some_
          · exact only
        rw [picked, strategy.choose_singleton,
          if_pos (available item (by rw [only]; exact List.mem_cons_self))]
      · by_cases preferred : (preferLocal && list.hasLocal) = true
        · have picks : ((list.internal || preferLocal) && list.hasLocal) = true := by
            simp only [Bool.and_eq_true] at preferred
            simp [preferred]
          obtain ⟨chosen, member, choice⟩ := strategy.exists_choose
            (locals_ne_nil noted (Bool.and_eq_true_iff.mp preferred).2)
          rw [choice] at nearby
          rw [if_pos preferred, candidates, if_pos picks, choice,
            ← Prod.mk.eta (p := nextLocalWith _ _ _), show (nextLocalWith _ _ _).2 = _ from nearby]
          simp [available chosen (List.mem_filter.mp member).1]
        · have others : ¬ ((list.internal || preferLocal) && list.hasLocal) = true := by
            simp only [Bool.and_eq_true, Bool.or_eq_true] at notInternal preferred ⊢
            tauto
          rw [if_neg preferred, candidates, if_neg others]
          exact anyone

end EndpointList

end Moleculer.Cluster
