import Moleculer.Breaker.Breaker

/-! When the breaker controls the endpoints that requests are routed to. -/

namespace Moleculer.Breaker

open Base

/-- A breaker in this state has switched its endpoint off. -/
def CircuitState.off : CircuitState → Bool
  | .circuitOpen | .circuitHalfOpenWait => true
  | .circuitClose | .circuitHalfOpen => false

namespace State

/-- An endpoint is registered under a name, for some service. -/
def Offers (s : State) (name : String) (e : Nat) : Prop :=
  ∃ service, s.registered.get (name, service) = some e

/-- Every registered endpoint is switched off exactly when the item under its name says so. -/
def Controlled (s : State) : Prop :=
  ∀ name e, s.Offers name e →
    (s.endpoint e).state = !((s.store.get name).any fun i => (s.item i).state.off)

/-- The request is for an endpoint that is registered under its name. -/
def Routed (s : State) (request : Request) : Prop := s.Offers (s.keyOf request) request.ep

/-- The condition on a step. Requests start on registered endpoints, the window does not end for
an item that is off and has counted nothing since the last window, and a new endpoint is only made
when neither an endpoint of another service nor an item nor a request in flight has its name. -/
def Careful (s : State) : Operation → Prop
  | .start request => s.Routed request
  | .complete _ _ listeners => ∀ request ∈ listeners, s.Routed request
  | .fire _ listeners => ∀ request ∈ listeners, s.Routed request
  | .resetStore => ∀ key i, s.store.get key = some i → (s.item i).count = 0 →
      (s.item i).state.off = false
  | .add id action service =>
    let name := Endpoint.name ⟨id, action, true⟩
    s.registered.get (name, service) = none → (∀ e, ¬ s.Offers name e) ∧ s.store.get name = none ∧
      ∀ number request, s.requests.get number = some request → s.keyOf request ≠ name
  | .remove _ _ => True

/-- The endpoint of the request exists, and no other one is registered under its name. -/
def Ready (s : State) (request : Request) : Prop :=
  request.ep < s.endpointCount ∧ ∀ e, s.Offers (s.keyOf request) e → e = request.ep

/-- The store, the registry and the endpoint objects fit together. -/
structure Fitting (s : State) : Prop where
  named : ∀ name i, s.store.get name = some i → (s.endpoint (s.item i).ep).name = name
  current : ∀ name i e, s.store.get name = some i → s.Offers name e → (s.item i).ep = e
  switched : ∀ e, (s.endpoint e).state = false ↔
    ∃ i, s.store.get (s.endpoint e).name = some i ∧ (s.item i).ep = e ∧
      (s.item i).state.off = true
  listed : ∀ name e, s.Offers name e → (s.endpoint e).name = name ∧ e < s.endpointCount ∧
    ∀ other, s.Offers name other → other = e
  stored : ∀ name i, s.store.get name = some i →
    i < s.itemCount ∧ (s.item i).ep < s.endpointCount
  flying : ∀ number request, s.requests.get number = some request → s.Ready request

/-- A pending timer is the timer of a stored item that is off. While an item is being closed, it
may still have its timer. -/
def Timed (closing : Option Nat) (s : State) : Prop :=
  ∀ timer i, s.timers.get timer = some i →
    s.store.get (s.endpoint (s.item i).ep).name = some i ∧ (s.item i).cbTimer = some timer ∧
      ((s.item i).state.off = true ∨ (s.item i).state = .circuitClose ∧ closing = some i)

/-- The item has no pending timer. -/
def Untimed (s : State) (i : Nat) : Prop := ∀ timer, s.timers.get timer ≠ some i

variable {s after : State} {closing : Option Nat} {i : Nat} {request : Request}

theorem Fitting.controlled (fitting : s.Fitting) : s.Controlled := by
  intro name e here
  obtain ⟨named, -⟩ := fitting.listed name e here
  have switched := fitting.switched e
  rw [named] at switched
  cases found : s.store.get name with
  | none =>
    simp only [found, reduceCtorEq, false_and, exists_false, iff_false] at switched
    simpa using switched
  | some i =>
    have captured := fitting.current name i e found here
    rw [Option.any_some]
    cases off : (s.item i).state.off with
    | true => exact switched.mpr ⟨i, found, captured, off⟩
    | false =>
      rw [Bool.not_false, ← Bool.not_eq_false, switched]
      rintro ⟨other, same, -, isOff⟩
      rw [found, Option.some.injEq] at same
      rw [← same, off] at isOff
      cases isOff

/-- Two states that differ only in counters, timers and broadcasts. -/
structure Alike (s after : State) : Prop where
  endpoint : after.endpoint = s.endpoint
  endpointCount : after.endpointCount = s.endpointCount
  registered : after.registered = s.registered
  store : after.store = s.store
  itemCount : after.itemCount = s.itemCount
  requests : after.requests = s.requests
  ep : ∀ i, (after.item i).ep = (s.item i).ep
  state : ∀ i, (after.item i).state = (s.item i).state

theorem Fitting.alike (fitting : s.Fitting) (alike : Alike s after) : after.Fitting := by
  constructor
  case named => simpa only [alike.store, alike.endpoint, alike.ep] using fitting.named
  case current => simpa only [alike.store, Offers, alike.registered, alike.ep] using fitting.current
  case switched =>
    simpa only [alike.store, alike.endpoint, alike.ep, alike.state] using fitting.switched
  case listed =>
    simpa only [Offers, alike.registered, alike.endpoint, alike.endpointCount] using fitting.listed
  case stored =>
    simpa only [alike.store, alike.itemCount, alike.endpointCount, alike.ep] using fitting.stored
  case flying =>
    simpa only [alike.requests, Ready, Offers, alike.registered, alike.endpointCount, keyOf,
      alike.endpoint] using fitting.flying

theorem alike_setItem {change : Item → Item} (ep : ∀ item, (change item).ep = item.ep)
    (state : ∀ item, (change item).state = item.state) : Alike s (s.setItem i change) where
  endpoint := rfl
  endpointCount := rfl
  registered := rfl
  store := rfl
  itemCount := rfl
  requests := rfl
  ep := by
    intro other
    by_cases same : other = i
    · subst same
      simp [setItem, ep]
    · simp [setItem, same]
  state := by
    intro other
    by_cases same : other = i
    · subst same
      simp [setItem, state]
    · simp [setItem, same]

theorem alike_startTimer : Alike s (s.startTimer i) := by
  have alike : Alike s (s.setItem i fun item => { item with cbTimer := some s.timerCount }) :=
    alike_setItem (fun _ => rfl) fun _ => rfl
  exact { alike with }

theorem alike_clearTimer : Alike s (s.clearTimer i) := by
  unfold clearTimer
  split
  · exact ⟨rfl, rfl, rfl, rfl, rfl, rfl, fun _ => rfl, fun _ => rfl⟩
  · have alike : Alike s (s.setItem i fun item => { item with cbTimer := none }) :=
      alike_setItem (fun _ => rfl) fun _ => rfl
    exact { alike with }

@[simp] theorem name_turn (s : State) (i e : Nat) (state : CircuitState) (available : Bool) :
    ((s.turn i state available).endpoint e).name = (s.endpoint e).name := by
  by_cases same : e = (s.item i).ep
  · subst same
    simp [turn, Endpoint.name]
  · simp [turn, same]

@[simp] theorem ep_turn (s : State) (i other : Nat) (state : CircuitState) (available : Bool) :
    ((s.turn i state available).item other).ep = (s.item other).ep := by
  by_cases same : other = i
  · subst same
    simp [turn, setItem]
  · simp [turn, setItem, same]

@[simp] theorem state_turn_self (s : State) (i : Nat) (state : CircuitState) (available : Bool) :
    ((s.turn i state available).item i).state = state := by
  simp [turn, setItem]

theorem item_turn_of_ne {other : Nat} (ne : other ≠ i) (state : CircuitState) (available : Bool) :
    (s.turn i state available).item other = s.item other := by
  simp [turn, setItem, ne]

@[simp] theorem cbTimer_turn (s : State) (i other : Nat) (state : CircuitState)
    (available : Bool) :
    ((s.turn i state available).item other).cbTimer = (s.item other).cbTimer := by
  by_cases same : other = i
  · subst same
    simp [turn, setItem]
  · simp [turn, setItem, same]

variable {listeners : List Request} {name : String}

theorem Fitting.turn (fitting : s.Fitting) (found : s.store.get name = some i)
    {state : CircuitState} {available : Bool} (agree : available = !state.off) :
    (s.turn i state available).Fitting := by
  have key := fitting.named name i found
  constructor
  case named =>
    intro other j there
    rw [name_turn, ep_turn]
    exact fitting.named other j there
  case current =>
    intro other j e there here
    rw [ep_turn]
    exact fitting.current other j e there here
  case switched =>
    intro e
    simp only [name_turn, ep_turn]
    by_cases same : e = (s.item i).ep
    · -- The endpoint of the item: the store has only this item under its name.
      have now : ((s.turn i state available).endpoint e).state = available := by
        simp [State.turn, same]
      have only : s.store.get (s.endpoint e).name = some i := by rw [same, key, found]
      rw [now, agree]
      constructor
      · intro off
        exact ⟨i, only, same.symm, by simpa using off⟩
      · rintro ⟨j, there, -, off⟩
        have sameItem : j = i := Option.some.inj (there.symm.trans only)
        rw [sameItem, state_turn_self] at off
        simp [off]
    · -- Another endpoint: the items that captured it have not changed.
      have now : ((s.turn i state available).endpoint e).state = (s.endpoint e).state := by
        simp [State.turn, same]
      rw [now, fitting.switched e]
      refine exists_congr fun j => and_congr_right fun _ => and_congr_right fun captured => ?_
      have ne : j ≠ i := by
        intro sameItem
        exact same (by rw [← captured, sameItem])
      rw [item_turn_of_ne ne]
  case listed =>
    intro other e here
    rw [name_turn]
    exact fitting.listed other e here
  case stored =>
    intro other j there
    rw [ep_turn]
    exact fitting.stored other j there
  case flying =>
    intro number request inFlight
    simp only [Ready, keyOf, name_turn]
    exact fitting.flying number request inFlight

theorem getEpState_frame (s : State) (request : Request) :
    (s.getEpState request).2.endpoint = s.endpoint ∧
    (s.getEpState request).2.endpointCount = s.endpointCount ∧
    (s.getEpState request).2.registered = s.registered ∧
    (s.getEpState request).2.requests = s.requests ∧
    (s.getEpState request).2.timers = s.timers := by
  unfold getEpState
  split <;> exact ⟨rfl, rfl, rfl, rfl, rfl⟩

theorem getEpState_stored (s : State) (request : Request) :
    (s.getEpState request).2.store.get (s.keyOf request) = some (s.getEpState request).1 := by
  unfold getEpState
  split
  · assumption
  · simp [OrderedMap.get_set]

theorem Fitting.ne_fresh (fitting : s.Fitting) (found : s.store.get name = some i) :
    i ≠ s.itemCount :=
  Nat.ne_of_lt (fitting.stored name i found).1

theorem Fitting.getEpState (fitting : s.Fitting) (ready : s.Ready request) :
    (s.getEpState request).2.Fitting := by
  obtain ⟨known, only⟩ := ready
  unfold State.getEpState
  split
  · exact fitting
  rename_i absent
  -- The new item differs from all stored ones, and it is closed.
  constructor
  case named =>
    intro name j found
    simp only [OrderedMap.get_set] at found ⊢
    split at found
    · rename_i same
      cases found
      simp [same, keyOf]
    · simp [fitting.ne_fresh found, fitting.named name j found]
  case current =>
    intro name j e found here
    simp only [OrderedMap.get_set] at found here ⊢
    split at found
    · rename_i same
      cases found
      simp [only e (same ▸ here)]
    · simp [fitting.ne_fresh found, fitting.current name j e found here]
  case switched =>
    intro e
    rw [fitting.switched e]
    simp only [OrderedMap.get_set]
    split
    · rename_i same
      rw [same, absent]
      simp [CircuitState.off]
    · refine exists_congr fun j => and_congr_right fun found => ?_
      simp [fitting.ne_fresh found]
  case listed => exact fitting.listed
  case stored =>
    intro name j found
    simp only [OrderedMap.get_set] at found ⊢
    split at found
    · cases found
      simp [known]
    · obtain ⟨below, captured⟩ := fitting.stored name j found
      simp only [Function.update_of_ne (Nat.ne_of_lt below)]
      exact ⟨Nat.lt_succ_of_lt below, captured⟩
  case flying => exact fitting.flying

theorem Timed.getEpState (timed : s.Timed closing) (fitting : s.Fitting) (request : Request) :
    (s.getEpState request).2.Timed closing := by
  unfold State.getEpState
  split
  · exact timed
  rename_i absent
  intro timer j pending
  obtain ⟨found, rest⟩ := timed timer j pending
  have ne := fitting.ne_fresh found
  have other : (s.endpoint (s.item j).ep).name ≠ s.keyOf request := by
    intro same
    rw [same, absent] at found
    cases found
  simp only [Function.update_of_ne ne, OrderedMap.get_set, if_neg other]
  exact ⟨found, rest⟩

theorem Timed.toClosing (timed : s.Timed none) (i : Nat) : s.Timed (some i) := by
  intro timer j pending
  obtain ⟨found, own, off | ⟨-, impossible⟩⟩ := timed timer j pending
  · exact ⟨found, own, .inl off⟩
  · cases impossible

theorem Timed.turn (timed : s.Timed closing) {state : CircuitState} (available : Bool)
    (allowed : s.Untimed i ∨ state.off = true ∨ state = .circuitClose ∧ closing = some i) :
    (s.turn i state available).Timed closing := by
  intro timer j pending
  obtain ⟨found, own, rest⟩ := timed timer j pending
  rw [name_turn, ep_turn, cbTimer_turn]
  refine ⟨found, own, ?_⟩
  by_cases same : j = i
  · subst same
    rw [state_turn_self]
    rcases allowed with untimed | allowed
    · exact absurd pending (untimed timer)
    · exact allowed
  · rw [item_turn_of_ne same]
    exact rest

theorem Timed.startTimer (timed : s.Timed closing) (untimed : s.Untimed i)
    (found : s.store.get (s.endpoint (s.item i).ep).name = some i)
    (off : (s.item i).state.off = true) : (s.startTimer i).Timed closing := by
  intro timer j pending
  simp only [State.startTimer, setItem, OrderedMap.get_set] at pending ⊢
  split at pending
  · rename_i new
    cases pending
    simp [found, off, new]
  · have ne : j ≠ i := by
      rintro rfl
      exact untimed timer pending
    simp only [Function.update_of_ne ne]
    exact timed timer j pending

theorem Timed.clearTimer_untimed (timed : s.Timed closing) : (s.clearTimer i).Untimed i := by
  intro timer pending
  unfold State.clearTimer at pending
  split at pending
  · rename_i none_
    have own := (timed timer i pending).2.1
    rw [none_] at own
    cases own
  · rename_i cleared some_
    simp only [OrderedMap.get_delete] at pending
    split at pending
    · cases pending
    · rename_i ne
      have own := (timed timer i pending).2.1
      rw [some_, Option.some.injEq] at own
      exact ne own.symm

theorem Timed.clearTimer (timed : s.Timed (some i)) : (s.clearTimer i).Timed none := by
  have alike : Alike s (s.clearTimer i) := alike_clearTimer
  have untimed := timed.clearTimer_untimed (i := i)
  intro timer j pending
  have ne : j ≠ i := by
    rintro rfl
    exact untimed timer pending
  have before : s.timers.get timer = some j ∧ (s.clearTimer i).item j = s.item j := by
    unfold State.clearTimer at pending ⊢
    split at pending
    · exact ⟨pending, rfl⟩
    · simp only [OrderedMap.get_delete] at pending
      split at pending
      · cases pending
      · exact ⟨pending, by simp [setItem, ne]⟩
  obtain ⟨found, own, rest⟩ := timed timer j before.1
  rw [alike.store, alike.endpoint, before.2]
  refine ⟨found, own, .inl (rest.resolve_right ?_)⟩
  rintro ⟨-, same⟩
  exact ne (Option.some.inj same).symm

theorem Timed.alike (timed : s.Timed closing) (alike : Alike s after)
    (timers : after.timers = s.timers)
    (cbTimer : ∀ i, (after.item i).cbTimer = (s.item i).cbTimer) : after.Timed closing := by
  simpa only [Timed, timers, alike.store, alike.endpoint, alike.ep, alike.state, cbTimer]
    using timed

/-- The invariant of the breaker. -/
structure Steady (closing : Option Nat) (s : State) : Prop where
  fitting : s.Fitting
  timed : s.Timed closing

theorem Steady.setItem (steady : s.Steady closing) {change : Item → Item}
    (ep : ∀ item, (change item).ep = item.ep) (state : ∀ item, (change item).state = item.state)
    (cbTimer : ∀ item, (change item).cbTimer = item.cbTimer) :
    (s.setItem i change).Steady closing := by
  refine ⟨steady.fitting.alike (alike_setItem ep state),
    steady.timed.alike (alike_setItem ep state) rfl fun other => ?_⟩
  by_cases same : other = i
  · subst same
    simp [State.setItem, cbTimer]
  · simp [State.setItem, same]

theorem Fitting.ready (fitting : s.Fitting) (routed : s.Routed request) : s.Ready request := by
  obtain ⟨-, known, only⟩ := fitting.listed _ _ routed
  exact ⟨known, only⟩

theorem Steady.halfOpenWait (steady : s.Steady closing) (found : s.store.get name = some i)
    (halfOpen : (s.item i).state = .circuitHalfOpen) :
    (s.halfOpenWait i).Steady closing := by
  have untimed : s.Untimed i := by
    intro timer pending
    obtain ⟨-, -, off | ⟨closed, -⟩⟩ := steady.timed timer i pending
    · rw [halfOpen] at off
      cases off
    · rw [halfOpen] at closed
      cases closed
  have turned : (s.turn i .circuitHalfOpenWait false).Fitting := steady.fitting.turn found rfl
  refine ⟨turned.alike alike_startTimer, ?_⟩
  apply (steady.timed.turn false (.inl untimed)).startTimer
  · exact untimed
  · rw [name_turn, ep_turn, steady.fitting.named name i found]
    exact found
  · rw [state_turn_self]
    rfl

/-- Two states with the same registry and the same names of endpoints. -/
structure SameRegistry (s after : State) : Prop where
  registered : after.registered = s.registered
  endpointCount : after.endpointCount = s.endpointCount
  name : ∀ e, (after.endpoint e).name = (s.endpoint e).name

theorem Routed.same (routed : s.Routed request) (same : SameRegistry s after) :
    after.Routed request := by
  rwa [Routed, Offers, keyOf, same.registered, same.name]

theorem Ready.same (ready : s.Ready request) (same : SameRegistry s after) :
    after.Ready request := by
  simpa only [Ready, Offers, keyOf, same.registered, same.endpointCount, same.name] using ready

theorem SameRegistry.trans {middle : State} (first : SameRegistry s middle)
    (second : SameRegistry middle after) : SameRegistry s after where
  registered := second.registered.trans first.registered
  endpointCount := second.endpointCount.trans first.endpointCount
  name := fun e => (second.name e).trans (first.name e)

theorem sameRegistry_turn (s : State) (i : Nat) (state : CircuitState) (available : Bool) :
    SameRegistry s (s.turn i state available) :=
  ⟨rfl, rfl, fun e => name_turn s i e state available⟩

theorem Alike.sameRegistry (alike : Alike s after) : SameRegistry s after :=
  ⟨alike.registered, alike.endpointCount, fun e => by rw [alike.endpoint]⟩

theorem sameRegistry_getEpState (s : State) (request : Request) :
    SameRegistry s (s.getEpState request).2 := by
  obtain ⟨endpoint, endpointCount, registered, -⟩ := getEpState_frame s request
  exact ⟨registered, endpointCount, fun e => by rw [endpoint]⟩

theorem sameRegistry_halfOpenWait (s : State) (i : Nat) : SameRegistry s (s.halfOpenWait i) :=
  (sameRegistry_turn s i .circuitHalfOpenWait false).trans alike_startTimer.sameRegistry

theorem sameRegistry_middleware (s : State) (request : Request) :
    SameRegistry s (s.circuitBreakerMiddleware request) := by
  unfold circuitBreakerMiddleware
  split
  · have looked := sameRegistry_getEpState s request
    dsimp only
    split
    · have waiting := looked.trans (sameRegistry_halfOpenWait _ (s.getEpState request).1)
      exact ⟨waiting.registered, waiting.endpointCount, waiting.name⟩
    · exact ⟨looked.registered, looked.endpointCount, looked.name⟩
  · exact ⟨rfl, rfl, fun _ => rfl⟩

theorem Fitting.launch (fitting : s.Fitting) (ready : s.Ready request) (number next : Nat) :
    Fitting { s with requests := s.requests.set number request, requestCount := next } where
  named := fitting.named
  current := fitting.current
  switched := fitting.switched
  listed := fitting.listed
  stored := fitting.stored
  flying := by
    intro other launched found
    simp only [OrderedMap.get_set] at found
    split at found
    · cases found
      exact ready
    · exact fitting.flying other launched found

theorem Steady.middleware (steady : s.Steady closing) (routed : s.Routed request) :
    (s.circuitBreakerMiddleware request).Steady closing := by
  unfold circuitBreakerMiddleware
  split
  · have ready := steady.fitting.ready routed
    have found := getEpState_stored s request
    have looked : (s.getEpState request).2.Steady closing :=
      ⟨steady.fitting.getEpState ready, steady.timed.getEpState steady.fitting request⟩
    have still := ready.same (sameRegistry_getEpState s request)
    dsimp only
    split
    · rename_i halfOpen
      have waiting := looked.halfOpenWait found halfOpen
      exact ⟨waiting.fitting.launch (still.same (sameRegistry_halfOpenWait ..)) _ _, waiting.timed⟩
    · exact ⟨looked.fitting.launch still _ _, looked.timed⟩
  · exact steady

theorem Steady.broadcast (steady : s.Steady closing) (event : Broadcast)
    (routed : ∀ request ∈ listeners, s.Routed request) :
    (s.broadcast event listeners).Steady closing := by
  have announced : Steady closing { s with broadcasts := s.broadcasts ++ [event] } :=
    ⟨steady.fitting.alike ⟨rfl, rfl, rfl, rfl, rfl, rfl, fun _ => rfl, fun _ => rfl⟩, steady.timed⟩
  unfold State.broadcast
  revert announced
  generalize start : { s with broadcasts := s.broadcasts ++ [event] } = now
  intro announced
  have rest : ∀ request ∈ listeners, now.Routed request := by
    subst start
    exact routed
  clear start
  -- Each request of a listener finds the registry as it was at the broadcast.
  induction listeners generalizing now with
  | nil => exact announced
  | cons first others ih =>
    rw [List.foldl_cons]
    apply ih fun request member => routed request (List.mem_cons_of_mem _ member)
    · exact announced.middleware (rest first List.mem_cons_self)
    · intro request member
      exact (rest request (List.mem_cons_of_mem _ member)).same (sameRegistry_middleware now first)

theorem Steady.halfOpen (steady : s.Steady none) (found : s.store.get name = some i)
    (untimed : s.Untimed i) (routed : ∀ request ∈ listeners, s.Routed request) :
    (s.halfOpen i listeners).Steady none := by
  have turned : (s.turn i .circuitHalfOpen true).Steady none :=
    ⟨steady.fitting.turn found rfl, steady.timed.turn true (.inl untimed)⟩
  have still (request : Request) (member : request ∈ listeners) :=
    (routed request member).same (sameRegistry_turn s i .circuitHalfOpen true)
  have announced (event : Broadcast) := turned.broadcast event still
  exact ⟨(announced _).fitting.alike alike_clearTimer,
    ((announced _).timed.toClosing i).clearTimer⟩

theorem Steady.circuitClose (steady : s.Steady none) (found : s.store.get name = some i)
    (routed : ∀ request ∈ listeners, s.Routed request) :
    (s.circuitClose i listeners).Steady none := by
  have turned : (s.turn i .circuitClose true).Steady (some i) :=
    ⟨steady.fitting.turn found rfl,
      (steady.timed.toClosing i).turn true (.inr (.inr ⟨rfl, rfl⟩))⟩
  have reset : ((s.turn i .circuitClose true).setItem i fun item =>
      { item with failures := 0, count := 0 }).Steady (some i) :=
    turned.setItem (fun _ => rfl) (fun _ => rfl) fun _ => rfl
  have still (request : Request) (member : request ∈ listeners) :=
    (routed request member).same (sameRegistry_turn s i .circuitClose true)
  have announced (event : Broadcast) := reset.broadcast event still
  exact ⟨(announced _).fitting.alike alike_clearTimer, (announced _).timed.clearTimer⟩

section

variable (divide : Nat → Nat → ℚ)

variable {listeners : List Request} {name : String}

theorem Steady.trip (steady : s.Steady none) (found : s.store.get name = some i)
    (routed : ∀ request ∈ listeners, s.Routed request) :
    (s.trip divide i listeners).Steady none := by
  unfold State.trip
  split
  · exact steady
  have turned : (s.turn i .circuitOpen false).Steady none :=
    ⟨steady.fitting.turn found rfl, steady.timed.turn false (.inr (.inl rfl))⟩
  have alike : Alike (s.turn i .circuitOpen false) ((s.turn i .circuitOpen false).clearTimer i) :=
    alike_clearTimer
  have cleared : ((s.turn i .circuitOpen false).clearTimer i).Steady none :=
    ⟨turned.fitting.alike alike, (turned.timed.toClosing i).clearTimer⟩
  have started : (((s.turn i .circuitOpen false).clearTimer i).startTimer i).Steady none := by
    refine ⟨cleared.fitting.alike alike_startTimer, ?_⟩
    apply cleared.timed.startTimer turned.timed.clearTimer_untimed
    · rw [alike.store, alike.endpoint, alike.ep, name_turn, ep_turn,
        steady.fitting.named name i found]
      exact found
    · rw [alike.state, state_turn_self]
      rfl
  apply started.broadcast
  intro request member
  have same := (routed request member).same (sameRegistry_turn s i .circuitOpen false)
  exact (same.same alike.sameRegistry).same alike_startTimer.sameRegistry

theorem Steady.checkThreshold (steady : s.Steady none) (found : s.store.get name = some i)
    (routed : ∀ request ∈ listeners, s.Routed request) :
    (s.checkThreshold divide i listeners).Steady none := by
  unfold State.checkThreshold
  dsimp only
  split
  · split
    · exact steady.trip divide found routed
    · exact steady
  · exact steady

theorem Steady.failure (steady : s.Steady none) (found : s.store.get name = some i)
    (routed : ∀ request ∈ listeners, s.Routed request) :
    (s.failure divide i listeners).Steady none := by
  have counted : (s.setItem i fun item =>
      { item with count := item.count + 1, failures := item.failures + 1 }).Steady none :=
    steady.setItem (fun _ => rfl) (fun _ => rfl) fun _ => rfl
  exact counted.checkThreshold divide found routed

theorem Steady.success (steady : s.Steady none) (found : s.store.get name = some i)
    (routed : ∀ request ∈ listeners, s.Routed request) :
    (s.success divide i listeners).Steady none := by
  have counted : (s.setItem i fun item => { item with count := item.count + 1 }).Steady none :=
    steady.setItem (fun _ => rfl) (fun _ => rfl) fun _ => rfl
  unfold State.success
  dsimp only
  split
  · exact counted.circuitClose found routed
  · exact counted.checkThreshold divide found routed

theorem Fitting.land (fitting : s.Fitting) (number : Nat) :
    Fitting { s with requests := s.requests.delete number } where
  named := fitting.named
  current := fitting.current
  switched := fitting.switched
  listed := fitting.listed
  stored := fitting.stored
  flying := by
    intro other request found
    rw [OrderedMap.get_delete] at found
    split at found
    · cases found
    · exact fitting.flying other request found

theorem Steady.complete (steady : s.Steady none) (id : Nat) (outcome : Outcome)
    (routed : ∀ request ∈ listeners, s.Routed request) :
    (s.complete divide id outcome listeners).Steady none := by
  unfold State.complete
  split
  · exact steady
  rename_i request inFlight
  have landed : Steady none { s with requests := s.requests.delete id } :=
    ⟨steady.fitting.land id, steady.timed⟩
  have ready : Ready { s with requests := s.requests.delete id } request :=
    steady.fitting.flying id request inFlight
  have looked : (State.getEpState { s with requests := s.requests.delete id } request).2.Steady
      none :=
    ⟨landed.fitting.getEpState ready, landed.timed.getEpState landed.fitting request⟩
  have found := getEpState_stored { s with requests := s.requests.delete id } request
  have still (other : Request) (member : other ∈ listeners) :
      (State.getEpState { s with requests := s.requests.delete id } request).2.Routed other :=
    Routed.same (s := { s with requests := s.requests.delete id }) (routed other member)
      (sameRegistry_getEpState _ request)
  cases outcome with
  | resolved => exact looked.success divide found still
  | rejected err =>
    dsimp only
    split
    · exact looked.failure divide found still
    · exact landed

end

theorem Steady.fire (steady : s.Steady none) (timer : Nat)
    (routed : ∀ request ∈ listeners, s.Routed request) :
    (s.fire timer listeners).Steady none := by
  unfold State.fire
  split
  · exact steady
  rename_i i pending
  obtain ⟨found, own, -⟩ := steady.timed timer i pending
  have fired : Steady none { s with timers := s.timers.delete timer } := by
    refine ⟨steady.fitting.alike ⟨rfl, rfl, rfl, rfl, rfl, rfl, fun _ => rfl, fun _ => rfl⟩, ?_⟩
    intro other j rest
    simp only [OrderedMap.get_delete] at rest
    split at rest
    · cases rest
    · exact steady.timed other j rest
  -- The timer that fired was the only one of its item.
  have untimed : Untimed { s with timers := s.timers.delete timer } i := by
    intro other rest
    simp only [OrderedMap.get_delete] at rest
    split at rest
    · cases rest
    · rename_i ne
      have same := (steady.timed other i rest).2.1
      rw [own, Option.some.injEq] at same
      exact ne same.symm
  exact fired.halfOpen found untimed routed

theorem Steady.forget (steady : s.Steady none) {key : String} (found : s.store.get key = some i)
    (on : (s.item i).state.off = false) :
    Steady none { s with store := s.store.delete key } := by
  have fitting := steady.fitting
  have kept {name : String} {j : Nat} (there : (s.store.delete key).get name = some j) :
      s.store.get name = some j := by
    rw [OrderedMap.get_delete] at there
    split at there
    · cases there
    · exact there
  constructor
  · constructor
    case named => exact fun name j there => fitting.named name j (kept there)
    case current => exact fun name j e there here => fitting.current name j e (kept there) here
    case switched =>
      intro e
      rw [fitting.switched e]
      refine exists_congr fun j => ⟨?_, And.imp_left kept⟩
      rintro ⟨there, captured, off⟩
      refine ⟨?_, captured, off⟩
      rw [OrderedMap.get_delete, if_neg]
      · exact there
      · -- The forgotten item is on, so it is not the one that switched the endpoint off.
        intro same
        rw [same, found, Option.some.injEq] at there
        rw [← there, on] at off
        cases off
    case listed => exact fitting.listed
    case stored => exact fun name j there => fitting.stored name j (kept there)
    case flying => exact fitting.flying
  · intro timer j pending
    obtain ⟨there, own, off⟩ := steady.timed timer j pending
    refine ⟨?_, own, off⟩
    rw [OrderedMap.get_delete, if_neg]
    · exact there
    · intro same
      rw [same, found, Option.some.injEq] at there
      rcases off with off | ⟨-, impossible⟩
      · rw [← there, on] at off
        cases off
      · cases impossible

/-- The entries that `resetStore` still has to visit: they are stored as they were, and those that
it will forget are on. -/
def Visitable (s : State) (entries : List (String × Nat)) : Prop :=
  ∀ entry ∈ entries, s.store.get entry.1 = some entry.2 ∧
    ((s.item entry.2).count = 0 → (s.item entry.2).state.off = false)

/-- One turn of `resetStore` keeps the invariant and what is still to be visited. -/
theorem Steady.resetItem (steady : s.Steady none) {entry : String × Nat}
    {rest : List (String × Nat)} (visitable : s.Visitable (entry :: rest))
    (fresh : entry.1 ∉ rest.map Prod.fst) :
    (s.resetItem entry).Steady none ∧ (s.resetItem entry).Visitable rest := by
  obtain ⟨found, forgettable⟩ := visitable entry List.mem_cons_self
  have others (other : String × Nat) (member : other ∈ rest) : other.1 ≠ entry.1 := by
    intro same
    exact fresh (same ▸ List.mem_map_of_mem member)
  unfold State.resetItem
  split
  · rename_i unused
    refine ⟨steady.forget found (forgettable unused), ?_⟩
    intro other member
    rw [OrderedMap.get_delete, if_neg (others other member)]
    exact visitable other (List.mem_cons_of_mem _ member)
  · refine ⟨steady.setItem (fun _ => rfl) (fun _ => rfl) fun _ => rfl, ?_⟩
    intro other member
    obtain ⟨there, keep⟩ := visitable other (List.mem_cons_of_mem _ member)
    -- Entries with different keys have different items.
    have ne : other.2 ≠ entry.2 := by
      intro same
      have key := steady.fitting.named other.1 other.2 there
      rw [same, steady.fitting.named entry.1 entry.2 found] at key
      exact others other member key.symm
    simp only [State.setItem, Function.update_of_ne ne]
    exact ⟨there, keep⟩

theorem Steady.resetStore (steady : s.Steady none)
    (careful : ∀ key i, s.store.get key = some i → (s.item i).count = 0 →
      (s.item i).state.off = false) : s.resetStore.Steady none := by
  have visitable : s.Visitable s.store.entries := by
    intro entry member
    have found := OrderedMap.mem_entries_iff.mp member
    exact ⟨found, careful entry.1 entry.2 found⟩
  have nodup := s.store.nodup
  unfold State.resetStore
  generalize s.store.entries = entries at visitable nodup
  clear careful
  induction entries generalizing s with
  | nil => exact steady
  | cons entry rest ih =>
    rw [List.map_cons, List.nodup_cons] at nodup
    obtain ⟨kept, remaining⟩ := steady.resetItem visitable nodup.1
    exact ih kept remaining nodup.2

section Add

variable {id action service : String}

/-- Registering an endpoint leaves the other endpoints, the items and the requests alone. -/
theorem endpoint_add {e : Nat} (below : e < s.endpointCount) :
    (s.add id action service).endpoint e = s.endpoint e := by
  unfold State.add
  dsimp only
  split
  · rfl
  · exact Function.update_of_ne (Nat.ne_of_lt below) ..

theorem endpointCount_le_add : s.endpointCount ≤ (s.add id action service).endpointCount := by
  unfold State.add
  dsimp only
  split
  · exact le_rfl
  · exact Nat.le_succ _

theorem add_frame (id action service : String) : let after := s.add id action service
    after.store = s.store ∧ after.item = s.item ∧ after.itemCount = s.itemCount ∧
      after.timers = s.timers ∧ after.requests = s.requests := by
  unfold State.add
  dsimp only
  split <;> exact ⟨rfl, rfl, rfl, rfl, rfl⟩

/-- What is registered now is the new endpoint, or it was registered under another name before. -/
theorem offers_add (alone : ∀ e, ¬ s.Offers (Endpoint.name ⟨id, action, true⟩) e) {name : String}
    {e : Nat} (here : (s.add id action service).Offers name e) :
    (name = Endpoint.name ⟨id, action, true⟩ ∧ e = s.endpointCount ∧
        (s.add id action service).endpoint e = ⟨id, action, true⟩ ∧
        e < (s.add id action service).endpointCount) ∨
      name ≠ Endpoint.name ⟨id, action, true⟩ ∧ s.Offers name e := by
  obtain ⟨other, found⟩ := here
  unfold State.add at found ⊢
  dsimp only at found ⊢
  split at found
  · exact .inr ⟨fun same => alone e (same ▸ ⟨other, found⟩), other, found⟩
  · simp only [OrderedMap.get_set, Prod.mk.injEq] at found
    split at found
    · rename_i same
      cases found
      exact .inl ⟨same.1, rfl, Function.update_self .., Nat.lt_succ_self _⟩
    · exact .inr ⟨fun same => alone e (same ▸ ⟨other, found⟩), other, found⟩

/-- A new endpoint fits when nothing refers to its name. -/
theorem Fitting.add (fitting : s.Fitting) (careful : s.Careful (.add id action service)) :
    (s.add id action service).Fitting := by
  cases known : s.registered.get (Endpoint.name ⟨id, action, true⟩, service) with
  | some e =>
    have same : s.add id action service = s := by simp [State.add, known]
    rw [same]
    exact fitting
  | none =>
  -- Neither the registry nor the store nor a request refers to the name of the new endpoint.
  obtain ⟨alone, unused, unasked⟩ := careful known
  have offers {name : String} {e : Nat} := @offers_add s id action service alone name e
  have more := @endpointCount_le_add s id action service
  obtain ⟨store, item, itemCount, -, requests⟩ := s.add_frame id action service
  constructor
  case named =>
    intro name j there
    rw [store] at there
    rw [item, endpoint_add (fitting.stored name j there).2]
    exact fitting.named name j there
  case current =>
    intro name j e there here
    rw [store] at there
    rw [item]
    rcases offers here with ⟨rfl, -⟩ | ⟨-, before⟩
    · cases unused.symm.trans there
    · exact fitting.current name j e there before
  case switched =>
    intro e
    rw [store, item]
    simp only [State.add, known]
    by_cases new : e = s.endpointCount
    · -- The new endpoint is on, and no item has its name.
      rw [new, Function.update_self, unused]
      simp
    · rw [Function.update_of_ne new]
      exact fitting.switched e
  case listed =>
    intro name e here
    rcases offers here with ⟨rfl, rfl, made, below⟩ | ⟨apart, before⟩
    · refine ⟨by rw [made], below, fun other again => ?_⟩
      rcases offers again with ⟨-, rfl, -⟩ | ⟨differs, -⟩
      · rfl
      · exact absurd rfl differs
    · obtain ⟨named, below, only⟩ := fitting.listed name e before
      refine ⟨by rw [endpoint_add below, named], below.trans_le more, fun other again => ?_⟩
      rcases offers again with ⟨same, -⟩ | ⟨-, again⟩
      · exact absurd same apart
      · exact only other again
  case stored =>
    intro name j there
    rw [store] at there
    obtain ⟨made, below⟩ := fitting.stored name j there
    rw [item, itemCount]
    exact ⟨made, below.trans_le more⟩
  case flying =>
    intro number request inFlight
    rw [requests] at inFlight
    obtain ⟨below, only⟩ := fitting.flying number request inFlight
    refine ⟨below.trans_le more, fun e here => ?_⟩
    rw [keyOf, endpoint_add below] at here
    rcases offers here with ⟨same, -⟩ | ⟨-, before⟩
    · exact absurd same (unasked number request inFlight)
    · exact only e before

theorem Steady.add (steady : s.Steady none) (careful : s.Careful (.add id action service)) :
    (s.add id action service).Steady none := by
  refine ⟨steady.fitting.add careful, fun timer j pending => ?_⟩
  obtain ⟨store, item, -, timers, -⟩ := s.add_frame id action service
  rw [timers] at pending
  obtain ⟨there, rest⟩ := steady.timed timer j pending
  rw [store, item, endpoint_add (steady.fitting.stored _ j there).2]
  exact ⟨there, rest⟩

end Add

theorem Steady.remove (steady : s.Steady none) (name service : String) :
    (s.remove name service).Steady none := by
  have fitting := steady.fitting
  have kept {other : String} {e : Nat} (here : (s.remove name service).Offers other e) :
      s.Offers other e := by
    obtain ⟨another, found⟩ := here
    rw [State.remove, OrderedMap.get_delete] at found
    split at found
    · cases found
    · exact ⟨another, found⟩
  refine ⟨?_, steady.timed⟩
  constructor
  case named => exact fitting.named
  case current => exact fun other j e there here => fitting.current other j e there (kept here)
  case switched => exact fitting.switched
  case listed =>
    intro other e here
    obtain ⟨named, below, only⟩ := fitting.listed other e (kept here)
    exact ⟨named, below, fun another again => only another (kept again)⟩
  case stored => exact fitting.stored
  case flying =>
    intro number request inFlight
    obtain ⟨below, only⟩ := fitting.flying number request inFlight
    exact ⟨below, fun e here => only e (kept here)⟩

theorem Steady.step (divide : Nat → Nat → ℚ) (steady : s.Steady none) (operation : Operation)
    (careful : s.Careful operation) : (s.step divide operation).Steady none := by
  cases operation with
  | start request => exact steady.middleware careful
  | complete id outcome listeners => exact steady.complete divide id outcome careful
  | fire timer listeners => exact steady.fire timer careful
  | resetStore => exact steady.resetStore careful
  | add id action service => exact steady.add careful
  | remove name service => exact steady.remove name service

theorem steady_initial : initial.Steady none := by
  constructor
  · constructor
    case switched =>
      intro e
      simp [initial]
    all_goals
      intros
      simp_all [initial, Offers]
  · intro timer i pending
    cases pending

/-- In every careful run the breaker controls the endpoints that requests are routed to. -/
theorem controlled_run (divide : Nat → Nat → ℚ) (operations : List Operation)
    (careful : Meets (step divide) Careful initial operations) :
    Controlled (run (step divide) initial operations) := by
  have steady : Steady none (run (step divide) initial operations) :=
    run_invariant (fun _ operation steady careful => steady.step divide operation careful)
      steady_initial careful
  exact steady.fitting.controlled

/-- An action whose breaker opens on the first error. -/
def fragile (ep : Nat) : Request :=
  ⟨ep, "node", "posts", ⟨true, 1 / 2, 1, some fun err => 500 ≤ err.code⟩⟩

/-- An error of the remote node itself. -/
def serverError : Outcome := .rejected ⟨500, none⟩

/-- The division of numbers without rounding. -/
def quotient (failures count : Nat) : ℚ := failures / count

/-- The breaker opens, half-opens, waits for a request and closes. -/
theorem controlled_run_recovering :
    Controlled (run (step quotient) initial
      [.add "node" "posts.list" "posts", .start (fragile 0), .complete 0 serverError [], .fire 0 [],
        .start (fragile 0), .complete 1 .resolved [], .resetStore]) := by
  apply controlled_run
  have first : (step quotient initial (.add "node" "posts.list" "posts")).Routed (fragile 0) := by
    exact ⟨"posts", by decide +kernel⟩
  have second : (run (step quotient) initial [.add "node" "posts.list" "posts", .start (fragile 0),
      .complete 0 serverError [], .fire 0 []]).Routed (fragile 0) := by
    exact ⟨"posts", by decide +kernel⟩
  have idle :
      ∀ entry ∈ (run (step quotient) initial [.add "node" "posts.list" "posts", .start (fragile 0),
      .complete 0 serverError [], .fire 0 [], .start (fragile 0),
      .complete 1 .resolved []]).store.entries,
      ((run (step quotient) initial [.add "node" "posts.list" "posts", .start (fragile 0),
        .complete 0 serverError [], .fire 0 [], .start (fragile 0),
        .complete 1 .resolved []]).item entry.2).state.off = false := by
    decide +kernel
  have empty : Careful initial (.add "node" "posts.list" "posts") :=
    fun _ => ⟨nofun, rfl, fun _ _ impossible => by cases impossible⟩
  exact ⟨empty, first, by simp [Careful], by simp [Careful], second, by simp [Careful],
    fun key i found _ => idle (key, i) (OrderedMap.mem_entries_iff.mpr found), trivial⟩

/-- A node that comes back has a new endpoint that is on, while the breaker of its name is open. -/
theorem replaced_endpoint_not_controlled :
    ¬ Controlled (run (step quotient) initial
      [.add "node" "posts.list" "posts", .start (fragile 0), .complete 0 serverError [],
        .remove "node:posts.list" "posts", .add "node" "posts.list" "posts"]) := by
  intro controlled
  have switched := controlled "node:posts.list" 1 ⟨"posts", by decide +kernel⟩
  revert switched
  decide +kernel

end State

end Moleculer.Breaker
