import Moleculer.Breaker.BreakerLaws

/-! The timers of the breaker: an item that is off always has one that will half-open it. -/

namespace Moleculer.Breaker

open Base

namespace State

variable {s after : State} {i j : Nat} {request : Request}

/-- An item that is off has one pending timer, the one it holds, and any other item has none. No
more failures are counted than requests. -/
structure Watched (s : State) (i : Nat) : Prop where
  pending : (s.item i).state.off = true →
    ∃ timer, (s.item i).cbTimer = some timer ∧ s.timers.get timer = some i
  only : ∀ timer, s.timers.get timer = some i →
    (s.item i).state.off = true ∧ (s.item i).cbTimer = some timer
  counted : (s.item i).failures ≤ (s.item i).count

/-- The request finds the item under the name of its endpoint. -/
def Finds (s : State) (request : Request) (i : Nat) : Prop :=
  request.opts.enabled = true ∧ s.store.get (s.keyOf request) = some i

/-- After the step, every item that was ever made is watched. -/
def KeepsWatch (divide : Nat → Nat → ℚ) (s : State) (operation : Operation) : Prop :=
  ∀ i, i < (s.step divide operation).itemCount → (s.step divide operation).Watched i

/-- No listener of the half-opened event starts a request on the endpoint that is half-opened. -/
def Unprovoked (s : State) : Operation → Prop
  | .fire timer listeners => ∀ i, s.timers.get timer = some i →
      ∀ request ∈ listeners, ¬ s.Finds request i
  | _ => True

/-- The items and the timers that the state refers to were made, and a timer that two items hold
is pending for neither of them or for the one that holds it. -/
structure Tidy (s : State) : Prop where
  timers : ∀ timer i, s.timers.get timer = some i → timer < s.timerCount ∧ i < s.itemCount
  held : ∀ i timer, (s.item i).cbTimer = some timer →
    timer < s.timerCount ∧ ∀ other, s.timers.get timer = some other → other = i
  stored : ∀ key i, s.store.get key = some i → i < s.itemCount

/-- An item between two steps. -/
structure Settled (s : State) (i : Nat) : Prop extends Watched s i where
  released : (s.item i).state.off = false → (s.item i).cbTimer = none

/-- Nothing has happened to an item. -/
structure Untouched (i : Nat) (s after : State) : Prop where
  item : after.item i = s.item i
  timers : ∀ timer, after.timers.get timer = some i ↔ s.timers.get timer = some i
  found : ∀ request, after.Finds request i ↔ s.Finds request i

theorem Untouched.refl (i : Nat) (s : State) : Untouched i s s :=
  ⟨rfl, fun _ => Iff.rfl, fun _ => Iff.rfl⟩

theorem Untouched.trans {middle : State} (first : Untouched i s middle)
    (second : Untouched i middle after) : Untouched i s after :=
  ⟨second.item.trans first.item, fun timer => (second.timers timer).trans (first.timers timer),
    fun request => (second.found request).trans (first.found request)⟩

theorem Settled.congr (settled : s.Settled i) (item : after.item i = s.item i)
    (timers : ∀ timer, after.timers.get timer = some i ↔ s.timers.get timer = some i) :
    after.Settled i := by
  constructor
  case toWatched =>
    constructor
    case pending => simpa only [item, timers] using settled.pending
    case only => simpa only [item, timers] using settled.only
    case counted => simpa only [item] using settled.counted
  case released => simpa only [item] using settled.released

theorem Settled.untouched (settled : s.Settled i) (same : Untouched i s after) :
    after.Settled i :=
  settled.congr same.item same.timers

/-! What the parts of a transition do to the bookkeeping and to the other items. -/

theorem finds_congr (store : after.store = s.store)
    (name : ∀ e, (after.endpoint e).name = (s.endpoint e).name) :
    after.Finds request i ↔ s.Finds request i := by
  unfold Finds keyOf
  rw [store, name]

variable (divide : Nat → Nat → ℚ) {change : Item → Item} {timer : Nat}

theorem Tidy.setItem (tidy : s.Tidy) (timer : ∀ item, (change item).cbTimer = item.cbTimer) :
    (s.setItem i change).Tidy := by
  constructor
  case timers => exact tidy.timers
  case held =>
    intro other number holds
    refine tidy.held other number ?_
    by_cases same : other = i
    · subst same
      simpa [State.setItem, timer] using holds
    · simpa [State.setItem, same] using holds
  case stored => exact tidy.stored

theorem untouched_setItem (ne : j ≠ i) (change : Item → Item) :
    Untouched j s (s.setItem i change) where
  item := by simp [setItem, ne]
  timers := fun _ => Iff.rfl
  found := fun _ => Iff.rfl

theorem Tidy.turn (tidy : s.Tidy) (i : Nat) (state : CircuitState) (available : Bool) :
    (s.turn i state available).Tidy := by
  have kept : (s.setItem i fun item => { item with state := state }).Tidy :=
    tidy.setItem fun _ => rfl
  exact ⟨kept.timers, kept.held, kept.stored⟩

theorem untouched_turn (ne : j ≠ i) (state : CircuitState) (available : Bool) :
    Untouched j s (s.turn i state available) where
  item := item_turn_of_ne ne state available
  timers := fun _ => Iff.rfl
  found := fun _ => finds_congr rfl fun e => name_turn s i e state available

theorem Tidy.fresh (tidy : s.Tidy) (i : Nat) : s.timers.get s.timerCount ≠ some i :=
  fun pending => Nat.lt_irrefl _ (tidy.timers _ _ pending).1

theorem get_startTimer (s : State) (i timer : Nat) :
    (s.startTimer i).timers.get timer =
      if timer = s.timerCount then some i else s.timers.get timer := by
  simp [startTimer, OrderedMap.get_set]

theorem item_startTimer (s : State) (i : Nat) :
    (s.startTimer i).item i = { s.item i with cbTimer := some s.timerCount } := by
  simp [startTimer, setItem]

theorem untouched_startTimer (tidy : s.Tidy) (ne : j ≠ i) : Untouched j s (s.startTimer i) where
  item := by simp [startTimer, setItem, ne]
  timers := by
    intro timer
    rw [get_startTimer]
    split
    · -- The new timer is the one of the other item.
      rename_i new
      rw [new]
      exact iff_of_false (fun same => ne (Option.some.inj same).symm) (tidy.fresh j)
    · exact Iff.rfl
  found := fun _ => Iff.rfl

theorem Tidy.startTimer (tidy : s.Tidy) (made : i < s.itemCount) : (s.startTimer i).Tidy := by
  constructor
  case timers =>
    intro timer other pending
    show timer < s.timerCount + 1 ∧ other < s.itemCount
    rw [get_startTimer] at pending
    split at pending
    · cases pending
      exact ⟨by omega, made⟩
    · have := tidy.timers timer other pending
      omega
  case held =>
    intro other timer holds
    show timer < s.timerCount + 1 ∧ _
    by_cases same : other = i
    · subst same
      rw [item_startTimer] at holds
      cases holds
      refine ⟨by omega, fun pendingFor pending => ?_⟩
      rw [get_startTimer, if_pos rfl] at pending
      exact (Option.some.inj pending).symm
    · rw [(untouched_startTimer tidy same).item] at holds
      obtain ⟨below, owner⟩ := tidy.held other timer holds
      refine ⟨by omega, fun pendingFor pending => ?_⟩
      rw [get_startTimer, if_neg (by omega)] at pending
      exact owner pendingFor pending
  case stored => exact tidy.stored

theorem item_clearTimer (s : State) (i : Nat) :
    (s.clearTimer i).item i = { s.item i with cbTimer := none } := by
  unfold clearTimer
  split
  · rename_i none
    rw [← none]
  · simp [setItem]

theorem get_clearTimer (s : State) (i timer : Nat) :
    (s.clearTimer i).timers.get timer =
      if (s.item i).cbTimer = some timer then none else s.timers.get timer := by
  unfold clearTimer
  cases holds : (s.item i).cbTimer with
  | none => simp
  | some held =>
    simp only [OrderedMap.get_delete, Option.some.injEq]
    by_cases same : timer = held
    · rw [if_pos same, if_pos same.symm]
    · rw [if_neg same, if_neg fun eq => same eq.symm]

theorem untouched_clearTimer (tidy : s.Tidy) (ne : j ≠ i) : Untouched j s (s.clearTimer i) where
  item := by
    unfold clearTimer
    split
    · rfl
    · simp [setItem, ne]
  timers := by
    intro timer
    rw [get_clearTimer]
    split
    · -- The timer that is cleared can only be pending for the item that holds it.
      rename_i holds
      exact iff_of_false (Option.some_ne_none j).symm fun pending =>
        ne ((tidy.held i timer holds).2 j pending)
    · exact Iff.rfl
  found := fun _ => finds_congr alike_clearTimer.store fun e => by rw [alike_clearTimer.endpoint]

theorem timerCount_clearTimer (s : State) (i : Nat) :
    (s.clearTimer i).timerCount = s.timerCount := by
  unfold clearTimer
  split <;> rfl

theorem Tidy.clearTimer (tidy : s.Tidy) (i : Nat) : (s.clearTimer i).Tidy := by
  -- A timer that is still pending was pending before.
  have before : ∀ timer other, (s.clearTimer i).timers.get timer = some other →
      s.timers.get timer = some other := by
    intro timer other pending
    rw [get_clearTimer] at pending
    split at pending
    · cases pending
    · exact pending
  constructor
  case timers =>
    intro timer other pending
    rw [timerCount_clearTimer, alike_clearTimer.itemCount]
    exact tidy.timers timer other (before timer other pending)
  case held =>
    intro other timer holds
    rw [timerCount_clearTimer]
    have held : (s.item other).cbTimer = some timer := by
      by_cases same : other = i
      · rw [same, item_clearTimer] at holds
        cases holds
      · rwa [(untouched_clearTimer tidy same).item] at holds
    obtain ⟨below, owner⟩ := tidy.held other timer held
    exact ⟨below, fun pendingFor pending => owner pendingFor (before timer pendingFor pending)⟩
  case stored =>
    rw [alike_clearTimer.store, alike_clearTimer.itemCount]
    exact tidy.stored

/-! Requests. -/

theorem itemCount_getEpState (s : State) (request : Request) :
    s.itemCount ≤ (s.getEpState request).2.itemCount := by
  unfold getEpState
  split
  · exact Nat.le_refl _
  · exact Nat.le_succ _

theorem Tidy.getEpState (tidy : s.Tidy) (request : Request) : (s.getEpState request).2.Tidy := by
  unfold State.getEpState
  split
  · exact tidy
  constructor
  case timers =>
    intro timer i pending
    obtain ⟨below, made⟩ := tidy.timers timer i pending
    exact ⟨below, Nat.lt_succ_of_lt made⟩
  case held =>
    intro i timer holds
    by_cases new : i = s.itemCount
    · simp [new] at holds
    · exact tidy.held i timer (by simpa [new] using holds)
  case stored =>
    intro key i found
    show i < s.itemCount + 1
    simp only [OrderedMap.get_set] at found
    split at found
    · cases found
      exact Nat.lt_succ_self _
    · exact Nat.lt_succ_of_lt (tidy.stored key i found)

theorem untouched_getEpState (made : j < s.itemCount) (request : Request) :
    Untouched j s (s.getEpState request).2 := by
  have old : j ≠ s.itemCount := Nat.ne_of_lt made
  unfold getEpState
  split
  · exact Untouched.refl j s
  rename_i absent
  refine ⟨by simp [old], fun _ => Iff.rfl, fun other => and_congr_right fun _ => ?_⟩
  -- The name that the new item is stored under led to no item before.
  show (s.store.set (s.keyOf request) s.itemCount).get (s.keyOf other) = some j ↔ _
  rw [OrderedMap.get_set]
  split
  · rename_i same
    rw [same, absent]
    exact iff_of_false (fun new => old (Option.some.inj new).symm) (Option.some_ne_none j).symm
  · exact Iff.rfl

theorem Tidy.getEpState_made (tidy : s.Tidy) (request : Request) :
    (s.getEpState request).1 < (s.getEpState request).2.itemCount :=
  (tidy.getEpState request).stored _ _ (getEpState_stored s request)

theorem Tidy.settled_getEpState (tidy : s.Tidy) (request : Request)
    (made : j < (s.getEpState request).2.itemCount)
    (settled : j < s.itemCount → s.Settled j) : (s.getEpState request).2.Settled j := by
  by_cases old : j < s.itemCount
  · exact (settled old).untouched (untouched_getEpState old request)
  -- The new item is closed and has no timer.
  unfold State.getEpState at made ⊢
  split at made
  · exact absurd made old
  · have new : j = s.itemCount := Nat.le_antisymm (Nat.le_of_lt_succ made) (Nat.le_of_not_lt old)
    have none : ∀ timer, s.timers.get timer ≠ some s.itemCount := fun timer pending =>
      Nat.lt_irrefl _ (tidy.timers timer _ pending).2
    subst new
    constructor
    case toWatched =>
      exact ⟨by simp [CircuitState.off], fun timer pending => absurd pending (none timer), by simp⟩
    case released => simp

theorem settled_startTimer (off : (s.item i).state.off = true) (untimed : s.Untimed i)
    (counted : (s.item i).failures ≤ (s.item i).count) : (s.startTimer i).Settled i := by
  have item := item_startTimer s i
  constructor
  case toWatched =>
    constructor
    case pending => exact fun _ => ⟨s.timerCount, by rw [item], by rw [get_startTimer, if_pos rfl]⟩
    case only =>
      intro timer pending
      rw [get_startTimer] at pending
      split at pending
      · rename_i new
        rw [item, new]
        exact ⟨off, rfl⟩
      · exact absurd pending (untimed timer)
    case counted =>
      rw [item]
      exact counted
  case released => simp [item, off]

theorem Settled.untimed (settled : s.Settled i) (on : (s.item i).state.off = false) :
    s.Untimed i := by
  intro timer pending
  rw [(settled.only timer pending).1] at on
  cases on

theorem settled_halfOpenWait (settled : s.Settled i)
    (half : (s.item i).state = .circuitHalfOpen) : (s.halfOpenWait i).Settled i := by
  have item : (s.turn i .circuitHalfOpenWait false).item i =
      { s.item i with state := .circuitHalfOpenWait } := by
    simp [turn, setItem]
  refine settled_startTimer ?_ ?_ ?_
  · rw [item]
    rfl
  · exact settled.untimed (by rw [half]; rfl)
  · rw [item]
    exact settled.counted

/-- The state in which a request leaves the breaker, but for the request itself. -/
def entered (s : State) (request : Request) : State :=
  let (i, s) := s.getEpState request
  if (s.item i).state = .circuitHalfOpen then s.halfOpenWait i else s

theorem middleware_eq (s : State) (request : Request) :
    s.circuitBreakerMiddleware request =
      if request.opts.enabled then
        { s.entered request with
          requests := (s.entered request).requests.set (s.entered request).requestCount request
          requestCount := (s.entered request).requestCount + 1 }
      else s := rfl

theorem Tidy.middleware (tidy : s.Tidy) (request : Request) :
    (s.circuitBreakerMiddleware request).Tidy := by
  have kept : (s.entered request).Tidy := by
    unfold entered
    dsimp only
    split
    · exact ((tidy.getEpState request).turn _ _ _).startTimer (tidy.getEpState_made request)
    · exact tidy.getEpState request
  rw [middleware_eq]
  split
  · exact ⟨kept.timers, kept.held, kept.stored⟩
  · exact tidy

theorem itemCount_middleware (s : State) (request : Request) :
    s.itemCount ≤ (s.circuitBreakerMiddleware request).itemCount := by
  have kept : s.itemCount ≤ (s.entered request).itemCount := by
    unfold entered
    dsimp only
    split
    · exact itemCount_getEpState s request
    · exact itemCount_getEpState s request
  rw [middleware_eq]
  split
  · exact kept
  · exact Nat.le_refl _

theorem itemCount_broadcast (s : State) (event : Broadcast) (listeners : List Request) :
    s.itemCount ≤ (s.broadcast event listeners).itemCount := by
  have each : ∀ (s : State), s.itemCount ≤
      (listeners.foldl circuitBreakerMiddleware s).itemCount := by
    induction listeners with
    | nil => exact fun _ => Nat.le_refl _
    | cons request rest ih => exact fun s => Nat.le_trans (itemCount_middleware s request) (ih _)
  exact each { s with broadcasts := s.broadcasts ++ [event] }

theorem Tidy.untouched_middleware (tidy : s.Tidy) (made : j < s.itemCount)
    (apart : s.Finds request j → (s.item j).state ≠ .circuitHalfOpen) :
    Untouched j s (s.circuitBreakerMiddleware request) := by
  rw [middleware_eq]
  split
  case isFalse => exact Untouched.refl j s
  case isTrue enabled =>
    have looked := untouched_getEpState made request
    have kept : Untouched j s (s.entered request) := by
      unfold entered
      dsimp only
      split
      · rename_i half
        have ne : j ≠ (s.getEpState request).1 := by
          intro same
          have finds : (s.getEpState request).2.Finds request j :=
            ⟨enabled, by
              rw [same, keyOf, (getEpState_frame s request).1]
              exact getEpState_stored s request⟩
          rw [← same, looked.item] at half
          exact apart ((looked.found request).mp finds) half
        exact looked.trans ((untouched_turn ne _ _).trans
          (untouched_startTimer ((tidy.getEpState request).turn _ _ _) ne))
      · exact looked
    exact ⟨kept.item, kept.timers, kept.found⟩

theorem Tidy.settled_middleware (tidy : s.Tidy) (request : Request)
    (made : j < (s.circuitBreakerMiddleware request).itemCount)
    (settled : j < s.itemCount → s.Settled j) :
    (s.circuitBreakerMiddleware request).Settled j := by
  rw [middleware_eq] at made ⊢
  split at made
  case isFalse disabled =>
    rw [if_neg disabled]
    exact settled made
  case isTrue enabled =>
    rw [if_pos enabled]
    have kept : (s.entered request).Settled j := by
      have count : (s.entered request).itemCount = (s.getEpState request).2.itemCount := by
        unfold entered
        dsimp only
        split <;> rfl
      have before := tidy.settled_getEpState request (count ▸ made) settled
      have tidy := tidy.getEpState request
      unfold entered
      dsimp only
      split
      · rename_i half
        by_cases same : j = (s.getEpState request).1
        · subst same
          exact settled_halfOpenWait before half
        · exact before.untouched ((untouched_turn same _ _).trans
            (untouched_startTimer (tidy.turn _ _ _) same))
      · exact before
    exact kept.congr rfl fun _ => Iff.rfl

/-! Broadcasts in the middle of a transition. -/

/-- The bookkeeping is in order and every item is settled, except for one that a transition is
working on. -/
structure Busy (s : State) (i : Nat) : Prop where
  tidy : s.Tidy
  made : i < s.itemCount
  settled : ∀ j, j < s.itemCount → j ≠ i → s.Settled j

theorem Busy.listeners (busy : s.Busy i) {listeners : List Request}
    (apart : ∀ request ∈ listeners, s.Finds request i → (s.item i).state ≠ .circuitHalfOpen) :
    (listeners.foldl circuitBreakerMiddleware s).Busy i ∧
      Untouched i s (listeners.foldl circuitBreakerMiddleware s) := by
  induction listeners generalizing s with
  | nil => exact ⟨busy, Untouched.refl i s⟩
  | cons request rest ih =>
    have same := busy.tidy.untouched_middleware busy.made (apart request List.mem_cons_self)
    have next : (s.circuitBreakerMiddleware request).Busy i := by
      constructor
      case tidy => exact busy.tidy.middleware request
      case made => exact Nat.lt_of_lt_of_le busy.made (itemCount_middleware s request)
      case settled =>
        exact fun j made ne => busy.tidy.settled_middleware request made fun old =>
          busy.settled j old ne
    obtain ⟨kept, untouched⟩ := ih next fun other inside finds => by
      rw [same.item]
      exact apart other (List.mem_cons_of_mem _ inside) ((same.found other).mp finds)
    exact ⟨kept, same.trans untouched⟩

theorem Busy.broadcast (busy : s.Busy i) (event : Broadcast) (listeners : List Request)
    (apart : ∀ request ∈ listeners, s.Finds request i → (s.item i).state ≠ .circuitHalfOpen) :
    (s.broadcast event listeners).Busy i ∧ Untouched i s (s.broadcast event listeners) := by
  have noted : State.Busy { s with broadcasts := s.broadcasts ++ [event] } i :=
    ⟨⟨busy.tidy.timers, busy.tidy.held, busy.tidy.stored⟩, busy.made, fun j made ne =>
      (busy.settled j made ne).congr rfl fun _ => Iff.rfl⟩
  obtain ⟨kept, untouched⟩ := noted.listeners apart
  exact ⟨kept, untouched.item, untouched.timers, untouched.found⟩

theorem Busy.next (busy : s.Busy i) (tidy : after.Tidy) (count : after.itemCount = s.itemCount)
    (same : ∀ j, j ≠ i → Untouched j s after) : after.Busy i :=
  ⟨tidy, count ▸ busy.made, fun j made ne =>
    (busy.settled j (count ▸ made) ne).untouched (same j ne)⟩

theorem Busy.turn (busy : s.Busy i) (state : CircuitState) (available : Bool) :
    (s.turn i state available).Busy i :=
  busy.next (busy.tidy.turn i state available) rfl fun _ ne => untouched_turn ne state available

theorem Busy.setItem (busy : s.Busy i) (timer : ∀ item, (change item).cbTimer = item.cbTimer) :
    (s.setItem i change).Busy i :=
  busy.next (busy.tidy.setItem timer) rfl fun _ ne => untouched_setItem ne change

theorem Busy.startTimer (busy : s.Busy i) : (s.startTimer i).Busy i :=
  busy.next (busy.tidy.startTimer busy.made) rfl fun _ ne => untouched_startTimer busy.tidy ne

theorem Busy.clearTimer (busy : s.Busy i) : (s.clearTimer i).Busy i :=
  busy.next (busy.tidy.clearTimer i) alike_clearTimer.itemCount fun _ ne =>
    untouched_clearTimer busy.tidy ne

/-- The bookkeeping is in order and every item is settled. -/
structure Orderly (s : State) : Prop where
  tidy : s.Tidy
  settled : ∀ i, i < s.itemCount → s.Settled i

theorem Orderly.busy (orderly : s.Orderly) (made : i < s.itemCount) : s.Busy i :=
  ⟨orderly.tidy, made, fun j old _ => orderly.settled j old⟩

theorem Busy.orderly (busy : s.Busy i) (settled : s.Settled i) : s.Orderly := by
  refine ⟨busy.tidy, fun j made => ?_⟩
  by_cases same : j = i
  · exact same ▸ settled
  · exact busy.settled j made same

theorem settled_clearTimer (on : (s.item i).state.off = false)
    (only : ∀ timer, s.timers.get timer = some i → (s.item i).cbTimer = some timer)
    (counted : (s.item i).failures ≤ (s.item i).count) : (s.clearTimer i).Settled i := by
  have item := item_clearTimer s i
  constructor
  case toWatched =>
    constructor
    case pending =>
      rw [item]
      exact fun off => absurd off (by simp [on])
    case only =>
      intro timer pending
      rw [get_clearTimer] at pending
      split at pending
      · cases pending
      · rename_i other
        exact absurd (only timer pending) other
    case counted =>
      rw [item]
      exact counted
  case released => simp [item]

/-! The transitions. -/

theorem Settled.setItem (settled : s.Settled i) (state : ∀ item, (change item).state = item.state)
    (timer : ∀ item, (change item).cbTimer = item.cbTimer)
    (counted : ∀ item, item.failures ≤ item.count → (change item).failures ≤ (change item).count) :
    (s.setItem i change).Settled i := by
  have item : (s.setItem i change).item i = change (s.item i) := by simp [State.setItem]
  have timers : (s.setItem i change).timers = s.timers := rfl
  constructor
  case toWatched =>
    constructor
    case pending => simpa only [item, timers, state, timer] using settled.pending
    case only => simpa only [item, timers, state, timer] using settled.only
    case counted => simpa only [item] using counted _ settled.counted
  case released => simpa only [item, state, timer] using settled.released

theorem Orderly.setItem (orderly : s.Orderly) (state : ∀ item, (change item).state = item.state)
    (timer : ∀ item, (change item).cbTimer = item.cbTimer)
    (counted : ∀ item, item.failures ≤ item.count → (change item).failures ≤ (change item).count) :
    (s.setItem i change).Orderly := by
  refine ⟨orderly.tidy.setItem timer, fun j made => ?_⟩
  by_cases same : j = i
  · exact same ▸ (orderly.settled j made).setItem state timer counted
  · exact (orderly.settled j made).untouched (untouched_setItem same change)

theorem Orderly.circuitClose (orderly : s.Orderly) (made : i < s.itemCount)
    (listeners : List Request) : (s.circuitClose i listeners).Orderly := by
  -- The state in which the closed event is broadcast: the timer is still there.
  let closed := (s.turn i .circuitClose true).setItem i fun item =>
    { item with failures := 0, count := 0 }
  have item : closed.item i =
      { s.item i with state := .circuitClose, failures := 0, count := 0 } := by
    simp [closed, State.turn, State.setItem]
  have busy : closed.Busy i := ((orderly.busy made).turn _ _).setItem fun _ => rfl
  obtain ⟨kept, same⟩ := busy.broadcast
    (.closed (s.endpoint (s.item i).ep).id (s.item i).service (s.endpoint (s.item i).ep).action)
    listeners fun _ _ _ => by rw [item]; simp
  refine kept.clearTimer.orderly (settled_clearTimer ?_ (fun timer pending => ?_) ?_)
  · rw [same.item, item]
    rfl
  · rw [same.item, item]
    exact ((orderly.settled i made).only timer ((same.timers timer).mp pending)).2
  · rw [same.item, item]

theorem Orderly.trip (orderly : s.Orderly) (made : i < s.itemCount) (listeners : List Request) :
    (s.trip divide i listeners).Orderly := by
  unfold State.trip
  split
  · exact orderly
  -- The state before the new timer is set: the old one, if there was one, is cleared.
  let cleared := (s.turn i .circuitOpen false).clearTimer i
  have item : cleared.item i = { s.item i with state := .circuitOpen, cbTimer := none } := by
    simp [cleared, item_clearTimer, State.turn, State.setItem]
  have untimed : cleared.Untimed i := by
    intro timer pending
    rw [get_clearTimer, cbTimer_turn] at pending
    split at pending
    · cases pending
    · rename_i other
      exact other ((orderly.settled i made).only timer pending).2
  have settled : (cleared.startTimer i).Settled i := by
    refine settled_startTimer ?_ untimed ?_
    · rw [item]
      rfl
    · rw [item]
      exact (orderly.settled i made).counted
  have busy : (cleared.startTimer i).Busy i := ((orderly.busy made).turn _ _).clearTimer.startTimer
  -- While the opened event is broadcast, the item is open, so no request sets it waiting.
  obtain ⟨kept, same⟩ := busy.broadcast (.opened (s.endpoint (s.item i).ep).id (s.item i).service
    (s.endpoint (s.item i).ep).action (s.item i).failures (s.item i).count
    (if 0 < (s.item i).count then divide (s.item i).failures (s.item i).count else 0))
    listeners fun _ _ _ => by rw [item_startTimer, item]; simp
  exact kept.orderly (settled.untouched same)

theorem Orderly.checkThreshold (orderly : s.Orderly) (made : i < s.itemCount)
    (listeners : List Request) :
    (s.checkThreshold divide i listeners).Orderly := by
  unfold State.checkThreshold
  dsimp only
  split
  · split
    · exact orderly.trip divide made listeners
    · exact orderly
  · exact orderly

theorem Orderly.failure (orderly : s.Orderly) (made : i < s.itemCount) (listeners : List Request) :
    (s.failure divide i listeners).Orderly := by
  have counted : (s.setItem i fun item =>
      { item with count := item.count + 1, failures := item.failures + 1 }).Orderly :=
    orderly.setItem (fun _ => rfl) (fun _ => rfl) fun _ counted => Nat.succ_le_succ counted
  exact counted.checkThreshold divide made listeners

theorem Orderly.success (orderly : s.Orderly) (made : i < s.itemCount) (listeners : List Request) :
    (s.success divide i listeners).Orderly := by
  have counted : (s.setItem i fun item => { item with count := item.count + 1 }).Orderly :=
    orderly.setItem (fun _ => rfl) (fun _ => rfl) fun _ counted => Nat.le_succ_of_le counted
  unfold State.success
  dsimp only
  split
  · exact counted.circuitClose made listeners
  · exact counted.checkThreshold divide made listeners

theorem Orderly.getEpState (orderly : s.Orderly) (request : Request) :
    (s.getEpState request).2.Orderly :=
  ⟨orderly.tidy.getEpState request, fun j made =>
    orderly.tidy.settled_getEpState request made (orderly.settled j)⟩

theorem Orderly.middleware (orderly : s.Orderly) (request : Request) :
    (s.circuitBreakerMiddleware request).Orderly :=
  ⟨orderly.tidy.middleware request, fun j made =>
    orderly.tidy.settled_middleware request made (orderly.settled j)⟩

theorem Orderly.congr (orderly : s.Orderly) (item : after.item = s.item)
    (itemCount : after.itemCount = s.itemCount) (timers : after.timers = s.timers)
    (timerCount : after.timerCount = s.timerCount)
    (store : ∀ key i, after.store.get key = some i → s.store.get key = some i) :
    after.Orderly := by
  constructor
  case tidy =>
    constructor
    case timers => simpa only [timers, timerCount, itemCount] using orderly.tidy.timers
    case held => simpa only [item, timers, timerCount] using orderly.tidy.held
    case stored =>
      intro key i found
      rw [itemCount]
      exact orderly.tidy.stored key i (store key i found)
  case settled =>
    intro i made
    rw [itemCount] at made
    exact (orderly.settled i made).congr (by rw [item]) fun _ => by rw [timers]

theorem Orderly.complete (orderly : s.Orderly) (id : Nat) (outcome : Outcome)
    (listeners : List Request) :
    (s.complete divide id outcome listeners).Orderly := by
  unfold State.complete
  cases s.requests.get id with
  | none => exact orderly
  | some request =>
    have landed : State.Orderly { s with requests := s.requests.delete id } :=
      orderly.congr rfl rfl rfl rfl fun _ _ found => found
    have made := landed.tidy.getEpState_made request
    cases outcome with
    | resolved => exact (landed.getEpState request).success divide made listeners
    | rejected err =>
      dsimp only
      split
      · exact (landed.getEpState request).failure divide made listeners
      · exact landed

theorem Orderly.resetItem (orderly : s.Orderly) (entry : String × Nat) :
    (s.resetItem entry).Orderly := by
  unfold State.resetItem
  split
  · refine orderly.congr rfl rfl rfl rfl fun key i found => ?_
    -- The item that is forgotten keeps its timer.
    simp only [OrderedMap.get_delete] at found
    split at found
    · cases found
    · exact found
  · exact orderly.setItem (fun _ => rfl) (fun _ => rfl) fun _ _ => Nat.le_refl _

theorem Orderly.resetStore (orderly : s.Orderly) : s.resetStore.Orderly := by
  have each : ∀ (entries : List (String × Nat)) (s : State), s.Orderly →
      (entries.foldl State.resetItem s).Orderly := by
    intro entries
    induction entries with
    | nil => exact fun _ orderly => orderly
    | cons entry rest ih => exact fun s orderly => ih _ (orderly.resetItem entry)
  exact each s.store.entries s orderly

theorem Orderly.add (orderly : s.Orderly) (id action service : String) :
    (s.add id action service).Orderly := by
  unfold State.add
  dsimp only
  split
  · exact orderly
  · exact orderly.congr rfl rfl rfl rfl fun _ _ found => found

/-! The half-opening. -/

/-- The state in which the half-opened event is broadcast: the timer has fired, and the item still
holds its number. -/
def halfOpened (s : State) (timer i : Nat) : State :=
  State.turn { s with timers := s.timers.delete timer } i .circuitHalfOpen true

theorem fire_eq (pending : s.timers.get timer = some i) (listeners : List Request) :
    s.fire timer listeners = ((s.halfOpened timer i).broadcast (.halfOpened
      (s.endpoint (s.item i).ep).id (s.item i).service (s.endpoint (s.item i).ep).action)
      listeners).clearTimer i := by
  unfold fire
  rw [pending]
  rfl

theorem Orderly.fired (orderly : s.Orderly) (pending : s.timers.get timer = some i) :
    (s.halfOpened timer i).Busy i ∧ (s.halfOpened timer i).Untimed i ∧
      (s.halfOpened timer i).item i = { s.item i with state := .circuitHalfOpen } ∧
      ∀ request, (s.halfOpened timer i).Finds request i ↔ s.Finds request i := by
  have made := (orderly.tidy.timers timer i pending).2
  have get : ∀ other j, (s.timers.delete timer).get other = some j →
      other ≠ timer ∧ s.timers.get other = some j := by
    intro other j found
    rw [OrderedMap.get_delete] at found
    split at found
    · cases found
    · exact ⟨by assumption, found⟩
  have fired : State.Busy { s with timers := s.timers.delete timer } i := by
    constructor
    case tidy =>
      constructor
      case timers => exact fun other j found => orderly.tidy.timers other j (get other j found).2
      case held =>
        intro j other holds
        obtain ⟨below, owner⟩ := orderly.tidy.held j other holds
        exact ⟨below, fun pendingFor found => owner pendingFor (get other pendingFor found).2⟩
      case stored => exact orderly.tidy.stored
    case made => exact made
    case settled =>
      intro j below ne
      refine (orderly.settled j below).congr rfl fun other =>
        ⟨fun found => (get other j found).2, ?_⟩
      -- The timer that has fired was not the one of another item.
      intro found
      show (s.timers.delete timer).get other = some j
      rw [OrderedMap.get_delete, if_neg]
      · exact found
      · intro same
        rw [same, pending] at found
        exact ne (Option.some.inj found).symm
  refine ⟨fired.turn _ _, fun other found => ?_, by simp [halfOpened, State.turn, State.setItem],
    fun request => finds_congr rfl fun e => name_turn _ i e _ _⟩
  -- The item had no timer besides the one that has fired.
  obtain ⟨ne, before⟩ := get other i found
  have held := ((orderly.settled i made).only other before).2
  rw [((orderly.settled i made).only timer pending).2] at held
  exact ne (Option.some.inj held).symm

theorem Orderly.fire (orderly : s.Orderly) (timer : Nat) {listeners : List Request}
    (unprovoked : s.Unprovoked (.fire timer listeners)) : (s.fire timer listeners).Orderly := by
  cases pending : s.timers.get timer with
  | none =>
    unfold State.fire
    rw [pending]
    exact orderly
  | some i =>
    obtain ⟨busy, untimed, item, finds⟩ := orderly.fired pending
    rw [fire_eq pending]
    obtain ⟨kept, same⟩ := busy.broadcast (.halfOpened (s.endpoint (s.item i).ep).id
      (s.item i).service (s.endpoint (s.item i).ep).action) listeners
      fun request inside found =>
        absurd ((finds request).mp found) (unprovoked i pending request inside)
    refine kept.clearTimer.orderly (settled_clearTimer ?_ (fun other found => ?_) ?_)
    · rw [same.item, item]
      rfl
    · exact absurd ((same.timers other).mp found) (untimed other)
    · rw [same.item, item]
      exact (orderly.settled i (orderly.tidy.timers timer i pending).2).counted

theorem Tidy.off_middleware (tidy : s.Tidy) (made : i < s.itemCount) (request : Request)
    (off : (s.item i).state.off = true) :
    ((s.circuitBreakerMiddleware request).item i).state.off = true := by
  rw [(tidy.untouched_middleware made fun _ half => by rw [half] at off; cases off).item]
  exact off

theorem Finds.off (finds : s.Finds request i) (half : (s.item i).state = .circuitHalfOpen) :
    ((s.circuitBreakerMiddleware request).item i).state.off = true := by
  have looked : s.getEpState request = (i, s) := by
    unfold getEpState
    rw [finds.2]
  rw [middleware_eq, if_pos finds.1]
  show ((s.entered request).item i).state.off = true
  unfold entered
  rw [looked]
  dsimp only
  rw [if_pos half]
  simp [halfOpenWait, item_startTimer, CircuitState.off]

theorem off_listeners (tidy : s.Tidy) (made : i < s.itemCount) {listeners : List Request}
    (switched : (s.item i).state.off = true ∨ (s.item i).state = .circuitHalfOpen ∧
      ∃ request ∈ listeners, s.Finds request i) :
    ((listeners.foldl circuitBreakerMiddleware s).item i).state.off = true := by
  induction listeners generalizing s with
  | nil =>
    obtain off | ⟨-, request, inside, -⟩ := switched
    · exact off
    · cases inside
  | cons request rest ih =>
    refine ih (tidy.middleware request)
      (Nat.lt_of_lt_of_le made (itemCount_middleware s request)) ?_
    obtain off | ⟨half, other, inside, finds⟩ := switched
    · exact .inl (tidy.off_middleware made request off)
    · by_cases here : s.Finds request i
      · exact .inl (here.off half)
      · -- This listener leaves the item alone, so a later one finds it.
        have same := tidy.untouched_middleware made fun finds => absurd finds here
        refine .inr ⟨by rw [same.item, half], other, ?_, (same.found other).mpr finds⟩
        refine (List.mem_cons.mp inside).resolve_left fun first => here ?_
        rwa [← first]

theorem off_broadcast (tidy : s.Tidy) (made : i < s.itemCount) (event : Broadcast)
    {listeners : List Request} (half : (s.item i).state = .circuitHalfOpen)
    (provoked : ∃ request ∈ listeners, s.Finds request i) :
    ((s.broadcast event listeners).item i).state.off = true := by
  have noted : State.Tidy { s with broadcasts := s.broadcasts ++ [event] } :=
    ⟨tidy.timers, tidy.held, tidy.stored⟩
  exact off_listeners noted made (.inr ⟨half, provoked⟩)

theorem Orderly.stuck (orderly : s.Orderly) (pending : s.timers.get timer = some i)
    {listeners : List Request} (provoked : ∃ request ∈ listeners, s.Finds request i) :
    ¬ (s.fire timer listeners).Watched i := by
  obtain ⟨busy, -, item, finds⟩ := orderly.fired pending
  obtain ⟨request, inside, found⟩ := provoked
  intro watched
  rw [fire_eq pending] at watched
  have off := off_broadcast busy.tidy busy.made (.halfOpened (s.endpoint (s.item i).ep).id
    (s.item i).service (s.endpoint (s.item i).ep).action) (by rw [item])
    ⟨request, inside, (finds request).mpr found⟩
  obtain ⟨held, holds, -⟩ := watched.pending (by rw [item_clearTimer]; exact off)
  rw [item_clearTimer] at holds
  cases holds

theorem Orderly.step (divide : Nat → Nat → ℚ) (orderly : s.Orderly) (operation : Operation)
    (unprovoked : s.Unprovoked operation) : (s.step divide operation).Orderly := by
  cases operation with
  | start request => exact orderly.middleware request
  | complete id outcome listeners => exact orderly.complete divide id outcome listeners
  | fire timer listeners => exact orderly.fire timer unprovoked
  | resetStore => exact orderly.resetStore
  | add id action service => exact orderly.add id action service
  | remove name service => exact orderly.congr rfl rfl rfl rfl fun _ _ found => found

theorem Orderly.keepsWatch_iff (orderly : s.Orderly) (operation : Operation) :
    s.KeepsWatch divide operation ↔ s.Unprovoked operation := by
  have sufficient : s.Unprovoked operation → s.KeepsWatch divide operation :=
    fun unprovoked i made => ((orderly.step divide operation unprovoked).settled i made).toWatched
  refine ⟨fun watch => ?_, sufficient⟩
  cases operation with
  | fire timer listeners =>
    intro i pending request inside finds
    refine orderly.stuck pending ⟨request, inside, finds⟩ (watch i ?_)
    obtain ⟨busy, -⟩ := orderly.fired pending
    show i < (s.fire timer listeners).itemCount
    rw [fire_eq pending, alike_clearTimer.itemCount]
    exact Nat.lt_of_lt_of_le busy.made (itemCount_broadcast _ _ listeners)
  | start request => trivial
  | complete id outcome listeners => trivial
  | resetStore => trivial
  | add id action service => trivial
  | remove name service => trivial

theorem orderly_initial : initial.Orderly := by
  constructor
  case tidy => exact ⟨nofun, nofun, nofun⟩
  case settled => nofun

end State

open State

/-- In every run of the breaker, all items are watched in all states that are reached, exactly if
no listener of a half-opened event ever starts a request on the endpoint that is half-opened. -/
theorem watched_run_iff (divide : Nat → Nat → ℚ) (operations : List Operation) :
    Meets (State.step divide) (KeepsWatch divide) initial operations ↔
      Meets (State.step divide) Unprovoked initial operations := by
  refine meets_iff (fun s operation _ orderly => ?_) (fun s operation _ orderly watch => ?_)
    orderly_initial
  · exact orderly.keepsWatch_iff divide operation
  · exact orderly.step divide operation ((orderly.keepsWatch_iff divide operation).mp watch)

/-- A listener calls the action as soon as it hears that its breaker is half-open, and the call
fails with an error that does not count. -/
def eager : List Operation :=
  [.add "node" "posts.list" "posts", .start (fragile 0), .complete 0 serverError [],
    .fire 0 [fragile 0],
    .complete 1 (.rejected ⟨404, none⟩) []]

/-- The endpoint is then off, and no timer and no request is left to switch it on. -/
theorem eager_listener_leaves_endpoint_off :
    ¬ Meets (State.step quotient) (KeepsWatch quotient) initial eager ∧
      ((run (State.step quotient) initial eager).endpoint 0).state = false ∧
      (run (State.step quotient) initial eager).timers.entries = [] ∧
      (run (State.step quotient) initial eager).requests.entries.length = 0 := by
  refine ⟨?_, by decide +kernel, by decide +kernel, by decide +kernel⟩
  intro ⟨_, _, _, watch, _⟩
  have holdsNone : ((run (State.step quotient) initial (eager.take 4)).item 0).cbTimer = none := by
    decide +kernel
  obtain ⟨timer, holds, -⟩ := (watch 0 (by decide +kernel)).pending (by decide +kernel)
  exact nomatch holdsNone.symm.trans holds

end Moleculer.Breaker
