import Moleculer.Cacher.Lock
import Moleculer.Cacher.Middleware

/-! Which outcomes of a request give its locks back, and what a lock that comes back guarantees. -/

namespace Moleculer.Cacher

open Base

section Sections

variable {β ε : Type}

/-- The second lookup answers, and a handler that runs leads to a call of the unlock function. -/
def MissReturns (outcomes : Outcomes β ε) : Prop :=
  ∃ content, outcomes.secondGet = .resolves content ∧ (content.present = true ∨
    (∀ error, outcomes.handler ≠ .throws error) ∧
      ((∃ error, outcomes.handler = .rejects error) ∨ ∀ error, outcomes.set ≠ .rejects error))

/-- The handler returns a promise, and either its result or the removal of the key goes through. -/
def RefreshReturns (outcomes : Outcomes β ε) : Prop :=
  (∀ error, outcomes.refreshHandler ≠ .throws error) ∧
    ((∃ result, outcomes.refreshHandler = .resolves result) ∧ outcomes.refreshSet = .resolves () ∨
      outcomes.del = .resolves ())

/-- The first lookup of a request, with the remaining time when stale entries are refreshed. -/
def firstData (options : Options β) (outcomes : Outcomes β ε) : Call ε (JsValue β × Option Rat) :=
  if (truthy options.staleTime).isSome then outcomes.getWithTTL
  else match outcomes.get with
    | .resolves data => .resolves (data, none)
    | .rejects error => .rejects error
    | .throws error => .throws error

/-- The request finds a stale entry and is granted the lock to refresh it. -/
def Refreshes (options : Options β) (outcomes : Outcomes β ε) : Prop :=
  (∃ data ttl, firstData options outcomes = .resolves (data, ttl) ∧ data.present = true ∧
    isStale options.staleTime ttl = true) ∧ outcomes.tryLock = .resolves ()

/-- The request finds nothing, reaches the lock and is granted it. -/
def Misses (options : Options β) (outcomes : Outcomes β ε) : Prop :=
  (∃ ttl, firstData options outcomes = .resolves (options.missingResponse, ttl) ∧
    (options.missingResponse.present = true → isStale options.staleTime ttl = true →
      ∀ error, outcomes.tryLock ≠ .throws error)) ∧ outcomes.lock = .resolves ()

/-- Every lock that was acquired was released exactly once. -/
def LocksReturned (trace : Trace) : Prop :=
  ∀ kind, trace.events.count (.released kind) = trace.events.count (.acquired kind)

/-- A stretch of the trace in which at most one lock is taken, and given back or kept. -/
inductive Guarded (kind : LockKind) (entered returned : Prop) (before : List LockEvent) :
    List LockEvent → Prop where
  | skipped : ¬ entered → Guarded kind entered returned before before
  | kept : entered → ¬ returned → Guarded kind entered returned before (before ++ [.acquired kind])
  | returned : entered → returned →
    Guarded kind entered returned before (before ++ [.acquired kind, .released kind])

variable (outcomes : Outcomes β ε) (trace : Trace)

theorem missSection_events :
    (MissReturns outcomes ∧
      (missSection outcomes trace).2.events = trace.events ++ [.released .miss]) ∨
    (¬ MissReturns outcomes ∧ (missSection outcomes trace).2.events = trace.events) := by
  -- Each step either ends the section or hands over to the next one.
  cases found : outcomes.secondGet with
  | rejects error => exact .inr (by simp [MissReturns, missSection, found])
  | throws error => exact .inr (by simp [MissReturns, missSection, found])
  | resolves content =>
    cases present : content.present with
    | true => exact .inl (by simp [MissReturns, missSection, found, present, unlock, note])
    | false =>
      cases ran : outcomes.handler with
      | throws error =>
        exact .inr (by simp [MissReturns, missSection, found, present, ran])
      | rejects error =>
        exact .inl (by simp [MissReturns, missSection, found, present, ran, unlock, note])
      | resolves result =>
        -- A synchronous exception of `set` still reaches the error branch, a rejection does not.
        cases saved : outcomes.set with
        | rejects error =>
          exact .inr (by simp [MissReturns, missSection, found, present, ran, saved,
            Promise.recover])
        | resolves value =>
          exact .inl (by simp [MissReturns, missSection, found, present, ran, saved, unlock, note,
            Promise.recover])
        | throws error =>
          exact .inl (by simp [MissReturns, missSection, found, present, ran, saved, unlock, note])

theorem refreshSection_events :
    (RefreshReturns outcomes ∧
      (refreshSection outcomes trace).2.events = trace.events ++ [.released .refresh]) ∨
    (¬ RefreshReturns outcomes ∧ (refreshSection outcomes trace).2.events = trace.events) := by
  cases ran : outcomes.refreshHandler with
  | throws error => exact .inr (by simp [RefreshReturns, refreshSection, ran])
  | rejects error =>
    cases removed : outcomes.del <;>
      simp [RefreshReturns, refreshSection, ran, removed, unlock, note]
  | resolves result =>
    -- Only a result that could not be saved asks for the removal of the key.
    cases saved : outcomes.refreshSet <;> cases removed : outcomes.del <;>
      simp [RefreshReturns, refreshSection, ran, saved, removed, unlock, note, Promise.recover]

/-- A refresh in the background takes its lock when `tryLock` grants it. -/
theorem tryRefresh_events :
    Guarded .refresh True (RefreshReturns outcomes) trace.events
      (tryRefresh outcomes (.resolve ()) trace).2.events := by
  have forgotten : (tryRefresh outcomes (.resolve ()) trace).2
      = (refreshSection outcomes ⟨trace.events ++ [.acquired .refresh], trace.cachedResult⟩).2 := by
    simp only [tryRefresh, note, Promise.bind_eq, Promise.andThen_resolve, Promise.recover,
      Promise.act_andThen_apply]
    split <;> simp_all
  rw [forgotten]
  rcases refreshSection_events outcomes ⟨trace.events ++ [.acquired .refresh], trace.cachedResult⟩
    with ⟨returns, events⟩ | ⟨keeps, events⟩
  · rw [events, List.append_assoc]
    exact .returned trivial returns
  · rw [events]
    exact .kept trivial keeps

theorem missLocked_events :
    Guarded .miss True (MissReturns outcomes) trace.events
      ((note (.acquired .miss)).andThen (fun _ => missSection outcomes) trace).2.events := by
  rcases missSection_events outcomes ⟨trace.events ++ [.acquired .miss], trace.cachedResult⟩
    with ⟨returns, events⟩ | ⟨keeps, events⟩
  · rw [note, Promise.act_andThen_apply, events, List.append_assoc]
    exact .returned trivial returns
  · rw [note, Promise.act_andThen_apply, events]
    exact .kept trivial keeps

theorem lookup_spec (options : Options β) (outcomes : Outcomes β ε) (trace : Trace) :
    Guarded .refresh (Refreshes options outcomes) (RefreshReturns outcomes) trace.events
      (lookup options outcomes trace).2.events ∧
    ∀ data, (lookup options outcomes trace).1 = .fulfilled data ↔
      ∃ ttl, firstData options outcomes = .resolves (data, ttl) ∧
        (data.present = true → isStale options.staleTime ttl = true →
          ∀ error, outcomes.tryLock ≠ .throws error) := by
  by_cases timed : (truthy options.staleTime).isSome = true
  · cases answered : outcomes.getWithTTL with
    | rejects error =>
      simp only [lookup, Refreshes, firstData, timed, if_true, answered]
      exact ⟨.skipped (by simp), by simp⟩
    | throws error =>
      simp only [lookup, Refreshes, firstData, timed, if_true, answered]
      exact ⟨.skipped (by simp), by simp⟩
    | resolves found =>
      obtain ⟨data, ttl⟩ := found
      by_cases stale : data.present = true ∧ isStale options.staleTime ttl = true
      · have entered : Refreshes options outcomes ↔ outcomes.tryLock = .resolves () := by
          simp [Refreshes, firstData, timed, answered, stale]
        cases granted : outcomes.tryLock with
        | resolves value =>
          have guarded := tryRefresh_events outcomes trace
          rw [← eq_true (entered.mpr granted)] at guarded
          simp [lookup, firstData, timed, answered, stale, granted, guarded]
        | rejects error =>
          refine ⟨?_, by simp [lookup, firstData, timed, answered, stale, granted, tryRefresh]⟩
          simpa [lookup, timed, answered, stale, granted, tryRefresh] using
            Guarded.skipped (by simp [entered, granted])
        | throws error =>
          refine ⟨?_, by simp [lookup, firstData, timed, answered, stale, granted]⟩
          simpa [lookup, timed, answered, stale, granted] using
            Guarded.skipped (by simp [entered, granted])
      · have fresh (present : data.present = true) (old : isStale options.staleTime ttl = true) :
            False := stale ⟨present, old⟩
        refine ⟨?_, ?_⟩
        · have skipped : ¬ Refreshes options outcomes := by
            simpa [Refreshes, firstData, timed, answered] using fun present old =>
              (fresh present old).elim
          simpa [lookup, timed, answered, stale] using Guarded.skipped skipped
        · simpa [lookup, firstData, timed, answered, stale] using fun present old =>
            (fresh present old).elim
  · -- Without a stale time nothing is stale.
    have never (ttl : Option Rat) : isStale options.staleTime ttl = false := by
      cases unset : truthy options.staleTime <;> simp_all [isStale]
    refine ⟨?_, ?_⟩
    · have unchanged : (lookup options outcomes trace).2 = trace := by
        cases answered : outcomes.get <;> simp [lookup, timed, answered]
      rw [unchanged]
      exact .skipped (by simp [Refreshes, never])
    · cases answered : outcomes.get <;> simp [lookup, firstData, timed, answered, never]

theorem locksReturned_iff {refreshes refreshed misses missed : Prop} {middle after : List LockEvent}
    {cachedResult : Bool} (first : Guarded .refresh refreshes refreshed [] middle)
    (second : Guarded .miss misses missed middle after) :
    LocksReturned ⟨after, cachedResult⟩ ↔ (refreshes → refreshed) ∧ (misses → missed) := by
  have kinds (p : LockKind → Prop) : (∀ kind, p kind) ↔ p .refresh ∧ p .miss :=
    ⟨fun all => ⟨all _, all _⟩, fun both kind => by cases kind; exacts [both.2, both.1]⟩
  unfold LocksReturned
  rw [kinds]
  cases first <;> cases second <;> simp_all

theorem middlewareWithLock_events [DecidableEq β] (options : Options β) (outcomes : Outcomes β ε) :
    ∃ middle, Guarded .refresh (Refreshes options outcomes) (RefreshReturns outcomes) [] middle ∧
      Guarded .miss (Misses options outcomes) (MissReturns outcomes) middle
        (traceOf options outcomes).events := by
  obtain ⟨guarded, settles⟩ := lookup_spec options outcomes ⟨[], false⟩
  refine ⟨_, guarded, ?_⟩
  simp only [Misses, ← settles]
  unfold traceOf middlewareWithLock
  rcases result : lookup options outcomes ⟨[], false⟩ with ⟨looked, middle⟩
  cases looked with
  | rejected error =>
    simp only [Promise.bind_eq, Promise.andThen, result]
    exact .skipped (by simp)
  | pending =>
    simp only [Promise.bind_eq, Promise.andThen, result]
    exact .skipped (by simp)
  | fulfilled data =>
    by_cases missing : data = options.missingResponse
    · subst missing
      cases granted : outcomes.lock with
      | rejects error =>
        simpa [Promise.andThen, result, granted] using Guarded.skipped (by simp)
      | throws error =>
        simpa [Promise.andThen, result, granted] using Guarded.skipped (by simp)
      | resolves value =>
        have guarded := missLocked_events outcomes middle
        simpa [Promise.andThen, result, granted] using guarded
    · simpa [Promise.andThen, result, missing] using Guarded.skipped (by simp)

end Sections

section Queue

variable {κ ω : Type} [DecidableEq κ]

/-- A key that is absent has no holder, and a present one has a single holder. -/
def KeyExclusive (unlocks : ω → Nat) (key : κ) : Option (List ω) → List (κ × ω) → Prop
  | none, holders => holders = []
  | some queue, holders => ∃ client, holders = [(key, client)] ∧ unlocks client = 1 ∧
    ∀ waiting ∈ queue, unlocks waiting = 1

/-- Every key has at most one holder, and whoever holds it or waits for it unlocks once. -/
def Exclusive (unlocks : ω → Nat) (world : LockWorld κ ω) : Prop :=
  ∀ key, KeyExclusive unlocks key (world.lock.locked.get key) (world.holders key)

variable {world : LockWorld κ ω} (lock : Lock κ ω)

theorem holders_grant (holding : List (κ × ω)) (key other : κ) (client : ω) :
    LockWorld.holders ⟨lock, holding ++ [(key, client)]⟩ other =
      LockWorld.holders ⟨lock, holding⟩ other ++ if key = other then [(key, client)] else [] := by
  by_cases same : key = other <;> simp [LockWorld.holders, same]

theorem holders_lock (world : LockWorld κ ω) (key : κ) :
    LockWorld.holders ⟨lock, world.holding⟩ key = world.holders key := rfl

theorem Exclusive.acquire {unlocks : ω → Nat} (exclusive : Exclusive unlocks world) (key : κ)
    {client : ω} (once : unlocks client = 1) :
    Exclusive unlocks (world.acquire key client) := by
  intro other
  have before := exclusive other
  by_cases same : other = key
  · subst same
    cases found : world.lock.locked.get other with
    | none =>
      simp only [found, KeyExclusive] at before
      simp [LockWorld.acquire, Lock.acquire, found, OrderedMap.get_set, KeyExclusive,
        holders_grant, holders_lock, before, once]
    | some queue =>
      simp only [found, KeyExclusive] at before
      obtain ⟨holder, held, honest, waiting⟩ := before
      simp only [LockWorld.acquire, Lock.acquire, found, OrderedMap.get_set, if_true, KeyExclusive]
      refine ⟨holder, held, honest, fun client' member => ?_⟩
      rcases List.mem_append.mp member with queued | joined
      · exact waiting client' queued
      · rw [List.mem_singleton.mp joined, once]
  · have elsewhere : key ≠ other := fun equal => same equal.symm
    cases found : world.lock.locked.get key <;>
      simpa [LockWorld.acquire, Lock.acquire, found, OrderedMap.get_set, same, elsewhere,
        LockWorld.holders] using before

theorem Exclusive.holder_of_waiters {unlocks : ω → Nat} {key : κ}
    (exclusive : Exclusive unlocks world) (waited : world.lock.waiters key ≠ []) :
    ∃ holder, (key, holder) ∈ world.holding := by
  have before := exclusive key
  cases found : world.lock.locked.get key with
  | none => simp [Lock.waiters, found] at waited
  | some queue =>
    simp only [found, KeyExclusive] at before
    obtain ⟨holder, alone, _⟩ := before
    have member : (key, holder) ∈ world.holders key := by simp [alone]
    exact ⟨holder, (List.mem_filter.mp member).1⟩

variable [DecidableEq ω]

theorem holders_erase (holding : List (κ × ω)) (key other : κ) (client : ω) :
    LockWorld.holders ⟨lock, holding.erase (key, client)⟩ other =
      (LockWorld.holders ⟨lock, holding⟩ other).erase (key, client) := by
  exact List.erase_filter.symm

/-- The end of a section passes the key to the first client of the queue. -/
theorem Exclusive.finish {unlocks : ω → Nat} {world : LockWorld κ ω}
    (exclusive : Exclusive unlocks world) {key : κ} {client : ω}
    (held : (key, client) ∈ world.holding) :
    Exclusive unlocks (world.step unlocks (.finish key client)) ∧
      ∀ next rest, world.lock.waiters key = next :: rest →
        (key, next) ∈ (world.step unlocks (.finish key client)).holding ∧
        (world.step unlocks (.finish key client)).lock.waiters key = rest := by
  have holder : (key, client) ∈ world.holders key := by simpa [LockWorld.holders] using held
  have before := exclusive key
  cases found : world.lock.locked.get key with
  | none =>
    simp only [found, KeyExclusive] at before
    rw [before] at holder
    cases holder
  | some queue =>
    simp only [found, KeyExclusive] at before
    obtain ⟨only, alone, once, waiting⟩ := before
    obtain rfl : client = only := by simpa [alone] using holder
    have others (other : κ) (differs : other ≠ key) :
        (world.holders other).erase (key, client) = world.holders other :=
      List.erase_of_not_mem (by simp [LockWorld.holders, differs.symm])
    simp only [LockWorld.step, held, if_true, once, LockWorld.release, Lock.release, found]
    cases queue with
    | nil =>
      refine ⟨fun other => ?_, by simp [Lock.waiters, found]⟩
      by_cases same : other = key
      · subst same
        simp [OrderedMap.get_delete, KeyExclusive, holders_erase, holders_lock, alone]
      · simp only [OrderedMap.get_delete, same, if_false, holders_erase, holders_lock,
          others other same]
        exact exclusive other
    | cons next rest =>
      refine ⟨fun other => ?_, by simp [Lock.waiters, found, OrderedMap.get_set]⟩
      by_cases same : other = key
      · subst same
        obtain ⟨nextOnce, restOnce⟩ := List.forall_mem_cons.mp waiting
        simpa [OrderedMap.get_set, KeyExclusive, holders_grant, holders_erase, holders_lock, alone,
          nextOnce] using restOnce
      · simp only [OrderedMap.get_set, same, if_false, holders_grant, holders_erase, holders_lock,
          others other same, Ne.symm same, List.append_nil]
        exact exclusive other

theorem Exclusive.step {unlocks : ω → Nat} {world : LockWorld κ ω}
    (exclusive : Exclusive unlocks world) {input : LockInput κ ω}
    (once : ∀ client, input.enters = some client → unlocks client = 1) :
    Exclusive unlocks (world.step unlocks input) := by
  cases input with
  | acquire key client => exact exclusive.acquire key (once client rfl)
  | tryLock key client =>
    simp only [LockWorld.step]
    split
    · exact exclusive
    · exact exclusive.acquire key (once client rfl)
  | finish key client =>
    by_cases held : (key, client) ∈ world.holding
    · exact (exclusive.finish held).1
    · simpa only [LockWorld.step, held, if_false] using exclusive

/-- A client with `front` ahead of it holds the key after that many sections and one more end. -/
theorem Exclusive.served {unlocks : ω → Nat} {key : κ} {client : ω} {back : List ω} (front : List ω)
    (exclusive : Exclusive unlocks world)
    (queued : world.lock.waiters key = front ++ client :: back) :
    ∃ enders : List ω, enders.length = front.length + 1 ∧
      (key, client) ∈ (run (LockWorld.step unlocks) world
        (enders.map (LockInput.finish key))).holding := by
  induction front generalizing world with
  | nil =>
    obtain ⟨holder, held⟩ := exclusive.holder_of_waiters (by rw [queued]; simp)
    exact ⟨[holder], rfl, ((exclusive.finish held).2 client back queued).1⟩
  | cons next front ih =>
    obtain ⟨holder, held⟩ := exclusive.holder_of_waiters (by rw [queued]; simp)
    obtain ⟨kept, passes⟩ := exclusive.finish held
    obtain ⟨enders, counted, served⟩ := ih kept (passes next (front ++ client :: back) queued).2
    exact ⟨holder :: enders, by simp [counted], served⟩

end Queue

section Requests

variable {κ β ε : Type}

/-- A request in its critical section, told apart from others by a number. -/
structure Request (β ε : Type) where
  number : Nat
  kind : LockKind
  outcomes : Outcomes β ε
  deriving DecidableEq

/-- How often the section of a request calls its unlock function. -/
def Request.unlocks (request : Request β ε) : Nat :=
  match request.kind with
  | .miss => (missSection request.outcomes ⟨[], false⟩).2.events.length
  | .refresh => (refreshSection request.outcomes ⟨[], false⟩).2.events.length

/-- The section of the request gives its lock back. -/
def Request.Returns (request : Request β ε) : Prop :=
  match request.kind with
  | .miss => MissReturns request.outcomes
  | .refresh => RefreshReturns request.outcomes

theorem Request.Returns.unlocks_eq_one {request : Request β ε} (returns : request.Returns) :
    request.unlocks = 1 := by
  rcases request with ⟨number, kind, outcomes⟩
  cases kind with
  | miss =>
    rcases missSection_events outcomes ⟨[], false⟩ with ⟨_, events⟩ | ⟨keeps, _⟩
    · simp [Request.unlocks, events]
    · exact absurd returns keeps
  | refresh =>
    rcases refreshSection_events outcomes ⟨[], false⟩ with ⟨_, events⟩ | ⟨keeps, _⟩
    · simp [Request.unlocks, events]
    · exact absurd returns keeps

/-- Locks come back from exactly the requests whose steps end well enough, and when all requests
are such, a request that waits for a key gets it after the sections ahead of it have ended. -/
theorem locks_returned_iff [DecidableEq κ] [DecidableEq β] [DecidableEq ε] :
    (∀ (options : Options β) (outcomes : Outcomes β ε),
      LocksReturned (traceOf options outcomes) ↔
        (Refreshes options outcomes → RefreshReturns outcomes) ∧
        (Misses options outcomes → MissReturns outcomes)) ∧
    ∀ inputs : List (LockInput κ (Request β ε)),
      Meets (LockWorld.step Request.unlocks)
        (fun _ input => ∀ request, input.enters = some request → request.Returns) .empty inputs →
      ∀ key request front back,
        (run (LockWorld.step Request.unlocks) .empty inputs).lock.waiters key
          = front ++ request :: back →
        ∃ enders : List (Request β ε), enders.length = front.length + 1 ∧
          (key, request) ∈ (run (LockWorld.step Request.unlocks)
            (run (LockWorld.step Request.unlocks) .empty inputs)
            (enders.map (LockInput.finish key))).holding := by
  constructor
  · intro options outcomes
    obtain ⟨middle, refresh, miss⟩ := middlewareWithLock_events options outcomes
    exact locksReturned_iff refresh miss
  · intro inputs meets key request front back queued
    have start : Exclusive Request.unlocks (LockWorld.empty : LockWorld κ (Request β ε)) :=
      fun _ => rfl
    have kept (world : LockWorld κ (Request β ε)) (input : LockInput κ (Request β ε))
        (before : Exclusive Request.unlocks world)
        (returns : ∀ request, input.enters = some request → request.Returns) :
        Exclusive Request.unlocks (world.step Request.unlocks input) :=
      before.step fun entering entered => (returns entering entered).unlocks_eq_one
    exact (run_invariant kept start meets).served front queued

/-- A request whose steps all succeed. -/
def steadyRequest (number : Nat) : Request Nat String where
  number := number
  kind := .miss
  outcomes :=
    { get := .resolves .undefined
      getWithTTL := .resolves (.undefined, none)
      lock := .resolves ()
      secondGet := .resolves .undefined
      handler := .resolves (.value 1)
      set := .resolves ()
      tryLock := .resolves ()
      refreshHandler := .resolves (.value 1)
      refreshSet := .resolves ()
      del := .resolves () }

theorem locks_returned_iff_steady :
    LocksReturned (traceOf ⟨none, .undefined⟩ (steadyRequest 0).outcomes) ∧
    ∃ enders : List (Request Nat String), enders.length = 1 ∧
      ("posts", steadyRequest 1) ∈ (run (LockWorld.step Request.unlocks)
        (run (LockWorld.step Request.unlocks) .empty
          [.acquire "posts" (steadyRequest 0), .acquire "posts" (steadyRequest 1)])
        (enders.map (LockInput.finish "posts"))).holding := by
  have returns (number : Nat) : MissReturns (steadyRequest number).outcomes :=
    ⟨.undefined, rfl, .inr ⟨by simp [steadyRequest], .inr (by simp [steadyRequest])⟩⟩
  have laws := @locks_returned_iff String Nat String _ _ _
  constructor
  · refine (laws.1 _ _).mpr ⟨fun refreshes => ?_, fun _ => returns 0⟩
    simp [Refreshes, firstData, truthy, steadyRequest, JsValue.present] at refreshes
  · refine laws.2 [.acquire "posts" (steadyRequest 0), .acquire "posts" (steadyRequest 1)]
      ⟨?_, ?_, trivial⟩ "posts" (steadyRequest 1) [] [] (by decide)
    · rintro request ⟨rfl⟩
      exact returns 0
    · rintro request ⟨rfl⟩
      exact returns 1

/-- A rejection of the lookup after the lock was granted leaves the key locked. -/
theorem rejected_second_get_keeps_lock :
    ¬ LocksReturned (traceOf (⟨none, .undefined⟩ : Options Nat)
      { (steadyRequest 0).outcomes with secondGet := .rejects "connection lost" }) := by
  intro returned
  exact absurd (returned .miss) (by decide)

end Requests

end Moleculer.Cacher
