import Moleculer.Base.Promise

/-! The caching middleware that protects the handler of an action by a lock on the cache key. -/

namespace Moleculer.Cacher

open Base

/-- A JavaScript value: the two empty ones are told apart by `===` only. -/
inductive JsValue (β : Type) where
  | undefined
  | null
  | value (content : β)
  deriving DecidableEq, Repr

/-- The loose test `value != null`. -/
def JsValue.present {β : Type} : JsValue β → Bool
  | .value _ => true
  | _ => false

/-- A lock is taken after a miss or to refresh a stale entry. -/
inductive LockKind where
  | miss
  | refresh
  deriving DecidableEq, Repr

/-- What happens to the locks while one request is served. -/
inductive LockEvent where
  | acquired (kind : LockKind)
  | released (kind : LockKind)
  deriving DecidableEq, Repr

/-- The visible effects of one request: its lock events and the flag of its context. -/
structure Trace where
  events : List LockEvent
  cachedResult : Bool
  deriving DecidableEq, Repr

/-- The lock options of an action and the value that stands for a missing entry. -/
structure Options (β : Type) where
  /-- Seconds before expiry from which on an entry is refreshed, where zero counts as unset. -/
  staleTime : Option Rat
  missingResponse : JsValue β

/-- How every asynchronous step of a request ends. -/
structure Outcomes (β ε : Type) where
  get : Call ε (JsValue β)
  getWithTTL : Call ε (JsValue β × Option Rat)
  lock : Call ε Unit
  secondGet : Call ε (JsValue β)
  handler : Call ε (JsValue β)
  set : Call ε Unit
  tryLock : Call ε Unit
  refreshHandler : Call ε (JsValue β)
  refreshSet : Call ε Unit
  del : Call ε Unit
  deriving DecidableEq

variable {β ε : Type} [DecidableEq β]

/-- Record a lock event. -/
def note (event : LockEvent) : Promise Trace ε Unit :=
  .act fun trace => { trace with events := trace.events ++ [event] }

/-- Call the unlock function that came with a lock. -/
def unlock (kind : LockKind) : Promise Trace ε Unit := note (.released kind)

/-- A truthy number of seconds. -/
def truthy : Option Rat → Option Rat
  | some seconds => if seconds = 0 then none else some seconds
  | none => none

/-- An entry is stale when its remaining time is known and below the configured one. -/
def isStale (staleTime ttl : Option Rat) : Bool :=
  match truthy staleTime, truthy ttl with
  | some limit, some left => left < limit
  | _, _ => false

/-- What a background refresh does between taking the lock and its end. -/
def refreshSection (outcomes : Outcomes β ε) : Promise Trace ε Unit := do
  let running ← outcomes.refreshHandler.start
  Promise.recover
    (do
      let _ ← running
      let _ ← outcomes.refreshSet.await
      unlock .refresh)
    (fun _ => do
      let _ ← outcomes.del.await
      unlock .refresh)

/-- What a request does between taking the lock after a miss and its end. -/
def missSection (outcomes : Outcomes β ε) : Promise Trace ε (JsValue β) := do
  let content ← outcomes.secondGet.await
  if content.present then
    -- Cache found. Release the lock and return the value.
    Promise.act fun trace => { trace with cachedResult := true }
    unlock .miss
    return content
  else
    let running ← outcomes.handler.start
    Promise.recover
      (do
        let result ← running
        -- Saving the result and releasing the lock is not awaited.
        let saving ← outcomes.set.start
        Promise.detach (do
          let _ ← saving
          unlock .miss)
        return result)
      (fun error => do
        unlock .miss
        Promise.reject error)

/-- Refresh once the lock is granted: being locked out means that somebody else is refreshing. -/
def tryRefresh (outcomes : Outcomes β ε) (locking : Promise Trace ε Unit) : Promise Trace ε Unit :=
  Promise.recover
    (do
      let _ ← locking
      note (.acquired .refresh)
      refreshSection outcomes)
    (fun _ => Promise.resolve ())

/-- The cache lookup at the start, which may trigger a refresh in the background. -/
def lookup (options : Options β) (outcomes : Outcomes β ε) : Promise Trace ε (JsValue β) :=
  if (truthy options.staleTime).isSome then do
    let (data, ttl) ← outcomes.getWithTTL.await
    if data.present && isStale options.staleTime ttl then
      -- Cache is stale, try to refresh it without waiting for the outcome.
      let locking ← outcomes.tryLock.start
      Promise.detach (tryRefresh outcomes locking)
    return data
  else outcomes.get.await

/-- `Cacher.middlewareWithLock` for one request. -/
def middlewareWithLock (options : Options β) (outcomes : Outcomes β ε) :
    Promise Trace ε (JsValue β) := do
  let data ← lookup options outcomes
  if data ≠ options.missingResponse then
    -- Found in the cache! Don't call handler, return with the content.
    Promise.act fun trace => { trace with cachedResult := true }
    return data
  else
    let _ ← outcomes.lock.await
    note (.acquired .miss)
    missSection outcomes

/-- The effects of one request on its own. -/
def traceOf (options : Options β) (outcomes : Outcomes β ε) : Trace :=
  (middlewareWithLock options outcomes ⟨[], false⟩).2

end Moleculer.Cacher
