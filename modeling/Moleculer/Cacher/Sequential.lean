import Moleculer.Cacher.Lock
import Moleculer.Cacher.Memory

/-! Requests of a cached action that are served one after the other, with and without a lock. -/

namespace Moleculer.Cacher

open Base

variable {β ε : Type}

/-- What requests share, and the two facts about the current one that can be seen from outside. -/
structure Session (β : Type) where
  cacher : MemoryCacher β
  lock : Lock String Unit
  /-- Whether the handler has been called. -/
  called : Bool
  cachedResult : Bool

/-- One request: its cache key, the times at which it reads and writes the cache, and how its
handler ends. -/
structure CachedCall (β ε : Type) where
  key : String
  ttl : Option Rat
  lookedUp : Rat
  lookedAgain : Rat
  saved : Rat
  handler : Except ε (JsValue β)

namespace Session

/-- The cacher's `get`. -/
def get (now : Rat) (key : String) : Promise (Session β) ε (JsValue β) := fun session =>
  let (data, cacher) := session.cacher.get now key
  (.fulfilled data, { session with cacher := cacher })

/-- The cacher's `set`, which writes at once. -/
def set (now : Rat) (key : String) (data : JsValue β) (ttl : Option Rat) :
    Promise (Session β) ε (JsValue β) := fun session =>
  let (saved, cacher) := session.cacher.set now key data ttl
  (.fulfilled saved, { session with cacher := cacher })

/-- The configured missing response. -/
def missingResponse : Promise (Session β) ε (JsValue β) := fun session =>
  (.fulfilled session.cacher.opts.missingResponse, session)

/-- The cacher's `lock`: without a second request nobody would ever hand over a locked key. -/
def lockKey (key : String) : Promise (Session β) ε Unit := fun session =>
  let (lock, granted) := session.lock.acquire key ()
  (if granted then .fulfilled () else .pending, { session with lock := lock })

/-- The unlock function that comes with a lock. -/
def unlock (key : String) : Promise (Session β) ε Unit :=
  .act fun session => { session with lock := (session.lock.release key).1 }

/-- Set the flag of the context. -/
def noteCached : Promise (Session β) ε Unit :=
  .act fun session => { session with cachedResult := true }

/-- Call the handler of the action. -/
def handler (call : CachedCall β ε) : Promise (Session β) ε (JsValue β) := fun session =>
  let outcome := match call.handler with
    | .ok result => .fulfilled result
    | .error error => .rejected error
  (outcome, { session with called := true })

variable [DecidableEq β]

/-- `Cacher.middlewareWithLock` without `staleTime`. -/
def middlewareWithLock (call : CachedCall β ε) : Promise (Session β) ε (JsValue β) := do
  let data ← get call.lookedUp call.key
  if data ≠ (← missingResponse) then
    -- Found in the cache! Don't call handler, return with the content.
    noteCached
    return data
  else
    -- Not found in the cache! Acquire a lock.
    lockKey call.key
    let content ← get call.lookedAgain call.key
    if content.present then
      noteCached
      unlock call.key
      return content
    else
      Promise.recover
        (do
          let result ← handler call
          let _ ← set call.saved call.key result call.ttl
          unlock call.key
          return result)
        (fun error => do
          unlock call.key
          Promise.reject error)

/-- `Cacher.middlewareWithoutLock`. -/
def middlewareWithoutLock (call : CachedCall β ε) : Promise (Session β) ε (JsValue β) := do
  let content ← get call.lookedUp call.key
  if content ≠ (← missingResponse) then
    -- Found in the cache! Don't call handler, return with the content.
    noteCached
    return content
  else
    let result ← handler call
    let _ ← set call.saved call.key result call.ttl
    return result

end Session

/-- What a caller sees of a request: how it ended, and whether the handler was called for it. -/
structure Served (β ε : Type) where
  result : Settlement ε (JsValue β)
  called : Bool
  deriving DecidableEq

/-- Serve one request by a middleware. -/
def serve (middleware : CachedCall β ε → Promise (Session β) ε (JsValue β)) (session : Session β)
    (call : CachedCall β ε) : Served β ε × Session β :=
  let (result, after) := middleware call { session with called := false, cachedResult := false }
  (⟨result, after.called⟩, after)

/-- Serve requests one after the other. -/
def serveAll (middleware : CachedCall β ε → Promise (Session β) ε (JsValue β)) :
    Session β → List (CachedCall β ε) → List (Served β ε) × Session β
  | session, [] => ([], session)
  | session, call :: rest =>
    let (served, after) := serve middleware session call
    let (others, final) := serveAll middleware after rest
    (served :: others, final)

/-- The clock does not run backwards while the requests are served. -/
def InOrder : Rat → List (CachedCall β ε) → Prop
  | _, [] => True
  | now, call :: rest =>
    now ≤ call.lookedUp ∧ call.lookedUp ≤ call.lookedAgain ∧ call.lookedAgain ≤ call.saved ∧
      InOrder call.saved rest

/-- The time when the last request is through. -/
def endTime : Rat → List (CachedCall β ε) → Rat
  | now, [] => now
  | _, call :: rest => endTime call.saved rest

namespace MemoryCacher

/-- The entry that can still be found under a key. -/
def alive (cacher : MemoryCacher β) (now : Rat) (key : String) : Option (Entry β) :=
  (cacher.cache.get key).filter fun entry => !entry.expired now

/-- Two cachers with the same options and the same entries, where expired entries do not count. -/
def SameContent (now : Rat) (left right : MemoryCacher β) : Prop :=
  left.opts = right.opts ∧ ∀ key, left.alive now key = right.alive now key

variable {now later : Rat} {left right : MemoryCacher β}

theorem get_alive (cacher : MemoryCacher β) (now : Rat) (key : String) :
    (cacher.get now key).1 =
      ((cacher.alive now key).map fun entry => cacher.cloned entry.data).getD
        cacher.opts.missingResponse := by
  rw [get_fst, alive]
  cases cacher.cache.get key with
  | none => rfl
  | some entry =>
    by_cases expired : entry.expired now = true
    · simp [valueOf, expired, Option.filter]
    · simp [valueOf, expired, Option.filter]

theorem alive_later (le : now ≤ later) (cacher : MemoryCacher β) (key : String) :
    cacher.alive later key = (cacher.alive now key).filter fun entry => !entry.expired later := by
  unfold alive
  cases cacher.cache.get key with
  | none => rfl
  | some entry =>
    by_cases expired : entry.expired now = true
    · simp [Option.filter, expired, entry.expired_mono le expired]
    · simp [Option.filter, expired]

namespace SameContent

theorem refl (now : Rat) (cacher : MemoryCacher β) : SameContent now cacher cacher :=
  ⟨rfl, fun _ => rfl⟩

theorem symm (same : SameContent now left right) : SameContent now right left :=
  ⟨same.1.symm, fun key => (same.2 key).symm⟩

theorem trans {third : MemoryCacher β} (first : SameContent now left right)
    (second : SameContent now right third) : SameContent now left third :=
  ⟨first.1.trans second.1, fun key => (first.2 key).trans (second.2 key)⟩

theorem mono (same : SameContent now left right) (le : now ≤ later) :
    SameContent later left right := by
  refine ⟨same.1, fun key => ?_⟩
  rw [alive_later le, alive_later le, same.2]

theorem get_eq (same : SameContent now left right) (key : String) :
    (left.get now key).1 = (right.get now key).1 := by
  unfold SameContent at same
  rw [get_alive, get_alive, same.2]
  simp only [cloned, same.1]

theorem get_self (le : now ≤ later) (cacher : MemoryCacher β) (key : String) :
    SameContent later (cacher.get now key).2 cacher := by
  constructor
  · rw [get_snd]
  · intro other
    unfold alive
    rw [get_cache]
    by_cases same : other = key
    · subst same
      rw [if_pos rfl]
      exact (alive_later le cacher other).symm
    · rw [if_neg same]

theorem set (same : SameContent now left right) (key : String) (data : JsValue β)
    (ttl : Option Rat) :
    SameContent now (left.set now key data ttl).2 (right.set now key data ttl).2 := by
  refine ⟨same.1, fun other => ?_⟩
  have others := same.2 other
  unfold alive at others ⊢
  simp only [MemoryCacher.set, cloned, same.1, OrderedMap.get_set]
  split
  · rfl
  · exact others

end SameContent

end MemoryCacher

end Moleculer.Cacher
