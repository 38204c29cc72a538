import Moleculer.Cacher.Sequential

/-! Whether the lock of a cached action can be seen from outside. -/

namespace Moleculer.Cacher

open Base MemoryCacher

variable {β ε : Type} {call : CachedCall β ε} {now : Rat}

theorem MemoryCacher.get_again {cacher : MemoryCacher β} {now : Rat} {key : String}
    (missing : (cacher.get now key).1 = cacher.opts.missingResponse) (later : Rat) :
    ((cacher.get now key).2.get later key).1 = cacher.opts.missingResponse := by
  rw [get_fst] at missing
  rw [get_fst, get_cache, if_pos rfl, get_snd, valueOf_cache]
  cases found : cacher.cache.get key with
  | none => rfl
  | some entry =>
    rw [found, valueOf] at missing
    by_cases expired : entry.expired now = true
    · simp [Option.filter, expired, valueOf]
    · -- The entry holds the missing response itself, so that its expiry makes no difference.
      rw [if_neg expired] at missing
      simp [Option.filter, expired, valueOf, missing]

/-- The request finds a value in the cache. -/
def Hits (cacher : MemoryCacher β) (call : CachedCall β ε) : Prop :=
  ∃ entry, cacher.cache.get call.key = some entry ∧ entry.expired call.lookedUp = false ∧
    cacher.cloned entry.data ≠ cacher.opts.missingResponse

theorem hits_iff {cacher : MemoryCacher β} :
    Hits cacher call ↔ (cacher.get call.lookedUp call.key).1 ≠ cacher.opts.missingResponse := by
  rw [get_fst, Hits]
  cases cacher.cache.get call.key with
  | none => simp [valueOf]
  | some entry =>
    by_cases expired : entry.expired call.lookedUp = true
    · simp [valueOf, expired]
    · simp [valueOf, expired]

theorem SameContent.hits_iff {one other : MemoryCacher β} (same : SameContent now one other)
    (le : now ≤ call.lookedUp) : Hits one call ↔ Hits other call := by
  rw [Cacher.hits_iff, Cacher.hits_iff, (same.mono le).get_eq, same.1]

theorem InOrder.le_lookedUp {calls : List (CachedCall β ε)} (ordered : InOrder now calls) :
    ∀ call ∈ calls, now ≤ call.lookedUp := by
  induction calls generalizing now with
  | nil => simp
  | cons first rest ih =>
    obtain ⟨start, again, saved, later⟩ := ordered
    intro call member
    rcases List.mem_cons.mp member with rfl | behind
    · exact start
    · exact (start.trans (again.trans saved)).trans (ih later call behind)

/-- Two sessions with the same content, the first of which has nothing locked. -/
structure Alike (now : Rat) (left right : Session β) : Prop where
  content : SameContent now left.cacher right.cacher
  unlocked : left.lock = .empty

variable {left right : Session β}

/-- The middlewares see the flags of the request cleared. -/
def fresh (session : Session β) : Session β :=
  { session with called := false, cachedResult := false }

theorem Alike.missing (alike : Alike now left right) (start : now ≤ call.lookedUp)
    (miss : ¬ Hits left.cacher call) :
    (left.cacher.get call.lookedUp call.key).1 = left.cacher.opts.missingResponse ∧
      (right.cacher.get call.lookedUp call.key).1 = right.cacher.opts.missingResponse ∧
      (fresh left).lock.locked.get call.key = none := by
  have missRight : ¬ Hits right.cacher call := by
    rwa [← SameContent.hits_iff alike.content start]
  rw [hits_iff, not_not] at miss missRight
  refine ⟨miss, missRight, ?_⟩
  rw [fresh, alike.unlocked]
  rfl

variable [DecidableEq β]

namespace Session

variable (session : Session β)

theorem middleware_hit
    (found : (session.cacher.get call.lookedUp call.key).1 ≠ session.cacher.opts.missingResponse) :
    middlewareWithLock call session = (.fulfilled (session.cacher.get call.lookedUp call.key).1,
        { session with cacher := (session.cacher.get call.lookedUp call.key).2,
                       cachedResult := true }) ∧
      middlewareWithoutLock call session =
        middlewareWithLock call session := by
  simp [middlewareWithLock, middlewareWithoutLock, get, missingResponse, Promise.andThen,
    noteCached, get_opts, found]

theorem middlewareWithoutLock_miss
    (missing : (session.cacher.get call.lookedUp call.key).1 =
      session.cacher.opts.missingResponse) :
    middlewareWithoutLock call session =
      let looked := (session.cacher.get call.lookedUp call.key).2
      match call.handler with
      | .ok result =>
        (.fulfilled result, { session with
          cacher := (looked.set call.saved call.key result call.ttl).2, called := true })
      | .error error => (.rejected error, { session with cacher := looked, called := true }) := by
  cases ending : call.handler <;>
    simp [middlewareWithoutLock, get, set, missingResponse, handler, Promise.andThen, get_opts,
      missing, ending]

theorem release_acquire {lock : Lock String Unit} {key : String}
    (free : lock.locked.get key = none) :
    lock.acquire key () = (⟨lock.locked.set key []⟩, true) ∧
      ((⟨lock.locked.set key []⟩ : Lock String Unit).release key).1 = lock := by
  constructor
  · simp [Lock.acquire, free]
  · simp [Lock.release, OrderedMap.get_set, OrderedMap.delete_set_of_get_none free]

theorem middlewareWithLock_marker (free : session.lock.locked.get call.key = none)
    (missing : (session.cacher.get call.lookedUp call.key).1 =
      session.cacher.opts.missingResponse)
    (marker : session.cacher.opts.missingResponse.present = true) :
    middlewareWithLock call session =
      (.fulfilled session.cacher.opts.missingResponse, { session with
        cacher :=
          ((session.cacher.get call.lookedUp call.key).2.get call.lookedAgain call.key).2,
        cachedResult := true }) := by
  obtain ⟨acquired, released⟩ := release_acquire free
  have again := get_again missing call.lookedAgain
  simp [middlewareWithLock, get, missingResponse, lockKey, noteCached, unlock, Promise.andThen,
    get_opts, missing, acquired, again, marker, released]

theorem middlewareWithLock_miss (free : session.lock.locked.get call.key = none)
    (missing : (session.cacher.get call.lookedUp call.key).1 =
      session.cacher.opts.missingResponse)
    (nullish : session.cacher.opts.missingResponse.present = false) :
    middlewareWithLock call session =
      let looked := ((session.cacher.get call.lookedUp call.key).2.get call.lookedAgain call.key).2
      match call.handler with
      | .ok result =>
        (.fulfilled result, { session with
          cacher := (looked.set call.saved call.key result call.ttl).2, called := true })
      | .error error => (.rejected error, { session with cacher := looked, called := true }) := by
  obtain ⟨acquired, released⟩ := release_acquire free
  have again := get_again missing call.lookedAgain
  cases ending : call.handler <;>
    simp [middlewareWithLock, get, set, missingResponse, lockKey, unlock, handler,
      Promise.andThen, Promise.recover, get_opts, missing, acquired, again, nullish, ending,
      released]

/-- How the asynchronous steps of a request end when it is alone. Nothing is refreshed. -/
def outcomes (call : CachedCall β ε) : Outcomes β ε where
  get := .resolves (session.cacher.get call.lookedUp call.key).1
  getWithTTL := .resolves (session.cacher.get call.lookedUp call.key |>.1, none)
  lock := .resolves ()
  secondGet :=
    .resolves ((session.cacher.get call.lookedUp call.key).2.get call.lookedAgain call.key).1
  handler := match call.handler with
    | .ok result => .resolves result
    | .error error => .rejects error
  set := .resolves ()
  tryLock := .resolves ()
  refreshHandler := .resolves .undefined
  refreshSet := .resolves ()
  del := .resolves ()

/-- A request that is alone is served as the middleware for one request says. -/
theorem middlewareWithLock_eq (free : session.lock.locked.get call.key = none)
    (cleared : session.cachedResult = false) :
    (middlewareWithLock call session).1 = (Cacher.middlewareWithLock
        ⟨none, session.cacher.opts.missingResponse⟩ (session.outcomes call) ⟨[], false⟩).1 ∧
      (middlewareWithLock call session).2.cachedResult =
        (traceOf ⟨none, session.cacher.opts.missingResponse⟩
            (session.outcomes call)).cachedResult := by
  obtain ⟨acquired, _⟩ := release_acquire free
  by_cases missing : (session.cacher.get call.lookedUp call.key).1 =
      session.cacher.opts.missingResponse
  · have again := get_again missing call.lookedAgain
    by_cases marker : session.cacher.opts.missingResponse.present = true
    · simp [middlewareWithLock, Cacher.middlewareWithLock, traceOf, lookup, truthy, missSection,
        outcomes, get, missingResponse, lockKey, noteCached, unlock, note, Cacher.unlock,
        Promise.andThen, get_opts, missing, acquired, again, marker]
    · cases ending : call.handler <;>
        simp [middlewareWithLock, Cacher.middlewareWithLock, traceOf, lookup, truthy, missSection,
          outcomes, get, set, missingResponse, lockKey, unlock, note, Cacher.unlock, handler,
          Promise.andThen, Promise.recover, get_opts, missing, acquired, again, marker, ending,
          cleared]
  · simp [middlewareWithLock, Cacher.middlewareWithLock, traceOf, lookup, truthy, outcomes, get,
      missingResponse, noteCached, Promise.andThen, get_opts, missing]

end Session

theorem Alike.serve_hit (alike : Alike now left right) (start : now ≤ call.lookedUp)
    (saved : call.lookedUp ≤ call.saved) (hit : Hits left.cacher call) :
    (serve Session.middlewareWithLock left call).1 =
        (serve Session.middlewareWithoutLock right call).1 ∧
      Alike call.saved (serve Session.middlewareWithLock left call).2
        (serve Session.middlewareWithoutLock right call).2 ∧
      SameContent call.saved (serve Session.middlewareWithLock left call).2.cacher
        left.cacher := by
  have hitRight := (SameContent.hits_iff alike.content start).mp hit
  have content := alike.content.mono start
  rw [hits_iff] at hit hitRight
  have locked := (Session.middleware_hit (fresh left) hit).1
  have plain := (Session.middleware_hit (fresh right) hitRight).2.trans
    (Session.middleware_hit (fresh right) hitRight).1
  have keptLeft := SameContent.get_self saved left.cacher call.key
  have keptRight := SameContent.get_self saved right.cacher call.key
  simp only [fresh] at locked plain
  simp only [serve, locked, plain]
  refine ⟨?_, ⟨?_, alike.unlocked⟩, keptLeft⟩
  · rw [content.get_eq]
  · exact keptLeft.trans ((content.mono saved).trans keptRight.symm)

theorem Alike.serve_miss (alike : Alike now left right) (start : now ≤ call.lookedUp)
    (again : call.lookedUp ≤ call.lookedAgain) (saved : call.lookedAgain ≤ call.saved)
    (miss : ¬ Hits left.cacher call)
    (nullish : left.cacher.opts.missingResponse.present = false) :
    (serve Session.middlewareWithLock left call).1 =
        (serve Session.middlewareWithoutLock right call).1 ∧
      Alike call.saved (serve Session.middlewareWithLock left call).2
        (serve Session.middlewareWithoutLock right call).2 ∧
      (serve Session.middlewareWithLock left call).2.cacher.opts = left.cacher.opts := by
  obtain ⟨missLeft, missRight, free⟩ := alike.missing start miss
  have locked := Session.middlewareWithLock_miss (fresh left) free missLeft nullish
  have plain := Session.middlewareWithoutLock_miss (fresh right) missRight
  -- The second lookup of the locking middleware leaves the content as it is.
  have looked : SameContent call.saved
      ((left.cacher.get call.lookedUp call.key).2.get call.lookedAgain call.key).2
      (right.cacher.get call.lookedUp call.key).2 := by
    have second := SameContent.get_self saved (left.cacher.get call.lookedUp call.key).2 call.key
    have first := SameContent.get_self (again.trans saved) left.cacher call.key
    have other := SameContent.get_self (again.trans saved) right.cacher call.key
    have content := alike.content.mono (start.trans (again.trans saved))
    exact second.trans (first.trans (content.trans other.symm))
  simp only [fresh] at locked plain
  simp only [serve, locked, plain]
  cases call.handler with
  | ok result =>
    exact ⟨rfl, ⟨looked.set call.key result call.ttl, alike.unlocked⟩,
      (get_opts _ _ _).trans (get_opts _ _ _)⟩
  | error error =>
    exact ⟨rfl, ⟨looked, alike.unlocked⟩, (get_opts _ _ _).trans (get_opts _ _ _)⟩

theorem Alike.serve_marker (alike : Alike now left right) (start : now ≤ call.lookedUp)
    (miss : ¬ Hits left.cacher call)
    (marker : left.cacher.opts.missingResponse.present = true) :
    (serve Session.middlewareWithLock left call).1.called = false ∧
      (serve Session.middlewareWithoutLock right call).1.called = true := by
  obtain ⟨missLeft, missRight, free⟩ := alike.missing start miss
  have locked := Session.middlewareWithLock_marker (fresh left) free missLeft marker
  have plain := Session.middlewareWithoutLock_miss (fresh right) missRight
  simp only [fresh] at locked plain
  simp only [serve, locked, plain]
  cases call.handler <;> exact ⟨trivial, rfl⟩

/-- The requests end alike in both sessions, the handler is called for the same ones, and the same
content is left behind. -/
def ServedAlike (now : Rat) (left right : Session β) (calls : List (CachedCall β ε)) : Prop :=
  (serveAll Session.middlewareWithLock left calls).1 =
      (serveAll Session.middlewareWithoutLock right calls).1 ∧
    SameContent (endTime now calls) (serveAll Session.middlewareWithLock left calls).2.cacher
      (serveAll Session.middlewareWithoutLock right calls).2.cacher

theorem servedAlike_cons {rest : List (CachedCall β ε)} :
    ServedAlike now left right (call :: rest) ↔
      (serve Session.middlewareWithLock left call).1 =
          (serve Session.middlewareWithoutLock right call).1 ∧
        ServedAlike call.saved (serve Session.middlewareWithLock left call).2
          (serve Session.middlewareWithoutLock right call).2 rest := by
  simp [ServedAlike, serveAll, endTime, and_assoc]

theorem Alike.servedAlike_iff {calls : List (CachedCall β ε)} (alike : Alike now left right)
    (ordered : InOrder now calls) :
    ServedAlike now left right calls ↔
      left.cacher.opts.missingResponse.present = false ∨
        ∀ call ∈ calls, Hits left.cacher call := by
  -- By induction on the requests: up to the first miss, the content is the one at the start.
  induction calls generalizing now left right with
  | nil => simp [ServedAlike, serveAll, endTime, alike.content]
  | cons call rest ih =>
    obtain ⟨start, again, saved, later⟩ := ordered
    rw [servedAlike_cons]
    by_cases hit : Hits left.cacher call
    · obtain ⟨same, next, kept⟩ := alike.serve_hit start (again.trans saved) hit
      have hits : (∀ other ∈ rest,
          Hits (serve Session.middlewareWithLock left call).2.cacher other) ↔
          ∀ other ∈ rest, Hits left.cacher other :=
        forall₂_congr fun other member =>
          SameContent.hits_iff kept (later.le_lookedUp other member)
      rw [ih next later, hits, kept.1]
      simp [same, hit]
    · cases nullish : left.cacher.opts.missingResponse.present with
      | false =>
        obtain ⟨same, next, opts⟩ := alike.serve_miss start again saved hit nullish
        rw [ih next later, opts, nullish]
        simp [same]
      | true =>
        -- The caller can tell the two apart by the handler.
        obtain ⟨uncalled, called⟩ := alike.serve_marker start hit nullish
        have differ : (serve Session.middlewareWithLock left call).1 ≠
            (serve Session.middlewareWithoutLock right call).1 := by
          intro same
          rw [same, called] at uncalled
          cases uncalled
        simp [differ, hit]

/-- Locking changes nothing for requests that are served one after the other, exactly when the
missing response is null or undefined or every request finds its value in the cache. -/
theorem lock_unseen_iff {session : Session β} {calls : List (CachedCall β ε)}
    (unlocked : session.lock = .empty) (ordered : InOrder now calls) :
    ServedAlike now session session calls ↔
      session.cacher.opts.missingResponse.present = false ∨
        ∀ call ∈ calls, Hits session.cacher call :=
  Alike.servedAlike_iff ⟨SameContent.refl now session.cacher, unlocked⟩ ordered

/-- An empty cache with a given missing response. -/
def emptySession (missing : JsValue Nat) : Session Nat :=
  ⟨⟨⟨none, missing, none⟩, .empty⟩, .empty, false, false⟩

/-- A request whose handler returns a number. -/
def numberCall (number : Nat) (time : Rat) : CachedCall Nat String :=
  ⟨"posts.count", none, time, time, time, .ok (.value number)⟩

/-- Two requests for an empty cache with the default missing response. -/
theorem lock_unseen_iff_default :
    ServedAlike 0 (emptySession .undefined) (emptySession .undefined)
        [numberCall 5 0, numberCall 6 1] ↔
      (emptySession .undefined).cacher.opts.missingResponse.present = false ∨
        ∀ call ∈ [numberCall 5 0, numberCall 6 1], Hits (emptySession .undefined).cacher call :=
  lock_unseen_iff rfl (by simp [InOrder, numberCall])

/-- With zero as the missing response, the locking middleware never calls the handler. -/
theorem marker_never_handled :
    (serveAll Session.middlewareWithLock (emptySession (.value 0)) [numberCall 5 0]).1 =
        [⟨.fulfilled (.value 0), false⟩] ∧
      (serveAll Session.middlewareWithoutLock (emptySession (.value 0)) [numberCall 5 0]).1 =
        [⟨.fulfilled (.value 5), true⟩] ∧
      ¬ ServedAlike 0 (emptySession (.value 0)) (emptySession (.value 0)) [numberCall 5 0] := by
  have locked : (serveAll Session.middlewareWithLock (emptySession (.value 0))
      [numberCall 5 0]).1 = [⟨.fulfilled (.value 0), false⟩] := by decide +kernel
  have plain : (serveAll Session.middlewareWithoutLock (emptySession (.value 0))
      [numberCall 5 0]).1 = [⟨.fulfilled (.value 5), true⟩] := by decide +kernel
  refine ⟨locked, plain, fun alike => ?_⟩
  have same := alike.1
  rw [locked, plain] at same
  simp at same

end Moleculer.Cacher
