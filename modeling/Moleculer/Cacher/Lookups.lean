import Moleculer.Cacher.Memory

/-! Reading an entry with and without its remaining time, in the three cachers. -/

namespace Moleculer.Cacher

open Base

variable {β σ ρ ε : Type}

/-- What the LRU container offers: `has` does not see stale items, and `get` may renew an item. -/
structure LruContainer (σ β : Type) where
  has : σ → Rat → String → Bool
  get : σ → Rat → String → JsValue β × σ

/-- The memory LRU cacher over its container. -/
structure MemoryLRUCacher (σ β : Type) where
  opts : MemoryOptions β
  container : LruContainer σ β

namespace MemoryLRUCacher

/-- Get data from cache by key. -/
def get (cacher : MemoryLRUCacher σ β) (cache : σ) (now : Rat) (key : String) : JsValue β × σ :=
  if cacher.container.has cache now key then
    let (item, after) := cacher.container.get cache now key
    match cacher.opts.clone with
    | some clone => (clone item, after)
    | none => (item, after)
  else (cacher.opts.missingResponse, cache)

/-- Get data from cache by key: there is no way to get the ttl of the LRU cache. -/
def getWithTTL (cacher : MemoryLRUCacher σ β) (cache : σ) (now : Rat) (key : String) :
    Answer β (Option Rat) × σ :=
  let (data, after) := cacher.get cache now key
  (⟨data, none⟩, after)

end MemoryLRUCacher

/-- The commands of the Redis client, where a missing key is answered by null. -/
structure RedisClient (σ ρ ε : Type) where
  getBuffer : σ → Rat → String → Except ε (Option ρ) × σ
  /-- A pipeline of `getBuffer` and `ttl` for one key. -/
  pipeline : σ → Rat → String → (Except ε (Option ρ) × Except ε Int) × σ

/-- The pipeline reads what the single command reads, the time to live of a key can be asked for
whether it exists or not, and no later answer depends on which of the two was used to read. -/
structure RedisClient.Documented (client : RedisClient σ ρ ε) : Prop where
  sameBuffer : ∀ server now key,
    (client.pipeline server now key).1.1 = (client.getBuffer server now key).1
  hasTTL : ∀ server now key, ∃ seconds, (client.pipeline server now key).1.2 = .ok seconds
  readsOnly : ∀ server now later key other, now ≤ later →
    (client.getBuffer (client.pipeline server now key).2 later other).1 =
      (client.getBuffer (client.getBuffer server now key).2 later other).1

/-- The Redis cacher, whose serializer may fail on stored bytes. -/
structure RedisCacher (ρ β : Type) where
  keyPrefix : String
  missingResponse : JsValue β
  deserialize : ρ → Option (JsValue β)

namespace RedisCacher

/-- Get data from cache by key. -/
def get (cacher : RedisCacher ρ β) (client : RedisClient σ ρ ε) (server : σ) (now : Rat)
    (key : String) : Except ε (JsValue β) × σ :=
  let (reply, after) := client.getBuffer server now (cacher.keyPrefix ++ key)
  let result := match reply with
    | .error error => .error error
    | .ok (some data) =>
      match cacher.deserialize data with
      | some res => .ok res
      -- Redis result parse error.
      | none => .ok cacher.missingResponse
    | .ok none => .ok cacher.missingResponse
  (result, after)

/-- Get data and ttl from cache by key. -/
def getWithTTL (cacher : RedisCacher ρ β) (client : RedisClient σ ρ ε) (server : σ) (now : Rat)
    (key : String) : Except ε (Answer β Int) × σ :=
  let ((resBuffer, resTTL), after) := client.pipeline server now (cacher.keyPrefix ++ key)
  let result := match resBuffer, resTTL with
    | .error error, _ => .error error
    | .ok _, .error error => .error error
    | .ok (some data), .ok ttl =>
      match cacher.deserialize data with
      | some res => .ok ⟨res, ttl⟩
      -- Redis result parse error.
      | none => .ok ⟨cacher.missingResponse, ttl⟩
    | .ok none, .ok ttl => .ok ⟨.null, ttl⟩
  (result, after)

end RedisCacher

namespace MemoryCacher

variable (cacher : MemoryCacher β) (now : Rat) (key : String)

/-- The entry was alive when it was read, and is found at a time when it would have expired. -/
def Extended (later : Rat) (found : JsValue β) : Prop :=
  ∃ entry, cacher.cache.get key = some entry ∧ (truthy cacher.opts.ttl).isSome ∧
    entry.expired now = false ∧ entry.expired later = true ∧ found = cacher.cloned entry.data

/-- Reading with the remaining time finds what `get` would find and leads to the same answers
afterwards, apart from a longer life of an entry that was alive. -/
def Agrees : Prop :=
  (cacher.getWithTTL now key).1.data = (cacher.get now key).1 ∧
    ∀ later, now ≤ later → ∀ other,
      ((cacher.getWithTTL now key).2.get later other).1 =
          ((cacher.get now key).2.get later other).1 ∨
        other = key ∧
          cacher.Extended now key later ((cacher.getWithTTL now key).2.get later other).1

/-- A time of expiry that is no earlier than another one. -/
def Outlasts (new old : Option Rat) : Prop :=
  ∀ time, truthy new = some time → ∃ expire, truthy old = some expire ∧ expire ≤ time

/-- The entry, if there is one, holds the missing response, or it is alive and its life is not
shortened by the default time to live. -/
def Readable : Prop :=
  ∀ entry, cacher.cache.get key = some entry →
    cacher.cloned entry.data = cacher.opts.missingResponse ∨
      entry.expired now = false ∧
        ∀ seconds, truthy cacher.opts.ttl = some seconds →
          Outlasts (some (now + seconds * 1000)) entry.expire

variable {cacher now key}

/-- A lookup with the remaining time finds a readable entry as `get` does. -/
theorem Readable.data (readable : cacher.Readable now key) :
    (cacher.getWithTTL now key).1.data = (cacher.get now key).1 := by
  rw [getWithTTL_data, get_fst]
  cases found : cacher.cache.get key with
  | none => rfl
  | some entry =>
    -- Only an expired entry is looked at differently, and that one holds the missing response.
    rcases readable entry found with missing | ⟨alive, -⟩
    · simp [valueOf, missing]
    · simp [valueOf, alive]

theorem Outlasts.expired {entry : Entry β} {time later : Rat}
    (outlasts : Outlasts (some time) entry.expire)
    (expired : ({ entry with expire := some time } : Entry β).expired later = true) :
    entry.expired later = true := by
  unfold Entry.expired at expired ⊢
  cases known : truthy (some time) with
  | none => simp [known] at expired
  | some renewed =>
    obtain ⟨expire, old, le⟩ := outlasts renewed known
    simp only [known, old, decide_eq_true_eq] at expired ⊢
    exact lt_of_le_of_lt le expired

theorem Readable.later (readable : cacher.Readable now key) (later : Rat) :
    cacher.valueOf later ((cacher.cache.get key).map (cacher.renew now)) =
        cacher.valueOf later (cacher.cache.get key) ∨
      cacher.Extended now key later
        (cacher.valueOf later ((cacher.cache.get key).map (cacher.renew now))) := by
  cases found : cacher.cache.get key with
  | none => exact .inl rfl
  | some entry =>
    cases default : truthy cacher.opts.ttl with
    | none => exact .inl (by simp [renew, default])
    | some seconds =>
      simp only [Option.map_some, renew, default, valueOf]
      rcases readable entry found with missing | ⟨alive, outlasts⟩
      · -- Wherever the missing response is found, it cannot be told from a missing entry.
        rw [missing, ite_self, ite_self]
        exact .inl rfl
      · -- The renewed entry is expired only when the old one is.
        by_cases renewed :
            ({ entry with expire := some (now + seconds * 1000) } : Entry β).expired later = true
        · rw [if_pos renewed, if_pos ((outlasts seconds default).expired renewed)]
          exact .inl rfl
        · rw [if_neg renewed]
          by_cases expired : entry.expired later = true
          · exact .inr ⟨entry, found, by simp [default], alive, expired, rfl⟩
          · rw [if_neg expired]
            exact .inl rfl

theorem exists_expired {entry : Entry β} {time : Rat} (alive : entry.expired now = false)
    (short : ¬ Outlasts (some time) entry.expire) :
    ∃ later, now ≤ later ∧ entry.expired later = false ∧
      ({ entry with expire := some time } : Entry β).expired later = true := by
  unfold Outlasts at short
  push Not at short
  obtain ⟨renewed, known, earlier⟩ := short
  unfold Entry.expired at alive ⊢
  simp only [known]
  cases old : truthy entry.expire with
  | none =>
    -- The entry was to live forever, so any late time will do.
    exact ⟨max now (renewed + 1), le_max_left _ _, rfl,
      decide_eq_true (lt_of_lt_of_le (lt_add_one renewed) (le_max_right _ _))⟩
  | some expire =>
    have before : renewed < expire := earlier expire old
    simp only [old, decide_eq_false_iff_not, not_lt] at alive
    exact ⟨expire, alive, by simp, decide_eq_true before⟩

/-- Reading with the remaining time agrees with `get` exactly for readable entries. -/
theorem agrees_iff (cacher : MemoryCacher β) (now : Rat) (key : String) :
    cacher.Agrees now key ↔ cacher.Readable now key := by
  constructor
  · intro ⟨data, after⟩ entry found
    by_cases missing : cacher.cloned entry.data = cacher.opts.missingResponse
    · exact .inl missing
    refine .inr ?_
    have alive : entry.expired now = false := by
      rw [getWithTTL_data, get_fst, found] at data
      by_contra expired
      rw [Bool.not_eq_false] at expired
      exact missing (by simpa [valueOf, expired] using data)
    refine ⟨alive, fun seconds default => ?_⟩
    by_contra short
    obtain ⟨later, le, alone, past⟩ := exists_expired alive short
    -- At that time the renewed entry is gone, and the entry itself would be found.
    have gone : ((cacher.getWithTTL now key).2.get later key).1 = cacher.opts.missingResponse := by
      rw [getWithTTL_get, if_pos rfl, found]
      simp [renew, default, valueOf, past]
    have kept : ((cacher.get now key).2.get later key).1 = cacher.cloned entry.data := by
      rw [get_get le, get_fst, found]
      simp [valueOf, alone]
    rcases after later le key with same | ⟨-, other, present, -, -, expired, -⟩
    · exact missing (by rw [← kept, ← same, gone])
    · rw [found, Option.some.injEq] at present
      rw [← present, alone] at expired
      cases expired
  · intro readable
    refine ⟨readable.data, fun later le other => ?_⟩
    rw [get_get le, getWithTTL_get, get_fst]
    by_cases same : other = key
    · subst same
      rw [if_pos rfl]
      exact (readable.later later).imp id fun extended => ⟨rfl, extended⟩
    · rw [if_neg same]
      exact .inl rfl

end MemoryCacher

namespace RedisCacher

variable (cacher : RedisCacher ρ β) (client : RedisClient σ ρ ε) (server : σ) (now : Rat)
  (key : String)

/-- Reading with the remaining time finds what `get` would find, or fails as `get` does, and leads
to the same answers afterwards. -/
def Agrees : Prop :=
  (cacher.getWithTTL client server now key).1.map Answer.data =
      (cacher.get client server now key).1 ∧
    ∀ later, now ≤ later → ∀ other,
      (cacher.get client (cacher.getWithTTL client server now key).2 later other).1 =
        (cacher.get client (cacher.get client server now key).2 later other).1

/-- A key that Redis does not have is told apart by null. -/
def Readable : Prop :=
  (client.getBuffer server now (cacher.keyPrefix ++ key)).1 = .ok none →
    cacher.missingResponse = .null

variable {client}

/-- Reading with the remaining time agrees with `get` exactly for readable keys. -/
theorem agrees_iff (documented : client.Documented) :
    cacher.Agrees client server now key ↔ cacher.Readable client server now key := by
  have after (later : Rat) (le : now ≤ later) (other : String) :
      (cacher.get client (cacher.getWithTTL client server now key).2 later other).1 =
        (cacher.get client (cacher.get client server now key).2 later other).1 := by
    have reply := documented.readsOnly server now later (cacher.keyPrefix ++ key)
      (cacher.keyPrefix ++ other) le
    simp only [get, getWithTTL, reply]
  obtain ⟨seconds, left⟩ := documented.hasTTL server now (cacher.keyPrefix ++ key)
  have reply := documented.sameBuffer server now (cacher.keyPrefix ++ key)
  rw [Agrees, and_iff_left after, Readable]
  simp only [get, getWithTTL, left, reply]
  -- The two methods treat all replies alike except for a missing key.
  cases (client.getBuffer server now (cacher.keyPrefix ++ key)).1 with
  | error error => simp [Except.map]
  | ok data =>
    cases data with
    | none => simp [Except.map, eq_comm]
    | some bytes => cases decoded : cacher.deserialize bytes <;> simp [Except.map, decoded]

end RedisCacher

namespace MemoryLRUCacher

/-- Reading with the remaining time is `get` itself. -/
def Agrees (cacher : MemoryLRUCacher σ β) (cache : σ) (now : Rat) (key : String) : Prop :=
  (cacher.getWithTTL cache now key).1.data = (cacher.get cache now key).1 ∧
    ∀ later, now ≤ later → ∀ other,
      (cacher.get (cacher.getWithTTL cache now key).2 later other).1 =
        (cacher.get (cacher.get cache now key).2 later other).1

end MemoryLRUCacher

/-- Reading an entry with its remaining time agrees with `get` for the memory cacher unless the
entry is expired or is renewed to a shorter life, for the LRU cacher always, and for the Redis
cacher unless the key is missing and the missing response is not null. -/
theorem getWithTTL_agrees_iff {client : RedisClient σ ρ ε} (documented : client.Documented) :
    (∀ (cacher : MemoryCacher β) now key, cacher.Agrees now key ↔ cacher.Readable now key) ∧
    (∀ (cacher : MemoryLRUCacher σ β) cache now key, cacher.Agrees cache now key) ∧
    ∀ (cacher : RedisCacher ρ β) server now key,
      cacher.Agrees client server now key ↔ cacher.Readable client server now key :=
  ⟨MemoryCacher.agrees_iff, fun _ _ _ _ => ⟨rfl, fun _ _ _ => rfl⟩,
    fun cacher server now key => cacher.agrees_iff server now key documented⟩

/-- A client of a server whose keys never expire. -/
def lastingClient : RedisClient (String → Option String) String String where
  getBuffer server _ key := (.ok (server key), server)
  pipeline server _ key :=
    ((.ok (server key), .ok (if (server key).isSome then -1 else -2)), server)

/-- With that client, the three cachers read as stated. -/
theorem getWithTTL_agrees_iff_lasting :
    (∀ (cacher : MemoryCacher Nat) now key, cacher.Agrees now key ↔ cacher.Readable now key) ∧
    (∀ (cacher : MemoryLRUCacher (String → Option String) Nat) cache now key,
      cacher.Agrees cache now key) ∧
    ∀ (cacher : RedisCacher String Nat) server now key,
      cacher.Agrees lastingClient server now key ↔ cacher.Readable lastingClient server now key :=
  getWithTTL_agrees_iff ⟨fun _ _ _ => rfl, fun _ _ _ => ⟨_, rfl⟩, fun _ _ _ _ _ _ => rfl⟩

/-- A memory cacher with one entry that expires after one second. -/
def shortLived : MemoryCacher Nat :=
  (MemoryCacher.set ⟨⟨none, .undefined, none⟩, .empty⟩ 0 "posts.find" (.value 5) (some 1)).2

/-- After two seconds `get` misses the entry, and the lookup with the remaining time finds it; the
Redis cacher answers null instead of undefined for a missing key. -/
theorem expired_entry_read :
    (shortLived.get 2000 "posts.find").1 = .undefined ∧
    (shortLived.getWithTTL 2000 "posts.find").1.data = .value 5 ∧
    ¬ shortLived.Agrees 2000 "posts.find" ∧
    ¬ RedisCacher.Agrees ⟨"MOL-", .undefined, fun _ => some (.value 5)⟩ lastingClient
      (fun _ => none) 2000 "posts.find" := by
  have missed : (shortLived.get 2000 "posts.find").1 = .undefined := by decide +kernel
  have found : (shortLived.getWithTTL 2000 "posts.find").1.data = .value 5 := by decide +kernel
  refine ⟨missed, found, ?_, ?_⟩
  · intro ⟨same, _⟩
    rw [missed, found] at same
    cases same
  · intro ⟨same, _⟩
    simp [RedisCacher.get, RedisCacher.getWithTTL, lastingClient, Except.map] at same

end Moleculer.Cacher
