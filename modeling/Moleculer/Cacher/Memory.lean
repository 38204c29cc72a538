import Moleculer.Base.OrderedMap
import Moleculer.Cacher.Middleware

/-! The memory cacher: a map from cache keys to entries that may expire. -/

namespace Moleculer.Cacher

open Base

variable {β : Type}

/-- The options of a memory cacher. -/
structure MemoryOptions (β : Type) where
  /-- Seconds that an entry lives by default, where zero counts as unset. -/
  ttl : Option Rat
  missingResponse : JsValue β
  clone : Option (JsValue β → JsValue β)

/-- A stored value and the time in milliseconds when it expires, where zero counts as unset. -/
structure Entry (β : Type) where
  data : JsValue β
  expire : Option Rat

/-- `item.expire && item.expire < now`. -/
def Entry.expired (entry : Entry β) (now : Rat) : Bool :=
  match truthy entry.expire with
  | some expire => expire < now
  | none => false

/-- What a lookup with the remaining time answers. -/
structure Answer (β θ : Type) where
  data : JsValue β
  ttl : θ

/-- The memory cacher with its options and its cache container. -/
structure MemoryCacher (β : Type) where
  opts : MemoryOptions β
  cache : OrderedMap String (Entry β)

namespace MemoryCacher

/-- Data is cloned on its way in and out if a clone function is configured. -/
def cloned (cacher : MemoryCacher β) (data : JsValue β) : JsValue β :=
  match cacher.opts.clone with
  | some clone => clone data
  | none => data

/-- Get data from cache by key. -/
def get (cacher : MemoryCacher β) (now : Rat) (key : String) : JsValue β × MemoryCacher β :=
  match cacher.cache.get key with
  | some item =>
    if item.expired now then
      (cacher.opts.missingResponse, { cacher with cache := cacher.cache.delete key })
    else (cacher.cloned item.data, cacher)
  | none => (cacher.opts.missingResponse, cacher)

/-- The time of expiry of an entry that is written now. -/
def expiry (ttl : Option Rat) (now : Rat) : Option Rat :=
  (truthy ttl).map fun seconds => now + seconds * 1000

/-- Save data to cache by key. -/
def set (cacher : MemoryCacher β) (now : Rat) (key : String) (data : JsValue β)
    (ttl : Option Rat) : JsValue β × MemoryCacher β :=
  let saved := cacher.cloned data
  let entry := ⟨saved, expiry (ttl.or cacher.opts.ttl) now⟩
  (saved, { cacher with cache := cacher.cache.set key entry })

/-- Update expire time (hold in the cache if we are using it). -/
def renew (cacher : MemoryCacher β) (now : Rat) (item : Entry β) : Entry β :=
  match truthy cacher.opts.ttl with
  | some seconds => { item with expire := some (now + seconds * 1000) }
  | none => item

/-- Get data and ttl from cache by key. -/
def getWithTTL (cacher : MemoryCacher β) (now : Rat) (key : String) :
    Answer β (Option Rat) × MemoryCacher β :=
  match cacher.cache.get key with
  | some item =>
    -- A missing time of expiry counts as zero here.
    let left := (item.expire.getD 0 - now) / 1000
    let ttl := if left > 0 then some left else none
    (⟨cacher.cloned item.data, ttl⟩,
      { cacher with cache := cacher.cache.set key (cacher.renew now item) })
  | none => (⟨cacher.opts.missingResponse, none⟩, cacher)

/-- The value that a lookup of an entry finds. -/
def valueOf (cacher : MemoryCacher β) (now : Rat) : Option (Entry β) → JsValue β
  | some entry =>
    if entry.expired now then cacher.opts.missingResponse else cacher.cloned entry.data
  | none => cacher.opts.missingResponse

variable (cacher : MemoryCacher β) (now : Rat) (key : String)

theorem get_fst :
    (cacher.get now key).1 = cacher.valueOf now (cacher.cache.get key) := by
  unfold get valueOf
  cases cacher.cache.get key with
  | none => rfl
  | some entry => exact apply_ite Prod.fst _ _ _

theorem get_snd :
    (cacher.get now key).2 = { cacher with cache := (cacher.get now key).2.cache } := by
  unfold get
  split
  · split <;> rfl
  · rfl

theorem get_opts :
    (cacher.get now key).2.opts = cacher.opts := by
  rw [get_snd]

theorem valueOf_cache (cache : OrderedMap String (Entry β)) (now : Rat) (entry : Option (Entry β)) :
    ({ cacher with cache := cache } : MemoryCacher β).valueOf now entry =
      cacher.valueOf now entry := by
  cases entry <;> rfl

end MemoryCacher

theorem Entry.expired_mono {entry : Entry β} {now later : Rat} (le : now ≤ later)
    (expired : entry.expired now = true) : entry.expired later = true := by
  unfold Entry.expired at expired ⊢
  cases known : truthy entry.expire with
  | none => simp [known] at expired
  | some expire =>
    simp only [known, decide_eq_true_eq] at expired ⊢
    exact lt_of_lt_of_le expired le

namespace MemoryCacher

variable {cacher : MemoryCacher β} {now later : Rat}

theorem get_cache (cacher : MemoryCacher β) (now : Rat) (key other : String) :
    (cacher.get now key).2.cache.get other =
      if other = key then (cacher.cache.get key).filter fun entry => !entry.expired now
      else cacher.cache.get other := by
  unfold get
  cases found : cacher.cache.get key with
  | none =>
    by_cases same : other = key
    · simp [same, found]
    · simp [same]
  | some entry =>
    by_cases same : other = key
    · by_cases expired : entry.expired now = true <;>
        simp [same, found, expired, OrderedMap.get_delete, Option.filter]
    · by_cases expired : entry.expired now = true <;> simp [same, expired, OrderedMap.get_delete]

theorem get_get (le : now ≤ later) (key other : String) :
    ((cacher.get now key).2.get later other).1 = (cacher.get later other).1 := by
  rw [get_fst, get_fst, get_cache, get_snd, valueOf_cache]
  by_cases same : other = key
  · subst same
    rw [if_pos rfl]
    cases cacher.cache.get other with
    | none => rfl
    | some entry =>
      -- An entry that is removed was expired for good.
      by_cases expired : entry.expired now = true
      · simp [Option.filter, valueOf, expired, entry.expired_mono le expired]
      · simp [Option.filter, expired]
  · rw [if_neg same]

theorem getWithTTL_get (cacher : MemoryCacher β) (now later : Rat) (key other : String) :
    ((cacher.getWithTTL now key).2.get later other).1 =
      cacher.valueOf later (if other = key then (cacher.cache.get key).map (cacher.renew now)
        else cacher.cache.get other) := by
  rw [get_fst]
  unfold getWithTTL
  cases found : cacher.cache.get key with
  | none =>
    by_cases same : other = key
    · subst same
      simp [found]
    · simp [same]
  | some entry =>
    simp only [valueOf_cache, OrderedMap.get_set, Option.map_some]

theorem getWithTTL_data (cacher : MemoryCacher β) (now : Rat) (key : String) :
    (cacher.getWithTTL now key).1.data =
      ((cacher.cache.get key).map fun entry => cacher.cloned entry.data).getD
        cacher.opts.missingResponse := by
  unfold getWithTTL
  cases cacher.cache.get key <;> rfl

end MemoryCacher

end Moleculer.Cacher
