import Moleculer.Base.Run
import Moleculer.Cacher.Memory
import Moleculer.Utils.Match
import Mathlib

/-! The memory cacher as a map whose entries expire. -/

namespace Moleculer.Cacher

open Base Utils

variable {β : Type}

/-- Go through the entries of a map and delete some of them. Deleting the entry that is visited does
not change which ones are visited later. -/
def sweep (drop : String → Entry β → Bool) (cache : OrderedMap String (Entry β)) :
    OrderedMap String (Entry β) :=
  cache.keys.foldl (fun cache key =>
    match cache.get key with
    | some item => if drop key item then cache.delete key else cache
    | none => cache) cache

namespace MemoryCacher

/-- Delete keys from cache. -/
def del (cacher : MemoryCacher β) (keys : List String) : MemoryCacher β :=
  { cacher with cache := keys.foldl OrderedMap.delete cacher.cache }

/-- Clean cache. Remove every key by match. -/
def clean (test : String → String → Bool) (cacher : MemoryCacher β) (matches_ : List String) :
    MemoryCacher β :=
  { cacher with cache := sweep (fun key _ => matches_.any (patternMatch test key)) cacher.cache }

/-- Check and remove the expired cache items. -/
def checkTTL (cacher : MemoryCacher β) (now : Rat) : MemoryCacher β :=
  { cacher with cache := sweep (fun _ item => item.expired now) cacher.cache }

end MemoryCacher

/-- What is done with a cacher. One key or pattern is a list of one. -/
inductive CacheOp (β : Type) where
  | set (key : String) (data : JsValue β) (ttl : Option Rat)
  | get (key : String)
  | del (keys : List String)
  | clean (patterns : List String)
  | checkTTL

/-- A map whose entries expire: what was set last under each key and has not been deleted since. -/
def TimedMap (β : Type) : Type := String → Option (Entry β)

namespace TimedMap

/-- What an operation does to the map. Only writing and deleting do something. -/
def apply (test : String → String → Bool) (ttl : Option Rat) (now : Rat) (map : TimedMap β) :
    CacheOp β → TimedMap β
  | .set key data own => fun other =>
    if other = key then some ⟨data, MemoryCacher.expiry (own.or ttl) now⟩ else map other
  | .del keys => fun other => if other ∈ keys then none else map other
  | .clean patterns => fun other =>
    if patterns.any (patternMatch test other) then none else map other
  | .get _ => map
  | .checkTTL => map

/-- The expiry of an entry has passed. -/
def passed (entry : Entry β) (now : Rat) : Bool := entry.expire.any (· < now)

/-- What a lookup must return. -/
def lookup (missingResponse : JsValue β) (map : TimedMap β) (now : Rat) (key : String) :
    JsValue β :=
  match map key with
  | some entry => if passed entry now then missingResponse else entry.data
  | none => missingResponse

end TimedMap

/-- A cacher, the clock, and the map that it stands for. -/
structure Clocked (β : Type) where
  cacher : MemoryCacher β
  clock : Rat
  map : TimedMap β

namespace Clocked

/-- The cacher after an operation. -/
def perform (test : String → String → Bool) (cacher : MemoryCacher β) (now : Rat) :
    CacheOp β → MemoryCacher β
  | .set key data ttl => (cacher.set now key data ttl).2
  | .get key => (cacher.get now key).2
  | .del keys => cacher.del keys
  | .clean patterns => cacher.clean test patterns
  | .checkTTL => cacher.checkTTL now

/-- One operation, some time after the one before. -/
def step (test : String → String → Bool) (state : Clocked β) (input : ℚ≥0 × CacheOp β) :
    Clocked β :=
  let now := state.clock + input.1
  ⟨perform test state.cacher now input.2, now,
    state.map.apply test state.cacher.opts.ttl now input.2⟩

/-- A cacher that does not clone, at some time. -/
def start (ttl : Option Rat) (missingResponse : JsValue β) (clock : Rat) : Clocked β :=
  ⟨⟨⟨ttl, missingResponse, none⟩, .empty⟩, clock, fun _ => none⟩

/-- A lookup returns what the map has. -/
def Right (state : Clocked β) : ℚ≥0 × CacheOp β → Prop
  | (elapsed, .get key) => (state.cacher.get (state.clock + elapsed) key).1 =
      state.map.lookup state.cacher.opts.missingResponse (state.clock + elapsed) key
  | _ => True

/-- A lookup does not find an entry that expired at the time zero. -/
def Timely (state : Clocked β) : ℚ≥0 × CacheOp β → Prop
  | (elapsed, .get key) => ∀ entry, state.map key = some entry → entry.expire = some 0 →
      0 < state.clock + elapsed → entry.data = state.cacher.opts.missingResponse
  | _ => True

/-- The results of all lookups in a sequence of operations. -/
def results (test : String → String → Bool) :
    Clocked β → List (ℚ≥0 × CacheOp β) → List (JsValue β)
  | _, [] => []
  | state, (elapsed, .get key) :: rest =>
    (state.cacher.get (state.clock + elapsed) key).1 ::
      results test (state.step test (elapsed, .get key)) rest
  | state, input :: rest => results test (state.step test input) rest

end Clocked

theorem get_sweep (drop : String → Entry β → Bool) (cache : OrderedMap String (Entry β))
    (key : String) :
    (sweep drop cache).get key = (cache.get key).filter fun item => !drop key item := by
  -- An entry is visited if it is there; visiting it again would not matter.
  have general (keys : List String) (current : OrderedMap String (Entry β)) :
      (keys.foldl (fun cache key => match cache.get key with
        | some item => if drop key item then cache.delete key else cache
        | none => cache) current).get key =
      if key ∈ keys then (current.get key).filter fun item => !drop key item
      else current.get key := by
    induction keys generalizing current with
    | nil => rfl
    | cons first rest ih =>
      rw [List.foldl_cons, ih]
      have visited : (match current.get first with
          | some item => if drop first item then current.delete first else current
          | none => current).get key =
          if key = first then (current.get key).filter fun item => !drop key item
          else current.get key := by
        by_cases same : key = first
        · subst same
          rw [if_pos rfl]
          cases found : current.get key with
          | none => exact found
          | some item =>
            dsimp only
            by_cases dropped : drop key item = true
            · rw [if_pos dropped, OrderedMap.get_delete, if_pos rfl, Option.filter, dropped]
              rfl
            · rw [if_neg dropped, found, Option.filter, Bool.eq_false_iff.mpr dropped]
              rfl
        · rw [if_neg same]
          split
          · split
            · rw [OrderedMap.get_delete, if_neg same]
            · rfl
          · rfl
      rw [visited]
      by_cases same : key = first
      · subst same
        rw [if_pos rfl, if_pos List.mem_cons_self]
        split
        · rw [Option.filter_filter]
          simp
        · rfl
      · simp [same]
  have whole := general cache.keys cache
  rw [sweep, whole]
  split
  · rfl
  · rename_i absent
    cases found : cache.get key with
    | none => rfl
    | some item => exact absurd (OrderedMap.mem_keys_iff.mpr ⟨item, found⟩) absent

namespace Clocked

variable {test : String → String → Bool} {state : Clocked β}

/-- The cache holds what the map has, except for entries that have expired for good. -/
structure Agrees (state : Clocked β) : Prop where
  faithful : state.cacher.opts.clone = none
  entries : ∀ key, state.cacher.cache.get key = state.map key ∨
    state.cacher.cache.get key = none ∧
      ∃ entry, state.map key = some entry ∧ entry.expired state.clock = true

theorem clock_le (clock : Rat) (elapsed : ℚ≥0) : clock ≤ clock + elapsed :=
  le_add_of_nonneg_right elapsed.coe_nonneg

theorem Agrees.get_fst (agrees : state.Agrees) (elapsed : ℚ≥0) (key : String) :
    (state.cacher.get (state.clock + elapsed) key).1 =
      state.cacher.valueOf (state.clock + elapsed) (state.map key) := by
  rw [MemoryCacher.get_fst]
  obtain same | ⟨absent, entry, old, expired⟩ := agrees.entries key
  · rw [same]
  · -- The entry that is gone would not be returned either.
    have still := entry.expired_mono (clock_le state.clock elapsed) expired
    rw [absent, old]
    simp [MemoryCacher.valueOf, still]

theorem Agrees.drop {cache : OrderedMap String (Entry β)} {now : Rat} (agrees : state.Agrees)
    (later : state.clock ≤ now)
    (kept : ∀ key, cache.get key = state.cacher.cache.get key ∨
      cache.get key = (state.cacher.cache.get key).filter fun entry => !entry.expired now) :
    Agrees ⟨{ state.cacher with cache := cache }, now, state.map⟩ := by
  refine ⟨agrees.faithful, fun key => ?_⟩
  show cache.get key = _ ∨ cache.get key = none ∧ _
  -- What is gone already stays gone.
  have gone (absent : state.cacher.cache.get key = none) : cache.get key = none := by
    obtain same | filtered := kept key
    · rw [same, absent]
    · rw [filtered, absent]
      rfl
  obtain same | ⟨absent, entry, old, expired⟩ := agrees.entries key
  · obtain unchanged | filtered := kept key
    · exact .inl (unchanged.trans same)
    · rw [same] at filtered
      cases found : state.map key with
      | none =>
        rw [found] at filtered
        exact .inl filtered
      | some entry =>
        rw [found] at filtered
        by_cases expired : entry.expired now = true
        · refine .inr ⟨?_, entry, rfl, expired⟩
          rw [filtered]
          simp [expired]
        · refine .inl ?_
          rw [filtered]
          simp [expired]
  · exact .inr ⟨gone absent, entry, old, entry.expired_mono later expired⟩

theorem Agrees.change {cache : OrderedMap String (Entry β)} {map : TimedMap β} {now : Rat}
    (agrees : state.Agrees) (later : state.clock ≤ now)
    (changed : ∀ key, cache.get key = map key ∨
      cache.get key = state.cacher.cache.get key ∧ map key = state.map key) :
    Agrees ⟨{ state.cacher with cache := cache }, now, map⟩ := by
  refine ⟨agrees.faithful, fun key => ?_⟩
  obtain both | ⟨unchanged, same⟩ := changed key
  · exact .inl both
  · show cache.get key = map key ∨ cache.get key = none ∧ ∃ entry, map key = some entry ∧ _
    rw [unchanged, same]
    obtain equal | ⟨absent, entry, old, expired⟩ := agrees.entries key
    · exact .inl equal
    · exact .inr ⟨absent, entry, old, entry.expired_mono later expired⟩

theorem Agrees.step (agrees : state.Agrees) (input : ℚ≥0 × CacheOp β) :
    (state.step test input).Agrees := by
  obtain ⟨elapsed, op⟩ := input
  have later := clock_le state.clock elapsed
  cases op with
  | set key data ttl =>
    have saved : state.cacher.cloned data = data := by
      unfold MemoryCacher.cloned
      rw [agrees.faithful]
    refine agrees.change later fun other => ?_
    rw [OrderedMap.get_set, saved]
    by_cases same : other = key
    · exact .inl (by simp [TimedMap.apply, same])
    · exact .inr ⟨if_neg same, if_neg same⟩
  | get key =>
    show Agrees ⟨(state.cacher.get (state.clock + elapsed) key).2, _, state.map⟩
    rw [MemoryCacher.get_snd]
    refine agrees.drop later fun other => ?_
    rw [MemoryCacher.get_cache]
    by_cases same : other = key
    · rw [if_pos same, same]
      exact .inr rfl
    · exact .inl (if_neg same)
  | del keys =>
    refine agrees.change later fun other => ?_
    rw [OrderedMap.get_foldl_delete]
    by_cases inside : other ∈ keys
    · exact .inl (by simp [TimedMap.apply, inside])
    · exact .inr ⟨if_neg inside, if_neg inside⟩
  | clean patterns =>
    refine agrees.change later fun other => ?_
    rw [get_sweep]
    by_cases hit : patterns.any (patternMatch test other) = true
    · refine .inl ?_
      simp only [TimedMap.apply, hit]
      cases state.cacher.cache.get other <;> rfl
    · refine .inr ⟨?_, if_neg hit⟩
      rw [Bool.eq_false_iff.mpr hit]
      cases state.cacher.cache.get other <;> rfl
  | checkTTL =>
    exact agrees.drop later fun key => .inr (get_sweep _ _ key)

theorem agrees_start (ttl : Option Rat) (missingResponse : JsValue β) (clock : Rat) :
    (start ttl missingResponse clock).Agrees := ⟨rfl, fun _ => .inl rfl⟩

theorem Agrees.right_iff (agrees : state.Agrees) (input : ℚ≥0 × CacheOp β) :
    state.Right input ↔ state.Timely input := by
  obtain ⟨elapsed, op⟩ := input
  cases op with
  | get key =>
    show _ = _ ↔ ∀ entry, state.map key = some entry → _
    rw [agrees.get_fst]
    unfold TimedMap.lookup MemoryCacher.valueOf
    cases found : state.map key with
    | none => exact iff_of_true rfl fun entry none_ => by cases none_
    | some entry =>
      have clone : state.cacher.cloned entry.data = entry.data := by
        unfold MemoryCacher.cloned
        rw [agrees.faithful]
      simp only [clone, Option.some.injEq, forall_eq']
      -- The two tests differ only for the time zero, which counts as no time.
      unfold Entry.expired TimedMap.passed truthy
      cases entry.expire with
      | none => simp
      | some expire =>
        by_cases zero : expire = 0
        · by_cases passed : 0 < state.clock + (elapsed : Rat)
          · simp [zero, passed]
          · simp [zero, passed]
        · simp [zero]
  | set key data ttl => exact Iff.rfl
  | del keys => exact Iff.rfl
  | clean patterns => exact Iff.rfl
  | checkTTL => exact Iff.rfl

/-- The results of lookups as the map determines them. -/
def expected (test : String → String → Bool) (opts : MemoryOptions β) :
    Rat → TimedMap β → List (ℚ≥0 × CacheOp β) → List (JsValue β)
  | _, _, [] => []
  | clock, map, (elapsed, .get key) :: rest =>
    MemoryCacher.valueOf ⟨opts, .empty⟩ (clock + elapsed) (map key) ::
      expected test opts (clock + elapsed) map rest
  | clock, map, (elapsed, op) :: rest =>
    expected test opts (clock + elapsed) (map.apply test opts.ttl (clock + elapsed) op) rest

theorem opts_step (state : Clocked β) (input : ℚ≥0 × CacheOp β) :
    (state.step test input).cacher.opts = state.cacher.opts := by
  obtain ⟨elapsed, op⟩ := input
  cases op with
  | get key => exact MemoryCacher.get_opts ..
  | set key data ttl => rfl
  | del keys => rfl
  | clean patterns => rfl
  | checkTTL => rfl

theorem Agrees.results_eq (agrees : state.Agrees) (inputs : List (ℚ≥0 × CacheOp β)) :
    state.results test inputs = expected test state.cacher.opts state.clock state.map inputs := by
  induction inputs generalizing state with
  | nil => rfl
  | cons input rest ih =>
    have later := ih (@Agrees.step β test state agrees input)
    rw [opts_step] at later
    obtain ⟨elapsed, op⟩ := input
    cases op with
    | get key =>
      rw [results, expected, later, agrees.get_fst,
        ← MemoryCacher.valueOf_cache state.cacher .empty]
      rfl
    | set key data ttl => exact later
    | del keys => exact later
    | clean patterns => exact later
    | checkTTL => exact later

theorem expected_checkTTL (opts : MemoryOptions β) (clock : Rat) (map : TimedMap β)
    (front back : List (ℚ≥0 × CacheOp β)) (before after : ℚ≥0) (op : CacheOp β) :
    expected test opts clock map (front ++ (before, .checkTTL) :: (after, op) :: back) =
      expected test opts clock map (front ++ (before + after, op) :: back) := by
  induction front generalizing clock map with
  | nil =>
    have time : clock + ((before + after : ℚ≥0) : Rat) = clock + before + after := by
      rw [NNRat.cast_add, add_assoc]
    cases op <;> simp only [List.nil_append, expected, TimedMap.apply, time]
  | cons input rest ih =>
    obtain ⟨elapsed, other⟩ := input
    cases other <;> simp only [List.cons_append, expected, ih]

end Clocked

/-- In every sequence of operations on a cacher that does not clone, all lookups return what the
timed map has exactly if none of them finds an entry whose expiry is the time zero and has passed;
and looking for expired entries at any time changes no result. -/
theorem memory_timed_map_iff (test : String → String → Bool) (ttl : Option Rat)
    (missingResponse : JsValue β) (clock : Rat) :
    (∀ inputs, Meets (Clocked.step test) Clocked.Right (.start ttl missingResponse clock) inputs ↔
      Meets (Clocked.step test) Clocked.Timely (.start ttl missingResponse clock) inputs) ∧
      ∀ (front back : List (ℚ≥0 × CacheOp β)) (before after : ℚ≥0) (op : CacheOp β),
        (Clocked.start ttl missingResponse clock).results test
            (front ++ (before, .checkTTL) :: (after, op) :: back) =
          (Clocked.start ttl missingResponse clock).results test
            (front ++ (before + after, op) :: back) := by
  have agrees := Clocked.agrees_start ttl missingResponse clock
  refine ⟨fun inputs => ?_, fun front back before after op => ?_⟩
  · exact meets_iff (fun _ input _ agrees => agrees.right_iff input)
      (fun _ input _ agrees _ => agrees.step input) agrees
  · rw [agrees.results_eq, agrees.results_eq]
    exact Clocked.expected_checkTTL ..

/-- An entry that is set one second after the time zero to have expired a second ago is returned for
ever. -/
theorem zero_expiry_never_passes :
    ¬ Meets (Clocked.step fun _ _ => false) Clocked.Right (.start none .undefined 1000)
      [(0, .set "user" (.value 1) (some (-1))), (1000, .get "user")] := by
  intro right
  have timely := (((Clocked.agrees_start none .undefined 1000).step _).right_iff _).mp right.2.1
  have expire : MemoryCacher.expiry ((some (-1)).or none) (1000 + ((0 : ℚ≥0) : Rat)) = some 0 := by
    norm_num [MemoryCacher.expiry, truthy]
  have wrong := timely ⟨.value 1, some 0⟩ (by rw [← expire]; rfl) rfl (by
    show (0 : Rat) < 1000 + ((0 : ℚ≥0) : Rat) + ((1000 : ℚ≥0) : Rat)
    norm_num)
  cases wrong

end Moleculer.Cacher
