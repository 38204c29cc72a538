import Moleculer.Base.OrderedMap

/-! Caches of bounded size. -/

namespace Base

/-- What a cache offers, and what can be relied on: it may forget entries at any time, but it finds
nothing that was not stored since it was cleared. -/
class LruCache (σ : Type) (κ α : outParam Type) where
  new : Nat → σ
  clear : σ → σ
  get : σ → κ → Option α × σ
  set : σ → κ → α → σ
  /-- A lookup may find this entry. -/
  Stored : σ → κ → α → Prop
  new_stored (max : Nat) (key : κ) (value : α) : ¬ Stored (new max) key value
  clear_stored (cache : σ) (key : κ) (value : α) : ¬ Stored (clear cache) key value
  get_stored (cache : σ) (key : κ) (value : α) : (get cache key).1 = some value →
    Stored cache key value
  stored_of_get (cache : σ) (key other : κ) (value : α) : Stored (get cache key).2 other value →
    Stored cache other value
  stored_of_set (cache : σ) (key other : κ) (value found : α) :
    Stored (set cache key value) other found →
      other = key ∧ found = value ∨ Stored cache other found

namespace LruCache

variable {σ κ α : Type} [LruCache σ κ α]

/-- Something holds of every entry. -/
def All (holds : κ → α → Prop) (cache : σ) : Prop :=
  ∀ key value, Stored cache key value → holds key value

variable {holds : κ → α → Prop} {cache : σ}

theorem all_new (max : Nat) : All holds (new max : σ) :=
  fun key value stored => absurd stored (new_stored max key value)

theorem all_clear : All holds (clear cache) :=
  fun key value stored => absurd stored (clear_stored cache key value)

theorem All.get (all : All holds cache) (key : κ) :
    (∀ value, (get cache key).1 = some value → holds key value) ∧ All holds (get cache key).2 :=
  ⟨fun value found => all key value (get_stored cache key value found),
    fun other value stored => all other value (stored_of_get cache key other value stored)⟩

theorem All.set (all : All holds cache) {key : κ} {value : α} (here : holds key value) :
    All holds (set cache key value) := by
  intro other found stored
  obtain ⟨rfl, rfl⟩ | before := stored_of_set cache key other value found stored
  · exact here
  · exact all other found before

end LruCache

/-- The entries of a cache that forgets the least recently used one first, which is in front. -/
structure Lru (κ α : Type) where
  max : Nat
  entries : OrderedMap κ α

namespace Lru

variable {κ α : Type} [DecidableEq κ]

/-- A cache without entries. -/
def new (max : Nat) : Lru κ α := ⟨max, .empty⟩

/-- Forget everything. -/
def clear (cache : Lru κ α) : Lru κ α := { cache with entries := .empty }

/-- Put an entry last. -/
def touch (cache : Lru κ α) (key : κ) (value : α) : Lru κ α :=
  { cache with entries := (cache.entries.delete key).set key value }

/-- Look up a key; an entry that is found counts as used. -/
def get (cache : Lru κ α) (key : κ) : Option α × Lru κ α :=
  match cache.entries.get key with
  | some value => (some value, cache.touch key value)
  | none => (none, cache)

/-- Store an entry; if there is no room, the first one is forgotten. -/
def set (cache : Lru κ α) (key : κ) (value : α) : Lru κ α :=
  let cache := cache.touch key value
  match cache.entries.keys with
  | [] => cache
  | oldest :: _ =>
    if cache.max < cache.entries.size then
      { cache with entries := cache.entries.delete oldest }
    else cache

theorem stored_of_touch {cache : Lru κ α} {key other : κ} {value found : α}
    (stored : (cache.touch key value).entries.get other = some found) :
    other = key ∧ found = value ∨ cache.entries.get other = some found := by
  simp only [touch, OrderedMap.get_set, OrderedMap.get_delete] at stored
  split at stored
  · rename_i same
    exact .inl ⟨same, (Option.some.inj stored).symm⟩
  · exact .inr stored

instance : LruCache (Lru κ α) κ α where
  new := new
  clear := clear
  get := get
  set := set
  Stored cache key value := cache.entries.get key = some value
  new_stored _ _ _ := nofun
  clear_stored _ _ _ := nofun
  get_stored cache key value found := by
    unfold get at found
    cases present : cache.entries.get key with
    | none => simp [present] at found
    | some other => simpa [present] using found
  stored_of_get cache key other value stored := by
    unfold get at stored
    cases present : cache.entries.get key with
    | none =>
      rw [present] at stored
      exact stored
    | some found =>
      rw [present] at stored
      obtain ⟨rfl, rfl⟩ | before := stored_of_touch stored
      · exact present
      · exact before
  stored_of_set cache key other value found stored := by
    apply stored_of_touch
    unfold set at stored
    dsimp only at stored
    split at stored
    · exact stored
    · split at stored
      · rw [OrderedMap.get_delete] at stored
        split at stored
        · cases stored
        · exact stored
      · exact stored

end Lru

end Base
