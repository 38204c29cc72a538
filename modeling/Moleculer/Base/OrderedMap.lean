import Mathlib

/-! Finite maps that remember the order in which their keys were inserted. -/

namespace Base

/-- The entries of a map in insertion order, each key at most once. -/
structure OrderedMap (κ α : Type) where
  entries : List (κ × α)
  nodup : (entries.map Prod.fst).Nodup

namespace OrderedMap

variable {κ α β : Type}

@[ext] theorem ext {left right : OrderedMap κ α} (same : left.entries = right.entries) :
    left = right := by
  -- The proof of distinct keys carries no information.
  cases left
  cases right
  cases same
  rfl

instance [DecidableEq κ] [DecidableEq α] : DecidableEq (OrderedMap κ α) := fun left right =>
  decidable_of_iff (left.entries = right.entries) ⟨ext, fun same => same ▸ rfl⟩

/-- The map without entries. -/
def empty : OrderedMap κ α := ⟨[], List.nodup_nil⟩

instance : Inhabited (OrderedMap κ α) := ⟨empty⟩

/-- The keys in insertion order. -/
def keys (map : OrderedMap κ α) : List κ := map.entries.map Prod.fst

/-- The values in the insertion order of their keys. -/
def values (map : OrderedMap κ α) : List α := map.entries.map Prod.snd

/-- The number of entries. -/
def size (map : OrderedMap κ α) : Nat := map.entries.length

/-- Apply a function to every value, leaving the keys where they are. -/
def mapValues (f : α → β) (map : OrderedMap κ α) : OrderedMap κ β :=
  ⟨map.entries.map fun entry => (entry.1, f entry.2), by
    simpa [Function.comp_def] using map.nodup⟩

/-- Change every value by a function of its key. -/
def mapEntries (f : κ → α → β) (map : OrderedMap κ α) : OrderedMap κ β :=
  ⟨map.entries.map fun entry => (entry.1, f entry.1 entry.2), by
    simpa [Function.comp_def] using map.nodup⟩

theorem nodup_filterMap (map : OrderedMap κ α) {pick : κ × α → Option β} {key : β → κ}
    (keyed : ∀ entry picked, pick entry = some picked → key picked = entry.1) :
    ((map.entries.filterMap pick).map key).Nodup := by
  have sublist (entries : List (κ × α)) :
      ((entries.filterMap pick).map key).Sublist (entries.map Prod.fst) := by
    induction entries with
    | nil => exact .slnil
    | cons entry rest ih =>
      cases picked : pick entry with
      | none =>
        rw [List.filterMap_cons_none picked, List.map_cons]
        exact ih.cons _
      | some result =>
        rw [List.filterMap_cons_some picked, List.map_cons, List.map_cons,
          keyed entry result picked]
        exact ih.cons_cons _
  exact map.nodup.sublist (sublist map.entries)

variable [DecidableEq κ]

/-- The value stored under a key. -/
def get (map : OrderedMap κ α) (key : κ) : Option α :=
  (map.entries.find? fun entry => entry.1 = key).map Prod.snd

/-- Whether a key is present. -/
def has (map : OrderedMap κ α) (key : κ) : Bool := (map.get key).isSome

/-- The properties that every plain object inherits. -/
def inherited : List String :=
  ["constructor", "__defineGetter__", "__defineSetter__", "hasOwnProperty", "__lookupGetter__",
    "__lookupSetter__", "isPrototypeOf", "propertyIsEnumerable", "toString", "valueOf", "__proto__",
    "toLocaleString"]

/-- Whether a plain object finds something under a name, be it inherited. -/
def finds {α : Type} (map : OrderedMap String α) (name : String) : Bool :=
  map.has name || inherited.contains name

theorem keys_overwrite (entries : List (κ × α)) (key : κ) (value : α) :
    (entries.map fun entry => if entry.1 = key then (key, value) else entry).map Prod.fst =
      entries.map Prod.fst := by
  rw [List.map_map]
  apply List.map_congr_left
  intro entry _
  by_cases same : entry.1 = key <;> simp [same]

variable {map : OrderedMap κ α} {key : κ} (nameOf : α → κ)

theorem not_mem_keys_of_get (absent : map.get key = none) :
    key ∉ map.entries.map Prod.fst := by
  intro present
  obtain ⟨entry, member, same⟩ := List.mem_map.mp present
  simp only [get, Option.map_eq_none_iff, List.find?_eq_none, decide_eq_true_eq] at absent
  exact absent entry member same

/-- Store a value: a present key keeps its place, a new one goes to the end. -/
def set (map : OrderedMap κ α) (key : κ) (value : α) : OrderedMap κ α :=
  match found : map.get key with
  | some _ => ⟨map.entries.map fun entry => if entry.1 = key then (key, value) else entry,
      (keys_overwrite map.entries key value).symm ▸ map.nodup⟩
  | none => ⟨map.entries ++ [(key, value)], by
      rw [List.map_append, List.nodup_append]
      refine ⟨map.nodup, List.nodup_singleton key, ?_⟩
      intro other member last same
      simp only [List.map_cons, List.map_nil, List.mem_singleton] at same
      subst same
      intro equal
      exact not_mem_keys_of_get found (equal ▸ member)⟩

/-- Drop the entry of a key. -/
def delete (map : OrderedMap κ α) (key : κ) : OrderedMap κ α :=
  ⟨map.entries.filter fun entry => entry.1 ≠ key,
    map.nodup.sublist (List.filter_sublist.map Prod.fst)⟩

/-- Change the value under a key, if there is one. -/
def modify (map : OrderedMap κ α) (key : κ) (f : α → α) : OrderedMap κ α :=
  ⟨map.entries.map fun entry => if entry.1 = key then (entry.1, f entry.2) else entry, by
    rw [List.map_map]
    refine (List.map_congr_left fun entry _ => ?_).symm ▸ map.nodup
    by_cases same : entry.1 = key <;> simp [same]⟩

@[simp] theorem get_empty (key : κ) : (empty : OrderedMap κ α).get key = none := rfl

theorem mem_entries_iff {value : α} :
    (key, value) ∈ map.entries ↔ map.get key = some value := by
  constructor
  · intro member
    cases found : map.entries.find? fun entry => entry.1 = key with
    | none =>
      simp only [List.find?_eq_none, decide_eq_true_eq] at found
      exact absurd rfl (found (key, value) member)
    | some entry =>
      have named := List.find?_some found
      simp only [decide_eq_true_eq] at named
      -- Distinct keys make the entry that is found the only one under its key.
      have same := List.inj_on_of_nodup_map map.nodup (List.mem_of_find?_eq_some found) member named
      simp [get, found, same]
  · intro found
    simp only [get, Option.map_eq_some_iff] at found
    obtain ⟨entry, located, rfl⟩ := found
    have named := List.find?_some located
    simp only [decide_eq_true_eq] at named
    exact named ▸ List.mem_of_find?_eq_some located

theorem mem_keys_iff :
    key ∈ map.keys ↔ ∃ value, map.get key = some value := by
  constructor
  · intro member
    obtain ⟨⟨_, value⟩, entry, rfl⟩ := List.mem_map.mp member
    exact ⟨value, mem_entries_iff.mp entry⟩
  · rintro ⟨value, found⟩
    exact List.mem_map.mpr ⟨(key, value), mem_entries_iff.mpr found, rfl⟩

theorem mem_values_iff {value : α} :
    value ∈ map.values ↔ ∃ key, map.get key = some value := by
  constructor
  · intro member
    obtain ⟨⟨key, _⟩, entry, rfl⟩ := List.mem_map.mp member
    exact ⟨key, mem_entries_iff.mp entry⟩
  · rintro ⟨key, found⟩
    exact List.mem_map.mpr ⟨(key, value), mem_entries_iff.mpr found, rfl⟩

theorem get_set (map : OrderedMap κ α) (key other : κ) (value : α) :
    (map.set key value).get other = if other = key then some value else map.get other := by
  apply Option.ext
  intro found
  rw [← mem_entries_iff]
  unfold set
  split
  · rename_i old present
    have stored := mem_entries_iff.mpr present
    by_cases same : other = key
    · subst same
      simp only [List.mem_map, if_true, Option.some.injEq]
      constructor
      · rintro ⟨entry, member, image⟩
        split at image
        · cases image; rfl
        · rename_i differs
          exact absurd (congrArg Prod.fst image) differs
      · rintro rfl
        exact ⟨_, stored, by simp⟩
    · simp only [List.mem_map, same, if_false]
      rw [← mem_entries_iff]
      constructor
      · rintro ⟨entry, member, image⟩
        split at image
        · exact absurd (congrArg Prod.fst image).symm same
        · exact image ▸ member
      · intro member
        exact ⟨_, member, by simp [same]⟩
  · rename_i absent
    by_cases same : other = key
    · subst same
      simp only [List.mem_append, List.mem_singleton, Prod.mk.injEq, true_and, if_true,
        Option.some.injEq]
      constructor
      · rintro (member | rfl)
        · rw [mem_entries_iff, absent] at member
          cases member
        · rfl
      · exact fun equal => .inr equal.symm
    · simp only [List.mem_append, List.mem_singleton, Prod.mk.injEq, same, false_and, or_false,
        if_false, mem_entries_iff]

theorem get_delete (map : OrderedMap κ α) (key other : κ) :
    (map.delete key).get other = if other = key then none else map.get other := by
  apply Option.ext
  intro found
  rw [← mem_entries_iff]
  by_cases same : other = key
  · simp [delete, same]
  · simp [delete, same, mem_entries_iff]

/-- The last entry of a name. -/
def latest (nameOf : α → κ) (entries : List α) (key : κ) : Option α :=
  entries.reverse.find? fun entry => nameOf entry = key

theorem latest_append (front back : List α) (key : κ) :
    latest nameOf (front ++ back) key = (latest nameOf back key).or (latest nameOf front key) := by
  rw [latest, List.reverse_append, List.find?_append]
  rfl

theorem latest_eq_none_iff {nameOf : α → κ} {entries : List α} :
    latest nameOf entries key = none ↔ ∀ entry ∈ entries, nameOf entry ≠ key := by
  simp [latest]

theorem latest_spec {nameOf : α → κ} {entries : List α} {entry : α}
    (found : latest nameOf entries key = some entry) : entry ∈ entries ∧ nameOf entry = key := by
  refine ⟨List.mem_reverse.mp (List.mem_of_find?_eq_some found), ?_⟩
  simpa using List.find?_some found

theorem get_foldl_set_map (value : α → β) (map : OrderedMap κ β) (entries : List α) (key : κ) :
    (entries.foldl (fun result entry => result.set (nameOf entry) (value entry)) map).get key =
      ((latest nameOf entries key).map value).or (map.get key) := by
  induction entries using List.reverseRecOn with
  | nil => rfl
  | append_singleton front last ih =>
    rw [List.foldl_append, List.foldl_cons, List.foldl_nil, get_set, ih, latest_append]
    by_cases same : key = nameOf last
    · simp [latest, same]
    · simp [latest, same, Ne.symm same]

theorem get_foldl_set (map : OrderedMap κ α) (entries : List α) (key : κ) :
    (entries.foldl (fun result entry => result.set (nameOf entry) entry) map).get key =
      (latest nameOf entries key).or (map.get key) := by
  rw [get_foldl_set_map nameOf (fun entry => entry), Option.map_id']

theorem get_foldl_set_keys (value : κ → β) (map : OrderedMap κ β) (keys : List κ) (key : κ) :
    (keys.foldl (fun result key => result.set key (value key)) map).get key =
      if key ∈ keys then some (value key) else map.get key := by
  rw [get_foldl_set_map (fun key => key)]
  cases found : latest (fun key => key) keys key with
  | none => rw [if_neg fun inside => latest_eq_none_iff.mp found key inside rfl]; rfl
  | some other =>
    obtain ⟨inside, rfl⟩ := latest_spec found
    rw [if_pos inside]
    rfl

theorem get_foldl_delete (map : OrderedMap κ α) (keys : List κ) (key : κ) :
    (keys.foldl delete map).get key = if key ∈ keys then none else map.get key := by
  induction keys generalizing map with
  | nil => simp
  | cons first rest ih =>
    rw [List.foldl_cons, ih, get_delete]
    by_cases same : key = first <;> simp [same]

theorem get_modify (map : OrderedMap κ α) (key other : κ) (f : α → α) :
    (map.modify key f).get other =
      if other = key then (map.get other).map f else map.get other := by
  simp only [get, modify, List.find?_map, Option.map_map]
  have sameTest : ((fun entry : κ × α => decide (entry.1 = other)) ∘
      fun entry => if entry.1 = key then (entry.1, f entry.2) else entry) =
      fun entry => decide (entry.1 = other) := by
    funext entry
    by_cases same : entry.1 = key <;> simp [same]
  rw [sameTest]
  cases located : map.entries.find? fun entry => entry.1 = other with
  | none => by_cases same : other = key <;> simp [same]
  | some entry =>
    have named := List.find?_some located
    simp only [decide_eq_true_eq] at named
    by_cases same : other = key <;> simp [named, same]

theorem get_mapValues (f : α → β) (map : OrderedMap κ α) (key : κ) :
    (map.mapValues f).get key = (map.get key).map f := by
  simp only [get, mapValues, List.find?_map, Option.map_map]
  rfl

theorem get_mapEntries (f : κ → α → β) (map : OrderedMap κ α) (key : κ) :
    (map.mapEntries f).get key = (map.get key).map (f key) := by
  simp only [get, mapEntries, List.find?_map, Option.map_map]
  cases located : map.entries.find? ((fun entry : κ × β => decide (entry.1 = key)) ∘
      fun entry => (entry.1, f entry.1 entry.2)) with
  | none =>
    have same : map.entries.find? (fun entry => decide (entry.1 = key)) = none := located
    simp [same]
  | some entry =>
    have same : map.entries.find? (fun entry => decide (entry.1 = key)) = some entry := located
    have named := List.find?_some same
    simp only [decide_eq_true_eq] at named
    simp [same, named]

theorem delete_of_get_none (absent : map.get key = none) :
    map.delete key = map := by
  apply ext
  simp only [delete, List.filter_eq_self, decide_eq_true_eq]
  intro entry member same
  exact not_mem_keys_of_get absent (List.mem_map.mpr ⟨entry, member, same⟩)

theorem entries_set_of_get_none (absent : map.get key = none) (value : α) :
    (map.set key value).entries = map.entries ++ [(key, value)] := by
  unfold set
  split
  · rename_i found
    rw [absent] at found
    cases found
  · rfl

theorem size_set_of_get_none (absent : map.get key = none) (value : α) :
    (map.set key value).size = map.size + 1 := by
  simp [size, entries_set_of_get_none absent]

theorem size_set_of_get_some {old : α} (found : map.get key = some old) (value : α) :
    (map.set key value).size = map.size := by
  unfold set
  split
  · simp [size]
  · rename_i absent
    rw [found] at absent
    cases absent

theorem delete_set_of_get_none (absent : map.get key = none) (value : α) :
    (map.set key value).delete key = map := by
  have unchanged := congrArg entries (delete_of_get_none absent)
  apply ext
  simpa [delete, entries_set_of_get_none absent] using unchanged

theorem entries_eq_nil_of_get (nothing : ∀ key, map.get key = none) :
    map.entries = [] := by
  rw [List.eq_nil_iff_forall_not_mem]
  rintro ⟨key, value⟩ member
  rw [mem_entries_iff, nothing] at member
  cases member

theorem foldl_entries {σ : Type} (map : OrderedMap κ α) (key : κ) (step : σ → κ × α → σ)
    (good : σ → Prop) (same : σ → σ → Prop)
    (kept : ∀ state entry, good state → good (step state entry)) (refl : ∀ state, same state state)
    (trans : ∀ first second third, same first second → same second third → same first third)
    (frame : ∀ state entry, good state → entry.1 ≠ key → same state (step state entry))
    {state : σ} (start : good state) :
    match map.get key with
    | none => same state (map.entries.foldl step state)
    | some value => ∃ middle, good middle ∧ same state middle ∧
        same (step middle (key, value)) (map.entries.foldl step state) := by
  have others (entries : List (κ × α)) (absent : ∀ entry ∈ entries, entry.1 ≠ key) (state : σ)
      (start : good state) :
      good (entries.foldl step state) ∧ same state (entries.foldl step state) := by
    refine List.foldlRecOn entries step (motive := fun after => good after ∧ same state after)
      ⟨start, refl state⟩ fun after both entry inside => ⟨kept after entry both.1, ?_⟩
    exact trans _ _ _ both.2 (frame after entry both.1 (absent entry inside))
  cases found : map.get key with
  | none =>
    refine (others map.entries (fun entry inside same => ?_) state start).2
    have present := mem_entries_iff.mp (show (entry.1, entry.2) ∈ map.entries from inside)
    rw [same, found] at present
    cases present
  | some value =>
    -- The key stands at one place.
    obtain ⟨front, back, split⟩ := List.append_of_mem (mem_entries_iff.mpr found)
    have distinct := map.nodup
    rw [split, List.map_append, List.map_cons, List.nodup_append] at distinct
    obtain ⟨_, behind, before⟩ := distinct
    obtain ⟨ready, first⟩ := others front (fun entry inside same => before _
      (List.mem_map_of_mem inside) _ List.mem_cons_self same) state start
    refine ⟨front.foldl step state, ready, first, ?_⟩
    rw [split, List.foldl_append, List.foldl_cons]
    refine (others back (fun entry inside same => ?_) _ (kept _ _ ready)).2
    exact (List.nodup_cons.mp behind).1 (List.mem_map.mpr ⟨entry, inside, same⟩)

end OrderedMap

theorem countP_key {α κ : Type} [DecidableEq κ] {list : List α} {key : α → κ}
    (distinct : (list.map key).Nodup) (wanted : κ) [Decidable (wanted ∈ list.map key)] :
    list.countP (fun entry => key entry = wanted) = if wanted ∈ list.map key then 1 else 0 := by
  have counted : list.countP (fun entry => key entry = wanted) = (list.map key).count wanted := by
    rw [List.count, List.countP_map]
    rfl
  rw [counted, distinct.count]
  congr

end Base
