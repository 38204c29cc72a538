import Moleculer.Base.OrderedMap

/-! Merging of objects: ordered maps entry by entry, nested values by filling in what is missing. -/

namespace Base

namespace OrderedMap

variable {κ α β : Type} [DecidableEq κ]

/-- Write the entries of one map into another, each combined with what the key holds there. -/
def mergeWith (combine : κ → Option α → β → α) (target : OrderedMap κ α) (source : OrderedMap κ β) :
    OrderedMap κ α :=
  source.entries.foldl
    (fun map entry => map.set entry.1 (combine entry.1 (map.get entry.1) entry.2)) target

theorem get_mergeWith (combine : κ → Option α → β → α) (target : OrderedMap κ α)
    (source : OrderedMap κ β) (key : κ) :
    (target.mergeWith combine source).get key =
      match source.get key with
      | none => target.get key
      | some value => some (combine key (target.get key) value) := by
  have seen : match source.get key with
      | none => (target.mergeWith combine source).get key = target.get key
      | some value => ∃ middle : OrderedMap κ α, True ∧ middle.get key = target.get key ∧
          (target.mergeWith combine source).get key =
            (middle.set key (combine key (middle.get key) value)).get key :=
    foldl_entries source key
      (fun (map : OrderedMap κ α) entry =>
        map.set entry.1 (combine entry.1 (map.get entry.1) entry.2))
      (fun _ => True) (fun before after => after.get key = before.get key) (fun _ _ _ => trivial)
      (fun _ => rfl) (fun _ _ _ first second => second.trans first)
      (fun map entry _ other => by rw [get_set, if_neg (Ne.symm other)]) trivial
  cases found : source.get key with
  | none =>
    rw [found] at seen
    exact seen
  | some value =>
    rw [found] at seen
    obtain ⟨middle, _, before, after⟩ := seen
    rw [get_set, if_pos rfl, before] at after
    exact after

theorem keys_set (map : OrderedMap κ α) (key : κ) (value : α) :
    (map.set key value).keys = if key ∈ map.keys then map.keys else map.keys ++ [key] := by
  rw [set]
  split
  · rename_i found
    rw [if_pos (mem_keys_iff.mpr ⟨_, found⟩)]
    exact keys_overwrite map.entries key value
  · rename_i found
    have absent : key ∉ map.keys := not_mem_keys_of_get found
    rw [if_neg absent]
    exact List.map_append

theorem keys_mergeWith (combine : κ → Option α → β → α) (target : OrderedMap κ α)
    (source : OrderedMap κ β) :
    (target.mergeWith combine source).keys =
      target.keys ++ source.keys.filter fun key => key ∉ target.keys := by
  have general (entries : List (κ × β)) (distinct : (entries.map Prod.fst).Nodup)
      (map : OrderedMap κ α) :
      (entries.foldl (fun map entry =>
        map.set entry.1 (combine entry.1 (map.get entry.1) entry.2)) map).keys =
        map.keys ++ (entries.map Prod.fst).filter fun key => key ∉ map.keys := by
    induction entries generalizing map with
    | nil => simp
    | cons entry rest ih =>
      rw [List.map_cons, List.nodup_cons] at distinct
      rw [List.foldl_cons, ih distinct.2, keys_set, List.map_cons]
      by_cases present : entry.1 ∈ map.keys
      · rw [if_pos present, List.filter_cons_of_neg (by simpa using present)]
      · rw [if_neg present, List.filter_cons_of_pos (by simpa using present), List.append_assoc,
          List.singleton_append]
        -- The new key does not occur again.
        congr 2
        apply List.filter_congr
        intro key member
        have other : key ≠ entry.1 := fun same => distinct.1 (same ▸ member)
        simp [other]
  exact general source.entries source.nodup target

theorem keys_foldl_delete (map : OrderedMap κ α) (gone : List κ) :
    (gone.foldl delete map).keys = map.keys.filter fun key => key ∉ gone := by
  induction gone generalizing map with
  | nil => simp
  | cons first rest ih =>
    have once : (map.delete first).keys = map.keys.filter fun key => key ≠ first := by
      rw [keys, keys, delete, List.filter_map]
      rfl
    rw [List.foldl_cons, ih, once, List.filter_filter]
    apply List.filter_congr
    intro key _
    by_cases same : key = first <;> simp [same]

theorem ext_get {left right : OrderedMap κ α} (keys : left.keys = right.keys)
    (values : ∀ key, left.get key = right.get key) : left = right := by
  apply ext
  apply List.ext_getElem
  · simpa [OrderedMap.keys] using congrArg List.length keys
  · intro place inLeft inRight
    have sameKey : left.entries[place].1 = right.entries[place].1 := by
      have := List.getElem_of_eq keys (i := place) (by simpa [OrderedMap.keys] using inLeft)
      simpa [OrderedMap.keys] using this
    have leftValue := mem_entries_iff.mp
      (show (left.entries[place].1, left.entries[place].2) ∈ left.entries from
        List.getElem_mem inLeft)
    have rightValue := mem_entries_iff.mp
      (show (right.entries[place].1, right.entries[place].2) ∈ right.entries from
        List.getElem_mem inRight)
    rw [values, sameKey, rightValue] at leftValue
    exact Prod.ext sameKey (Option.some.inj leftValue).symm

end OrderedMap

/-- A nested value: an atom, an array or an object. -/
inductive Nested (α : Type) where
  | atom (value : α)
  | array (items : List (Nested α))
  | object (entries : List (String × Nested α))

namespace Nested

variable {α : Type}

mutual

/-- Fill in what a value lacks: objects key by key, arrays index by index. -/
def fill : Nested α → Nested α → Nested α
  | array items, array defaults => array (fillItems items defaults)
  | object entries, object defaults => object (fillEntries entries defaults ++
      defaults.filter fun default => default.1 ∉ entries.map Prod.fst)
  | value, _ => value

/-- Fill in the items of an array. -/
def fillItems : List (Nested α) → List (Nested α) → List (Nested α)
  | [], defaults => defaults
  | items, [] => items
  | item :: items, default :: defaults => item.fill default :: fillItems items defaults

/-- Fill in the entries that an object has. -/
def fillEntries : List (String × Nested α) → List (String × Nested α) → List (String × Nested α)
  | [], _ => []
  | (key, value) :: entries, defaults =>
    (key, match defaults.lookup key with
      | some default => value.fill default
      | none => value) :: fillEntries entries defaults

end

end Nested

end Base
