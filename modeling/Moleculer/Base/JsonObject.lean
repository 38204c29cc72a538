import Moleculer.Base.Json

/-! JSON values as JavaScript sees them: truth, properties and `Object.assign`. -/

namespace Base.Json

variable {ν : Type}

/-- The value of `value ?? {}`. -/
def orEmptyIfNull : Json ν → Json ν
  | .null => .object []
  | value => value

section Truth

variable [Zero ν] [DecidableEq ν]

/-- Whether a condition on the value holds. -/
def truthy : Json ν → Bool
  | .null => false
  | .bool value => value
  | .number value => value ≠ 0
  | .string value => value ≠ []
  | .array _ | .object _ => true

/-- The value of `value || {}`. -/
def orEmpty (value : Json ν) : Json ν := if value.truthy then value else .object []

theorem orEmpty_eq_iff (value other : Json ν) (like : value.truthy = other.truthy) :
    value.orEmpty = other ↔ other.truthy = true ∧ value = other := by
  unfold orEmpty
  by_cases holds : value.truthy = true
  · rw [if_pos holds, ← like]
    exact ⟨fun same => ⟨holds, same⟩, fun both => both.2⟩
  · rw [if_neg holds]
    refine ⟨fun same => ?_, fun both => absurd (like.trans both.1) holds⟩
    -- An empty object is true, so the other value would have been true as well.
    rw [like, ← same] at holds
    exact absurd rfl holds

end Truth

/-- Assign to a property of an object. -/
def setMember (key : Text) (value : Json ν) (members : List (Text × Json ν)) :
    List (Text × Json ν) :=
  if members.any (·.1 = key) then
    members.map fun member => if member.1 = key then (key, value) else member
  else members ++ [(key, value)]

/-- Assign to a property in strict mode, where the key is no array index: what the value is
serialized as afterwards, unless there is a `TypeError`. -/
def assignProperty (target : Json ν) (key : Text) (value : Json ν) : Option (Json ν) :=
  match target with
  | .object members => some (.object (setMember key value members))
  | .array items => some (.array items)
  | _ => none

/-- Delete a property, where the key is no array index. -/
def deleteProperty (key : Text) : Json ν → Json ν
  | .object members => .object (members.filter (·.1 ≠ key))
  | other => other

/-- An object with the property. -/
def Has (key : Text) : Json ν → Prop
  | .object members => ∃ member ∈ members, member.1 = key
  | _ => False

/-- Assigning the value to the property would change nothing. -/
def Holds (target : Json ν) (key : Text) (value : Json ν) : Prop :=
  match target with
  | .object members => (∃ member ∈ members, member.1 = key) ∧
      ∀ member ∈ members, member.1 = key → member.2 = value
  | _ => True

theorem deleteProperty_eq_iff (key : Text) (value : Json ν) :
    value.deleteProperty key = value ↔ ¬ value.Has key := by
  cases value with
  | object members =>
    simp only [deleteProperty, object.injEq, List.filter_eq_self, Has, decide_eq_true_eq,
      not_exists,
      not_and]
  | _ => simp [deleteProperty, Has]

theorem deleteProperty_setMember (key : Text) (value : Json ν) (members : List (Text × Json ν)) :
    (setMember key value members).filter (·.1 ≠ key) = members.filter (·.1 ≠ key) := by
  unfold setMember
  split
  · rw [List.filter_map]
    -- Only members that the filter drops were changed.
    have same : ((fun member : Text × Json ν => decide (member.1 ≠ key)) ∘ fun member =>
        if member.1 = key then (key, value) else member) =
        fun member => decide (member.1 ≠ key) := by
      funext member
      by_cases named : member.1 = key <;> simp [named]
    rw [same]
    refine (List.map_congr_left fun member inside => ?_).trans (List.map_id _)
    have other := of_decide_eq_true (List.mem_filter.mp inside).2
    simp [other]
  · simp

theorem setMember_eq_iff (key : Text) (value : Json ν) (members : List (Text × Json ν)) :
    setMember key value members = members ↔ (∃ member ∈ members, member.1 = key) ∧
      ∀ member ∈ members, member.1 = key → member.2 = value := by
  have any : members.any (·.1 = key) = true ↔ ∃ member ∈ members, member.1 = key := by simp
  have fixed : (members.map fun member => if member.1 = key then (key, value) else member) =
      members ↔ ∀ member ∈ members, (if member.1 = key then (key, value) else member) = member := by
    conv_lhs => rhs; rw [← List.map_id members]
    exact List.map_inj_left
  unfold setMember
  by_cases present : members.any (·.1 = key) = true
  · rw [if_pos present]
    refine ⟨fun same => ⟨any.mp present, fun member inside named => ?_⟩, fun ⟨_, holds⟩ => ?_⟩
    · have each := fixed.mp same member inside
      rw [if_pos named] at each
      rw [← each]
    · refine fixed.mpr fun member inside => ?_
      by_cases named : member.1 = key
      · rw [if_pos named, ← holds member inside named, ← named]
      · rw [if_neg named]
  · rw [if_neg present]
    refine ⟨fun same => absurd same ?_, fun ⟨exists_, _⟩ => absurd (any.mpr exists_) present⟩
    intro same
    have length := congrArg List.length same
    simp at length

theorem assignProperty_spec {key : Text} {value before after : Json ν}
    (assigned : before.assignProperty key value = some after) :
    after.deleteProperty key = before.deleteProperty key ∧
      (after = before ↔ before.Holds key value) := by
  cases before with
  | object members =>
    cases assigned
    simp only [deleteProperty, deleteProperty_setMember, object.injEq, true_and]
    exact setMember_eq_iff key value members
  | array items =>
    cases assigned
    exact ⟨rfl, iff_of_true rfl trivial⟩
  | _ => cases assigned

section Truth

variable [Zero ν] [DecidableEq ν]

theorem truthy_assignProperty {key : Text} {value before after : Json ν}
    (assigned : before.assignProperty key value = some after) :
    before.truthy = true ∧ after.truthy = true := by
  cases before <;> cases assigned <;> exact ⟨rfl, rfl⟩

theorem truthy_deleteProperty (key : Text) (value : Json ν) :
    (value.deleteProperty key).truthy = value.truthy := by
  cases value <;> rfl

end Truth

/-- The own enumerable properties of a value. -/
def ownEntries : Json ν → List (Text × Json ν)
  | .object members => members
  | .array items => items.zipIdx.map fun (item, index) => (Text.ascii (toString index), item)
  | .string text => text.zipIdx.map fun (unit, index) =>
      (Text.ascii (toString index), .string [unit])
  | _ => []

/-- `Object.assign` into a new object. -/
def assign (sources : List (Json ν)) : Json ν :=
  .object (propertyOrder ((sources.flatMap ownEntries).foldl
    (fun members (key, value) => setMember key value members) []))

end Base.Json
