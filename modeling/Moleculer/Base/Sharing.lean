import Moleculer.Base.OrderedMap

/-! Values whose objects have an identity, and copies that leave out objects that were met
before. -/

namespace Base.Sharing

mutual

/-- A value without cycles. An array is an object with its indices as keys, and a member that is
`undefined` counts as missing. -/
inductive Value where
  | undefined
  | text (text : String)
  | object (address : Nat) (members : Members)
  deriving DecidableEq, Repr

/-- The members of an object, in their order. -/
inductive Members where
  | nil
  | cons (key : String) (value : Value) (rest : Members)
  deriving DecidableEq, Repr

end

instance : Inhabited Value := ⟨.undefined⟩

mutual

/-- The objects inside, in the order in which they are met. -/
def Value.objects : Value → List Nat
  | .object address members => address :: members.objects
  | _ => []

/-- The objects inside the members. -/
def Members.objects : Members → List Nat
  | .nil => []
  | .cons _ value rest => value.objects ++ rest.objects

end

mutual

/-- The copy of a value that is met after other objects: one of these is not copied again. -/
def Value.prune (seen : List Nat) : Value → Value
  | .object address members =>
    if address ∈ seen then .undefined else .object address (members.prune (address :: seen))
  | value => value

/-- The copies of the members. -/
def Members.prune (seen : List Nat) : Members → Members
  | .nil => .nil
  | .cons key value rest =>
    -- What is inside an object that is left out was met with it before.
    .cons key (value.prune seen) (rest.prune (value.objects ++ seen))

end

/-- The objects are met for the first time, and each of them once. -/
def Apart (seen objects : List Nat) : Prop :=
  objects.Nodup ∧ ∀ address ∈ objects, address ∉ seen

instance (seen objects : List Nat) : Decidable (Apart seen objects) :=
  inferInstanceAs (Decidable (objects.Nodup ∧ ∀ address ∈ objects, address ∉ seen))

variable {seen : List Nat}

@[simp] theorem apart_nil : Apart seen [] := ⟨.nil, nofun⟩

theorem apart_cons {address : Nat} {objects : List Nat} :
    Apart seen (address :: objects) ↔ address ∉ seen ∧ Apart (address :: seen) objects := by
  simp only [Apart, List.nodup_cons, List.mem_cons, not_or]
  grind

theorem apart_append {first second : List Nat} :
    Apart seen (first ++ second) ↔ Apart seen first ∧ Apart (first ++ seen) second := by
  simp only [Apart, List.nodup_append, List.mem_append, not_or]
  grind

mutual

/-- A copy is complete exactly if its objects are met for the first time. -/
theorem Value.prune_eq_iff (seen : List Nat) :
    ∀ value : Value, value.prune seen = value ↔ Apart seen value.objects
  | .undefined => by simp [Value.prune, Value.objects]
  | .text _ => by simp [Value.prune, Value.objects]
  | .object address members => by
    -- The object itself counts as met for its members.
    rw [Value.prune, Value.objects, apart_cons, ← members.prune_eq_iff]
    split <;> simp [*]

theorem Members.prune_eq_iff (seen : List Nat) :
    ∀ members : Members, members.prune seen = members ↔ Apart seen members.objects
  | .nil => by simp [Members.prune, Members.objects]
  | .cons key value rest => by
    rw [Members.prune, Members.objects, apart_append, ← value.prune_eq_iff, ← rest.prune_eq_iff]
    simp

end

section Lists

variable {α κ : Type} (objects : α → List Nat) (prune : List Nat → α → α)

/-- The copies of the items of a list. -/
def pruneEach : List Nat → List α → List α
  | _, [] => []
  | seen, item :: rest => prune seen item :: pruneEach (objects item ++ seen) rest

@[simp] theorem length_pruneEach (seen : List Nat) (items : List α) :
    (pruneEach objects prune seen items).length = items.length := by
  induction items generalizing seen with
  | nil => rfl
  | cons item rest ih => rw [pruneEach, List.length_cons, List.length_cons, ih]

theorem map_pruneEach {key : α → κ} (same : ∀ seen item, key (prune seen item) = key item)
    (seen : List Nat) (items : List α) :
    (pruneEach objects prune seen items).map key = items.map key := by
  induction items generalizing seen with
  | nil => rfl
  | cons item rest ih => rw [pruneEach, List.map_cons, List.map_cons, same, ih]

variable {objects prune}

theorem pruneEach_eq_iff
    (each : ∀ seen item, prune seen item = item ↔ Apart seen (objects item)) (seen : List Nat)
    (items : List α) :
    pruneEach objects prune seen items = items ↔ Apart seen (items.flatMap objects) := by
  induction items generalizing seen with
  | nil => simp [pruneEach]
  | cons item rest ih =>
    rw [pruneEach, List.cons.injEq, each, ih, List.flatMap_cons, apart_append]

/-- The copies of the values of a map. -/
def pruneValues (objects : α → List Nat) (prune : List Nat → α → α) (seen : List Nat)
    (map : OrderedMap κ α) : OrderedMap κ α where
  entries := pruneEach (fun entry => objects entry.2)
    (fun seen entry => (entry.1, prune seen entry.2)) seen map.entries
  nodup := by
    -- The keys are not touched.
    refine Eq.mpr (congrArg _ ?_) map.nodup
    exact map_pruneEach _ _ (by intros; rfl) seen map.entries

theorem pruneValues_eq_iff
    (each : ∀ seen item, prune seen item = item ↔ Apart seen (objects item)) (seen : List Nat)
    (map : OrderedMap κ α) :
    pruneValues objects prune seen map = map ↔ Apart seen (map.values.flatMap objects) := by
  rw [OrderedMap.ext_iff, OrderedMap.values, List.flatMap_map]
  exact pruneEach_eq_iff (fun seen entry => by simp [← each, Prod.ext_iff]) seen map.entries

theorem map_pruneValues_eq_iff
    (each : ∀ seen item, prune seen item = item ↔ Apart seen (objects item)) (seen : List Nat)
    (map : Option (OrderedMap κ α)) :
    map.map (pruneValues objects prune seen) = map ↔
      Apart seen ((map.getD .empty).values.flatMap objects) := by
  cases map with
  | none => exact iff_of_true rfl apart_nil
  | some map => rw [Option.map_some, Option.some.injEq, pruneValues_eq_iff each, Option.getD_some]

end Lists

end Base.Sharing
