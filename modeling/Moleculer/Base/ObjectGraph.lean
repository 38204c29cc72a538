import Moleculer.Base.Json
import Moleculer.Base.OrderedMap

/-! Objects that refer to each other, and `JSON.stringify` with a replacer. -/

namespace Base.Graph

variable {ν σ α β : Type} {n : Nat}

/-- A value of a heap with `n` objects. -/
inductive Value (ν : Type) (n : Nat) where
  | null
  | bool (value : Bool)
  | number (value : ν)
  | string (value : Text)
  | undefined
  | function
  | ref (address : Fin n)
  deriving DecidableEq

/-- An array, or a plain object with its keys in the order in which they are enumerated. -/
inductive Cell (ν : Type) (n : Nat) where
  | array (items : List (Value ν n))
  | object (members : OrderedMap Text (Value ν n))

/-- The values directly inside. -/
def Cell.children : Cell ν n → List (Value ν n)
  | .array items => items
  | .object members => members.values

/-- The JSON of an array or an object from that of its values: what is `undefined` is `null` in an
array, and left out of an object. -/
def Cell.build : Cell ν n → List (Option (Json ν)) → Json ν
  | .array _, results => .array (results.map (·.getD .null))
  | .object members, results =>
    .object ((members.keys.zip results).filterMap fun entry => entry.2.map (entry.1, ·))

/-- A heap. No object has a method `toJSON`, which `JSON.stringify` would call, nor a method
`valueOf` or `toString`, which a conversion would call. -/
structure Heap (ν : Type) (n : Nat) where
  cell : Fin n → Cell ν n
  inert : ∀ address members, cell address = .object members →
    ∀ name ∈ ["toJSON", "valueOf", "toString"], members.get (Text.ascii name) ≠ some .function

/-- A computation that passes on a state, with a bound on the depth of its calls. -/
inductive Progress (σ β : Type) where
  /-- The bound was too small. -/
  | running
  | typeError
  | done (state : σ) (value : β)

/-- The results for all items of a list. -/
def collect (one : σ → α → Progress σ β) : σ → List α → Progress σ (List β)
  | state, [] => .done state []
  | state, item :: rest =>
    match one state item with
    | .done state value =>
      match collect one state rest with
      | .done state values => .done state (value :: values)
      | .running => .running
      | .typeError => .typeError
    | .running => .running
    | .typeError => .typeError

/-- `JSON.stringify` with a replacer that has a state, for a value inside the objects on the stack.
It throws a `TypeError` if it gets to one of these again. -/
def stringify (heap : Heap ν n) (replacer : σ → Value ν n → Progress σ (Value ν n)) :
    Nat → Finset (Fin n) → σ → Value ν n → Progress σ (Option (Json ν))
  | fuel, stack, state, value =>
    match replacer state value with
    | .running => .running
    | .typeError => .typeError
    | .done state .null => .done state (some .null)
    | .done state (.bool value) => .done state (some (.bool value))
    | .done state (.number value) => .done state (some (.number value))
    | .done state (.string value) => .done state (some (.string value))
    | .done state .undefined => .done state none
    | .done state .function => .done state none
    | .done state (.ref address) =>
      if address ∈ stack then .typeError
      else
        match fuel with
        | 0 => .running
        | fuel + 1 =>
          match collect (stringify heap replacer fuel (insert address stack)) state
              (heap.cell address).children with
          | .done state results => .done state (some ((heap.cell address).build results))
          | .running => .running
          | .typeError => .typeError

/-- The outcome of `JSON.parse(JSON.stringify(...))`. -/
inductive Copied (ν : Type) where
  | json (json : Json ν)
  /-- `JSON.parse` of `undefined`. -/
  | syntaxError
  | typeError
  /-- The bound was too small. -/
  | running

/-- `JSON.parse` of what `JSON.stringify` returns. -/
def Progress.parse : Progress σ (Option (Json ν)) → Copied ν
  | .done _ (some json) => .json json
  | .done _ none => .syntaxError
  | .typeError => .typeError
  | .running => .running

/-- `JSON.parse(JSON.stringify(value))`. -/
def copy (heap : Heap ν n) (value : Value ν n) : Copied ν :=
  (stringify heap .done (n + 1) ∅ () value).parse

theorem room {stack : Finset (Fin n)} {address : Fin n} (outside : address ∉ stack) :
    n - (insert address stack).card < n - stack.card := by
  have bound := Finset.card_le_univ (insert address stack)
  rw [Finset.card_insert_of_notMem outside, Fintype.card_fin] at bound
  rw [Finset.card_insert_of_notMem outside]
  omega

/-- Whether conversion to a primitive value throws a `TypeError`: an object has a `toString` of its
own, which is no function. An array is joined; those that are being joined count as empty. -/
def inconvertible (heap : Heap ν n) (stack : Finset (Fin n)) : Value ν n → Bool
  | .ref address =>
    if address ∈ stack then false
    else
      match heap.cell address with
      | .array items => items.any fun item => inconvertible heap (insert address stack) item
      | .object members => members.has (Text.ascii "toString")
  | _ => false
termination_by n - stack.card
decreasing_by exact room ‹_›

/-- The JSON of a value without the references to the objects around them. -/
def cut (heap : Heap ν n) (stack : Finset (Fin n)) : Value ν n → Option (Json ν)
  | .null => some .null
  | .bool value => some (.bool value)
  | .number value => some (.number value)
  | .string value => some (.string value)
  | .undefined => none
  | .function => none
  | .ref address =>
    if address ∈ stack then none
    else some ((heap.cell address).build
      ((heap.cell address).children.map fun child => cut heap (insert address stack) child))
termination_by n - stack.card
decreasing_by exact room ‹_›

/-- The objects that are met on the way, in this order and as often as they are met. -/
def visits (heap : Heap ν n) (stack : Finset (Fin n)) : Value ν n → List (Fin n)
  | .ref address =>
    if address ∈ stack then []
    else address :: (heap.cell address).children.flatMap fun child =>
      visits heap (insert address stack) child
  | _ => []
termination_by n - stack.card
decreasing_by exact room ‹_›

/-- The copy of a value without the references that point back to an enclosing object. -/
def withoutCycles (heap : Heap ν n) (value : Value ν n) : Copied ν :=
  Progress.parse (.done () (cut heap ∅ value))

/-- An object has a reference to another one. -/
def Edge (heap : Heap ν n) (source target : Fin n) : Prop :=
  .ref target ∈ (heap.cell source).children

/-- No object inside a value has a way back to itself. -/
def Acyclic (heap : Heap ν n) (value : Value ν n) : Prop :=
  ∀ root address, value = .ref root → Relation.ReflTransGen (Edge heap) root address →
    ¬ Relation.TransGen (Edge heap) address address

section Laws

variable {heap : Heap ν n} {stack : Finset (Fin n)}

variable (address : Fin n) {value : Value ν n} {state : σ}

theorem cut_ref (outside : address ∉ stack) :
    cut heap stack (.ref address) = some ((heap.cell address).build
      ((heap.cell address).children.map (cut heap (insert address stack)))) := by
  rw [cut, if_neg outside]

theorem cut_enclosing (inside : address ∈ stack) :
    cut heap stack (.ref address) = none := by
  rw [cut, if_pos inside]

theorem visits_ref (outside : address ∉ stack) :
    visits heap stack (.ref address) = address ::
      (heap.cell address).children.flatMap (visits heap (insert address stack)) := by
  rw [visits, if_neg outside]

theorem visits_enclosing (inside : address ∈ stack) :
    visits heap stack (.ref address) = [] := by
  rw [visits, if_pos inside]

theorem visits_plain (plain : ∀ address, value ≠ .ref address) :
    visits heap stack value = [] := by
  rw [visits]
  exact plain

theorem stringify_plain {replacer : σ → Value ν n → Progress σ (Value ν n)}
    (plain : ∀ address, value ≠ .ref address) (kept : replacer state value = .done state value)
    (fuel : Nat) :
    stringify heap replacer fuel stack state value = .done state (cut heap stack value) := by
  rw [stringify, kept]
  cases value with
  | ref address => exact absurd rfl (plain address)
  | null => rw [cut]
  | bool flag => rw [cut]
  | number number => rw [cut]
  | string text => rw [cut]
  | undefined => rw [cut]
  | function => rw [cut]

theorem collect_eq_map {one : σ → α → Progress σ β} {f : α → β} {items : List α}
    (each : ∀ item ∈ items, one state item = .done state (f item)) :
    collect one state items = .done state (items.map f) := by
  induction items with
  | nil => rfl
  | cons item rest ih =>
    obtain ⟨first, later⟩ := List.forall_mem_cons.mp each
    simp only [collect, first, ih later, List.map_cons]

theorem stringify_acyclic {root : Fin n}
    (acyclic : ∀ address, Relation.ReflTransGen (Edge heap) root address →
      ¬ Relation.TransGen (Edge heap) address address)
    (fuel : Nat) (stack : Finset (Fin n)) (enough : n < fuel + stack.card) (value : Value ν n)
    (below : ∀ address, value = .ref address → Relation.ReflTransGen (Edge heap) root address ∧
      ∀ outer ∈ stack, Relation.TransGen (Edge heap) outer address) :
    stringify heap .done fuel stack () value =
      .done () (cut heap stack value) := by
  -- The objects on the stack are those from the root down to the value.
  induction fuel generalizing stack value with
  | zero =>
    have bound := Finset.card_le_univ stack
    rw [Fintype.card_fin] at bound
    omega
  | succ fuel ih =>
    by_cases plain : ∀ address, value ≠ .ref address
    · exact stringify_plain plain rfl _
    · push Not at plain
      obtain ⟨address, rfl⟩ := plain
      obtain ⟨reached, above⟩ := below address rfl
      -- An object on the stack would have a way back to itself.
      have outside : address ∉ stack := fun inside => acyclic address reached (above address inside)
      have children : collect (stringify heap .done fuel
          (insert address stack)) () (heap.cell address).children =
          .done () ((heap.cell address).children.map (cut heap (insert address stack))) := by
        refine collect_eq_map fun child inside => ih _ ?_ child fun target same => ?_
        · rw [Finset.card_insert_of_notMem outside]
          omega
        · subst same
          refine ⟨reached.tail inside, fun outer among => ?_⟩
          obtain rfl | among := Finset.mem_insert.mp among
          · exact .single inside
          · exact (above outer among).tail inside
      rw [stringify, cut_ref address outside]
      simp only [if_neg outside, children]

theorem copy_acyclic (acyclic : Acyclic heap value) :
    copy heap value = withoutCycles heap value := by
  rw [copy, withoutCycles]
  congr 1
  by_cases plain : ∀ address, value ≠ .ref address
  · exact stringify_plain plain rfl _
  · push Not at plain
    obtain ⟨root, rfl⟩ := plain
    refine stringify_acyclic (fun address => acyclic root address rfl) _ _ (by simp) _ ?_
    intro address same
    cases same
    exact ⟨.refl, by simp⟩

theorem parse_done_inj {τ : Type} {other : τ} {left right : Option (Json ν)} :
    (Progress.done state left).parse = (Progress.done other right).parse ↔ left = right := by
  cases left <;> cases right <;> simp [Progress.parse]

end Laws

end Base.Graph
