import Moleculer.Base.ObjectGraph

/-! Copies of objects without what cannot be sent (`utils.safetyObject`). -/

namespace Moleculer.Utils

open Base Graph

variable {ν : Type} {n : Nat}

/-- Whether one of the two size checks throws at an object: nothing is greater than `Infinity`, but
the comparison converts what the object has under `length` or `size`. The length of an array is a
number. -/
def uncomparable (heap : Heap ν n) (address : Fin n) : Bool :=
  match heap.cell address with
  | .array _ => false
  | .object members => ["length", "size"].any fun name =>
    ((members.get (Text.ascii name)).map (inconvertible heap ∅)).getD false

/-- `circularReplacer` without a `maxSafeObjectSize`: objects that were seen before are dropped. The
sizes are `limited` by `Infinity` if there are no options at all. -/
def circularReplacer (heap : Heap ν n) (limited : Bool) (seen : Finset (Fin n)) :
    Value ν n → Progress (Finset (Fin n)) (Value ν n)
  | .ref address =>
    if limited && uncomparable heap address then .typeError
    else if address ∈ seen then .done seen .undefined
    else .done (insert address seen) (.ref address)
  | value => .done seen value

/-- `safetyObject`. -/
def safetyObject (heap : Heap ν n) (limited : Bool) (value : Value ν n) : Copied ν :=
  (stringify heap (circularReplacer heap limited) (n + 1) ∅ ∅ value).parse

/-- Only what is circular is removed. -/
def OnlyCircularRemoved (heap : Heap ν n) (limited : Bool) (value : Value ν n) : Prop :=
  (Acyclic heap value → safetyObject heap limited value = copy heap value) ∧
    (¬ Acyclic heap value → safetyObject heap limited value = withoutCycles heap value)

/-- No size check throws at an object inside a value. -/
def Comparable (heap : Heap ν n) (limited : Bool) (value : Value ν n) : Prop :=
  ∀ root address, value = .ref root → Relation.ReflTransGen (Edge heap) root address →
    ¬ (limited && uncomparable heap address) = true

section Laws

variable {heap : Heap ν n} {limited : Bool} {stack seen : Finset (Fin n)}

/-- A result that may lack what another one has: an object in the place of which there is
nothing. -/
def Lacks (result complete : Option (Json ν)) : Prop :=
  (complete = none → result = none) ∧ (complete = some .null → result = complete)

theorem Lacks.refl (result : Option (Json ν)) : Lacks result result := ⟨id, fun _ => rfl⟩

/-- An array or object is neither missing nor `null`. -/
theorem Lacks.build (result : Option (Json ν)) (cell : Cell ν n)
    {parts : List (Option (Json ν))} : Lacks result (some (cell.build parts)) := by
  refine ⟨nofun, fun null => ?_⟩
  cases cell <;> simp [Cell.build] at null

variable {results complete : List (Option (Json ν))}

theorem Lacks.eq_of_items (lacks : List.Forall₂ Lacks results complete)
    (same : results.map (·.getD .null) = complete.map (·.getD .null)) : results = complete := by
  induction lacks with
  | nil => rfl
  | @cons result whole results complete lack _ ih =>
    simp only [List.map_cons, List.cons.injEq] at same
    rw [ih same.2]
    congr 1
    cases whole with
    | none => exact lack.1 rfl
    | some json =>
      cases result with
      | none =>
        have null : json = .null := same.1.symm
        subst null
        exact lack.2 rfl
      | some other => exact congrArg some same.1

theorem mem_keys_of_filterMap {keys : List Text} {key : Text} {json : Json ν}
    (inside : (key, json) ∈ (keys.zip results).filterMap fun entry => entry.2.map (entry.1, ·)) :
    key ∈ keys := by
  obtain ⟨entry, among, equal⟩ := List.mem_filterMap.mp inside
  obtain ⟨value, _, pair⟩ := Option.map_eq_some_iff.mp equal
  cases pair
  exact (List.of_mem_zip among).1

theorem eq_of_members {keys : List Text} (nodup : keys.Nodup)
    (length : results.length = keys.length) (other_length : complete.length = keys.length)
    (same : ((keys.zip results).filterMap fun entry => entry.2.map (entry.1, ·)) =
      (keys.zip complete).filterMap fun entry => entry.2.map (entry.1, ·)) :
    results = complete := by
  induction keys generalizing results complete with
  | nil =>
    rw [List.length_eq_zero_iff.mp length, List.length_eq_zero_iff.mp other_length]
  | cons key keys ih =>
    obtain ⟨apart, nodup⟩ := List.nodup_cons.mp nodup
    cases results with
    | nil => cases length
    | cons result results =>
      cases complete with
      | nil => cases other_length
      | cons whole complete =>
        have lengths := ih nodup (Nat.succ.inj length) (Nat.succ.inj other_length)
        cases result with
        | none =>
          cases whole with
          | none =>
            simp only [List.zip_cons_cons, List.filterMap_cons, Option.map_none] at same
            rw [lengths same]
          | some json =>
            -- The key of the missing member would have to come again.
            simp only [List.zip_cons_cons, List.filterMap_cons, Option.map_none,
              Option.map_some] at same
            exact absurd (mem_keys_of_filterMap (same ▸ List.mem_cons_self)) apart
        | some json =>
          cases whole with
          | none =>
            simp only [List.zip_cons_cons, List.filterMap_cons, Option.map_none,
              Option.map_some] at same
            exact absurd (mem_keys_of_filterMap (same.symm ▸ List.mem_cons_self)) apart
          | some other =>
            simp only [List.zip_cons_cons, List.filterMap_cons, Option.map_some,
              List.cons.injEq, Prod.mk.injEq, true_and] at same
            rw [same.1, lengths same.2]

theorem build_inj (cell : Cell ν n) (lacks : List.Forall₂ Lacks results complete)
    (length : complete.length = cell.children.length)
    (same : cell.build results = cell.build complete) : results = complete := by
  cases cell with
  | array items => exact Lacks.eq_of_items lacks (Json.array.inj same)
  | object members =>
    have keys : complete.length = members.keys.length := by
      rw [length]
      simp [Cell.children, OrderedMap.values, OrderedMap.keys]
    exact eq_of_members members.nodup (lacks.length_eq.trans keys) keys (Json.object.inj same)

/-- What the replacer does to values that are met inside the objects of a stack: the JSON is
complete exactly if none of the objects in it was seen before. -/
structure Replaced (seen : Finset (Fin n)) (met : List (Fin n)) (complete : Prop)
    (after : Finset (Fin n)) : Prop where
  grows : seen ⊆ after
  complete_iff : complete ↔ met.Nodup ∧ ∀ address ∈ met, address ∉ seen
  exact : complete → after = seen ∪ met.toFinset

theorem Replaced.plain (seen : Finset (Fin n)) {complete : Prop} (holds : complete) :
    Replaced seen [] complete seen :=
  ⟨subset_rfl, by simp [holds], by simp⟩

theorem Replaced.append {first second : List (Fin n)} {left right : Prop}
    {middle after : Finset (Fin n)} (before : Replaced seen first left middle)
    (later : Replaced middle second right after) :
    Replaced seen (first ++ second) (left ∧ right) after := by
  refine ⟨before.grows.trans later.grows, ?_, fun both => ?_⟩
  · -- What was met first counts as seen for the rest.
    constructor
    · intro both
      obtain ⟨nodup, fresh⟩ := before.complete_iff.mp both.1
      obtain ⟨nodup', fresh'⟩ := later.complete_iff.mp both.2
      rw [before.exact both.1] at fresh'
      refine ⟨List.nodup_append.mpr ⟨nodup, nodup', ?_⟩, fun address inside => ?_⟩
      · rintro address inside other again rfl
        exact fresh' address again (Finset.mem_union_right _ (List.mem_toFinset.mpr inside))
      · obtain inside | inside := List.mem_append.mp inside
        · exact fresh address inside
        · exact fun old => fresh' address inside (Finset.mem_union_left _ old)
    · intro both
      obtain ⟨nodup, nodup', apart⟩ := List.nodup_append.mp both.1
      have left : left := before.complete_iff.mpr
        ⟨nodup, fun address inside => both.2 address (List.mem_append_left _ inside)⟩
      refine ⟨left, later.complete_iff.mpr ⟨nodup', fun address inside old => ?_⟩⟩
      rw [before.exact left] at old
      obtain old | old := Finset.mem_union.mp old
      · exact both.2 address (List.mem_append_right _ inside) old
      · exact apart address (List.mem_toFinset.mp old) address inside rfl
  · rw [later.exact both.2, before.exact both.1, List.toFinset_append, Finset.union_assoc]

theorem Replaced.enter {address : Fin n} {met : List (Fin n)} {complete whole : Prop}
    {after : Finset (Fin n)} (fresh : address ∉ seen)
    (inside : Replaced (insert address seen) met complete after) (same : whole ↔ complete) :
    Replaced seen (address :: met) whole after := by
  refine ⟨(Finset.subset_insert _ _).trans inside.grows, ?_, fun holds => ?_⟩
  · rw [same, inside.complete_iff, List.nodup_cons]
    constructor
    · rintro ⟨nodup, unseen⟩
      refine ⟨⟨fun again => unseen address again (Finset.mem_insert_self _ _), nodup⟩, ?_⟩
      intro other among
      obtain rfl | among := List.mem_cons.mp among
      · exact fresh
      · exact fun old => unseen other among (Finset.mem_insert_of_mem old)
    · rintro ⟨⟨apart, nodup⟩, unseen⟩
      refine ⟨nodup, fun other among old => ?_⟩
      obtain rfl | old := Finset.mem_insert.mp old
      · exact apart among
      · exact unseen other (List.mem_cons_of_mem _ among) old
  · rw [inside.exact (same.mp holds), List.toFinset_cons, Finset.insert_union,
      Finset.union_insert]

theorem replaced_collect
    {one : Finset (Fin n) → Value ν n → Progress (Finset (Fin n)) (Option (Json ν))}
    (children : List (Value ν n))
    (each : ∀ state, seen ⊆ state → ∀ child ∈ children, ∃ after result,
      one state child = .done after result ∧
      Replaced state (visits heap stack child) (result = cut heap stack child) after ∧
      Lacks result (cut heap stack child))
    (state : Finset (Fin n)) (grown : seen ⊆ state) :
    ∃ after results, collect one state children = .done after results ∧
      Replaced state (children.flatMap (visits heap stack))
        (results = children.map (cut heap stack)) after ∧
      List.Forall₂ Lacks results (children.map (cut heap stack)) := by
  induction children generalizing state with
  | nil => exact ⟨state, [], rfl, .plain state rfl, .nil⟩
  | cons child rest ih =>
    obtain ⟨middle, result, first, replaced, lacks⟩ := each state grown child List.mem_cons_self
    obtain ⟨after, results, others, later, lack⟩ :=
      ih (fun state grown child inside => each state grown child (List.mem_cons_of_mem _ inside))
        middle (grown.trans replaced.grows)
    refine ⟨after, result :: results, ?_, ?_, .cons lacks lack⟩
    · simp only [collect, first, others]
    · rw [List.flatMap_cons, List.map_cons, List.cons.injEq]
      exact replaced.append later

theorem circularReplacer_plain {value : Value ν n} (plain : ∀ address, value ≠ .ref address) :
    circularReplacer heap limited seen value = .done seen value := by
  cases value with
  | ref address => exact absurd rfl (plain address)
  | _ => rfl

/-- Objects inside a value, among which no size check throws. -/
structure Sound (heap : Heap ν n) (limited : Bool) (inner : Fin n → Prop) : Prop where
  closed : ∀ source target, inner source → Edge heap source target → inner target
  comparable : ∀ address, inner address → ¬ (limited && uncomparable heap address) = true

/-- The JSON that `stringify` makes with the replacer. -/
theorem replaced_stringify {inner : Fin n → Prop} (sound : Sound heap limited inner) (fuel : Nat)
    (stack seen : Finset (Fin n)) (inside : stack ⊆ seen) (enough : n < fuel + seen.card)
    (value : Value ν n) (within : ∀ address, value = .ref address → inner address) :
    ∃ after result,
      stringify heap (circularReplacer heap limited) fuel stack seen value = .done after result ∧
      Replaced seen (visits heap stack value) (result = cut heap stack value) after ∧
      Lacks result (cut heap stack value) := by
  -- Every object is entered once, so that the depth is bounded by those that were not seen.
  induction fuel generalizing stack seen value with
  | zero =>
    have bound := Finset.card_le_univ seen
    rw [Fintype.card_fin] at bound
    omega
  | succ fuel ih =>
    by_cases plain : ∀ address, value ≠ .ref address
    · refine ⟨seen, cut heap stack value,
        stringify_plain plain (circularReplacer_plain plain) _, ?_, .refl _⟩
      rw [visits_plain plain]
      exact .plain seen rfl
    · push Not at plain
      obtain ⟨address, rfl⟩ := plain
      have checked := sound.comparable address (within address rfl)
      by_cases enclosing : address ∈ stack
      · -- A reference to an enclosing object is dropped by both.
        refine ⟨seen, none, ?_, ?_, ?_⟩
        · rw [stringify]
          simp only [circularReplacer, if_neg checked, if_pos (inside enclosing)]
        · rw [visits_enclosing address enclosing, cut_enclosing address enclosing]
          exact .plain seen rfl
        · rw [cut_enclosing address enclosing]
          exact .refl none
      · rw [visits_ref address enclosing, cut_ref address enclosing]
        by_cases old : address ∈ seen
        · -- A shared object is dropped, where the other copy has it.
          refine ⟨seen, none, ?_, ?_, ?_⟩
          · rw [stringify]
            simp only [circularReplacer, if_neg checked, if_pos old]
          · refine ⟨subset_rfl, ?_, fun same => ?_⟩
            · simp [old]
            · cases same
          · exact .build _ _
        · obtain ⟨after, results, collected, replaced, lacks⟩ := @replaced_collect _ _ heap
            (insert address stack) (insert address seen)
            (stringify heap (circularReplacer heap limited) fuel (insert address stack))
            (heap.cell address).children
            (fun state grown child among => ih _ _
              ((Finset.insert_subset_insert _ inside).trans grown)
              (by
                have larger := Finset.card_le_card grown
                rw [Finset.card_insert_of_notMem old] at larger
                omega) child
              fun target same => sound.closed address target (within address rfl) (by
                rw [Edge, ← same]
                exact among))
            _ subset_rfl
          refine ⟨after, some ((heap.cell address).build results), ?_, replaced.enter old ?_, ?_⟩
          · rw [stringify]
            simp only [circularReplacer, if_neg checked, if_neg old, if_neg enclosing, collected]
          · rw [Option.some.injEq]
            refine ⟨build_inj _ lacks (by simp), fun same => by rw [same]⟩
          · exact .build _ _

/-- What is seen after some values were walked through without an exception: all objects in them,
and with every new object those that it refers to. -/
structure Searched (heap : Heap ν n) (limited : Bool) (seen : Finset (Fin n))
    (values : List (Value ν n)) (after : Finset (Fin n)) : Prop where
  grows : seen ⊆ after
  met : ∀ address, .ref address ∈ values → address ∈ after
  entered : ∀ address ∈ after, address ∉ seen →
    ¬ (limited && uncomparable heap address) = true ∧
      ∀ target, Edge heap address target → target ∈ after

theorem Searched.append {values others : List (Value ν n)} {middle after : Finset (Fin n)}
    (first : Searched heap limited seen values middle)
    (later : Searched heap limited middle others after) :
    Searched heap limited seen (values ++ others) after where
  grows := first.grows.trans later.grows
  met address inside := by
    obtain inside | inside := List.mem_append.mp inside
    · exact later.grows (first.met address inside)
    · exact later.met address inside
  entered address inside new := by
    by_cases before : address ∈ middle
    · obtain ⟨checked, followed⟩ := first.entered address before new
      exact ⟨checked, fun target edge => later.grows (followed target edge)⟩
    · exact later.entered address inside before

theorem Searched.enter {address : Fin n} {after : Finset (Fin n)}
    (checked : ¬ (limited && uncomparable heap address) = true)
    (inside : Searched heap limited (insert address seen) (heap.cell address).children after) :
    Searched heap limited seen [.ref address] after where
  grows := (Finset.subset_insert _ _).trans inside.grows
  met other among := by
    cases List.mem_singleton.mp among
    exact inside.grows (Finset.mem_insert_self _ _)
  entered other among new := by
    obtain rfl | different := eq_or_ne other address
    · exact ⟨checked, inside.met⟩
    · refine inside.entered other among fun old => ?_
      obtain same | old := Finset.mem_insert.mp old
      · exact different same
      · exact new old

theorem searched_collect
    {one : Finset (Fin n) → Value ν n → Progress (Finset (Fin n)) (Option (Json ν))}
    (each : ∀ state, seen ⊆ state → ∀ child, one state child = .typeError ∨
      ∃ after result, one state child = .done after result ∧
        Searched heap limited state [child] after)
    (children : List (Value ν n)) (state : Finset (Fin n)) (grown : seen ⊆ state) :
    collect one state children = .typeError ∨
      ∃ after results, collect one state children = .done after results ∧
        Searched heap limited state children after := by
  induction children generalizing state with
  | nil => exact .inr ⟨state, [], rfl, subset_rfl, by simp, fun _ old new => absurd old new⟩
  | cons child rest ih =>
    obtain thrown | ⟨middle, result, first, searched⟩ := each state grown child
    · exact .inl (by simp only [collect, thrown])
    · obtain thrown | ⟨after, results, others, later⟩ := ih middle (grown.trans searched.grows)
      · exact .inl (by simp only [collect, first, thrown])
      · exact .inr ⟨after, result :: results, by simp only [collect, first, others],
          searched.append later⟩

/-- `stringify` with the replacer comes to an end; if without an exception, all was checked. -/
theorem searched_stringify (fuel : Nat) (stack seen : Finset (Fin n)) (inside : stack ⊆ seen)
    (enough : n < fuel + seen.card) (value : Value ν n) :
    stringify heap (circularReplacer heap limited) fuel stack seen value = .typeError ∨
      ∃ after result,
        stringify heap (circularReplacer heap limited) fuel stack seen value =
          .done after result ∧ Searched heap limited seen [value] after := by
  induction fuel generalizing stack seen value with
  | zero =>
    have bound := Finset.card_le_univ seen
    rw [Fintype.card_fin] at bound
    omega
  | succ fuel ih =>
    by_cases plain : ∀ address, value ≠ .ref address
    · refine .inr ⟨seen, _, stringify_plain plain (circularReplacer_plain plain) _, subset_rfl,
        fun address among => ?_, fun _ old new => absurd old new⟩
      exact absurd (List.mem_singleton.mp among).symm (plain address)
    · push Not at plain
      obtain ⟨address, rfl⟩ := plain
      by_cases checked : (limited && uncomparable heap address) = true
      · left
        rw [stringify]
        simp only [circularReplacer, if_pos checked]
      · by_cases old : address ∈ seen
        · refine .inr ⟨seen, none, ?_, subset_rfl, fun other among => ?_,
            fun _ old new => absurd old new⟩
          · rw [stringify]
            simp only [circularReplacer, if_neg checked, if_pos old]
          · cases List.mem_singleton.mp among
            exact old
        · have outside : address ∉ stack := fun enclosing => old (inside enclosing)
          have entered := @searched_collect _ _ heap limited (insert address seen)
            (stringify heap (circularReplacer heap limited) fuel (insert address stack))
            (fun state grown child => ih _ _ ((Finset.insert_subset_insert _ inside).trans grown)
              (by
                have larger := Finset.card_le_card grown
                rw [Finset.card_insert_of_notMem old] at larger
                omega) child)
            (heap.cell address).children _ subset_rfl
          rw [stringify]
          simp only [circularReplacer, if_neg checked, if_neg old, if_neg outside]
          obtain thrown | ⟨after, results, collected, searched⟩ := entered
          · exact .inl (by rw [thrown])
          · exact .inr ⟨after, _, by rw [collected], searched.enter checked⟩

theorem Searched.comparable {value : Value ν n} {after : Finset (Fin n)}
    (searched : Searched heap limited ∅ [value] after) : Comparable heap limited value := by
  rintro root address rfl path
  -- All that can be reached was entered, along the path from the root.
  have inside : address ∈ after := by
    induction path with
    | refl => exact searched.met root List.mem_cons_self
    | tail _ edge ih => exact (searched.entered _ ih (Finset.notMem_empty _)).2 _ edge
  exact (searched.entered _ inside (Finset.notMem_empty _)).1

variable (heap limited)

/-- Where no size check throws, the copy is complete up to cycles exactly if no object is met
twice. -/
theorem safetyObject_spec {value : Value ν n} (comparable : Comparable heap limited value) :
    safetyObject heap limited value = withoutCycles heap value ↔ (visits heap ∅ value).Nodup := by
  -- The objects inside the value are closed under references.
  have sound : Sound heap limited fun address =>
      ∃ root, value = .ref root ∧ Relation.ReflTransGen (Edge heap) root address :=
    ⟨fun source target ⟨root, same, path⟩ edge => ⟨root, same, path.tail edge⟩,
      fun address ⟨root, same, path⟩ => comparable root address same path⟩
  obtain ⟨after, result, done, replaced, _⟩ :=
    replaced_stringify sound (n + 1) ∅ ∅ subset_rfl (by simp) value
      fun address same => ⟨address, same, .refl⟩
  rw [safetyObject, done, withoutCycles, parse_done_inj, replaced.complete_iff]
  simp

theorem safetyObject_returns (value : Value ν n) :
    safetyObject heap limited value ≠ .running ∧
      (safetyObject heap limited value = withoutCycles heap value →
        Comparable heap limited value) := by
  rw [safetyObject, withoutCycles]
  obtain thrown | ⟨after, result, done, searched⟩ := @searched_stringify _ _ heap limited (n + 1)
    ∅ ∅ subset_rfl (by simp) value
  · rw [thrown]
    cases cut heap ∅ value <;> simp [Progress.parse]
  · rw [done]
    refine ⟨?_, fun _ => searched.comparable⟩
    cases result <;> simp [Progress.parse]

end Laws

/-- An object with two members that are the same empty object. -/
def sharing : Heap Nat 2 where
  cell address :=
    if address = 0 then
      .object ((OrderedMap.empty.set (.ascii "a") (.ref 1)).set (.ascii "b") (.ref 1))
    else .object .empty
  inert address members cell := by
    split at cell
    · cases cell
      decide
    · cases cell
      decide

end Moleculer.Utils
