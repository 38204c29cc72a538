import Mathlib.Data.List.Forall2

/-! Values that are built in layers: each one lists others below it, and all of them are merged into
one value, from the lowest layer to the highest. -/

namespace Base

/-- A layer with the layered values it builds on, in the order in which they are listed. -/
inductive Layered (α : Type) where
  | mk (layer : α) (below : List (Layered α))

namespace Layered

variable {α β : Type}

mutual

/-- All layers, the lowest first: of the values listed below a layer the last one lies lowest. -/
def layers : Layered α → List α
  | ⟨layer, below⟩ => layersBelow below ++ [layer]

/-- The layers of a list of values. -/
def layersBelow : List (Layered α) → List α
  | [] => []
  | first :: rest => layersBelow rest ++ first.layers

end

mutual

/-- Merge all layers into one. -/
def combine (merge : α → α → α) : Layered α → α
  | ⟨layer, below⟩ =>
    match combineBelow merge below with
    | none => layer
    | some lower => merge lower layer

/-- Merge a list of values from its end: the last one is the start, each one before it is merged
over what there is. -/
def combineBelow (merge : α → α → α) : List (Layered α) → Option α
  | [] => none
  | first :: rest =>
    match combineBelow merge rest with
    | none => some (first.combine merge)
    | some lower => some (merge lower (first.combine merge))

end

mutual

/-- Change every layer. -/
def map (f : α → β) : Layered α → Layered β
  | ⟨layer, below⟩ => ⟨f layer, mapBelow f below⟩

/-- Change every layer of a list of values. -/
def mapBelow (f : α → β) : List (Layered α) → List (Layered β)
  | [] => []
  | first :: rest => first.map f :: mapBelow f rest

end

mutual

/-- Two values of the same shape whose layers are related, each to the one in its place. -/
def Similar (related : α → β → Prop) : Layered α → Layered β → Prop
  | ⟨layer, below⟩, ⟨other, others⟩ => related layer other ∧ SimilarBelow related below others

/-- Two lists of values of the same shape whose layers are related. -/
def SimilarBelow (related : α → β → Prop) : List (Layered α) → List (Layered β) → Prop
  | [], [] => True
  | first :: rest, other :: others => Similar related first other ∧ SimilarBelow related rest others
  | _, _ => False

end

mutual

theorem layers_map (f : α → β) : ∀ value : Layered α, (value.map f).layers = value.layers.map f
  | ⟨layer, below⟩ => by
    rw [map, layers, layers, layersBelow_mapBelow f below, List.map_append, List.map_singleton]

theorem layersBelow_mapBelow (f : α → β) :
    ∀ below : List (Layered α), layersBelow (mapBelow f below) = (layersBelow below).map f
  | [] => rfl
  | first :: rest => by
    rw [mapBelow, layersBelow, layersBelow, layersBelow_mapBelow f rest, layers_map f first,
      List.map_append]

end

mutual

theorem map_map {γ : Type} (f : α → β) (g : β → γ) :
    ∀ value : Layered α, (value.map f).map g = value.map fun layer => g (f layer)
  | ⟨layer, below⟩ => by
    rw [map, map, map, mapBelow_mapBelow f g below]

theorem mapBelow_mapBelow {γ : Type} (f : α → β) (g : β → γ) :
    ∀ below : List (Layered α),
      mapBelow g (mapBelow f below) = mapBelow (fun layer => g (f layer)) below
  | [] => rfl
  | first :: rest => by
    rw [mapBelow, mapBelow, mapBelow, map_map f g first, mapBelow_mapBelow f g rest]

end

section Induction

variable {merge : α → α → α} {motive : List α → α → Prop}

mutual

theorem combine_induction (single : ∀ layer, motive [layer] layer)
    (merged : ∀ lower upper low high, motive lower low → motive upper high →
      motive (lower ++ upper) (merge low high)) :
    ∀ value : Layered α, motive value.layers (value.combine merge)
  | ⟨layer, below⟩ => by
    have rest := combineBelow_induction single merged below
    rw [layers, combine]
    cases found : combineBelow merge below with
    | none =>
      rw [found] at rest
      rw [show layersBelow below = [] from rest]
      exact single layer
    | some lower =>
      rw [found] at rest
      exact merged _ _ _ _ rest (single layer)

theorem combineBelow_induction (single : ∀ layer, motive [layer] layer)
    (merged : ∀ lower upper low high, motive lower low → motive upper high →
      motive (lower ++ upper) (merge low high)) :
    ∀ below : List (Layered α),
      match combineBelow merge below with
      | none => layersBelow below = []
      | some lower => motive (layersBelow below) lower
  | [] => rfl
  | first :: rest => by
    have behind := combineBelow_induction single merged rest
    have front := combine_induction single merged first
    rw [combineBelow]
    cases found : combineBelow merge rest with
    | none =>
      rw [found] at behind
      show motive (layersBelow rest ++ first.layers) (first.combine merge)
      rw [show layersBelow rest = [] from behind]
      exact front
    | some lower =>
      rw [found] at behind
      exact merged _ _ _ _ behind front

end

end Induction

theorem combine_flatMap {merge : α → α → α} {part : α → List β}
    (appends : ∀ low high, part (merge low high) = part low ++ part high) (value : Layered α) :
    part (value.combine merge) = value.layers.flatMap part := by
  refine combine_induction (motive := fun layers whole => part whole = layers.flatMap part)
    (fun layer => (List.flatMap_singleton part layer).symm) ?_ value
  intro lower upper low high first second
  rw [appends, first, second, List.flatMap_append]

theorem combine_reverse_flatMap {merge : α → α → α} {part : α → List β}
    (prepends : ∀ low high, part (merge low high) = part high ++ part low) (value : Layered α) :
    part (value.combine merge) = value.layers.reverse.flatMap part := by
  refine combine_induction (motive := fun layers whole => part whole = layers.reverse.flatMap part)
    (fun layer => (List.flatMap_singleton part layer).symm) ?_ value
  intro lower upper low high first second
  rw [prepends, first, second, List.reverse_append, List.flatMap_append]

theorem combine_findSome {merge : α → α → α} {part : α → Option β}
    (overwrites : ∀ low high, part (merge low high) = (part high).or (part low))
    (value : Layered α) :
    part (value.combine merge) = value.layers.reverse.findSome? part := by
  refine combine_induction
    (motive := fun layers whole => part whole = layers.reverse.findSome? part) (fun layer => ?_) ?_
    value
  · rw [List.reverse_singleton, List.findSome?_singleton]
  · intro lower upper low high first second
    rw [overwrites, first, second, List.reverse_append, List.findSome?_append]

section Projection

variable {merge : α → α → α} {mergePart : β → β → β} {part : α → β}

mutual

theorem combine_map
    (commutes : ∀ low high, part (merge low high) = mergePart (part low) (part high)) :
    ∀ value : Layered α, part (value.combine merge) = (value.map part).combine mergePart
  | ⟨layer, below⟩ => by
    rw [combine, map, combine, ← combineBelow_map commutes below]
    cases combineBelow merge below with
    | none => rfl
    | some lower => exact commutes lower layer

theorem combineBelow_map
    (commutes : ∀ low high, part (merge low high) = mergePart (part low) (part high)) :
    ∀ below : List (Layered α),
      (combineBelow merge below).map part = combineBelow mergePart (mapBelow part below)
  | [] => rfl
  | first :: rest => by
    rw [combineBelow, mapBelow, combineBelow, ← combineBelow_map commutes rest,
      ← combine_map commutes first]
    cases combineBelow merge rest with
    | none => rfl
    | some lower => exact congrArg some (commutes lower (first.combine merge))

end

end Projection

section Similar

theorem not_similarBelow_nil_cons {related : α → β → Prop} {other : Layered β}
    {others : List (Layered β)} : ¬ SimilarBelow related [] (other :: others) := by
  simp [SimilarBelow]

theorem not_similarBelow_cons_nil {related : α → β → Prop} {first : Layered α}
    {rest : List (Layered α)} : ¬ SimilarBelow related (first :: rest) [] := by
  simp [SimilarBelow]

mutual

theorem Similar.map {γ δ : Type} {related : α → β → Prop} {after : γ → δ → Prop} {f : α → γ}
    {g : β → δ} (step : ∀ layer other, related layer other → after (f layer) (g other)) :
    ∀ {value : Layered α} {other : Layered β}, Similar related value other →
      Similar after (value.map f) (other.map g)
  | ⟨layer, below⟩, ⟨other, others⟩, similar => by
    rw [Similar] at similar
    rw [Layered.map, Layered.map, Similar]
    exact ⟨step layer other similar.1, SimilarBelow.map step similar.2⟩

theorem SimilarBelow.map {γ δ : Type} {related : α → β → Prop} {after : γ → δ → Prop} {f : α → γ}
    {g : β → δ} (step : ∀ layer other, related layer other → after (f layer) (g other)) :
    ∀ {below : List (Layered α)} {others : List (Layered β)}, SimilarBelow related below others →
      SimilarBelow after (mapBelow f below) (mapBelow g others)
  | [], [], _ => by
    rw [mapBelow, mapBelow, SimilarBelow]
    trivial
  | first :: rest, other :: others, similar => by
    rw [SimilarBelow] at similar
    rw [mapBelow, mapBelow, SimilarBelow]
    exact ⟨Similar.map step similar.1, SimilarBelow.map step similar.2⟩
  | [], _ :: _, similar => (not_similarBelow_nil_cons similar).elim
  | _ :: _, [], similar => (not_similarBelow_cons_nil similar).elim

end

variable {mergeLeft : α → α → α} {mergeRight : β → β → β} {related : α → β → Prop}

mutual

theorem Similar.combine
    (kept : ∀ low high low' high', related low low' → related high high' →
      related (mergeLeft low high) (mergeRight low' high')) :
    ∀ {value : Layered α} {other : Layered β}, Similar related value other →
      related (value.combine mergeLeft) (other.combine mergeRight)
  | ⟨layer, below⟩, ⟨other, others⟩, similar => by
    rw [Similar] at similar
    have rest := SimilarBelow.combine kept similar.2
    rw [Layered.combine, Layered.combine]
    revert rest
    cases combineBelow mergeLeft below <;> cases combineBelow mergeRight others <;> intro rest
    · exact similar.1
    · cases rest
    · cases rest
    · exact kept _ _ _ _ rest similar.1

theorem SimilarBelow.combine
    (kept : ∀ low high low' high', related low low' → related high high' →
      related (mergeLeft low high) (mergeRight low' high')) :
    ∀ {below : List (Layered α)} {others : List (Layered β)}, SimilarBelow related below others →
      match combineBelow mergeLeft below, combineBelow mergeRight others with
      | none, none => True
      | some low, some low' => related low low'
      | _, _ => False
  | [], [], _ => trivial
  | first :: rest, other :: others, similar => by
    rw [SimilarBelow] at similar
    have front := Similar.combine kept similar.1
    have behind := SimilarBelow.combine kept similar.2
    rw [combineBelow, combineBelow]
    revert behind
    cases combineBelow mergeLeft rest <;> cases combineBelow mergeRight others <;> intro behind
    · exact front
    · cases behind
    · cases behind
    · exact kept _ _ _ _ behind front
  | [], _ :: _, similar => (not_similarBelow_nil_cons similar).elim
  | _ :: _, [], similar => (not_similarBelow_cons_nil similar).elim

end

end Similar

end Layered

end Base
