import Mathlib

/-! A result that is kept until the store it was computed from changes. -/

namespace Base

variable {σ τ : Type}

/-- A store, whether it has changed, and the last result that was computed from it. -/
structure Cached (σ τ : Type) where
  store : σ
  dirty : Bool := true
  lastSnapshot : Option τ := none

namespace Cached

/-- The last result if nothing has changed. Computing a result may itself touch the store. -/
def snapshot (generate : σ → τ × σ) (cached : Cached σ τ) : τ × Cached σ τ :=
  match cached.dirty, cached.lastSnapshot with
  | false, some last => (last, cached)
  | _, _ =>
    let (result, store) := generate cached.store
    (result, { store, dirty := false, lastSnapshot := some result })

/-- Change the store and say so. -/
def change (f : σ → σ) (cached : Cached σ τ) : Cached σ τ :=
  { cached with store := f cached.store, dirty := true }

@[simp] theorem store_change (f : σ → σ) (cached : Cached σ τ) :
    (cached.change f).store = f cached.store := rfl

/-- A result that would be given once more is what the store holds. -/
def Fresh (content : σ → τ) (cached : Cached σ τ) : Prop :=
  cached.dirty = false → ∀ last, cached.lastSnapshot = some last → last = content cached.store

variable {content : σ → τ} {generate : σ → τ × σ} {cached : Cached σ τ}

theorem fresh_of_dirty (dirty : cached.dirty = true) : cached.Fresh content := by
  intro clean
  rw [dirty] at clean
  cases clean

theorem fresh_change (f : σ → σ) (cached : Cached σ τ) : (cached.change f).Fresh content :=
  fresh_of_dirty rfl

theorem snapshot_cases (generate : σ → τ × σ) (cached : Cached σ τ) :
    (∃ last, cached.dirty = false ∧ cached.lastSnapshot = some last ∧
      cached.snapshot generate = (last, cached)) ∨
    cached.snapshot generate = ((generate cached.store).1,
      { store := (generate cached.store).2, dirty := false,
        lastSnapshot := some (generate cached.store).1 }) := by
  unfold snapshot
  split
  next last clean kept => exact .inl ⟨last, clean, kept, rfl⟩
  · exact .inr rfl

theorem store_snapshot (kept : (generate cached.store).2 = cached.store) :
    (cached.snapshot generate).2.store = cached.store := by
  rcases snapshot_cases generate cached with ⟨_, _, _, same⟩ | same
  · rw [same]
  · rw [same]
    exact kept

theorem Fresh.snapshot_fst (fresh : cached.Fresh content)
    (exactly : (generate cached.store).1 = content cached.store) :
    (cached.snapshot generate).1 = content cached.store := by
  rcases snapshot_cases generate cached with ⟨last, clean, kept, same⟩ | same
  · rw [same]
    exact fresh clean last kept
  · rw [same]
    exact exactly

theorem Fresh.snapshot_snd (fresh : cached.Fresh content)
    (exactly : (generate cached.store).1 = content cached.store)
    (kept : content (generate cached.store).2 = content cached.store) :
    (cached.snapshot generate).2.Fresh content := by
  rcases snapshot_cases generate cached with ⟨_, _, _, same⟩ | same
  · rwa [same]
  · rw [same]
    intro _ last computed
    rw [← Option.some.inj computed, exactly]
    exact kept.symm

end Cached

end Base
