import Mathlib

/-! Runs of a system that takes one step for each input, and invariants that hold along them. -/

namespace Base

variable {σ ι : Type}

/-- The state after a list of inputs. -/
def run (step : σ → ι → σ) : σ → List ι → σ
  | state, [] => state
  | state, input :: rest => run step (step state input) rest

/-- Every input of a run meets a condition in the state it is given to. -/
def Meets (step : σ → ι → σ) (condition : σ → ι → Prop) : σ → List ι → Prop
  | _, [] => True
  | state, input :: rest => condition state input ∧ Meets step condition (step state input) rest

/-- Whether a run meets a condition can be decided step by step. -/
instance Meets.decidable (step : σ → ι → σ) (condition : σ → ι → Prop)
    [∀ state input, Decidable (condition state input)] :
    ∀ (state : σ) (inputs : List ι), Decidable (Meets step condition state inputs)
  | _, [] => .isTrue trivial
  | state, input :: rest =>
    have := Meets.decidable step condition (step state input) rest
    inferInstanceAs (Decidable (_ ∧ _))

theorem run_append (step : σ → ι → σ) (state : σ) (front back : List ι) :
    run step state (front ++ back) = run step (run step state front) back := by
  induction front generalizing state with
  | nil => rfl
  | cons input rest ih => exact ih (step state input)

theorem run_invariant {step : σ → ι → σ} {condition : σ → ι → Prop} {invariant : σ → Prop}
    (kept : ∀ state input, invariant state → condition state input → invariant (step state input))
    {state : σ} {inputs : List ι} (start : invariant state)
    (meets : Meets step condition state inputs) : invariant (run step state inputs) := by
  induction inputs generalizing state with
  | nil => exact start
  | cons input rest ih => exact ih (kept state input start meets.1) meets.2

theorem meets_of_forall {step : σ → ι → σ} {condition : σ → ι → Prop}
    (always : ∀ state input, condition state input) (state : σ) (inputs : List ι) :
    Meets step condition state inputs := by
  induction inputs generalizing state with
  | nil => trivial
  | cons input rest ih => exact ⟨always state input, ih (step state input)⟩

theorem meets_iff {step : σ → ι → σ} {condition other : σ → ι → Prop} {invariant : σ → Prop}
    {inputs : List ι} {state : σ}
    (agree : ∀ state, ∀ input ∈ inputs, invariant state →
      (condition state input ↔ other state input))
    (kept : ∀ state, ∀ input ∈ inputs, invariant state → condition state input →
      invariant (step state input))
    (start : invariant state) :
    Meets step condition state inputs ↔ Meets step other state inputs := by
  -- The invariant reaches the next state only once the first input has met the condition.
  induction inputs generalizing state with
  | nil => exact Iff.rfl
  | cons input rest ih =>
    simp only [Meets, ← agree state input List.mem_cons_self start]
    refine and_congr_right fun met => ih ?_ ?_ (kept state input List.mem_cons_self start met)
    · exact fun state input inside => agree state input (List.mem_cons_of_mem _ inside)
    · exact fun state input inside => kept state input (List.mem_cons_of_mem _ inside)

end Base
