import Moleculer.Base.Run

/-! The rate limiter of the tracer, a bucket that fills as time goes by. -/

namespace Moleculer.Tracing

open Base

/-- `RateLimiter`, with exact numbers and with times in milliseconds. -/
structure RateLimiter where
  tracesPerSecond : ℚ
  lastTime : ℚ
  balance : ℚ
  maxBalance : ℚ

/-- A call of `check`, when it is made and what it costs. -/
structure Check where
  now : ℚ
  cost : ℚ := 1

namespace RateLimiter

/-- The constructor. -/
def new (tracesPerSecond now : ℚ) : RateLimiter where
  tracesPerSecond
  lastTime := now
  balance := 0
  maxBalance := if tracesPerSecond < 1 then 1 else tracesPerSecond

/-- The balance that a call finds. -/
def filled (limiter : RateLimiter) (now : ℚ) : ℚ :=
  let elapsedTime := (now - limiter.lastTime) / 1000
  let balance := limiter.balance + elapsedTime * limiter.tracesPerSecond
  if balance > limiter.maxBalance then limiter.maxBalance else balance

/-- `check`, which pays the cost if the balance allows it. -/
def check (limiter : RateLimiter) (call : Check) : Bool × RateLimiter :=
  let balance := limiter.filled call.now
  if balance ≥ call.cost then
    (true, { limiter with lastTime := call.now, balance := balance - call.cost })
  else (false, { limiter with lastTime := call.now, balance })

/-- The limiter after a sequence of calls. -/
def checks (limiter : RateLimiter) (calls : List Check) : RateLimiter :=
  run (fun limiter call => (limiter.check call).2) limiter calls

/-- The calls of a sequence that are accepted. -/
def accepted : RateLimiter → List Check → List Check
  | _, [] => []
  | limiter, call :: rest =>
    let (accepts, after) := limiter.check call
    if accepts then call :: after.accepted rest else after.accepted rest

/-- What the calls cost that are accepted in a window of time. -/
def acceptedCost (limiter : RateLimiter) (calls : List Check) (first last : ℚ) : ℚ :=
  (((limiter.accepted calls).filter fun call => first ≤ call.now ∧ call.now ≤ last).map
    Check.cost).sum

/-- What a call pays. -/
def paid (limiter : RateLimiter) (call : Check) : ℚ :=
  if call.cost ≤ limiter.filled call.now then call.cost else 0

variable (limiter : RateLimiter) (call : Check)

theorem check_fst :
    (limiter.check call).1 = decide (call.cost ≤ limiter.filled call.now) := by
  simp only [check, ge_iff_le]
  split <;> simp [*]

theorem check_snd :
    (limiter.check call).2 = { limiter with
      lastTime := call.now, balance := limiter.filled call.now - limiter.paid call } := by
  simp only [check, paid, ge_iff_le]
  split <;> simp [*]

theorem acceptedCost_cons (rest : List Check) (first last : ℚ) :
    limiter.acceptedCost (call :: rest) first last =
      (if first ≤ call.now ∧ call.now ≤ last then limiter.paid call else 0) +
        (limiter.check call).2.acceptedCost rest first last := by
  simp only [acceptedCost, accepted, check_fst, paid, decide_eq_true_eq]
  by_cases enough : call.cost ≤ limiter.filled call.now
  · by_cases inside : first ≤ call.now ∧ call.now ≤ last <;> simp [enough, inside]
  · simp [enough]

/-- A limiter for a rate, whose balance is within its bounds. -/
structure Bounded (rate : ℚ) (limiter : RateLimiter) : Prop where
  tracesPerSecond : limiter.tracesPerSecond = rate
  maxBalance : limiter.maxBalance = max 1 rate
  nonneg : 0 ≤ limiter.balance
  le_max : limiter.balance ≤ max 1 rate

/-- The clock does not run backwards from a time on. -/
def Clock (start : ℚ) (calls : List Check) : Prop :=
  (start :: calls.map Check.now).Pairwise (· ≤ ·)

theorem bounded_new (rate now : ℚ) : Bounded rate (new rate now) := by
  refine ⟨rfl, ?_, le_rfl, by simp [new]⟩
  unfold new
  split
  · exact (max_eq_left (by linarith)).symm
  · exact (max_eq_right (by linarith)).symm

section Runs

variable {rate : ℚ} {limiter : RateLimiter} {call : Check} {calls rest : List Check}
  {first last : ℚ}

theorem Clock.head (clock : Clock limiter.lastTime (call :: rest)) :
    limiter.lastTime ≤ call.now :=
  (List.pairwise_cons.mp clock).1 _ (by simp)

theorem Clock.tail (clock : Clock limiter.lastTime (call :: rest)) :
    Clock (limiter.check call).2.lastTime rest := by
  rw [check_snd]
  exact (List.pairwise_cons.mp clock).2

theorem Clock.lastTime_le (clock : Clock limiter.lastTime (calls ++ [call])) :
    (limiter.checks calls).lastTime ≤ call.now := by
  induction calls generalizing limiter with
  | nil => exact clock.head
  | cons first rest ih => exact ih clock.tail

theorem gained_nonneg (positive : 0 < rate) (later : first ≤ last) :
    0 ≤ rate * ((last - first) / 1000) :=
  mul_nonneg positive.le (div_nonneg (sub_nonneg.mpr later) (by norm_num))

theorem Bounded.filled_eq (bounded : Bounded rate limiter) (now : ℚ) :
    limiter.filled now =
      min (max 1 rate) (limiter.balance + rate * ((now - limiter.lastTime) / 1000)) := by
  simp only [filled, bounded.tracesPerSecond, bounded.maxBalance, mul_comm rate]
  split
  · exact (min_eq_left (by linarith)).symm
  · exact (min_eq_right (by linarith)).symm

theorem Bounded.paid_le (bounded : Bounded rate limiter) (positive : 0 < rate)
    (later : limiter.lastTime ≤ call.now) : limiter.paid call ≤ limiter.filled call.now := by
  unfold paid
  split
  · assumption
  · rw [bounded.filled_eq]
    exact le_min (by simp) (by linarith [bounded.nonneg, gained_nonneg positive later])

theorem paid_nonneg (costs : 0 < call.cost) : 0 ≤ limiter.paid call := by
  unfold paid
  split
  · exact costs.le
  · exact le_rfl

theorem Bounded.check (bounded : Bounded rate limiter) (positive : 0 < rate)
    (later : limiter.lastTime ≤ call.now) (costs : 0 < call.cost) :
    Bounded rate (limiter.check call).2 := by
  have paid := bounded.paid_le positive later
  have nonneg := limiter.paid_nonneg costs
  have below : limiter.filled call.now ≤ max 1 rate := bounded.filled_eq call.now ▸ min_le_left _ _
  rw [check_snd]
  refine ⟨bounded.tracesPerSecond, bounded.maxBalance, ?_, ?_⟩
  · exact sub_nonneg.mpr paid
  · dsimp only
    linarith

theorem Bounded.checks (bounded : Bounded rate limiter) (positive : 0 < rate)
    (clock : Clock limiter.lastTime calls) (costs : ∀ call ∈ calls, 0 < call.cost) :
    Bounded rate (limiter.checks calls) := by
  induction calls generalizing limiter with
  | nil => exact bounded
  | cons call rest ih =>
    simp only [List.forall_mem_cons] at costs
    exact ih (bounded.check positive clock.head costs.1) clock.tail costs.2

theorem acceptedCost_late (clock : Clock limiter.lastTime calls)
    (late : last < limiter.lastTime) : limiter.acceptedCost calls first last = 0 := by
  induction calls generalizing limiter with
  | nil => rfl
  | cons call rest ih =>
    have after : last < call.now := lt_of_lt_of_le late clock.head
    rw [acceptedCost_cons, if_neg (fun inside => absurd inside.2 (not_le.mpr after)),
      ih clock.tail (by rwa [check_snd]), zero_add]

theorem Bounded.acceptedCost_le (bounded : Bounded rate limiter) (positive : 0 < rate)
    (clock : Clock limiter.lastTime calls) (costs : ∀ call ∈ calls, 0 < call.cost)
    (before : limiter.lastTime ≤ last) :
    limiter.acceptedCost calls first last ≤
      limiter.balance + rate * ((last - limiter.lastTime) / 1000) := by
  induction calls generalizing limiter with
  | nil => exact add_nonneg bounded.nonneg (gained_nonneg positive before)
  | cons call rest ih =>
    simp only [List.forall_mem_cons] at costs
    have kept := bounded.check positive clock.head costs.1
    rcases le_or_gt call.now last with inside | late
    · -- The call pays from the same sum, and refilling only loses what does not fit.
      have tail := ih kept clock.tail costs.2 (by rwa [check_snd])
      have filled : limiter.filled call.now ≤
          limiter.balance + rate * ((call.now - limiter.lastTime) / 1000) :=
        bounded.filled_eq call.now ▸ min_le_right _ _
      have nonneg := limiter.paid_nonneg costs.1
      rw [acceptedCost_cons]
      rw [check_snd] at tail ⊢
      dsimp only at tail
      split <;> linarith
    · rw [acceptedCost_cons, if_neg (fun inside => absurd inside.2 (not_le.mpr late)), zero_add,
        acceptedCost_late clock.tail (by rwa [check_snd])]
      exact add_nonneg bounded.nonneg (gained_nonneg positive before)

theorem Bounded.acceptedCost_window (bounded : Bounded rate limiter) (positive : 0 < rate)
    (clock : Clock limiter.lastTime calls) (costs : ∀ call ∈ calls, 0 < call.cost)
    (window : first ≤ last) :
    limiter.acceptedCost calls first last ≤ max 1 rate + rate * ((last - first) / 1000) := by
  induction calls generalizing limiter with
  | nil => exact add_nonneg (by simp) (gained_nonneg positive window)
  | cons call rest ih =>
    simp only [List.forall_mem_cons] at costs
    have kept := bounded.check positive clock.head costs.1
    by_cases inside : first ≤ call.now ∧ call.now ≤ last
    · -- The first call of the window finds at most a full bucket.
      have before : (limiter.check call).2.lastTime ≤ last := by rw [check_snd]; exact inside.2
      have tail : (limiter.check call).2.acceptedCost rest first last ≤ _ :=
        kept.acceptedCost_le positive clock.tail costs.2 before
      have filled : limiter.filled call.now ≤ max 1 rate :=
        bounded.filled_eq call.now ▸ min_le_left _ _
      have shorter := gained_nonneg positive inside.1
      rw [acceptedCost_cons, if_pos inside]
      rw [check_snd] at tail ⊢
      dsimp only at tail
      linarith
    · rw [acceptedCost_cons, if_neg inside, zero_add]
      exact ih kept clock.tail costs.2

theorem Bounded.le_balance (bounded : Bounded rate limiter) (positive : 0 < rate)
    (clock : Clock limiter.lastTime calls) (costs : ∀ call ∈ calls, 0 < call.cost)
    (since : ∀ call ∈ limiter.accepted calls, call.now ≤ first)
    (start : min (max 1 rate) (rate * ((limiter.lastTime - first) / 1000)) ≤ limiter.balance) :
    min (max 1 rate) (rate * (((limiter.checks calls).lastTime - first) / 1000)) ≤
      (limiter.checks calls).balance := by
  induction calls generalizing limiter with
  | nil => exact start
  | cons call rest ih =>
    simp only [List.forall_mem_cons] at costs
    have kept := bounded.check positive clock.head costs.1
    have tail := ih kept clock.tail costs.2
    simp only [accepted, check_fst, decide_eq_true_eq] at since
    by_cases enough : call.cost ≤ limiter.filled call.now
    · -- An accepted call is not after the time that counts.
      simp only [enough, if_true, List.forall_mem_cons] at since
      refine tail since.2 (le_trans (min_le_right _ _) (le_trans ?_ kept.nonneg))
      rw [check_snd]
      have gained := gained_nonneg positive since.1
      dsimp only
      linarith
    · simp only [enough, if_false] at since
      refine tail since ?_
      have unpaid : limiter.paid call = 0 := if_neg enough
      rw [check_snd]
      dsimp only
      rw [unpaid, sub_zero, bounded.filled_eq]
      refine le_min (min_le_left _ _) ?_
      have gained := gained_nonneg positive clock.head
      rcases min_le_iff.mp start with full | grown
      · exact le_trans (min_le_left _ _) (by linarith)
      · exact le_trans (min_le_right _ _) (by linarith)

end Runs

/-- For a clock that does not run backwards and positive costs, the balance lies between nothing and
a full bucket, in a window of time no more is accepted than a full bucket and what drops into it,
and a call is accepted if the limiter is old enough for its cost to have dropped into the bucket and
no call was accepted for that long. -/
theorem token_bucket (rate start : ℚ) (positive : 0 < rate) (calls : List Check)
    (clock : Clock start calls) (costs : ∀ call ∈ calls, 0 < call.cost) :
    (0 ≤ ((new rate start).checks calls).balance ∧
      ((new rate start).checks calls).balance ≤ max 1 rate) ∧
    (∀ first last, first ≤ last →
      (new rate start).acceptedCost calls first last ≤
        max 1 rate + rate * ((last - first) / 1000)) ∧
    ∀ call : Check, 0 < call.cost → call.cost ≤ max 1 rate →
      Clock start (calls ++ [call]) → start ≤ call.now - call.cost / rate * 1000 →
      (∀ other ∈ (new rate start).accepted calls, other.now ≤ call.now - call.cost / rate * 1000) →
      (((new rate start).checks calls).check call).1 = true := by
  have bounded := (bounded_new rate start).checks positive clock costs
  refine ⟨⟨bounded.nonneg, bounded.le_max⟩, ?_, ?_⟩
  · intro first last window
    exact (bounded_new rate start).acceptedCost_window positive clock costs window
  · intro call _ small later old since
    -- At its creation the bucket is empty, and that was at least as long ago as the cost takes.
    have empty : min (max 1 rate) (rate * (((new rate start).lastTime -
        (call.now - call.cost / rate * 1000)) / 1000)) ≤ (new rate start).balance := by
      refine min_le_of_right_le ?_
      have gained := gained_nonneg positive old
      simp only [new]
      linarith
    have grown := (bounded_new rate start).le_balance positive clock costs since empty
    rw [check_fst, decide_eq_true_eq, bounded.filled_eq]
    refine le_min small ?_
    have ends : ((new rate start).checks calls).lastTime ≤ call.now := Clock.lastTime_le later
    have waited := gained_nonneg positive ends
    rcases min_le_iff.mp grown with full | grown
    · linarith
    · have whole : rate * ((call.now - (call.now - call.cost / rate * 1000)) / 1000) =
          call.cost := by
        field_simp
        ring
      linarith

/-- At two traces a second a third call at once is rejected, but half a second later one is
accepted. -/
theorem token_bucket_two :
    ((((new 2 0).checks [{ now := 1000 }, { now := 1000 }, { now := 1000 }]).check
      { now := 1500 }).1 = true) := by
  refine (token_bucket 2 0 (by norm_num) [{ now := 1000 }, { now := 1000 }, { now := 1000 }]
    (by norm_num [Clock]) (by norm_num)).2.2 { now := 1500 } (by norm_num) (by norm_num)
    (by norm_num [Clock]) (by norm_num) ?_
  norm_num [accepted, check_fst, check_snd, paid, filled, new]

/-- A new limiter has an empty bucket. -/
theorem new_limiter_rejects :
    ¬ ∀ (rate start : ℚ), 0 < rate → ∀ calls, Clock start calls →
      (∀ call ∈ calls, 0 < call.cost) → ∀ call : Check, 0 < call.cost → call.cost ≤ max 1 rate →
      Clock start (calls ++ [call]) →
      (∀ other ∈ (new rate start).accepted calls, other.now ≤ call.now - call.cost / rate * 1000) →
      (((new rate start).checks calls).check call).1 = true := by
  intro claimed
  have accepted := claimed 1 0 (by norm_num) [] (by simp [Clock]) (by simp) { now := 0 }
    (by norm_num) (by norm_num) (by simp [Clock]) (by simp [RateLimiter.accepted])
  rw [check_fst] at accepted
  revert accepted
  norm_num [checks, Base.run, filled, new]

end RateLimiter

end Moleculer.Tracing
