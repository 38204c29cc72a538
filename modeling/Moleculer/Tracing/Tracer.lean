import Moleculer.Tracing.RateLimiter

/-! How the tracer decides which spans are sampled. -/

namespace Moleculer.Tracing

open Base

/-- The options for sampling, with exact numbers. -/
structure SamplingOptions where
  rate : ℚ := 1
  tracesPerSecond : Option ℚ := none
  minPriority : Option ℚ := none

/-- What sampling reads and writes of a `Tracer`. -/
structure Tracer where
  sampling : SamplingOptions
  rateLimiter : Option RateLimiter
  sampleCounter : Nat

/-- What sampling reads of the options of a `Span`, and when the span is made. -/
structure SpanOptions where
  priority : Option ℚ := none
  sampled : Option Bool := none
  now : ℚ := 0

namespace Tracer

/-- The constructor. -/
def new (sampling : SamplingOptions) (now : ℚ) : Tracer where
  sampling
  rateLimiter := (sampling.tracesPerSecond.filter (· > 0)).map (RateLimiter.new · now)
  sampleCounter := 0

/-- The last part of `shouldSample`, for a constant rate. -/
def sampleByRate (tracer : Tracer) : Bool × Tracer :=
  if tracer.sampling.rate = 0 then (false, tracer)
  else if tracer.sampling.rate = 1 then (true, tracer)
  else if (tracer.sampleCounter + 1 : ℕ) * tracer.sampling.rate ≥ 1 then
    (true, { tracer with sampleCounter := 0 })
  else (false, { tracer with sampleCounter := tracer.sampleCounter + 1 })

/-- `shouldSample`. -/
def shouldSample (tracer : Tracer) (priority now : ℚ) : Bool × Tracer :=
  if tracer.sampling.minPriority.any (priority < ·) then (false, tracer)
  else match tracer.rateLimiter with
    | some limiter =>
      let (accepts, rateLimiter) := limiter.check { now }
      (accepts, { tracer with rateLimiter := some rateLimiter })
    | none => tracer.sampleByRate

/-- The field `sampled` of a new span. -/
def sampled (tracer : Tracer) (span : SpanOptions) : Bool × Tracer :=
  match span.sampled with
  | some sampled => (sampled, tracer)
  | none => tracer.shouldSample (span.priority.getD 5) span.now

/-- The number of spans that are sampled. -/
def sampledCount : Tracer → List SpanOptions → Nat
  | _, [] => 0
  | tracer, span :: rest =>
    let (sampled, after) := tracer.sampled span
    sampled.toNat + after.sampledCount rest

/-- The number of calls from one sampled span to the next. -/
def period (rate : ℚ) : Nat := ⌈1 / rate⌉₊

theorem period_le_iff {rate : ℚ} (positive : 0 < rate) (count : Nat) :
    period rate ≤ count ↔ 1 ≤ count * rate := by
  rw [period, Nat.ceil_le, div_le_iff₀ positive]

/-- A tracer that samples at a constant rate only. -/
def counting (rate : ℚ) (sampleCounter : Nat) : Tracer where
  sampling := { rate }
  rateLimiter := none
  sampleCounter

theorem sampled_counting {rate : ℚ} {span : SpanOptions} (asked : span.sampled = none)
    (positive : 0 < rate) (small : rate < 1) (counter : Nat) :
    (counting rate counter).sampled span =
      if period rate ≤ counter + 1 then (true, counting rate 0)
      else (false, counting rate (counter + 1)) := by
  simp [sampled, asked, shouldSample, counting, sampleByRate, positive.ne', small.ne,
    period_le_iff positive]

theorem sampledCount_counting {rate : ℚ} {spans : List SpanOptions}
    (asked : ∀ span ∈ spans, span.sampled = none) (positive : 0 < rate) (small : rate < 1)
    {counter : Nat} (inside : counter < period rate) :
    (counting rate counter).sampledCount spans = (counter + spans.length) / period rate := by
  induction spans generalizing counter with
  | nil => simp [sampledCount, Nat.div_eq_of_lt inside]
  | cons span rest ih =>
    simp only [List.forall_mem_cons] at asked
    simp only [sampledCount, sampled_counting asked.1 positive small, List.length_cons]
    split
    · -- The counter starts again, one period later.
      have whole : counter + (rest.length + 1) = rest.length + period rate := by omega
      have ready := Nat.zero_lt_of_lt inside
      simp [ih asked.2 ready, whole, Nat.add_div_right _ ready, add_comm]
    · have inside : counter + 1 < period rate := by omega
      simp [ih asked.2 inside, add_comm, add_left_comm]

/-- Without a rate limiter and a least priority, the number of sampled spans stays within one of the
rate exactly if the rate is one of one half, one third and so on. -/
theorem sampling_follows_rate_iff (rate now : ℚ) (positive : 0 < rate) (small : rate < 1) :
    (∀ spans : List SpanOptions, (∀ span ∈ spans, span.sampled = none) →
      |((new { rate } now).sampledCount spans : ℚ) - rate * spans.length| < 1) ↔
    ∃ count : Nat, rate = 1 / count := by
  have ready : 0 < period rate := Nat.ceil_pos.mpr (by positivity)
  have counted {spans : List SpanOptions} (asked : ∀ span ∈ spans, span.sampled = none) :
      (new { rate } now).sampledCount spans = spans.length / period rate := by
    have same : new { rate } now = counting rate 0 := rfl
    rw [same, sampledCount_counting asked positive small ready, zero_add]
  constructor
  · -- At any other rate every period loses the same part of a span, which adds up.
    intro close
    refine ⟨period rate, ?_⟩
    have enough := (period_le_iff positive (period rate)).mp le_rfl
    by_contra differs
    have loses : 0 < period rate * rate - 1 := by
      refine sub_pos.mpr (lt_of_le_of_ne enough fun same => differs ?_)
      rw [same]
      field_simp
    obtain ⟨periods, many⟩ := exists_nat_gt (1 / (period rate * rate - 1))
    rw [div_lt_iff₀ loses] at many
    have bound := close (List.replicate (periods * period rate) {}) (by simp +contextual)
    rw [counted (by simp +contextual), List.length_replicate, Nat.mul_div_cancel _ ready,
      abs_lt] at bound
    push_cast at bound
    linarith [bound.1]
  · rintro ⟨count, rfl⟩ spans asked
    have whole : period (1 / count) = count := by simp [period]
    rw [whole] at ready
    have split : (spans.length : ℚ) =
        count * (spans.length / count : ℕ) + (spans.length % count : ℕ) := by
      exact_mod_cast (Nat.div_add_mod _ _).symm
    have short : ((spans.length % count : ℕ) : ℚ) < count := by
      exact_mod_cast Nat.mod_lt _ ready
    have counts : (0 : ℚ) < count := by exact_mod_cast ready
    have rest : 1 / (count : ℚ) * spans.length =
        (spans.length / count : ℕ) + (spans.length % count : ℕ) / count := by
      rw [split]
      field_simp
    rw [counted asked, whole, rest, sub_add_cancel_left, abs_neg, abs_of_nonneg (by positivity),
      div_lt_one counts]
    exact short

/-- Every third span is sampled at a rate of one third. -/
theorem sampling_follows_third :
    |((new { rate := 1 / 3 } 0).sampledCount [{}, {}, {}, {}] : ℚ) -
      1 / 3 * ([{}, {}, {}, {}] : List SpanOptions).length| < 1 :=
  (sampling_follows_rate_iff (1 / 3) 0 (by norm_num) (by norm_num)).mpr ⟨3, by norm_num⟩ _
    (by simp)

/-- Three calls at a rate of seven tenths sample one span. -/
theorem three_calls_sample_one :
    (new { rate := 7 / 10 } 0).sampledCount [{}, {}, {}] = 1 ∧
      ¬ |(((new { rate := 7 / 10 } 0).sampledCount [{}, {}, {}] : ℚ)) - 7 / 10 * 3| < 1 := by
  have one : (new { rate := 7 / 10 } 0).sampledCount [{}, {}, {}] = 1 := by
    norm_num [new, sampledCount, sampled, shouldSample, sampleByRate]
  rw [one]
  norm_num [abs_lt]

end Tracer

end Moleculer.Tracing
