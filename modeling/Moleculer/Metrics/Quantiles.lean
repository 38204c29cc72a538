import Moleculer.Base.Cached
import Moleculer.Base.OrderedMap
import Moleculer.Base.Rank
import Moleculer.Base.Run

/-! The quantiles of the samples in a window of time. -/

namespace Moleculer.Metrics

open Base

/-- The ring of buckets of a `TimeWindowQuantiles`. -/
structure Ring where
  ringBuckets : List (List ℚ)
  currentBucket : Nat

/-- What a `TimeWindowQuantiles` is made with, and the root it takes of a variance. -/
structure QuantileOptions where
  quantiles : List ℚ
  ageBuckets : Nat
  sqrt : ℚ → ℚ

/-- A snapshot of a window, where none stands for null and undefined. -/
structure QuantileSnapshot where
  min : Option ℚ
  mean : Option ℚ
  variance : Option ℚ
  stdDev : Option ℚ
  max : Option ℚ
  quantiles : OrderedMap ℚ (Option ℚ)

/-- What happens to a window. -/
inductive RingOperation where
  | add (value : ℚ)
  | rotate

namespace Ring

/-- Clear a bucket and go on with it. -/
def enter (ring : Ring) (bucket : Nat) : Ring where
  ringBuckets := ring.ringBuckets.set bucket []
  currentBucket := bucket

/-- `rotate`, without its timer. -/
def rotate (ageBuckets : Nat) (ring : Ring) : Ring :=
  ring.enter ((ring.currentBucket + 1) % ageBuckets)

/-- The constructor, which rotates from the bucket before the first one. -/
def new (ageBuckets : Nat) : Ring :=
  enter { ringBuckets := List.replicate ageBuckets [], currentBucket := 0 } (0 % ageBuckets)

/-- `add`. -/
def add (value : ℚ) (ring : Ring) : Ring :=
  { ring with ringBuckets := ring.ringBuckets.modify ring.currentBucket (· ++ [value]) }

/-- The samples of all buckets in ascending order. -/
def samples (ring : Ring) : List ℚ := ring.ringBuckets.flatten.insertionSort (· ≤ ·)

/-- One operation. -/
def step (ageBuckets : Nat) (ring : Ring) : RingOperation → Ring
  | .add value => ring.add value
  | .rotate => ring.rotate ageBuckets

/-- The sample that is reported for a quantile, `samples[Math.ceil(q * samples.length) - 1]`. -/
def quantile (samples : List ℚ) (q : ℚ) : Option ℚ :=
  let index := ⌈q * samples.length⌉ - 1
  if index < 0 then none else samples[index.toNat]?

/-- The content of a snapshot. -/
def report (opts : QuantileOptions) (ring : Ring) : QuantileSnapshot :=
  let samples := ring.samples
  let mean := if samples.length ≠ 0 then some (samples.sum / samples.length) else none
  let variance := if samples.length > 1 then
    some ((samples.map fun sample => (sample - mean.getD 0) ^ 2).sum / ((samples.length : ℚ) - 1))
    else none
  { min := samples.head?
    mean
    variance
    stdDev := (variance.filter (· ≠ 0)).map opts.sqrt
    max := samples.getLast?
    quantiles := opts.quantiles.foldl (fun result q => result.set q (quantile samples q)) .empty }

end Ring

/-- The values that were added in the current rotation period, and in each period before it. -/
def periodStep (periods : List ℚ × List (List ℚ)) : RingOperation → List ℚ × List (List ℚ)
  | .add value => (periods.1 ++ [value], periods.2)
  | .rotate => ([], periods.1 :: periods.2)

/-- The values that were added in the current period and in those before it, for as many periods as
there are buckets. -/
def recent (ageBuckets : Nat) (operations : List RingOperation) : List ℚ :=
  let (current, earlier) := run periodStep ([], []) operations
  ((current :: earlier).take ageBuckets).flatten

namespace Ring

/-- The buckets of a ring, the current one first and then back in time. -/
def Holds (ring : Ring) (latest : List (List ℚ)) : Prop :=
  ∃ front current back, ring.ringBuckets = front ++ current :: back ∧
    ring.currentBucket = front.length ∧ latest = current :: (front.reverse ++ back.reverse)

theorem holds_new {ageBuckets : Nat} (some_bucket : 0 < ageBuckets) :
    (new ageBuckets).Holds (List.replicate ageBuckets []) := by
  obtain ⟨others, rfl⟩ := Nat.exists_eq_succ_of_ne_zero some_bucket.ne'
  exact ⟨[], [], List.replicate others [], by simp [new, enter, List.replicate_succ],
    by simp [new, enter], by simp [List.replicate_succ]⟩

variable {ring : Ring} {latest : List (List ℚ)}

theorem Holds.add (holds : ring.Holds latest) (value : ℚ) :
    (ring.add value).Holds (latest.modifyHead (· ++ [value])) := by
  obtain ⟨front, current, back, buckets, place, rfl⟩ := holds
  refine ⟨front, current ++ [value], back, ?_, place, rfl⟩
  simp [Ring.add, buckets, place, List.modify_eq_set_getElem?]

theorem Holds.rotate (holds : ring.Holds latest) :
    (ring.rotate latest.length).Holds ([] :: latest.dropLast) := by
  obtain ⟨front, current, back, buckets, place, rfl⟩ := holds
  have total : (current :: (front.reverse ++ back.reverse)).length =
      front.length + 1 + back.length := by
    simp only [List.length_cons, List.length_append, List.length_reverse]
    omega
  rw [Ring.rotate, enter, buckets, place, total]
  cases back with
  | cons oldest back =>
    rw [Nat.mod_eq_of_lt (by simp)]
    refine ⟨front ++ [current], [], back, by simp, by simp, ?_⟩
    rw [List.reverse_cons, ← List.append_assoc, ← List.cons_append, List.dropLast_concat]
    simp
  | nil =>
    -- Behind the last bucket the ring goes on with its first one.
    rw [List.length_nil, add_zero, Nat.mod_self]
    cases front with
    | nil => exact ⟨[], [], [], by simp, rfl, by simp⟩
    | cons oldest front =>
      refine ⟨[], [], front ++ [current], by simp, rfl, ?_⟩
      rw [List.reverse_nil, List.append_nil, List.reverse_cons, ← List.cons_append,
        List.dropLast_concat]
      simp

theorem Holds.perm (holds : ring.Holds latest) : ring.ringBuckets.Perm latest := by
  obtain ⟨front, current, back, buckets, -, rfl⟩ := holds
  rw [buckets]
  refine List.perm_middle.trans (.cons _ ?_)
  exact ((List.reverse_perm front).append (List.reverse_perm back)).symm

/-- The periods as a ring with at least one bucket holds them. -/
def held (others : Nat) (periods : List ℚ × List (List ℚ)) : List (List ℚ) :=
  periods.1 :: (periods.2 ++ List.replicate (others + 1) []).take others

theorem Holds.step {others : Nat} {periods : List ℚ × List (List ℚ)}
    (holds : ring.Holds (held others periods)) (operation : RingOperation) :
    (ring.step (others + 1) operation).Holds (held others (periodStep periods operation)) := by
  cases operation with
  | add value => exact holds.add value
  | rotate =>
    have rotated := holds.rotate
    have whole : held others periods =
        (periods.1 :: (periods.2 ++ List.replicate (others + 1) [])).take (others + 1) := by
      rw [held, List.take_succ_cons]
    have length : (held others periods).length = others + 1 := by
      simp only [held, List.length_cons, List.length_take, List.length_append,
        List.length_replicate]
      omega
    rw [length, whole, List.dropLast_take (by simp)] at rotated
    exact rotated

theorem samples_run {ageBuckets : Nat} (some_bucket : 0 < ageBuckets)
    (operations : List RingOperation) :
    (run (step ageBuckets) (new ageBuckets) operations).samples.Perm
      (recent ageBuckets operations) := by
  obtain ⟨others, rfl⟩ := Nat.exists_eq_succ_of_ne_zero some_bucket.ne'
  have general (ring : Ring) (periods : List ℚ × List (List ℚ))
      (holds : ring.Holds (held others periods)) :
      (run (step (others + 1)) ring operations).Holds
        (held others (run periodStep periods operations)) := by
    induction operations generalizing ring periods with
    | nil => exact holds
    | cons operation rest ih => exact ih _ _ (holds.step operation)
  have start : (new (others + 1)).Holds (held others ([], [])) := by
    have empty : held others ([], []) = List.replicate (others + 1) [] := by
      simp [held, List.take_replicate, ← List.replicate_succ]
    rw [empty]
    exact holds_new some_bucket
  -- Buckets that are not in use yet are empty.
  have padded : (held others (run periodStep ([], []) operations)).flatten =
      recent (others + 1) operations := by
    simp [held, recent, List.take_append, List.flatten_append]
  refine (List.perm_insertionSort _ _).trans ?_
  rw [← padded]
  exact (general _ _ start).perm.flatten

theorem sorted_samples (ring : Ring) : ring.samples.Pairwise (· ≤ ·) :=
  List.pairwise_insertionSort _ _

theorem quantile_spec {samples : List ℚ} (sorted : samples.Pairwise (· ≤ ·)) (any : samples ≠ [])
    {q : ℚ} (positive : 0 < q) (small : q ≤ 1) :
    ∃ index, ∃ inside : index < samples.length, index + 1 = ⌈q * samples.length⌉₊ ∧
      quantile samples q = some samples[index] ∧
      IsLeast {sample | sample ∈ samples ∧ q * samples.length ≤ samples.countP (· ≤ sample)}
        samples[index] := by
  have count : 0 < samples.length := List.length_pos_of_ne_nil any
  have rank : 0 < ⌈q * samples.length⌉₊ := Nat.ceil_pos.mpr (by positivity)
  have bound : ⌈q * samples.length⌉₊ ≤ samples.length :=
    Nat.ceil_le.mpr (mul_le_of_le_one_left (by positivity) small)
  obtain ⟨index, place⟩ := Nat.exists_eq_succ_of_ne_zero rank.ne'
  have inside : index < samples.length := by omega
  refine ⟨index, inside, place.symm, ?_, ?_⟩
  · have ceil : ⌈q * samples.length⌉ = (index + 1 : ℕ) := by
      rw [← Int.natCast_ceil_eq_ceil (by positivity), place]
    simp [quantile, ceil, inside]
  · have enough (sample : ℚ) : q * samples.length ≤ samples.countP (· ≤ sample) ↔
        index + 1 ≤ samples.countP (· ≤ sample) := by rw [← Nat.ceil_le, place]
    simpa only [enough] using isLeast_rank sorted inside

theorem get_quantiles (opts : QuantileOptions) (ring : Ring) {q : ℚ} (asked : q ∈ opts.quantiles) :
    (ring.report opts).quantiles.get q = some (quantile ring.samples q) := by
  simp only [report, OrderedMap.get_foldl_set_keys, if_pos asked]

end Ring

/-- A snapshot is made of the values of the recent periods, and a quantile is the smallest of them
that has enough values up to it. So quantiles grow with their rank, from the least value up to the
greatest one. -/
theorem window_quantiles (opts : QuantileOptions) (some_bucket : 0 < opts.ageBuckets)
    (operations : List RingOperation) :
    let ring := run (Ring.step opts.ageBuckets) (Ring.new opts.ageBuckets) operations
    let values := recent opts.ageBuckets operations
    ring.samples.Perm values ∧
    (values ≠ [] → ∀ q ∈ opts.quantiles, 0 < q → q ≤ 1 →
      ∃ result least greatest, (ring.report opts).quantiles.get q = some (some result) ∧
        IsLeast {value | value ∈ values ∧ q * values.length ≤ values.countP (· ≤ value)} result ∧
        (ring.report opts).min = some least ∧ (ring.report opts).max = some greatest ∧
        least ≤ result ∧ result ≤ greatest ∧ (q = 1 → result = greatest) ∧
        ∀ higher ∈ opts.quantiles, q ≤ higher → higher ≤ 1 →
          ∃ other, (ring.report opts).quantiles.get higher = some (some other) ∧
            result ≤ other) := by
  intro ring values
  have same : ring.samples.Perm values := Ring.samples_run some_bucket operations
  refine ⟨same, fun any q asked positive small => ?_⟩
  have sorted := ring.sorted_samples
  have some_sample : ring.samples ≠ [] := fun none => any (List.perm_nil.mp (none ▸ same).symm)
  have count : 0 < ring.samples.length := List.length_pos_of_ne_nil some_sample
  obtain ⟨index, inside, rank, result, least⟩ :=
    Ring.quantile_spec sorted some_sample positive small
  simp only [same.length_eq, same.mem_iff, same.countP_eq] at least
  refine ⟨ring.samples[index], ring.samples[0], ring.samples[ring.samples.length - 1],
    by rw [ring.get_quantiles opts asked, result], least, ?_, ?_, ?_, ?_, ?_, ?_⟩
  · rw [Ring.report, List.head?_eq_getElem?, List.getElem?_eq_getElem count]
  · rw [Ring.report, List.getLast?_eq_getElem?, List.getElem?_eq_getElem (by omega)]
  · exact getElem_le_getElem sorted inside (Nat.zero_le index)
  · exact getElem_le_getElem sorted _ (by omega)
  · -- The whole is reached at the last sample.
    rintro rfl
    rw [one_mul, Nat.ceil_natCast] at rank
    simp [← rank]
  · intro higher asked le small
    obtain ⟨other, within, above, result, -⟩ :=
      Ring.quantile_spec sorted some_sample (lt_of_lt_of_le positive le) small
    refine ⟨ring.samples[other], by rw [ring.get_quantiles opts asked, result], ?_⟩
    have order : index + 1 ≤ other + 1 := by
      rw [rank, above]
      exact Nat.ceil_mono (mul_le_mul_of_nonneg_right le (by positivity))
    exact getElem_le_getElem sorted within (by omega)

/-- The value of the period before the last two is forgotten, and the median is taken of the
others. -/
theorem window_quantiles_two :
    let opts : QuantileOptions := { quantiles := [1 / 2, 1], ageBuckets := 2, sqrt := id }
    let operations := [.add 9, .rotate, .add 3, .rotate, .add 1, .add 2]
    let ring := run (Ring.step opts.ageBuckets) (Ring.new opts.ageBuckets) operations
    ring.samples.Perm [1, 2, 3] ∧ (ring.report opts).quantiles.get (1 / 2) = some (some 2) := by
  intro opts operations ring
  obtain ⟨samples, quantiles⟩ := window_quantiles opts (by decide) operations
  refine ⟨samples, ?_⟩
  have values : recent opts.ageBuckets operations = [1, 2, 3] := by decide +kernel
  rw [values] at quantiles
  obtain ⟨result, _, _, reported, least, _⟩ := quantiles (by simp) (1 / 2)
    (by simp [opts]) (by norm_num) (by norm_num)
  have median : IsLeast {value : ℚ | value ∈ [1, 2, 3] ∧
      (1 / 2 : ℚ) * ([1, 2, 3] : List ℚ).length ≤ ([1, 2, 3] : List ℚ).countP (· ≤ value)} 2 := by
    refine ⟨by norm_num [List.countP_cons], fun value ⟨inside, enough⟩ => ?_⟩
    simp only [List.mem_cons, List.not_mem_nil, or_false] at inside
    obtain rfl | rfl | rfl := inside
    · norm_num [List.countP_cons] at enough
    · exact le_rfl
    · norm_num
  rw [reported, least.unique median]

end Moleculer.Metrics
