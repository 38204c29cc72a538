import Moleculer.Base.Separated
import Moleculer.Metrics.Histogram

/-! When the keys that metrics make of labels tell them apart. -/

namespace Moleculer.Metrics

open Base

variable {ν V : Type}

/-- The values of the labels are numbers, strings and booleans. -/
def Proper (labelNames : List Text) (labels : Labels ν) : Prop :=
  ∀ name ∈ labelNames, ∃ value, labels name = some value ∧ value ≠ .other

/-- A string that is written like several empty strings with separators between them. -/
def chained (more : Nat) : Text := (List.replicate more (Text.ascii "\"|\"")).flatten

theorem chained_append (one other : Nat) :
    chained one ++ Text.ascii "\"|\"" ++ chained other = chained (one + (other + 1)) := by
  rw [chained, chained, chained, List.replicate_add, List.flatten_append, List.replicate_succ,
    List.flatten_cons, List.append_assoc]

namespace MetricOptions

variable {opts : MetricOptions ν}

theorem hashingLabels_eq (opts : MetricOptions ν) (labels : Labels ν) :
    opts.hashingLabels (some labels) =
      joined 124 (fun name => opts.labelPart (labels name)) opts.labelNames := by
  rw [hashingLabels]
  split
  · rename_i none
    rw [List.length_eq_zero_iff.mp none]
    rfl
  · rfl

theorem joined_chained (weight : Text → Nat) {names : List Text} (any : names ≠ []) :
    joined 124 (fun name => opts.labelPart (some (.string (chained (weight name))))) names =
      opts.labelPart (some (.string (chained ((names.map weight).sum + (names.length - 1))))) := by
  induction names with
  | nil => exact absurd rfl any
  | cons name rest ih =>
    cases rest with
    | nil => simp
    | cons next rest =>
      have count : ((name :: next :: rest).map weight).sum + ((name :: next :: rest).length - 1) =
          weight name + ((((next :: rest).map weight).sum + ((next :: rest).length - 1)) + 1) := by
        simp only [List.map_cons, List.sum_cons, List.length_cons]
        omega
      rw [joined_cons_cons, ih (by simp), count, ← chained_append]
      simp [labelPart, Text.ascii]

theorem sum_weight (names : List Text) (name : Text) (weight : Nat) :
    (names.map fun other => if other = name then weight else 0).sum =
        names.count name * weight := by
  induction names with
  | nil => simp
  | cons first rest ih =>
    by_cases same : first = name
    · simp [same, ih, Nat.succ_mul, add_comm]
    · simp [same, ih, List.count_cons_of_ne same]

theorem length_joined (text : Text) {names : List Text} (any : names ≠ []) :
    (joined 124 (fun _ => text) names).length + 1 = names.length * (text.length + 1) := by
  induction names with
  | nil => exact absurd rfl any
  | cons name rest ih =>
    cases rest with
    | nil => simp
    | cons next rest =>
      have tail := ih (by simp)
      rw [joined_cons_cons, List.length_append, List.length_cons, List.length_cons, Nat.succ_mul]
      omega

theorem print_ne (format : NumberFormat ν) (value : ν) {unit : UInt16} (rest : Text)
    (apart : ¬ (unit = 45 ∨ 48 ≤ unit ∧ unit ≤ 57)) : format.print value ≠ unit :: rest := by
  intro same
  obtain ⟨first, tail, printed, kind⟩ := format.front value
  rw [printed, List.cons.injEq] at same
  exact apart (same.1 ▸ kind)

theorem labelPart_injective {one two : LabelValue ν} (proper : one ≠ .other)
    (proper' : two ≠ .other)
    (same : opts.labelPart (some one) = opts.labelPart (some two)) : one = two := by
  have string_eq (text : Text) :
      opts.labelPart (some (.string text)) = 34 :: (text ++ Text.ascii "\"") := by
    simp [labelPart, Text.ascii]
  have boolean_eq (value : Bool) : opts.labelPart (some (.boolean value)) =
      (if value then 116 else 102) :: (if value then Text.ascii "rue" else Text.ascii "alse") := by
    cases value <;> rfl
  -- The first unit tells the types apart.
  cases one with
  | other => exact absurd rfl proper
  | number one =>
    cases two with
    | other => exact absurd rfl proper'
    | number two => rw [opts.format.injective same]
    | string text =>
      exact absurd (same.trans (string_eq text)) (print_ne opts.format one _ (by decide))
    | boolean value =>
      refine absurd (same.trans (boolean_eq value)) (print_ne opts.format one _ ?_)
      cases value <;> decide
  | string text =>
    rw [string_eq] at same
    cases two with
    | other => exact absurd rfl proper'
    | number two => exact absurd same.symm (print_ne opts.format two _ (by decide))
    | string other =>
      rw [string_eq, List.cons.injEq] at same
      rw [List.append_cancel_right same.2]
    | boolean value =>
      rw [boolean_eq, List.cons.injEq] at same
      cases value <;> exact absurd same.1 (by decide)
  | boolean value =>
    rw [boolean_eq] at same
    cases two with
    | other => exact absurd rfl proper'
    | number two =>
      refine absurd same.symm (print_ne opts.format two _ ?_)
      cases value <;> decide
    | string other =>
      rw [string_eq, List.cons.injEq] at same
      cases value <;> exact absurd same.1 (by decide)
    | boolean other =>
      rw [boolean_eq, List.cons.injEq] at same
      cases value <;> cases other <;> first | rfl | exact absurd same.1 (by decide)

theorem hashingLabels_single
    (single : ∀ name ∈ opts.labelNames, ∀ two ∈ opts.labelNames, name = two)
    {one two : Labels ν} (proper : Proper opts.labelNames one)
    (proper' : Proper opts.labelNames two)
    (differ : ∃ name ∈ opts.labelNames, one name ≠ two name) :
    opts.hashingLabels (some one) ≠ opts.hashingLabels (some two) := by
  intro same
  obtain ⟨name, inside, differ⟩ := differ
  obtain ⟨value, found, told⟩ := proper name inside
  obtain ⟨value', found', told'⟩ := proper' name inside
  have any : opts.labelNames ≠ [] := List.ne_nil_of_mem inside
  -- Both keys repeat one text as often, so that the texts are equally long and stand in front.
  have constant (labels : Labels ν) : opts.hashingLabels (some labels) =
      joined 124 (fun _ => opts.labelPart (labels name)) opts.labelNames := by
    rw [hashingLabels_eq, joined, joined]
    congr 1
    refine List.map_congr_left fun other member => ?_
    rw [single other member name inside]
  rw [constant, constant] at same
  have lengths : (opts.labelPart (one name)).length = (opts.labelPart (two name)).length := by
    have first := length_joined (opts.labelPart (one name)) any
    have second := length_joined (opts.labelPart (two name)) any
    rw [same, second] at first
    have cancel := Nat.eq_of_mul_eq_mul_left (List.length_pos_of_ne_nil any) first
    omega
  obtain ⟨first, rest, list⟩ := List.exists_cons_of_ne_nil any
  rw [list] at same
  have front (text : Text) : ∃ tail, joined 124 (fun _ => text) (first :: rest) = text ++ tail := by
    cases rest with
    | nil => exact ⟨[], by simp⟩
    | cons next rest => exact ⟨_, joined_cons_cons 124 (fun _ => text) first next rest⟩
  obtain ⟨tail, text⟩ := front (opts.labelPart (one name))
  obtain ⟨tail', text'⟩ := front (opts.labelPart (two name))
  have parts := (List.append_inj (text.symm.trans (same.trans text')) lengths).1
  rw [found, found'] at parts
  rw [found, found', labelPart_injective told told' parts] at differ
  exact differ rfl

theorem hashingLabels_confused {name two : Text} (inside : name ∈ opts.labelNames)
    (inside' : two ∈ opts.labelNames) (different : name ≠ two) :
    ∃ one other : Labels ν, Proper opts.labelNames one ∧ Proper opts.labelNames other ∧
      one name ≠ other name ∧ opts.hashingLabels (some one) = opts.hashingLabels (some other) := by
  let weigh (weight : Text → Nat) : Labels ν := fun name => some (.string (chained (weight name)))
  have proper (weight : Text → Nat) : Proper opts.labelNames (weigh weight) :=
    fun name _ => ⟨_, rfl, by simp⟩
  -- Each of the names makes up for the number of times that the other one is listed.
  refine ⟨weigh fun other => if other = name then opts.labelNames.count two else 0,
    weigh fun other => if other = two then opts.labelNames.count name else 0,
    proper _, proper _, ?_, ?_⟩
  · obtain ⟨more, count⟩ := Nat.exists_eq_succ_of_ne_zero (List.count_pos_iff.mpr inside').ne'
    simp [weigh, different, count, chained, List.replicate_succ, Text.ascii]
  · rw [hashingLabels_eq, hashingLabels_eq, joined_chained _ (List.ne_nil_of_mem inside),
      joined_chained _ (List.ne_nil_of_mem inside), sum_weight, sum_weight, mul_comm]

end MetricOptions

theorem get_set_of_ne (opts : MetricOptions ν) (loose : V → V → Bool) (metric : ValueMetric ν V)
    (value : V) {labels : Option (Labels ν)} (stamp : Stamp) {key : Text}
    (other : opts.hashingLabels labels ≠ key) :
    (ValueMetric.set opts loose metric value labels stamp).store.get key =
        metric.store.get key := by
  simp only [ValueMetric.set]
  split
  · split
    · rfl
    · rw [Cached.store_change, OrderedMap.get_set, if_neg (Ne.symm other)]
  · rw [Cached.store_change, OrderedMap.get_set, if_neg (Ne.symm other)]

theorem get_observe_of_ne (opts : HistogramOptions ν) (value : ℚ) {labels : Option (Labels ν)}
    (stamp : Stamp) (store : HistogramStore ν) {key : Text}
    (other : opts.hashingLabels labels ≠ key) :
    (opts.observe value labels stamp store).values.get key = store.values.get key := by
  have entered : (opts.enterItem labels stamp store).values.get key = store.values.get key := by
    unfold HistogramOptions.enterItem
    split
    · rfl
    · exact (OrderedMap.get_set ..).trans (if_neg (Ne.symm other))
  simp only [HistogramOptions.observe]
  split
  · exact ((OrderedMap.get_set ..).trans (if_neg (Ne.symm other))).trans entered
  · exact entered

/-- Keys tell labels apart, so that what is done for some labels leaves the items of others alone,
exactly if there are not two different names. -/
theorem labels_never_mixed_iff (opts : MetricOptions ν) :
    (∀ one two : Labels ν, Proper opts.labelNames one → Proper opts.labelNames two →
      (∃ name ∈ opts.labelNames, one name ≠ two name) →
      opts.hashingLabels (some one) ≠ opts.hashingLabels (some two) ∧
      (∀ (gauge : GaugeMetric ν) (value : ℚ) (stamp : Stamp),
        (ValueMetric.set opts (· = ·) gauge value (some one) stamp).store.get
          (opts.hashingLabels (some two)) = gauge.store.get (opts.hashingLabels (some two)) ∧
        (GaugeMetric.add opts gauge (some one) value stamp).store.get
          (opts.hashingLabels (some two)) = gauge.store.get (opts.hashingLabels (some two))) ∧
      ∀ (buckets : Option BucketOptions) (quantiles : Option QuantileOptions)
        (store : HistogramStore ν) (value : ℚ) (stamp : Stamp),
        (HistogramOptions.observe { opts with buckets, quantiles } value (some one) stamp
          store).values.get (opts.hashingLabels (some two)) =
          store.values.get (opts.hashingLabels (some two))) ↔
    ∀ name ∈ opts.labelNames, ∀ two ∈ opts.labelNames, name = two := by
  constructor
  · intro apart name inside two inside'
    by_contra different
    obtain ⟨one, other, proper, proper', differ, same⟩ :=
      MetricOptions.hashingLabels_confused inside inside' different
    exact (apart one other proper proper' ⟨name, inside, differ⟩).1 same
  · intro single one two proper proper' differ
    have different := MetricOptions.hashingLabels_single single proper proper' differ
    refine ⟨different, fun gauge value stamp => ⟨?_, ?_⟩,
      fun buckets quantiles store value stamp => ?_⟩
    · exact get_set_of_ne opts _ gauge value stamp different
    · exact get_set_of_ne opts _ gauge _ stamp different
    · exact get_observe_of_ne { opts with buckets, quantiles } value stamp store different

/-- A string with a separator in it makes two sets of labels look the same. -/
theorem labels_mixed_up :
    let opts := MetricOptions.plain [.ascii "action", .ascii "service"]
    let labels (action service : String) : Labels Nat := fun name =>
      if name = .ascii "action" then some (.string (.ascii action))
      else some (.string (.ascii service))
    opts.hashingLabels (some (labels "a\"|\"b" "c")) =
        opts.hashingLabels (some (labels "a" "b\"|\"c")) ∧
      labels "a\"|\"b" "c" (.ascii "action") ≠ labels "a" "b\"|\"c" (.ascii "action") := by
  decide +kernel

end Moleculer.Metrics
