import Moleculer.Metrics.Histogram

/-! What histograms count, and how many timers they keep. -/

namespace Moleculer.Metrics

open Base

variable {ν : Type}

/-- The values that were observed for each key since the last reset of its item. -/
def observedStep (opts : HistogramOptions ν) (observed : Text → List ℚ) :
    HistogramOperation ν → Text → List ℚ
  | .observe value labels _ =>
    Function.update observed (opts.hashingLabels labels)
      (observed (opts.hashingLabels labels) ++ [value])
  | .reset labels _ => Function.update observed (opts.hashingLabels labels) []
  | .resetAll _ | .clear => fun _ => []
  | .fire _ | .snapshot => observed

/-- The values that were observed for each key in a run. -/
def observed (opts : HistogramOptions ν) (operations : List (HistogramOperation ν)) :
    Text → List ℚ :=
  run (observedStep opts) (fun _ => []) operations

theorem get_createBucketValues {bounds : List ℚ} {bound : ℚ} (inside : bound ∈ bounds) :
    (createBucketValues bounds).get bound = some 0 := by
  rw [createBucketValues, OrderedMap.get_foldl_set_keys (fun _ => 0), if_pos inside]

theorem get_countValue (bounds : List ℚ) (value : ℚ) (values : OrderedMap ℚ Nat) (bound : ℚ) :
    (countValue bounds value values).get bound =
      (values.get bound).map (· + if value ≤ bound then bounds.count bound else 0) := by
  induction bounds generalizing values with
  | nil => simp [countValue]
  | cons first rest ih =>
    have next : countValue (first :: rest) value values = countValue rest value
      (if value ≤ first then values.modify first (· + 1) else values) := rfl
    rw [next, ih]
    by_cases fits : value ≤ first
    · rw [if_pos fits, OrderedMap.get_modify]
      by_cases same : bound = first
      · subst same
        simp [fits, Function.comp_def, add_comm, add_left_comm]
      · simp [same, List.count_cons_of_ne (Ne.symm same)]
    · rw [if_neg fits]
      by_cases same : bound = first
      · subst same
        simp [fits]
      · rw [List.count_cons_of_ne (Ne.symm same)]

namespace HistogramOptions

variable (opts : HistogramOptions ν)

/-- What an item holds of the values that were observed for it. -/
structure Tallies (item : HistogramItem ν) (observed : List ℚ) : Prop where
  count : item.count = observed.length
  sum : item.sum = observed.sum
  buckets : ∀ bounds, opts.bounds = some bounds → ∃ values, item.bucketValues = some values ∧
    ∀ bound ∈ bounds, values.get bound = some (bounds.count bound * observed.countP (· ≤ bound))

/-- Every item holds what was observed for its key, and there is nothing to hold for the others. -/
def Counts (values : OrderedMap Text (HistogramItem ν)) (observed : Text → List ℚ) : Prop :=
  ∀ key, match values.get key with
    | some item => opts.Tallies item (observed key)
    | none => observed key = []

variable {opts} {store : HistogramStore ν} {observed : Text → List ℚ}

theorem values_resetItem (key : Text) (item : HistogramItem ν) (time : ℚ)
    (store : HistogramStore ν) :
    ∃ blank, (opts.resetItem key item time store).values = store.values.set key blank ∧
      opts.Tallies blank [] ∧ blank.labels = item.labels := by
  refine ⟨_, rfl, ⟨rfl, rfl, ?_⟩, rfl⟩
  intro bounds configured
  refine ⟨createBucketValues bounds, by simp [configured], ?_⟩
  intro bound inside
  simp [get_createBucketValues inside]

theorem Counts.set (counts : opts.Counts store.values observed) {key : Text}
    {item : HistogramItem ν} {list : List ℚ} (tallies : opts.Tallies item list) :
    opts.Counts (store.values.set key item) (Function.update observed key list) := by
  intro other
  rw [OrderedMap.get_set]
  by_cases same : other = key
  · subst same
    simpa using tallies
  · simpa [same] using counts other

theorem Counts.resetItem (counts : opts.Counts store.values observed) (key : Text)
    (item : HistogramItem ν) (time : ℚ) :
    opts.Counts (opts.resetItem key item time store).values (Function.update observed key []) := by
  obtain ⟨blank, values, tallies, -⟩ := opts.values_resetItem key item time store
  rw [values]
  exact counts.set tallies

theorem Counts.resetAll (counts : opts.Counts store.values observed) (stamp : Stamp) :
    opts.Counts (opts.resetAll stamp store).values fun _ => [] := by
  have general (entries : List (Text × HistogramItem ν)) :
      opts.Counts (entries.foldl (fun store entry =>
        opts.resetItem entry.1 entry.2 stamp.time store) store).values
        (fun key => if key ∈ entries.map Prod.fst then [] else observed key) := by
    induction entries using List.reverseRecOn with
    | nil => simpa using counts
    | append_singleton front last ih =>
      rw [List.foldl_append, List.foldl_cons, List.foldl_nil]
      convert ih.resetItem last.1 last.2 stamp.time using 1
      funext key
      by_cases same : key = last.1
      · simp [same]
      · rw [Function.update_of_ne same]
        exact if_congr (by simp [same]) rfl rfl
  -- For a key without an item nothing was observed.
  have rest : (fun key => if key ∈ store.values.entries.map Prod.fst then [] else observed key) =
      fun _ => [] := by
    funext key
    split
    · rfl
    · rename_i absent
      have none : store.values.get key = none := by
        by_contra found
        exact absent (OrderedMap.mem_keys_iff.mpr (Option.ne_none_iff_exists'.mp found))
      simpa [none] using counts key
  exact rest ▸ general store.values.entries

theorem Tallies.addValue {item : HistogramItem ν} {list : List ℚ} (tallies : opts.Tallies item list)
    (value time : ℚ) :
    opts.Tallies { item with
      timestamp := time
      sum := item.sum + value
      count := item.count + 1
      lastValue := some value
      bucketValues := item.bucketValues.map (countValue (opts.bounds.getD []) value) }
      (list ++ [value]) := by
  refine ⟨by simp [tallies.count], by simp [tallies.sum], ?_⟩
  intro bounds configured
  obtain ⟨values, held, each⟩ := tallies.buckets bounds configured
  refine ⟨countValue bounds value values, by simp [held, configured], ?_⟩
  intro bound inside
  rw [get_countValue, each bound inside]
  by_cases fits : value ≤ bound <;> simp [fits, mul_add]

theorem Counts.observe (counts : opts.Counts store.values observed) (value : ℚ)
    (labels : Option (Labels ν)) (stamp : Stamp) :
    opts.Counts (opts.observe value labels stamp store).values
      (observedStep opts observed (.observe value labels stamp)) := by
  -- A new item has nothing to hold yet.
  have entered : opts.Counts (opts.enterItem labels stamp store).values observed ∧
      (opts.enterItem labels stamp store).values.has (opts.hashingLabels labels) := by
    unfold enterItem
    split
    · exact ⟨counts, by assumption⟩
    · rename_i absent
      obtain ⟨blank, values, tallies, -⟩ := opts.values_resetItem (opts.hashingLabels labels)
        { labels := opts.pick labels } stamp.now store
      have nothing := counts (opts.hashingLabels labels)
      rw [Option.not_isSome_iff_eq_none.mp absent] at nothing
      rw [values]
      refine ⟨?_, by simp [OrderedMap.has, OrderedMap.get_set]⟩
      have reset : opts.Counts (store.values.set (opts.hashingLabels labels) blank)
        (Function.update observed (opts.hashingLabels labels) []) := counts.set tallies
      rwa [← nothing, Function.update_eq_self] at reset
  obtain ⟨item, found⟩ := Option.isSome_iff_exists.mp entered.2
  have tallies := entered.1 (opts.hashingLabels labels)
  rw [found] at tallies
  simp only [HistogramOptions.observe, found]
  exact entered.1.set (tallies.addValue value stamp.time)

/-- Stores that differ in the caches of their windows only. -/
structure Alike (one other : HistogramStore ν) : Prop where
  values : one.values = other.values
  rings : one.windows.map Cached.store = other.windows.map Cached.store
  timers : one.timers = other.timers

theorem alike_generateItemSnapshot (key : Text) (item : HistogramItem ν)
    (store : HistogramStore ν) : Alike (opts.generateItemSnapshot key item store).2 store := by
  unfold generateItemSnapshot
  split
  next quantiles number window _ numbered found =>
    refine ⟨rfl, ?_, rfl⟩
    rw [numbered] at found
    have kept : (window.snapshot fun ring => (ring.report quantiles, ring)).2.store =
      window.store := Cached.store_snapshot rfl
    obtain ⟨inside, rfl⟩ := List.getElem?_eq_some_iff.mp found
    have within : number < (store.windows.map Cached.store).length := by simpa using inside
    have same : (store.windows.map Cached.store)[number] = store.windows[number].store := by simp
    dsimp only
    rw [List.map_set, kept, ← same, List.set_getElem_self]
  · exact ⟨rfl, rfl, rfl⟩

theorem alike_generateSnapshot (store : HistogramStore ν) :
    Alike (opts.generateSnapshot store).2 store := by
  refine List.foldlRecOn (motive := fun state : List (HistogramSnapshot ν) × HistogramStore ν =>
    Alike state.2 store) store.values.entries _ ⟨rfl, rfl, rfl⟩ fun state before entry _ => ?_
  have next := opts.alike_generateItemSnapshot entry.1 entry.2 state.2
  exact ⟨next.values.trans before.values, next.rings.trans before.rings,
    next.timers.trans before.timers⟩

theorem alike_snapshot (metric : HistogramMetric ν) :
    Alike (opts.step metric .snapshot).store metric.store := by
  rcases Cached.snapshot_cases opts.generateSnapshot metric with ⟨_, _, _, same⟩ | same
  · rw [step, same]
    exact ⟨rfl, rfl, rfl⟩
  · rw [step, same]
    exact opts.alike_generateSnapshot metric.store

theorem Counts.step {metric : HistogramMetric ν} (counts : opts.Counts metric.store.values observed)
    (operation : HistogramOperation ν) :
    opts.Counts (opts.step metric operation).store.values
      (observedStep opts observed operation) := by
  cases operation with
  | observe value labels stamp => exact counts.observe value labels stamp
  | reset labels stamp =>
    have nothing := counts (opts.hashingLabels labels)
    simp only [HistogramOptions.step, observedStep]
    split
    next item found => exact counts.resetItem _ item stamp.time
    next absent =>
      rw [absent] at nothing
      rwa [← nothing, Function.update_eq_self]
  | resetAll stamp => exact counts.resetAll stamp
  | clear => exact fun key => rfl
  | fire timer =>
    simp only [HistogramOptions.step, observedStep]
    split
    · exact counts
    · exact counts
  | snapshot =>
    rw [(opts.alike_snapshot metric).values]
    exact counts

theorem counts_run (opts : HistogramOptions ν) (operations : List (HistogramOperation ν)) :
    opts.Counts (run opts.step { store := {} } operations).store.values
      (Metrics.observed opts operations) := by
  have general (metric : HistogramMetric ν) (observed : Text → List ℚ)
      (counts : opts.Counts metric.store.values observed) :
      opts.Counts (run opts.step metric operations).store.values
        (run (observedStep opts) observed operations) := by
    induction operations generalizing metric observed with
    | nil => exact counts
    | cons operation rest ih => exact ih _ _ (counts.step operation)
  exact general _ _ fun _ => rfl

/-- Counts, sums and buckets are those of the values observed since the last reset, exactly if no
bound is there twice. -/
theorem buckets_count_iff (opts : HistogramOptions ν) (config : BucketOptions) :
    (∀ (operations : List (HistogramOperation ν)) (labels : Option (Labels ν))
        (item : HistogramItem ν),
      (run (step { opts with buckets := some config }) { store := {} } operations).store.values.get
        (opts.hashingLabels labels) = some item →
      let values := Metrics.observed { opts with buckets := some config } operations
        (opts.hashingLabels labels)
      item.count = values.length ∧ item.sum = values.sum ∧
      ∃ bucketValues, item.bucketValues = some bucketValues ∧
        ∀ bound ∈ config.bounds, ∃ amount, bucketValues.get bound = some amount ∧
          amount = values.countP (· ≤ bound) ∧ amount ≤ item.count ∧
          ∀ higher ∈ config.bounds, bound ≤ higher →
            ∃ more, bucketValues.get higher = some more ∧ amount ≤ more) ↔
    config.bounds.Nodup := by
  constructor
  · -- One value at a bound that is there twice is counted twice.
    intro counted
    rw [List.nodup_iff_count_le_one]
    intro bound
    by_cases inside : bound ∈ config.bounds
    · let once : List (HistogramOperation ν) := [.observe bound none { now := 0 }]
      have values : Metrics.observed { opts with buckets := some config } once
          (opts.hashingLabels none) = [bound] := by
        simp [once, Metrics.observed, run, observedStep]
      have tallies := counts_run { opts with buckets := some config } once (opts.hashingLabels none)
      cases found : (run (step { opts with buckets := some config }) { store := {} }
          once).store.values.get (opts.hashingLabels none) with
      | none => simp [found, values] at tallies
      | some item =>
        rw [found, values] at tallies
        obtain ⟨bucketValues, held, each⟩ := tallies.buckets config.bounds rfl
        obtain ⟨-, -, others, same, claimed⟩ := counted once none item found
        obtain rfl := Option.some.inj (held.symm.trans same)
        obtain ⟨amount, counted, one, -⟩ := claimed bound inside
        rw [each bound inside, Option.some.injEq] at counted
        rw [values] at one
        simp only [List.countP_singleton, le_refl, decide_true, if_true] at counted one
        omega
    · simp [List.count_eq_zero_of_not_mem inside]
  · intro nodup operations labels item found values
    have tallies := counts_run { opts with buckets := some config } operations
      (opts.hashingLabels labels)
    rw [found] at tallies
    obtain ⟨bucketValues, held, each⟩ := tallies.buckets config.bounds rfl
    have once (bound : ℚ) (inside : bound ∈ config.bounds) :
        bucketValues.get bound = some (values.countP (· ≤ bound)) := by
      rw [each bound inside, List.count_eq_one_of_mem nodup inside, one_mul]
    refine ⟨tallies.count, tallies.sum, bucketValues, held, fun bound inside =>
      ⟨_, once bound inside, rfl, ?_, fun higher within le => ⟨_, once higher within, ?_⟩⟩⟩
    · rw [tallies.count]
      exact List.countP_le_length
    · refine List.countP_mono_left fun value _ small => ?_
      exact decide_eq_true (le_trans (of_decide_eq_true small) le)

/-- A bound that a generator gives twice counts a value twice. -/
theorem repeated_bound_counts_twice :
    let opts : HistogramOptions Nat :=
      { MetricOptions.plain [] with
        buckets := some (.linearBuckets 1 0 2), quantiles := none }
    ((run opts.step { store := {} } [.observe 1 none { now := 0 }]).store.values.get []).map
      (fun item => (item.count, item.bucketValues.bind (·.get 1))) = some (1, some 2) := by
  decide +kernel

/-- The number of windows that lose their items. -/
def retired (store : HistogramStore ν) : HistogramOperation ν → Nat
  | .reset labels _ => if store.values.has (opts.hashingLabels labels) then 1 else 0
  | .resetAll _ | .clear => store.values.size
  | .observe .. | .fire _ | .snapshot => 0

/-- No item loses its window: there is none to reset or to drop. -/
def Spares (store : HistogramStore ν) : HistogramOperation ν → Prop
  | .reset labels _ => store.values.get (opts.hashingLabels labels) = none
  | .resetAll _ | .clear => store.values.entries = []
  | .observe .. | .fire _ | .snapshot => True

theorem retired_eq_zero_iff (store : HistogramStore ν) (operation : HistogramOperation ν) :
    opts.retired store operation = 0 ↔ opts.Spares store operation := by
  cases operation with
  | reset labels stamp =>
    cases found : store.values.get (opts.hashingLabels labels) <;>
      simp [retired, Spares, OrderedMap.has, found]
  | _ => simp [retired, Spares, OrderedMap.size]

section Timers

variable {quantiles : QuantileOptions}

theorem timers_resetItem (configured : opts.quantiles = some quantiles) (key : Text)
    (item : HistogramItem ν) (time : ℚ) (store : HistogramStore ν) :
    (opts.resetItem key item time store).timers.length = store.timers.length + 1 := by
  simp [resetItem, createWindow, configured]

theorem timers_resetAll (configured : opts.quantiles = some quantiles) (stamp : Stamp)
    (store : HistogramStore ν) :
    (opts.resetAll stamp store).timers.length = store.timers.length + store.values.size ∧
      (opts.resetAll stamp store).values.size = store.values.size := by
  have general (entries : List (Text × HistogramItem ν)) (store : HistogramStore ν)
      (present : ∀ entry ∈ entries, store.values.has entry.1 = true) :
      (entries.foldl (fun store entry => opts.resetItem entry.1 entry.2 stamp.time store)
        store).timers.length = store.timers.length + entries.length ∧
      (entries.foldl (fun store entry => opts.resetItem entry.1 entry.2 stamp.time store)
        store).values.size = store.values.size := by
    induction entries generalizing store with
    | nil => exact ⟨rfl, rfl⟩
    | cons entry rest ih =>
      obtain ⟨here, others⟩ := List.forall_mem_cons.mp present
      obtain ⟨old, found⟩ := Option.isSome_iff_exists.mp here
      obtain ⟨timers, size⟩ := ih (opts.resetItem entry.1 entry.2 stamp.time store) (by
        intro other inside
        have held := others other inside
        simp only [resetItem, OrderedMap.has, OrderedMap.get_set] at held ⊢
        split <;> simp [held])
      rw [List.foldl_cons, timers, size, timers_resetItem configured, List.length_cons]
      exact ⟨by omega, OrderedMap.size_set_of_get_some found _⟩
  refine general store.values.entries store fun entry inside => ?_
  rw [OrderedMap.has, OrderedMap.mem_entries_iff.mp inside]
  rfl

theorem timers_observe (configured : opts.quantiles = some quantiles) (value : ℚ)
    (labels : Option (Labels ν)) (stamp : Stamp) (store : HistogramStore ν) :
    (opts.observe value labels stamp store).timers.length + store.values.size =
      store.timers.length + (opts.observe value labels stamp store).values.size := by
  -- Only a new item gets a window.
  have entered : (opts.enterItem labels stamp store).timers.length + store.values.size =
      store.timers.length + (opts.enterItem labels stamp store).values.size := by
    unfold enterItem
    split
    · rfl
    · rename_i absent
      rw [timers_resetItem configured]
      simp only [resetItem,
        OrderedMap.size_set_of_get_none (Option.not_isSome_iff_eq_none.mp absent)]
      omega
  unfold HistogramOptions.observe
  dsimp only
  split
  next item found =>
    simpa only [addValue, OrderedMap.size_set_of_get_some found] using entered
  · exact entered

theorem timers_step (configured : opts.quantiles = some quantiles) (metric : HistogramMetric ν)
    (operation : HistogramOperation ν) :
    (opts.step metric operation).store.timers.length + metric.store.values.size =
      metric.store.timers.length + (opts.step metric operation).store.values.size +
        opts.retired metric.store operation := by
  cases operation with
  | observe value labels stamp => exact timers_observe configured value labels stamp metric.store
  | reset labels stamp =>
    simp only [HistogramOptions.step, retired]
    split
    next item found =>
      have held : metric.store.values.has (opts.hashingLabels labels) = true := by
        simp [OrderedMap.has, found]
      have size : (opts.resetItem (opts.hashingLabels labels) item stamp.time
          metric.store).values.size = metric.store.values.size :=
        OrderedMap.size_set_of_get_some found _
      rw [Cached.store_change, timers_resetItem configured, size, if_pos held]
      omega
    next absent => simp [OrderedMap.has, absent]
  | resetAll stamp =>
    obtain ⟨timers, size⟩ := timers_resetAll configured stamp metric.store
    simp only [HistogramOptions.step, Cached.store_change, timers, size, retired]
  | clear => simp [HistogramOptions.step, retired, OrderedMap.size, OrderedMap.empty]
  | fire timer =>
    simp only [HistogramOptions.step, retired]
    split
    next window pending =>
      have inside := (List.getElem?_eq_some_iff.mp pending).1
      simp only [Cached.store_change, rotate, List.length_append, List.length_eraseIdx_of_lt inside,
        List.length_singleton]
      omega
    · rfl
  | snapshot =>
    have alike := opts.alike_snapshot metric
    simp [retired, alike.values, alike.timers]

end Timers

/-- There are as many timers as items exactly if no item was reset or dropped. -/
theorem timers_match_items_iff (opts : HistogramOptions ν) (quantiles : QuantileOptions)
    (operations : List (HistogramOperation ν)) :
    let used : HistogramOptions ν := { opts with quantiles := some quantiles }
    let after := (run used.step { store := {} } operations).store
    after.timers.length = after.values.size ↔
      Meets used.step (fun metric operation => used.Spares metric.store operation) { store := {} }
        operations := by
  intro used after
  have general (metric : HistogramMetric ν) (extra : Nat)
      (balance : metric.store.timers.length = metric.store.values.size + extra) :
      (run used.step metric operations).store.timers.length =
        (run used.step metric operations).store.values.size ↔
      extra = 0 ∧ Meets used.step (fun metric operation => used.Spares metric.store operation)
        metric
        operations := by
    induction operations generalizing metric extra with
    | nil => simp [run, Meets, balance]
    | cons operation rest ih =>
      have configured : used.quantiles = some quantiles := rfl
      have step := timers_step configured metric operation
      rw [run, ih _ (extra + used.retired metric.store operation) (by omega), Meets,
        ← retired_eq_zero_iff, Nat.add_eq_zero_iff, and_assoc]
  simpa using general { store := {} } 0 rfl

/-- A reset leaves the timer of the window that it replaces. -/
theorem reset_keeps_old_timer :
    let opts : HistogramOptions Nat :=
      { MetricOptions.plain [] with
        buckets := none, quantiles := some { quantiles := [1], ageBuckets := 1, sqrt := id } }
    let after := (run opts.step { store := {} }
      [.observe 1 none { now := 0 }, .reset none { now := 1 }, .fire 0]).store
    (after.timers.length, after.values.size) = (2, 1) := by
  decide +kernel

end HistogramOptions

end Moleculer.Metrics
