import Moleculer.Metrics.HistogramLaws

/-! Cached snapshots are what a computation without caches gives. -/

namespace Moleculer.Metrics

open Base

variable {ν V : Type}

namespace ValueMetric

variable {opts : MetricOptions ν} {metric : ValueMetric ν V}

/-- A snapshot of a metric that was kept is that of its items. -/
def Fresh (metric : ValueMetric ν V) : Prop := Cached.Fresh OrderedMap.entries metric

theorem Fresh.set (fresh : Fresh metric) (loose : V → V → Bool) (value : V)
    (labels : Option (Labels ν)) (stamp : Stamp) :
    Fresh (ValueMetric.set opts loose metric value labels stamp) := by
  unfold ValueMetric.set
  dsimp only
  split
  · -- An equal value changes nothing, and so nothing has to be said.
    split
    · exact fresh
    · exact Cached.fresh_change _ _
  · exact Cached.fresh_change _ _

theorem Fresh.snapshot (fresh : Fresh metric) :
    Fresh (metric.snapshot ValueMetric.generateSnapshot).2 :=
  Cached.Fresh.snapshot_snd fresh rfl rfl

end ValueMetric

theorem GaugeMetric.fresh_step (opts : MetricOptions ν) {metric : GaugeMetric ν}
    (fresh : ValueMetric.Fresh metric) (operation : GaugeOperation ν) :
    ValueMetric.Fresh (step opts metric operation) := by
  cases operation with
  | set value labels stamp => exact fresh.set _ value labels stamp
  | increment labels value stamp => exact fresh.set _ _ labels stamp
  | decrement labels value stamp => exact fresh.set _ _ labels stamp
  | reset labels stamp => exact fresh.set _ 0 labels stamp
  | resetAll stamp => exact Cached.fresh_change _ _
  | clear => exact Cached.fresh_change _ _
  | snapshot => exact fresh.snapshot

theorem InfoMetric.fresh_step (opts : MetricOptions ν) (loose : Option V → Option V → Bool)
    {metric : ValueMetric ν (Option V)} (fresh : ValueMetric.Fresh metric)
    (operation : InfoOperation ν (Option V)) :
    ValueMetric.Fresh (step opts loose metric operation) := by
  cases operation with
  | set value labels stamp => exact fresh.set _ value labels stamp
  | reset labels stamp => exact fresh.set _ none labels stamp
  | resetAll stamp => exact Cached.fresh_change _ _
  | clear => exact Cached.fresh_change _ _
  | snapshot => exact fresh.snapshot

namespace HistogramOptions

variable (opts : HistogramOptions ν)

/-- The snapshot of an item without any cache, given the rings of all windows. -/
def freshItem (rings : List Ring) (key : Text) (item : HistogramItem ν) : HistogramSnapshot ν :=
  opts.itemSnapshot key item (opts.quantiles.bind fun quantiles =>
    (item.quantileValues.bind (rings[·]?)).map (Ring.report quantiles))

/-- The snapshot of a histogram without any cache. -/
def freshSnapshot (store : HistogramStore ν) : List (HistogramSnapshot ν) :=
  store.values.entries.map fun entry =>
    opts.freshItem (store.windows.map Cached.store) entry.1 entry.2

/-- The caches of all windows hold what their rings give. -/
def WindowsFresh (store : HistogramStore ν) : Prop :=
  ∀ quantiles, opts.quantiles = some quantiles →
    ∀ window ∈ store.windows, window.Fresh (Ring.report quantiles)

variable {opts} {store : HistogramStore ν}

theorem WindowsFresh.generateItemSnapshot (fresh : opts.WindowsFresh store) (key : Text)
    (item : HistogramItem ν) :
    (opts.generateItemSnapshot key item store).1 =
      opts.freshItem (store.windows.map Cached.store) key item ∧
    opts.WindowsFresh (opts.generateItemSnapshot key item store).2 := by
  unfold HistogramOptions.generateItemSnapshot
  split
  next quantiles number window configured numbered found =>
    have held : store.windows[number]? = some window := by simpa [numbered] using found
    have current := fresh quantiles configured window (List.mem_of_getElem? held)
    have result : (window.snapshot fun ring => (ring.report quantiles, ring)).1 =
      window.store.report quantiles := current.snapshot_fst rfl
    refine ⟨by simp [result, freshItem, configured, numbered, held], ?_⟩
    intro others same
    obtain rfl := Option.some.inj (configured.symm.trans same)
    intro other inside
    rcases List.mem_or_eq_of_mem_set inside with old | rfl
    · exact fresh quantiles configured other old
    · exact current.snapshot_snd rfl rfl
  next missing =>
    refine ⟨?_, fresh⟩
    -- Either there are no quantiles, or the item has no window.
    cases configured : opts.quantiles with
    | none => simp [freshItem, configured]
    | some quantiles =>
      cases numbered : item.quantileValues with
      | none => simp [freshItem, numbered]
      | some number =>
        cases held : store.windows[number]? with
        | none => simp [freshItem, configured, numbered, held]
        | some window =>
          exact (missing quantiles number window configured numbered
            (by simp [numbered, held])).elim

theorem WindowsFresh.generateSnapshot (fresh : opts.WindowsFresh store) :
    (opts.generateSnapshot store).1 = opts.freshSnapshot store ∧
    opts.WindowsFresh (opts.generateSnapshot store).2 := by
  have general (entries : List (Text × HistogramItem ν)) (results : List (HistogramSnapshot ν))
      (store : HistogramStore ν) (fresh : opts.WindowsFresh store) :
      let after := entries.foldl (fun state entry =>
        let taken := opts.generateItemSnapshot entry.1 entry.2 state.2
        (state.1 ++ [taken.1], taken.2)) (results, store)
      after.1 = results ++ (entries.map fun entry =>
        opts.freshItem (store.windows.map Cached.store) entry.1 entry.2) ∧
      opts.WindowsFresh after.2 := by
    induction entries generalizing results store with
    | nil => exact ⟨by simp, fresh⟩
    | cons entry rest ih =>
      obtain ⟨result, kept⟩ := fresh.generateItemSnapshot entry.1 entry.2
      obtain ⟨all, windows⟩ := ih (results ++ [_]) _ kept
      refine ⟨all.trans ?_, windows⟩
      rw [(opts.alike_generateItemSnapshot entry.1 entry.2 store).rings, result]
      simp
  exact general store.values.entries [] store fresh

theorem Alike.freshSnapshot {other : HistogramStore ν} (alike : Alike store other) :
    opts.freshSnapshot store = opts.freshSnapshot other := by
  rw [HistogramOptions.freshSnapshot, alike.values, alike.rings, HistogramOptions.freshSnapshot]

theorem WindowsFresh.modify {after : HistogramStore ν} (fresh : opts.WindowsFresh store)
    (number : Nat) (f : Ring → Ring)
    (changed : after.windows = store.windows.modify number (·.change f)) :
    opts.WindowsFresh after := by
  intro quantiles configured window inside
  obtain ⟨place, held⟩ := List.mem_iff_getElem?.mp inside
  rw [changed, List.getElem?_modify] at held
  obtain ⟨old, found, rfl⟩ := Option.map_eq_some_iff.mp held
  split
  · exact Cached.fresh_change f old
  · exact fresh quantiles configured old (List.mem_of_getElem? found)

theorem WindowsFresh.resetItem (fresh : opts.WindowsFresh store) (key : Text)
    (item : HistogramItem ν) (time : ℚ) :
    opts.WindowsFresh (opts.resetItem key item time store) := by
  intro quantiles configured window inside
  simp only [HistogramOptions.resetItem, createWindow, configured, List.mem_append,
    List.mem_singleton] at inside
  rcases inside with old | rfl
  · exact fresh quantiles configured window old
  · exact Cached.fresh_of_dirty rfl

theorem WindowsFresh.observe (fresh : opts.WindowsFresh store) (value : ℚ)
    (labels : Option (Labels ν)) (stamp : Stamp) :
    opts.WindowsFresh (opts.observe value labels stamp store) := by
  have entered : opts.WindowsFresh (opts.enterItem labels stamp store) := by
    unfold enterItem
    split
    · exact fresh
    · exact fresh.resetItem _ _ _
  unfold HistogramOptions.observe
  dsimp only
  split
  next item _ =>
    cases numbered : item.quantileValues with
    | none => simpa [WindowsFresh, addValue, numbered] using entered
    | some number => exact entered.modify number (Ring.add value) (by simp [addValue, numbered])
  · exact entered

/-- The caches of a histogram and of its windows hold what they should. -/
structure Cohesive (opts : HistogramOptions ν) (metric : HistogramMetric ν) : Prop where
  fresh : metric.Fresh opts.freshSnapshot
  windows : opts.WindowsFresh metric.store

theorem Cohesive.step {metric : HistogramMetric ν} (cohesive : Cohesive opts metric)
    (operation : HistogramOperation ν) : Cohesive opts (opts.step metric operation) := by
  cases operation with
  | observe value labels stamp =>
    exact ⟨Cached.fresh_change _ _, cohesive.windows.observe value labels stamp⟩
  | reset labels stamp =>
    simp only [HistogramOptions.step]
    split
    · exact ⟨Cached.fresh_change _ _, cohesive.windows.resetItem _ _ _⟩
    · exact cohesive
  | resetAll stamp =>
    refine ⟨Cached.fresh_change _ _, ?_⟩
    exact List.foldlRecOn (motive := opts.WindowsFresh) metric.store.values.entries _
      cohesive.windows fun _ before entry _ => before.resetItem entry.1 entry.2 stamp.time
  | clear => exact ⟨Cached.fresh_change _ _, cohesive.windows⟩
  | fire timer =>
    simp only [HistogramOptions.step]
    split
    · exact ⟨Cached.fresh_change _ _, cohesive.windows.modify _ _ rfl⟩
    · exact cohesive
  | snapshot =>
    obtain ⟨exactly, windows⟩ := cohesive.windows.generateSnapshot
    refine ⟨cohesive.fresh.snapshot_snd exactly
      (opts.alike_generateSnapshot metric.store).freshSnapshot, ?_⟩
    rcases Cached.snapshot_cases opts.generateSnapshot metric with ⟨_, _, _, same⟩ | same
    · rw [HistogramOptions.step, same]
      exact cohesive.windows
    · rw [HistogramOptions.step, same]
      exact windows

end HistogramOptions

/-- After any run each kind of metric gives the snapshot that would be computed from its items, and
from the samples of its windows, without any cache. -/
theorem snapshots_never_stale (opts : MetricOptions ν) (loose : Option V → Option V → Bool)
    (histogram : HistogramOptions ν) :
    (∀ operations : List (GaugeOperation ν),
      let gauge := run (GaugeMetric.step opts) { store := .empty } operations
      (gauge.snapshot ValueMetric.generateSnapshot).1 = gauge.store.entries) ∧
    (∀ operations : List (InfoOperation ν (Option V)),
      let info := run (InfoMetric.step opts loose) { store := .empty } operations
      (info.snapshot ValueMetric.generateSnapshot).1 = info.store.entries) ∧
    ∀ operations : List (HistogramOperation ν),
      let metric := run histogram.step { store := {} } operations
      (metric.snapshot histogram.generateSnapshot).1 = histogram.freshSnapshot metric.store := by
  have always {σ ι : Type} (step : σ → ι → σ) (state : σ) (inputs : List ι) :
      Meets step (fun _ _ => True) state inputs := meets_of_forall (fun _ _ => trivial) state inputs
  have empty {W : Type} : ValueMetric.Fresh ({ store := .empty } : ValueMetric ν W) :=
    Cached.fresh_of_dirty rfl
  refine ⟨?_, ?_, ?_⟩
  · intro operations gauge
    have kept (state : GaugeMetric ν) (operation : GaugeOperation ν)
        (fresh : ValueMetric.Fresh state) (_ : True) :
        ValueMetric.Fresh (GaugeMetric.step opts state operation) :=
      GaugeMetric.fresh_step opts fresh operation
    have fresh := run_invariant kept empty (always _ _ operations)
    exact Cached.Fresh.snapshot_fst fresh rfl
  · intro operations info
    have kept (state : ValueMetric ν (Option V)) (operation : InfoOperation ν (Option V))
        (fresh : ValueMetric.Fresh state) (_ : True) :
        ValueMetric.Fresh (InfoMetric.step opts loose state operation) :=
      InfoMetric.fresh_step opts loose fresh operation
    have fresh := run_invariant kept empty (always _ _ operations)
    exact Cached.Fresh.snapshot_fst fresh rfl
  · intro operations metric
    have start : histogram.Cohesive { store := {} } :=
      ⟨Cached.fresh_of_dirty rfl, fun _ _ _ inside => by cases inside⟩
    have cohesive : histogram.Cohesive metric := run_invariant
      (fun _ operation cohesive _ => cohesive.step operation) start (always _ _ operations)
    exact cohesive.fresh.snapshot_fst cohesive.windows.generateSnapshot.1

end Moleculer.Metrics
