import Moleculer.Metrics.Metric
import Moleculer.Metrics.Quantiles

/-! Histograms, with their buckets, their windows for quantiles and the timers of these windows. -/

namespace Moleculer.Metrics

open Base

variable {ν : Type}

/-- The options for buckets: two generators, and a list of its own or of the registry. -/
inductive BucketOptions where
  | linearBuckets (start width : ℚ) (count : Nat)
  | exponentialBuckets (start factor : ℚ) (count : Nat)
  | buckets (bounds : List ℚ)

/-- The bounds of the buckets in ascending order. -/
def BucketOptions.bounds (config : BucketOptions) : List ℚ :=
  let bounds := match config with
    | linearBuckets start width count => (List.range count).map fun i => start + i * width
    | exponentialBuckets start factor count => (List.range count).map fun i => start * factor ^ i
    | buckets bounds => bounds
  bounds.insertionSort (· ≤ ·)

/-- What a histogram reads of its options. -/
structure HistogramOptions (ν : Type) extends MetricOptions ν where
  buckets : Option BucketOptions
  quantiles : Option QuantileOptions

/-- The item of a set of labels. Its window is given by a number. -/
structure HistogramItem (ν : Type) where
  labels : List (Text × LabelValue ν)
  timestamp : ℚ := 0
  sum : ℚ := 0
  count : Nat := 0
  lastValue : Option ℚ := none
  bucketValues : Option (OrderedMap ℚ Nat) := none
  quantileValues : Option Nat := none

/-- The snapshot of an item. -/
structure HistogramSnapshot (ν : Type) where
  key : Text
  labels : List (Text × LabelValue ν)
  count : Nat
  sum : ℚ
  lastValue : Option ℚ
  timestamp : ℚ
  buckets : Option (OrderedMap ℚ (Option Nat))
  quantiles : Option QuantileSnapshot

/-- A window with its own cache. -/
abbrev Window := Cached Ring QuantileSnapshot

/-- The items of a histogram, all windows that were ever made, and the timers that are pending, each
with the number of the window that it rotates. -/
structure HistogramStore (ν : Type) where
  values : OrderedMap Text (HistogramItem ν) := .empty
  windows : List Window := []
  timers : List Nat := []

/-- A histogram with the cache for its snapshot. -/
abbrev HistogramMetric (ν : Type) := Cached (HistogramStore ν) (List (HistogramSnapshot ν))

/-- The operations on a histogram. A timer is given by its place among those that are pending. -/
inductive HistogramOperation (ν : Type) where
  | observe (value : ℚ) (labels : Option (Labels ν)) (stamp : Stamp)
  | reset (labels : Option (Labels ν)) (stamp : Stamp)
  | resetAll (stamp : Stamp)
  | clear
  | fire (timer : Nat)
  | snapshot

/-- `createBucketValues`. -/
def createBucketValues (bounds : List ℚ) : OrderedMap ℚ Nat :=
  bounds.foldl (fun result bound => result.set bound 0) .empty

/-- Count a value in the buckets that it fits in. -/
def countValue (bounds : List ℚ) (value : ℚ) (values : OrderedMap ℚ Nat) : OrderedMap ℚ Nat :=
  bounds.foldl (fun values bound =>
    if value ≤ bound then values.modify bound (· + 1) else values) values

namespace HistogramOptions

variable (opts : HistogramOptions ν)

/-- The bounds, if there are buckets. -/
def bounds : Option (List ℚ) := opts.buckets.map BucketOptions.bounds

/-- Make a window, which starts its timer, if there are quantiles. -/
def createWindow (store : HistogramStore ν) : HistogramStore ν :=
  match opts.quantiles with
  | none => store
  | some quantiles => { store with
      windows := store.windows ++ [{ store := Ring.new quantiles.ageBuckets }]
      timers := store.timers ++ [store.windows.length] }

/-- `resetItem`, for the item under a key. -/
def resetItem (key : Text) (item : HistogramItem ν) (time : ℚ) (store : HistogramStore ν) :
    HistogramStore ν :=
  let blank : HistogramItem ν := { item with
    timestamp := time
    sum := 0
    count := 0
    lastValue := none
    bucketValues := (opts.bounds.map createBucketValues).or item.bucketValues
    quantileValues := (opts.quantiles.map fun _ => store.windows.length).or item.quantileValues }
  { opts.createWindow store with values := store.values.set key blank }

/-- The item that a value is observed for, which is made if there is none. -/
def enterItem (labels : Option (Labels ν)) (stamp : Stamp) (store : HistogramStore ν) :
    HistogramStore ν :=
  if store.values.has (opts.hashingLabels labels) then store
  else opts.resetItem (opts.hashingLabels labels) { labels := opts.pick labels } stamp.now store

/-- Add a value to an item and to its window. -/
def addValue (value : ℚ) (key : Text) (item : HistogramItem ν) (time : ℚ)
    (store : HistogramStore ν) : HistogramStore ν :=
  { store with
    values := store.values.set key { item with
      timestamp := time
      sum := item.sum + value
      count := item.count + 1
      lastValue := some value
      bucketValues := item.bucketValues.map (countValue (opts.bounds.getD []) value) }
    windows := match item.quantileValues with
      | some window => store.windows.modify window (·.change (Ring.add value))
      | none => store.windows }

/-- `observe`. -/
def observe (value : ℚ) (labels : Option (Labels ν)) (stamp : Stamp) (store : HistogramStore ν) :
    HistogramStore ν :=
  let entered := opts.enterItem labels stamp store
  match entered.values.get (opts.hashingLabels labels) with
  | some item => opts.addValue value (opts.hashingLabels labels) item stamp.time entered
  | none => entered

/-- `resetAll`. -/
def resetAll (stamp : Stamp) (store : HistogramStore ν) : HistogramStore ν :=
  store.values.entries.foldl (fun store entry =>
    opts.resetItem entry.1 entry.2 stamp.time store) store

/-- The timer of a window rotates it and starts again. -/
def rotate (timer window : Nat) (store : HistogramStore ν) : HistogramStore ν :=
  { store with
    windows := store.windows.modify window
      (·.change (Ring.rotate ((opts.quantiles.map QuantileOptions.ageBuckets).getD 0)))
    timers := store.timers.eraseIdx timer ++ [window] }

/-- The snapshot of an item, given that of its window. -/
def itemSnapshot (key : Text) (item : HistogramItem ν) (quantiles : Option QuantileSnapshot) :
    HistogramSnapshot ν where
  key
  labels := item.labels
  count := item.count
  sum := item.sum
  lastValue := item.lastValue
  timestamp := item.timestamp
  buckets := opts.bounds.map fun bounds => bounds.foldl (fun result bound =>
    result.set bound (item.bucketValues.bind (·.get bound))) .empty
  quantiles

/-- `generateItemSnapshot`, which asks the window for its own snapshot. -/
def generateItemSnapshot (key : Text) (item : HistogramItem ν) (store : HistogramStore ν) :
    HistogramSnapshot ν × HistogramStore ν :=
  match opts.quantiles, item.quantileValues, item.quantileValues.bind (store.windows[·]?) with
  | some quantiles, some number, some window =>
    let taken := window.snapshot fun ring => (ring.report quantiles, ring)
    (opts.itemSnapshot key item (some taken.1),
      { store with windows := store.windows.set number taken.2 })
  | _, _, _ => (opts.itemSnapshot key item none, store)

/-- `generateSnapshot`. -/
def generateSnapshot (store : HistogramStore ν) :
    List (HistogramSnapshot ν) × HistogramStore ν :=
  store.values.entries.foldl (fun state entry =>
    let taken := opts.generateItemSnapshot entry.1 entry.2 state.2
    (state.1 ++ [taken.1], taken.2)) ([], store)

/-- One operation. -/
def step (metric : HistogramMetric ν) : HistogramOperation ν → HistogramMetric ν
  | .observe value labels stamp => metric.change (opts.observe value labels stamp)
  | .reset labels stamp =>
    match metric.store.values.get (opts.hashingLabels labels) with
    | some item => metric.change (opts.resetItem (opts.hashingLabels labels) item stamp.time)
    | none => metric
  | .resetAll stamp => metric.change (opts.resetAll stamp)
  | .clear => metric.change fun store => { store with values := .empty }
  | .fire timer =>
    match metric.store.timers[timer]? with
    | some window => metric.change (opts.rotate timer window)
    | none => metric
  | .snapshot => (metric.snapshot opts.generateSnapshot).2

end HistogramOptions

end Moleculer.Metrics
