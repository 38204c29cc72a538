import Moleculer.Base.Cached
import Moleculer.Base.Json
import Moleculer.Base.OrderedMap
import Moleculer.Base.Run

/-! What all metrics have in common, and those that hold one value for each set of labels. -/

namespace Moleculer.Metrics

open Base

variable {ν V : Type}

/-- How finite numbers are written: differently from each other, and with a digit or a minus sign in
front. -/
structure NumberFormat (ν : Type) where
  print : ν → Text
  injective : Function.Injective print
  front : ∀ value, ∃ unit rest, print value = unit :: rest ∧ (unit = 45 ∨ 48 ≤ unit ∧ unit ≤ 57)

/-- Natural numbers in decimal digits. -/
def NumberFormat.decimal : NumberFormat Nat where
  print := Text.decimal
  injective := Text.decimal_injective
  front number := by
    obtain ⟨unit, rest, same⟩ := List.exists_cons_of_ne_nil
      (show Text.decimal number ≠ [] from mt List.map_eq_nil_iff.mp Nat.toDigits_ne_nil)
    exact ⟨unit, rest, same, .inr (Text.digit_of_mem_decimal (same ▸ List.mem_cons_self))⟩

/-- The value of a label, which may be of a type that metrics do not tell apart. -/
inductive LabelValue (ν : Type) where
  | number (value : ν)
  | string (value : Text)
  | boolean (value : Bool)
  | other
  deriving DecidableEq

/-- An object with labels, where none is undefined. -/
abbrev Labels (ν : Type) := Text → Option (LabelValue ν)

/-- What a metric reads of its options. -/
structure MetricOptions (ν : Type) where
  format : NumberFormat ν
  labelNames : List Text
  /-- The `pick` of lodash: the labels that are found under the names. -/
  pickLabels : Labels ν → List Text → List (Text × LabelValue ν)

namespace MetricOptions

variable (opts : MetricOptions ν)

/-- The text of one label in a key. -/
def labelPart : Option (LabelValue ν) → Text
  | some (.number value) => opts.format.print value
  | some (.string value) => .ascii "\"" ++ value ++ .ascii "\""
  | some (.boolean value) => .ascii (if value then "true" else "false")
  | some .other | none => []

/-- `hashingLabels`, where none is an argument that is not an object. -/
def hashingLabels : Option (Labels ν) → Text
  | none => []
  | some labels =>
    if opts.labelNames.length = 0 then []
    else (Text.ascii "|").intercalate (opts.labelNames.map fun name => opts.labelPart (labels name))

/-- `pick(labels, labelNames)`. -/
def pick : Option (Labels ν) → List (Text × LabelValue ν)
  | none => []
  | some labels => opts.pickLabels labels opts.labelNames

/-- Options with numbers in decimal digits, and labels whose names hold no dots. -/
def plain (labelNames : List Text) : MetricOptions Nat where
  format := .decimal
  labelNames := labelNames
  pickLabels labels names := names.filterMap fun name => (labels name).map (name, ·)

end MetricOptions

/-- The times of an operation: the argument `timestamp`, and the clock. -/
structure Stamp where
  timestamp : Option ℚ := none
  now : ℚ

/-- `timestamp == null ? Date.now() : timestamp`. -/
def Stamp.time (stamp : Stamp) : ℚ := stamp.timestamp.getD stamp.now

/-- An item of a gauge, a counter or an info metric. -/
structure Item (ν V : Type) where
  value : V
  labels : List (Text × LabelValue ν)
  timestamp : ℚ

/-- A metric that holds a value for each set of labels, with the snapshot of its items. -/
abbrev ValueMetric (ν V : Type) := Cached (OrderedMap Text (Item ν V)) (List (Text × Item ν V))

namespace ValueMetric

variable (opts : MetricOptions ν)

/-- The method `set` of gauges and infos, which compare values with `!=`. -/
def set (loose : V → V → Bool) (metric : ValueMetric ν V) (value : V)
    (labels : Option (Labels ν)) (stamp : Stamp) : ValueMetric ν V :=
  let hash := opts.hashingLabels labels
  match metric.store.get hash with
  | some item =>
    if loose item.value value then metric
    else metric.change (·.set hash { item with value, timestamp := stamp.time })
  | none =>
    metric.change (·.set hash { value, labels := opts.pick labels, timestamp := stamp.time })

/-- The method `resetAll` of gauges and infos. -/
def resetAll (blank : V) (metric : ValueMetric ν V) (stamp : Stamp) : ValueMetric ν V :=
  metric.change (·.mapValues fun item => { item with value := blank, timestamp := stamp.time })

/-- The method `clear`. -/
def clear (metric : ValueMetric ν V) : ValueMetric ν V := metric.change fun _ => .empty

/-- The method `generateSnapshot`, which leaves the items alone. -/
def generateSnapshot (values : OrderedMap Text (Item ν V)) :
    List (Text × Item ν V) × OrderedMap Text (Item ν V) :=
  (values.entries, values)

end ValueMetric

/-- The operations on a gauge. A counter has all of them except `decrement`. -/
inductive GaugeOperation (ν : Type) where
  | set (value : ℚ) (labels : Option (Labels ν)) (stamp : Stamp)
  | increment (labels : Option (Labels ν)) (value : Option ℚ) (stamp : Stamp)
  | decrement (labels : Option (Labels ν)) (value : Option ℚ) (stamp : Stamp)
  | reset (labels : Option (Labels ν)) (stamp : Stamp)
  | resetAll (stamp : Stamp)
  | clear
  | snapshot

/-- The operations on an info metric. -/
inductive InfoOperation (ν V : Type) where
  | set (value : V) (labels : Option (Labels ν)) (stamp : Stamp)
  | reset (labels : Option (Labels ν)) (stamp : Stamp)
  | resetAll (stamp : Stamp)
  | clear
  | snapshot

/-- The items of a gauge or a counter hold numbers. -/
abbrev GaugeMetric (ν : Type) := ValueMetric ν ℚ

namespace GaugeMetric

variable (opts : MetricOptions ν) (metric : GaugeMetric ν)

/-- Add to the value of an item, or to zero. -/
def add (labels : Option (Labels ν)) (value : ℚ) (stamp : Stamp) : GaugeMetric ν :=
  let stored := (metric.store.get (opts.hashingLabels labels)).map Item.value
  ValueMetric.set opts (· = ·) metric (stored.getD 0 + value) labels stamp

/-- One operation. -/
def step (metric : GaugeMetric ν) : GaugeOperation ν → GaugeMetric ν
  | .set value labels stamp => ValueMetric.set opts (· = ·) metric value labels stamp
  | .increment labels value stamp => add opts metric labels (value.getD 1) stamp
  | .decrement labels value stamp => add opts metric labels (-value.getD 1) stamp
  | .reset labels stamp => ValueMetric.set opts (· = ·) metric 0 labels stamp
  | .resetAll stamp => ValueMetric.resetAll 0 metric stamp
  | .clear => ValueMetric.clear metric
  | .snapshot => (metric.snapshot ValueMetric.generateSnapshot).2

end GaugeMetric

/-- The items of an info metric hold any values, which are compared with `!=`, or null. -/
def InfoMetric.step (opts : MetricOptions ν) (loose : Option V → Option V → Bool)
    (metric : ValueMetric ν (Option V)) : InfoOperation ν (Option V) → ValueMetric ν (Option V)
  | .set value labels stamp => ValueMetric.set opts loose metric value labels stamp
  | .reset labels stamp => ValueMetric.set opts loose metric none labels stamp
  | .resetAll stamp => ValueMetric.resetAll none metric stamp
  | .clear => ValueMetric.clear metric
  | .snapshot => (metric.snapshot ValueMetric.generateSnapshot).2

end Moleculer.Metrics
