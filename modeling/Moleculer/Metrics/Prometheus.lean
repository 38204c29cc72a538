import Moleculer.Base.Json
import Moleculer.Base.OrderedMap
import Moleculer.Base.Separated

/-! The page of the Prometheus reporter, and how its samples are read. -/

namespace Moleculer.Metrics

open Base

variable {ν : Type}

/-- The type of a metric. -/
inductive MetricType where
  | counter
  | gauge
  deriving DecidableEq

/-- What is reported of an item of a counter or a gauge. A rate of zero is not there. -/
structure ValueReport (ν : Type) where
  labels : OrderedMap Text Text
  value : Option ν
  rate : Option ν

/-- What is reported of an item of an info metric with a string. -/
structure InfoReport where
  labels : OrderedMap Text Text
  value : Text

/-- What is reported of an item of a histogram. -/
structure HistogramReport (ν : Type) where
  labels : OrderedMap Text Text
  buckets : Option (List (Text × Option ν))
  quantiles : Option (List (Text × Option ν))
  sum : Option ν
  count : Option ν
  min : Option ν
  mean : Option ν
  variance : Option ν
  stdDev : Option ν
  max : Option ν
  rate : Option ν

/-- The snapshot of a metric, by its type. -/
inductive Reports (ν : Type) where
  | values (type : MetricType) (items : List (ValueReport ν))
  | infos (items : List InfoReport)
  | histograms (items : List (HistogramReport ν))

/-- What the reporter reads of a metric. -/
structure ReportedMetric (ν : Type) where
  name : Text
  description : Option Text
  unit : Option Text
  snapshot : Reports ν

/-- The reporter: its filter and its formats for names, the labels that all samples have, and how
numbers are written, which is on one line. -/
structure PrometheusReporter (ν : Type) where
  matchMetricName : Text → Bool
  metricNamePrefix : Text
  metricNameSuffix : Text
  metricNameFormatter : Option (Text → Text)
  labelNameFormatter : Option (Text → Text)
  defaultLabels : OrderedMap Text Text
  print : ν → Text
  print_line : ∀ value, 10 ∉ print value

/-- A sample, before its labels are merged with those of the reporter. -/
structure Sample where
  name : Text
  itemLabels : OrderedMap Text Text
  extraLabels : List (Text × Text) := []
  value : Text

/-- What is pushed to the page at a time. -/
inductive Line where
  | help (name description : Text)
  | type (name type : Text)
  | sample (sample : Sample)
  | blank

/-- The sample of a line, if it has one. -/
def Line.sample? : Line → Option Sample
  | .sample given => some given
  | .help .. | .type .. | .blank => none

namespace PrometheusReporter

variable (reporter : PrometheusReporter ν)

/-- The local function `val`. -/
def val : Option ν → Text
  | some value => reporter.print value
  | none => .ascii "NaN"

/-- `formatMetricName`, and the replacement of dots and hyphens. -/
def formatMetricName (name : Text) : Text :=
  let name := reporter.metricNamePrefix ++ name ++ reporter.metricNameSuffix
  let name := (reporter.metricNameFormatter.map (· name)).getD name
  name.map fun unit => if unit = 46 ∨ unit = 45 then 95 else unit

/-- `formatLabelName`. -/
def formatLabelName (name : Text) : Text :=
  (reporter.labelNameFormatter.map (· name)).getD name

/-- `escapeLabelValue`, for a string. -/
def escapeLabelValue (text : Text) : Text :=
  let text := text.flatMap fun unit => if unit = 92 then [92, 92] else [unit]
  text.flatMap fun unit => if unit = 34 then [92, 34] else [unit]

/-- The labels of a sample: those of the reporter, of the item and of the sample itself. -/
def mergeLabels (sample : Sample) : OrderedMap Text Text :=
  (sample.itemLabels.entries ++ sample.extraLabels).foldl
    (fun labels entry => labels.set entry.1 entry.2) reporter.defaultLabels

/-- A label as it is written. -/
def labelText (label : Text × Text) : Text :=
  reporter.formatLabelName label.1 ++ .ascii "=\"" ++ escapeLabelValue label.2 ++ .ascii "\""

/-- `labelsToStr`. -/
def labelsToStr (sample : Sample) : Text :=
  let labels := (reporter.mergeLabels sample).entries
  if labels.length = 0 then []
  else
    .ascii "\x7b" ++ (Text.ascii ",").intercalate (labels.map reporter.labelText) ++ .ascii "\x7d"

/-- A sample as it is written. -/
def sampleText (sample : Sample) : Text :=
  sample.name ++ reporter.labelsToStr sample ++ .ascii " " ++ sample.value

/-- The samples of an item of a counter or a gauge. -/
def valueSamples (name : Text) (item : ValueReport ν) : List Sample :=
  { name, itemLabels := item.labels, value := reporter.val item.value } ::
    item.rate.toList.map fun rate =>
      { name := name ++ .ascii "_rate", itemLabels := item.labels, value := reporter.print rate }

/-- The sample of an item of an info metric. -/
def infoSamples (name : Text) (item : InfoReport) : List Sample :=
  [{ name, itemLabels := item.labels, extraLabels := [(.ascii "value", item.value)],
     value := .ascii "1" }]

/-- The samples of an item of a histogram. -/
def histogramSamples (name : Text) (item : HistogramReport ν) : List Sample :=
  let plain (suffix : String) (value : Option ν) : Sample :=
    { name := name ++ .ascii suffix, itemLabels := item.labels, value := reporter.val value }
  let labelled (suffix label : String) (entry : Text × Option ν) : Sample :=
    { plain suffix entry.2 with extraLabels := [(.ascii label, entry.1)] }
  (match item.buckets with
    | none => []
    | some buckets => buckets.map (labelled "_bucket" "le") ++
        [labelled "_bucket" "le" (.ascii "+Inf", item.count)]) ++
  (match item.quantiles with
    | none => []
    | some quantiles => quantiles.map (labelled "" "quantile") ++
        [plain "_sum" item.sum, plain "_count" item.count, plain "_min" item.min,
          plain "_mean" item.mean, plain "_variance" item.variance, plain "_stddev" item.stdDev,
          plain "_max" item.max]) ++
  item.rate.toList.map fun rate => plain "_rate" (some rate)

/-- The type that is reported, and the samples of all items. -/
def reported (name : Text) : Reports ν → String × List (List Sample)
  | .values .counter items => ("counter", items.map (reporter.valueSamples name))
  | .values .gauge items => ("gauge", items.map (reporter.valueSamples name))
  | .infos items => ("gauge", items.map (infoSamples name))
  | .histograms items => ("histogram", items.map (reporter.histogramSamples name))

/-- The lines for a metric. -/
def metricLines (metric : ReportedMetric ν) : List Line :=
  let name := reporter.formatMetricName metric.name
  let reported := reporter.reported name metric.snapshot
  if !reporter.matchMetricName metric.name then []
  else if (Text.ascii "os.datetime").isPrefixOf metric.name then []
  else if reported.2.length = 0 then []
  else
    .help name (metric.description.getD (metric.name ++
      (metric.unit.map fun unit => .ascii " (" ++ unit ++ .ascii ")").getD [])) ::
    .type name (.ascii reported.1) :: reported.2.flatten.map .sample ++ [.blank]

/-- A line as it is written. -/
def lineText : Line → Text
  | .help name description => .ascii "# HELP " ++ name ++ .ascii " " ++ description
  | .type name type => .ascii "# TYPE " ++ name ++ .ascii " " ++ type
  | .sample sample => reporter.sampleText sample
  | .blank => []

/-- `generatePrometheusResponse`. -/
def generatePrometheusResponse (store : List (ReportedMetric ν)) : Text :=
  [10].intercalate ((store.flatMap reporter.metricLines).map reporter.lineText)

/-- The samples of the page. -/
def samples (store : List (ReportedMetric ν)) : List Sample :=
  (store.flatMap reporter.metricLines).filterMap Line.sample?

end PrometheusReporter

/-- Letters, digits and the underscore. -/
def nameUnit (unit : UInt16) : Bool :=
  97 ≤ unit ∧ unit ≤ 122 ∨ 65 ≤ unit ∧ unit ≤ 90 ∨ 48 ≤ unit ∧ unit ≤ 57 ∨ unit = 95

/-- The names of labels: letters, digits and underscores, with no digit in front. -/
def validLabelName (name : Text) : Bool :=
  name.all nameUnit && name.head?.any fun unit => !(48 ≤ unit ∧ unit ≤ 57)

/-- The names of metrics may have colons, too. -/
def metricUnit (unit : UInt16) : Bool := nameUnit unit || unit = 58

/-- The unit that an escape sequence stands for, by the rules of the text format. -/
def unescape (code : UInt16) : Option UInt16 :=
  if code = 92 then some 92 else if code = 34 then some 34 else if code = 110 then some 10 else none

/-- Read the value of a label up to its closing quote, behind a backslash or not. A line feed must
not stand there. -/
def readValue : Bool → Text → Option (Text × Text)
  | _, [] => none
  | true, code :: rest => (unescape code).bind fun unit =>
      (readValue false rest).map fun read => (unit :: read.1, read.2)
  | false, unit :: rest =>
    if unit = 34 then some ([], rest)
    else if unit = 92 then readValue true rest
    else if unit = 10 then none
    else (readValue false rest).map fun read => (unit :: read.1, read.2)

/-- Read labels up to the closing brace. There are at most as many as the first argument says. -/
def readLabels : Nat → Text → Option (List (Text × Text))
  | 0, _ => none
  | more + 1, text =>
    let name := text.takeWhile nameUnit
    let rest := text.dropWhile nameUnit
    if !validLabelName name || rest.take 2 ≠ Text.ascii "=\"" then none
    else (readValue false (rest.drop 2)).bind fun read =>
      if read.2.head? = some 44 then
        (readLabels more (read.2.drop 1)).map fun labels => (name, read.1) :: labels
      else if read.2.head? = some 125 then some [(name, read.1)]
      else none

/-- Read the labels of a sample behind the name of its metric. No name may be there twice. -/
def readSample (line : Text) : Option (List (Text × Text)) :=
  let rest := line.dropWhile metricUnit
  if rest.head? = some 123 then
    (readLabels line.length (rest.drop 1)).filter fun labels => (labels.map Prod.fst).Nodup
  else if rest.head? = some 32 then some []
  else none

open PrometheusReporter

theorem escapeLabelValue_cons (unit : UInt16) (rest : Text) :
    escapeLabelValue (unit :: rest) =
      (if unit = 92 then [92, 92] else if unit = 34 then [92, 34] else [unit]) ++
        escapeLabelValue rest := by
  by_cases slash : unit = 92
  · subst slash
    simp [escapeLabelValue]
  · by_cases quote : unit = 34 <;> simp [escapeLabelValue, slash, quote]

theorem readValue_escape (value rest : Text) :
    readValue false (escapeLabelValue value ++ 34 :: rest) =
      if 10 ∈ value then none else some (value, rest) := by
  induction value with
  | nil => simp [escapeLabelValue, readValue]
  | cons unit value ih =>
    rw [escapeLabelValue_cons, List.append_assoc]
    by_cases slash : unit = 92
    · by_cases feed : 10 ∈ value <;> simp [slash, readValue, unescape, ih, feed]
    · by_cases quote : unit = 34
      · by_cases feed : 10 ∈ value <;> simp [quote, readValue, unescape, ih, feed]
      · by_cases here : unit = 10
        · simp [here, readValue]
        · by_cases feed : 10 ∈ value <;>
            simp [slash, quote, here, Ne.symm here, readValue, ih, feed]

section Labels

variable (reporter : PrometheusReporter ν)

theorem takeWhile_name {name : Text} (valid : validLabelName name = true) (rest : Text) :
    (name ++ 61 :: rest).takeWhile nameUnit = name ∧
      (name ++ 61 :: rest).dropWhile nameUnit = 61 :: rest := by
  have all : ∀ unit ∈ name, nameUnit unit = true :=
    List.all_eq_true.mp (Bool.and_eq_true_iff.mp valid).1
  rw [List.takeWhile_append_of_pos all, List.dropWhile_append_of_pos all]
  have stop : nameUnit 61 = false := by decide
  simp [stop]

theorem readLabels_label {label : Text × Text}
    (valid : validLabelName (reporter.formatLabelName label.1) = true) (more : Nat) (rest : Text) :
    readLabels (more + 1) (reporter.labelText label ++ rest) =
      if 10 ∈ label.2 then none
      else if rest.head? = some 44 then (readLabels more (rest.drop 1)).map fun labels =>
        (reporter.formatLabelName label.1, label.2) :: labels
      else if rest.head? = some 125 then some [(reporter.formatLabelName label.1, label.2)]
      else none := by
  have text : reporter.labelText label ++ rest = reporter.formatLabelName label.1 ++
      61 :: 34 :: (escapeLabelValue label.2 ++ 34 :: rest) := by
    simp [labelText, Text.ascii]
  obtain ⟨name, behind⟩ := takeWhile_name valid (34 :: (escapeLabelValue label.2 ++ 34 :: rest))
  have opens : List.take 2 (61 :: 34 :: (escapeLabelValue label.2 ++ 34 :: rest)) =
    Text.ascii "=\"" := rfl
  rw [text, readLabels]
  simp only [name, behind, valid, opens, List.drop_succ_cons, List.drop_zero, readValue_escape]
  by_cases feed : 10 ∈ label.2 <;> simp [feed]

theorem readLabels_joined {labels : List (Text × Text)} (any : labels ≠ [])
    (valid : ∀ label ∈ labels, validLabelName (reporter.formatLabelName label.1) = true)
    {more : Nat} (enough : labels.length ≤ more) (rest : Text) :
    readLabels more (joined 44 reporter.labelText labels ++ 125 :: rest) =
      if ∀ label ∈ labels, 10 ∉ label.2 then
        some (labels.map fun label => (reporter.formatLabelName label.1, label.2))
      else none := by
  induction labels generalizing more with
  | nil => exact absurd rfl any
  | cons label others ih =>
    obtain ⟨here, later⟩ := List.forall_mem_cons.mp valid
    cases more with
    | zero => simp at enough
    | succ more =>
      cases others with
      | nil =>
        rw [joined_singleton, readLabels_label reporter here]
        by_cases feed : 10 ∈ label.2 <;> simp [feed]
      | cons next others =>
        rw [joined_cons_cons, List.append_assoc, readLabels_label reporter here]
        have short : (next :: others).length ≤ more := by simpa using enough
        by_cases feed : 10 ∈ label.2
        · rw [if_pos feed, if_neg fun clean => clean label List.mem_cons_self feed]
        · rw [if_neg feed, List.cons_append, List.head?_cons, if_pos rfl, List.drop_succ_cons,
            List.drop_zero, ih (by simp) later short]
          by_cases clean : ∀ label ∈ next :: others, 10 ∉ label.2
          · have all : ∀ other ∈ label :: next :: others, 10 ∉ other.2 := by
              simpa only [List.forall_mem_cons] using And.intro feed clean
            rw [if_pos clean, if_pos all]
            rfl
          · rw [if_neg clean, if_neg fun all => clean (List.forall_mem_cons.mp all).2]
            rfl

theorem length_le_joined {α β : Type} (separator : α) (render : β → List α) (items : List β) :
    items.length ≤ (joined separator render items).length + 1 := by
  induction items with
  | nil => simp
  | cons item rest ih =>
    cases rest with
    | nil => simp
    | cons next rest =>
      simp only [joined_cons_cons, List.length_append, List.length_cons] at ih ⊢
      omega

/-- The labels of a sample with the names they are written with. -/
def writtenLabels (sample : Sample) : List (Text × Text) :=
  (reporter.mergeLabels sample).entries.map fun label =>
    (reporter.formatLabelName label.1, label.2)

theorem readSample_sampleText {sample : Sample} (named : sample.name.all metricUnit = true)
    (valid : ∀ label ∈ (reporter.mergeLabels sample).entries,
      validLabelName (reporter.formatLabelName label.1) = true)
    (distinct : ((writtenLabels reporter sample).map Prod.fst).Nodup) :
    readSample (reporter.sampleText sample) =
      if ∀ label ∈ (reporter.mergeLabels sample).entries, 10 ∉ label.2 then
        some (writtenLabels reporter sample)
      else none := by
  have name : ∀ unit ∈ sample.name, metricUnit unit = true := List.all_eq_true.mp named
  unfold writtenLabels at distinct ⊢
  by_cases any : (reporter.mergeLabels sample).entries = []
  · have text : reporter.sampleText sample = sample.name ++ 32 :: sample.value := by
      simp [sampleText, labelsToStr, any, Text.ascii]
    have stop : metricUnit 32 = false := by decide
    rw [readSample, text, List.dropWhile_append_of_pos name]
    simp [stop, any]
  · have text : reporter.sampleText sample = sample.name ++ 123 ::
        (joined 44 reporter.labelText (reporter.mergeLabels sample).entries ++
          125 :: 32 :: sample.value) := by
      simp [sampleText, labelsToStr, any, Text.ascii, joined]
    have stop : metricUnit 123 = false := by decide
    have enough : (reporter.mergeLabels sample).entries.length ≤
        (reporter.sampleText sample).length := by
      have count := length_le_joined 44 reporter.labelText (reporter.mergeLabels sample).entries
      rw [text, List.length_append, List.length_cons, List.length_append]
      omega
    have read := readLabels_joined reporter any valid enough (32 :: sample.value)
    rw [text] at read
    rw [readSample, text, List.dropWhile_append_of_pos name]
    simp only [List.dropWhile_cons, stop, Bool.false_eq_true, if_false, List.head?_cons, if_true,
      List.drop_succ_cons, List.drop_zero, read]
    split
    · simp only [Option.filter_some, distinct, decide_true, if_true]
    · rfl

theorem eq_of_map_eq {α β : Type} {f : α → β} {one two : List α}
    (told : ∀ x ∈ one, ∀ y ∈ two, f x = f y → x = y) (same : one.map f = two.map f) :
    one = two := by
  induction one generalizing two with
  | nil => exact (List.map_eq_nil_iff.mp same.symm).symm
  | cons x one ih =>
    cases two with
    | nil => cases same
    | cons y two =>
      rw [List.map_cons, List.map_cons, List.cons.injEq] at same
      rw [told x List.mem_cons_self y List.mem_cons_self same.1, ih ?_ same.2]
      exact fun x first y second =>
        told x (List.mem_cons_of_mem _ first) y (List.mem_cons_of_mem _ second)

theorem mem_escapeLabelValue (value : Text) : 10 ∈ escapeLabelValue value ↔ 10 ∈ value := by
  induction value with
  | nil => rfl
  | cons unit value ih =>
    rw [escapeLabelValue_cons, List.mem_append, List.mem_cons, ih]
    by_cases slash : unit = 92
    · simp [slash]
    · by_cases quote : unit = 34 <;> simp [slash, quote]

theorem joined_line {items : List (Text × Text)} {render : Text × Text → Text}
    (clean : ∀ item ∈ items, 10 ∉ render item) : 10 ∉ joined 44 render items := by
  induction items with
  | nil => simp
  | cons item rest ih =>
    obtain ⟨here, later⟩ := List.forall_mem_cons.mp clean
    cases rest with
    | nil => simpa using here
    | cons next rest => simpa [here] using ih later

theorem sampleText_line {sample : Sample} (named : sample.name.all metricUnit = true)
    (valid : ∀ label ∈ (reporter.mergeLabels sample).entries,
      validLabelName (reporter.formatLabelName label.1) = true)
    (value : 10 ∉ sample.value)
    (clean : ∀ label ∈ (reporter.mergeLabels sample).entries, 10 ∉ label.2) :
    10 ∉ reporter.sampleText sample := by
  have name : 10 ∉ sample.name := fun feed =>
    absurd (List.all_eq_true.mp named 10 feed) (by decide)
  have labels : 10 ∉ reporter.labelsToStr sample := by
    unfold labelsToStr
    dsimp only
    split
    · simp
    · have inner : 10 ∉ joined 44 reporter.labelText (reporter.mergeLabels sample).entries := by
        refine joined_line fun label inside => ?_
        have written : 10 ∉ reporter.formatLabelName label.1 := fun feed =>
          absurd (List.all_eq_true.mp (Bool.and_eq_true_iff.mp (valid label inside)).1 10 feed)
            (by decide)
        simpa [labelText, Text.ascii, written, mem_escapeLabelValue] using clean label inside
      simpa [joined, Text.ascii] using inner
  simpa [sampleText, Text.ascii, name, labels] using value

end Labels

namespace PrometheusReporter

variable (reporter : PrometheusReporter ν)

/-- The names of all labels on the page. -/
def labelNames (store : List (ReportedMetric ν)) : Set Text :=
  {name | ∃ sample ∈ reporter.samples store, name ∈ (reporter.mergeLabels sample).keys}

/-- A sample has a name that begins with that of its metric, and its value is on one line. -/
structure Belongs (name : Text) (sample : Sample) : Prop where
  name : ∃ rest : Text, rest.all metricUnit = true ∧ sample.name = name ++ rest
  value : 10 ∉ sample.value

theorem val_line (value : Option ν) : 10 ∉ reporter.val value := by
  cases value with
  | none => simp [val, Text.ascii]
  | some value => exact reporter.print_line value

theorem belongs_reported (name : Text) (reports : Reports ν) {sample : Sample}
    (inside : sample ∈ (reporter.reported name reports).2.flatten) : Belongs name sample := by
  have suffixed (suffix : String) (units : (Text.ascii suffix).all metricUnit = true)
      (itemLabels : OrderedMap Text Text) (extraLabels : List (Text × Text)) (value : Option ν) :
      Belongs name ⟨name ++ Text.ascii suffix, itemLabels, extraLabels, reporter.val value⟩ :=
    ⟨⟨_, units, rfl⟩, reporter.val_line value⟩
  obtain ⟨list, member, inside⟩ := List.mem_flatten.mp inside
  cases reports with
  | values type items =>
    have valued : ∃ item ∈ items, reporter.valueSamples name item = list := by
      cases type <;> simpa [reported] using member
    obtain ⟨item, -, rfl⟩ := valued
    rcases List.mem_cons.mp inside with rfl | rated
    · exact ⟨⟨[], rfl, (List.append_nil _).symm⟩, reporter.val_line _⟩
    · obtain ⟨rate, -, rfl⟩ := List.mem_map.mp rated
      exact suffixed "_rate" (by decide) _ _ (some rate)
  | infos items =>
    obtain ⟨item, -, rfl⟩ := List.mem_map.mp member
    obtain rfl := List.mem_singleton.mp inside
    exact ⟨⟨[], rfl, (List.append_nil _).symm⟩, by simp [Text.ascii]⟩
  | histograms items =>
    obtain ⟨item, -, rfl⟩ := List.mem_map.mp member
    simp only [histogramSamples, List.mem_append] at inside
    rcases inside with (bucket | quantile) | rated
    · cases buckets : item.buckets with
      | none => simp [buckets] at bucket
      | some list =>
        simp only [buckets, List.mem_append, List.mem_map, List.mem_singleton] at bucket
        rcases bucket with ⟨entry, -, rfl⟩ | rfl
        all_goals exact suffixed "_bucket" (by decide) _ _ _
    · cases quantiles : item.quantiles with
      | none => simp [quantiles] at quantile
      | some list =>
        simp only [quantiles, List.mem_append, List.mem_map, List.mem_cons, List.not_mem_nil,
          or_false] at quantile
        rcases quantile with ⟨entry, -, rfl⟩ | rfl | rfl | rfl | rfl | rfl | rfl | rfl
        all_goals exact suffixed _ (by decide) _ _ _
    · obtain ⟨rate, -, rfl⟩ := List.mem_map.mp rated
      exact suffixed "_rate" (by decide) _ _ _

theorem mem_metricLines {metric : ReportedMetric ν} {sample : Sample}
    (inside : Line.sample sample ∈ reporter.metricLines metric) :
    sample ∈ (reporter.reported (reporter.formatMetricName metric.name)
      metric.snapshot).2.flatten := by
  unfold metricLines at inside
  dsimp only at inside
  split at inside
  · cases inside
  split at inside
  · cases inside
  split at inside
  · cases inside
  simpa using inside

theorem belongs_samples {store : List (ReportedMetric ν)} {sample : Sample}
    (inside : sample ∈ reporter.samples store) :
    ∃ metric ∈ store, Belongs (reporter.formatMetricName metric.name) sample := by
  obtain ⟨line, member, taken⟩ := List.mem_filterMap.mp inside
  obtain ⟨metric, stored, pushed⟩ := List.mem_flatMap.mp member
  cases line with
  | sample given =>
    obtain rfl := Option.some.inj taken
    exact ⟨metric, stored, reporter.belongs_reported _ _ (reporter.mem_metricLines pushed)⟩
  | help name description => cases taken
  | type name type => cases taken
  | blank => cases taken

/-- With valid names, every sample stays on one line and is read back, and samples with different
labels are different, exactly if no value of a label has a line feed. -/
theorem samples_read_back_iff (store : List (ReportedMetric ν))
    (named : ∀ metric ∈ store, (reporter.formatMetricName metric.name).all metricUnit = true)
    (valid : ∀ name ∈ reporter.labelNames store,
      validLabelName (reporter.formatLabelName name) = true)
    (distinct : Set.InjOn reporter.formatLabelName (reporter.labelNames store)) :
    (∀ sample ∈ reporter.samples store, 10 ∉ reporter.sampleText sample ∧
      readSample (reporter.sampleText sample) = some ((reporter.mergeLabels sample).entries.map
        fun label => (reporter.formatLabelName label.1, label.2)) ∧
      ∀ other ∈ reporter.samples store, reporter.mergeLabels sample ≠ reporter.mergeLabels other →
        reporter.sampleText sample ≠ reporter.sampleText other) ↔
    ∀ sample ∈ reporter.samples store, ∀ value ∈ (reporter.mergeLabels sample).values,
      10 ∉ value := by
  have known {sample : Sample} (inside : sample ∈ reporter.samples store) {label : Text × Text}
      (member : label ∈ (reporter.mergeLabels sample).entries) :
      label.1 ∈ reporter.labelNames store := ⟨sample, inside, List.mem_map_of_mem member⟩
  have name {sample : Sample} (inside : sample ∈ reporter.samples store) :
      sample.name.all metricUnit = true := by
    obtain ⟨metric, stored, belongs⟩ := reporter.belongs_samples inside
    obtain ⟨rest, units, whole⟩ := belongs.name
    rw [whole, List.all_append, named metric stored, units]
    rfl
  have read {sample : Sample} (inside : sample ∈ reporter.samples store) :
      readSample (reporter.sampleText sample) =
        if ∀ label ∈ (reporter.mergeLabels sample).entries, 10 ∉ label.2 then
          some (writtenLabels reporter sample)
        else none := by
    refine readSample_sampleText reporter (name inside)
      (fun label member => valid _ (known inside member)) ?_
    have names : (writtenLabels reporter sample).map Prod.fst =
        ((reporter.mergeLabels sample).entries.map Prod.fst).map reporter.formatLabelName := by
      simp [writtenLabels, Function.comp_def]
    rw [names]
    refine List.Nodup.map_on ?_ (reporter.mergeLabels sample).nodup
    intro one first two second same
    exact distinct ⟨sample, inside, first⟩ ⟨sample, inside, second⟩ same
  constructor
  · intro all sample inside value member
    obtain ⟨label, entry, rfl⟩ := List.mem_map.mp member
    have result := (all sample inside).2.1
    rw [read inside] at result
    by_contra feed
    rw [if_neg fun clean => clean label entry feed] at result
    cases result
  · intro clean sample inside
    have spotless {sample : Sample} (inside : sample ∈ reporter.samples store) :
        ∀ label ∈ (reporter.mergeLabels sample).entries, 10 ∉ label.2 :=
      fun label entry => clean sample inside label.2 (List.mem_map_of_mem entry)
    refine ⟨?_, (read inside).trans (if_pos (spotless inside)), ?_⟩
    · obtain ⟨_, _, belongs⟩ := reporter.belongs_samples inside
      exact sampleText_line reporter (name inside)
        (fun label member => valid _ (known inside member)) belongs.value (spotless inside)
    · intro other within differ same
      -- Both samples are read back, and names can be told apart as they are written.
      have results := (read inside).symm.trans (same ▸ read within)
      rw [if_pos (spotless inside), if_pos (spotless within), Option.some.injEq] at results
      refine differ (OrderedMap.ext (eq_of_map_eq ?_ results))
      intro label first label' second same
      rw [Prod.mk.injEq] at same
      exact Prod.ext (distinct (known inside first) (known within second) same.1) same.2

/-- A reporter without formats that labels all samples with their node. -/
def nodeReporter : PrometheusReporter Nat where
  matchMetricName _ := true
  metricNamePrefix := []
  metricNameSuffix := []
  metricNameFormatter := none
  labelNameFormatter := none
  defaultLabels := OrderedMap.empty.set (.ascii "nodeID") (.ascii "node-1")
  print := Text.decimal
  print_line _ feed := absurd (Text.digit_of_mem_decimal feed).1 (by decide)

/-- A gauge with a single item. -/
def labelledGauge (value : Text) : ReportedMetric Nat where
  name := .ascii "os.load"
  description := none
  unit := none
  snapshot := .values .gauge
    [{ labels := OrderedMap.empty.set (.ascii "event") value, value := some 3, rate := none }]

/-- Quotes and backslashes are escaped. -/
theorem quoted_label_read_back :
    (nodeReporter.samples [labelledGauge (.ascii "\"a\\b\"")]).map
        (fun sample => readSample (nodeReporter.sampleText sample)) =
      [some [(.ascii "nodeID", .ascii "node-1"), (.ascii "event", .ascii "\"a\\b\"")]] := by
  have names : ∀ sample ∈ nodeReporter.samples [labelledGauge (.ascii "\"a\\b\"")],
      ∀ name ∈ (nodeReporter.mergeLabels sample).keys, validLabelName name = true := by decide
  have all := (samples_read_back_iff nodeReporter [labelledGauge (.ascii "\"a\\b\"")] (by decide)
    (by rintro name ⟨sample, inside, key⟩; exact names sample inside name key)
    (fun _ _ _ _ same => same)).mpr (by decide)
  rw [List.map_congr_left fun sample inside => (all sample inside).2.1]
  decide

/-- A line feed in a label breaks its sample in two. -/
theorem line_feed_breaks_sample :
    nodeReporter.generatePrometheusResponse [labelledGauge [97, 10, 98]] =
      Text.ascii ("# HELP os_load os.load\n# TYPE os_load gauge\n" ++
        "os_load\x7bnodeID=\"node-1\",event=\"a\nb\"\x7d 3\n") := by
  decide +kernel

end PrometheusReporter

end Moleculer.Metrics
