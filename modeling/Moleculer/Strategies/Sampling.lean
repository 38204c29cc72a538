import Moleculer.Base.OrderedMap
import Mathlib

/-! The strategies that pick by turn (`strategies/round-robin.js`), at random
(`strategies/random.js`) and by a metric (`strategies/cpu-usage.js`, `strategies/latency.js`). -/

namespace Moleculer.Strategies

open Base

variable {ε : Type}

/-- `_.random(lower, upper)`, given the number that is drawn. -/
def random (draw lower upper : Nat) : Nat := lower + draw % (upper + 1 - lower)

/-- `list[random(0, list.length - 1)]`. -/
def randomItem (draw : Nat) (list : List ε) : Option ε := list[random draw 0 (list.length - 1)]?

/-- `RoundRobinStrategy`. -/
structure RoundRobin where
  counter : Nat
  deriving DecidableEq, Repr

/-- `RoundRobinStrategy.select`. -/
def RoundRobin.select (strategy : RoundRobin) (list : List ε) : RoundRobin × Option ε :=
  -- Reset counter.
  let counter := if strategy.counter ≥ list.length then 0 else strategy.counter
  (⟨counter + 1⟩, list[counter]?)

/-- The options of the strategies that take samples: `sampleCount`, and the metric that is good
enough, `lowCpuUsage` or `lowLatency`. -/
structure SampleOptions where
  sampleCount : ℚ
  low : ℚ

/-- The number up to which samples are taken. -/
def sampleSize (sampleCount : ℚ) (length : Nat) : ℚ :=
  if sampleCount ≤ 0 ∨ sampleCount > length then length else sampleCount

/-- The sample of a round. -/
def sample (count : ℚ) (draws : Nat → Nat) (list : List ε) (i : Nat) : Option ε :=
  if count = list.length then list[i]? else randomItem (draws i) list

/-- The samples in the order in which they are examined. -/
def samples (sampleCount : ℚ) (draws : Nat → Nat) (list : List ε) : List ε :=
  let count := sampleSize sampleCount list.length
  (List.range ⌈count⌉₊).filterMap (sample count draws list)

/-- The best endpoint so far and its metric, after one more has been examined: it stays unless there
was none, or the new metric is `better`. -/
def leastOf (better : ℚ → ℚ → Bool) (ep : ε) (value : ℚ) : Option (ε × ℚ) → ε × ℚ
  | none => (ep, value)
  | some (minEp, least) => if better value least then (ep, value) else (minEp, least)

/-- The loop over the samples. It stops at the first one that is good enough. -/
def scan (better : ℚ → ℚ → Bool) (metric : ε → Option ℚ) (low : ℚ) :
    Option (ε × ℚ) → List ε → Option ε
  | best, [] => best.map Prod.fst
  | best, ep :: rest =>
    match metric ep with
    | none => scan better metric low best rest
    | some value =>
      if value < low then some ep
      else scan better metric low (some (leastOf better ep value best)) rest

/-- A strategy that examines samples, with a random choice if no metric is known. -/
def sampleSelect (better : ℚ → ℚ → Bool) (opts : SampleOptions) (metric : ε → Option ℚ)
    (draws : Nat → Nat) (list : List ε) : Option ε :=
  let examined := samples opts.sampleCount draws list
  (scan better metric opts.low none examined).or (randomItem (draws examined.length) list)

/-- `CpuUsageStrategy.select`: `cpu < minEp.node.cpu`. -/
def CpuUsage.select : SampleOptions → (ε → Option ℚ) → (Nat → Nat) → List ε → Option ε :=
  sampleSelect fun cpu least => cpu < least

/-- `!minLatency || epLatency < minLatency`: zero counts as no latency. -/
def replacesLatency (epLatency minLatency : ℚ) : Bool := minLatency = 0 ∨ epLatency < minLatency

/-- `LatencyStrategy.select`. -/
def Latency.select (opts : SampleOptions) (hostAvgLatency : OrderedMap String ℚ)
    (hostname : ε → String) : (Nat → Nat) → List ε → Option ε :=
  sampleSelect replacesLatency opts fun ep => hostAvgLatency.get (hostname ep)

section Members

variable {list : List ε}

theorem exists_randomItem (draw : Nat) (nonempty : list ≠ []) :
    ∃ ep ∈ list, randomItem draw list = some ep := by
  -- The remainder is below the length.
  have some_ := List.length_pos_iff.mpr nonempty
  have inside : random draw 0 (list.length - 1) < list.length := by
    have below := Nat.mod_lt draw some_
    unfold random
    rw [Nat.sub_zero, Nat.sub_add_cancel some_]
    omega
  exact ⟨_, List.getElem_mem inside, List.getElem?_eq_getElem inside⟩

theorem RoundRobin.exists_select (strategy : RoundRobin) (nonempty : list ≠ []) :
    ∃ ep ∈ list, (strategy.select list).2 = some ep := by
  -- After the reset, the counter is a place of the list.
  have some_ := List.length_pos_iff.mpr nonempty
  have inside : (if strategy.counter ≥ list.length then 0 else strategy.counter) < list.length := by
    split <;> omega
  exact ⟨_, List.getElem_mem inside, List.getElem?_eq_getElem inside⟩

theorem mem_of_mem_samples {sampleCount : ℚ} {draws : Nat → Nat} {ep : ε}
    (examined : ep ∈ samples sampleCount draws list) : ep ∈ list := by
  obtain ⟨i, _, found⟩ := List.mem_filterMap.mp examined
  unfold sample at found
  split at found
  · exact List.mem_of_getElem? found
  · exact List.mem_of_getElem? found

variable {better : ℚ → ℚ → Bool} {metric : ε → Option ℚ} {low value : ℚ} {best : Option (ε × ℚ)}
  {ep : ε} {rest : List ε}

theorem scan_unknown (unknown : metric ep = none) :
    scan better metric low best (ep :: rest) = scan better metric low best rest := by
  rw [scan]
  simp only [unknown]

theorem scan_low (known : metric ep = some value) (isLow : value < low) :
    scan better metric low best (ep :: rest) = some ep := by
  rw [scan]
  simp only [known, if_pos isLow]

theorem scan_high (known : metric ep = some value) (notLow : ¬ value < low) :
    scan better metric low best (ep :: rest) =
      scan better metric low (some (leastOf better ep value best)) rest := by
  rw [scan]
  simp only [known, if_neg notLow]

theorem mem_of_scan {examined : List ε} (found : scan better metric low best examined = some ep) :
    best.map Prod.fst = some ep ∨ ep ∈ examined := by
  -- Only the endpoint under examination can become the best one.
  induction examined generalizing best with
  | nil => exact .inl found
  | cons next rest ih =>
    cases known : metric next with
    | none =>
      rw [scan_unknown known] at found
      exact (ih found).imp_right (List.mem_cons_of_mem _)
    | some value =>
      by_cases isLow : value < low
      · rw [scan_low known isLow] at found
        cases found
        exact .inr List.mem_cons_self
      · rw [scan_high known isLow] at found
        obtain same | inside := ih found
        · have either : best.map Prod.fst = some ep ∨ next = ep := by
            rw [Option.map_some, Option.some.injEq] at same
            unfold leastOf at same
            split at same
            · exact .inr same
            · split at same
              · exact .inr same
              · exact .inl (congrArg some same)
          obtain old | rfl := either
          · exact .inl old
          · exact .inr List.mem_cons_self
        · exact .inr (List.mem_cons_of_mem _ inside)

theorem exists_sampleSelect (opts : SampleOptions) (draws : Nat → Nat) (nonempty : list ≠ []) :
    ∃ ep ∈ list, sampleSelect better opts metric draws list = some ep := by
  unfold sampleSelect
  dsimp only
  cases found : scan better metric opts.low none (samples opts.sampleCount draws list) with
  | none => exact exists_randomItem _ nonempty
  | some ep =>
    obtain none_ | examined := mem_of_scan found
    · cases none_
    · exact ⟨ep, mem_of_mem_samples examined, rfl⟩

end Members

section Whole

/-- The whole list is examined. -/
def Whole (opts : SampleOptions) (list : List ε) : Prop :=
  opts.sampleCount ≤ 0 ∨ list.length ≤ opts.sampleCount

theorem filterMap_range_getElem? (list : List ε) :
    (List.range list.length).filterMap (list[·]?) = list := by
  induction list with
  | nil => rfl
  | cons ep rest ih =>
    rw [List.length_cons, List.range_succ_eq_map]
    show ep :: ((List.range rest.length).map Nat.succ).filterMap ((ep :: rest)[·]?) = _
    rw [List.filterMap_map]
    exact congrArg _ ih

theorem samples_of_whole {opts : SampleOptions} {list : List ε} (whole : Whole opts list)
    (draws : Nat → Nat) : samples opts.sampleCount draws list = list := by
  have size : sampleSize opts.sampleCount list.length = list.length := by
    unfold sampleSize
    split
    · rfl
    · rename_i few
      obtain ⟨positive, bounded⟩ := not_or.mp few
      obtain none_ | all := whole
      · exact absurd none_ positive
      · exact le_antisymm (not_lt.mp bounded) all
  -- Each round takes the item at its place.
  have places (i : Nat) : sample (list.length : ℚ) draws list i = list[i]? := if_pos rfl
  unfold samples
  dsimp only
  rw [size, Nat.ceil_natCast, funext places]
  exact filterMap_range_getElem? list

end Whole

section Best

/-- The first of the endpoints with the least metric. -/
def Least (metric : ε → Option ℚ) (list : List ε) (ep : ε) (value : ℚ) : Prop :=
  ∃ front back, list = front ++ ep :: back ∧ metric ep = some value ∧
    (∀ other ∈ front, ∀ more, metric other = some more → value < more) ∧
    ∀ other ∈ back, ∀ more, metric other = some more → value ≤ more

/-- The best endpoint of a list: the first one that is good enough, else the first one with the
least metric, else any. -/
inductive Best (metric : ε → Option ℚ) (low : ℚ) (list : List ε) (ep : ε) : Prop where
  | low (first : list.find? (fun other => (metric other).any (· < low)) = some ep)
  | least (none_ : ∀ other ∈ list, ∀ more, metric other = some more → low ≤ more) (value : ℚ)
      (least : Least metric list ep value)
  | unknown (none_ : ∀ other ∈ list, metric other = none) (member : ep ∈ list)

variable {metric : ε → Option ℚ} {low : ℚ} {list done rest : List ε} {ep next : ε} {value : ℚ}

theorem Least.first (unknown : ∀ other ∈ done, metric other = none)
    (known : metric next = some value) : Least metric (done ++ [next]) next value := by
  refine ⟨done, [], rfl, known, fun other inside more same => ?_, fun other none_ => ?_⟩
  · rw [unknown other inside] at same
    cases same
  · cases none_

theorem Least.le (least : Least metric list ep value) {other : ε} (inside : other ∈ list)
    {more : ℚ} (known : metric other = some more) : value ≤ more := by
  obtain ⟨front, back, rfl, own, before, after⟩ := least
  obtain early | here | late : other ∈ front ∨ other = ep ∨ other ∈ back := by
    rwa [List.mem_append, List.mem_cons] at inside
  · exact (before other early more known).le
  · rw [here, own] at known
    exact (Option.some.inj known).le
  · exact after other late more known

theorem Least.keep (least : Least metric done ep value)
    (worse : ∀ more, metric next = some more → value ≤ more) :
    Least metric (done ++ [next]) ep value := by
  obtain ⟨front, back, rfl, own, before, after⟩ := least
  refine ⟨front, back ++ [next], by simp, own, before, fun other inside more known => ?_⟩
  obtain old | new := List.mem_append.mp inside
  · exact after other old more known
  · rw [List.mem_singleton.mp new] at known
    exact worse more known

theorem Least.replace (least : Least metric done ep value) {less : ℚ}
    (known : metric next = some less) (better : less < value) :
    Least metric (done ++ [next]) next less := by
  refine ⟨done, [], rfl, known, fun other inside more same => ?_, fun other none_ => ?_⟩
  · exact lt_of_lt_of_le better (least.le inside same)
  · cases none_

/-- What the loop knows of the endpoints it has examined: none of them is good enough, and the best
one is the first with the least metric. -/
structure Summary (metric : ε → Option ℚ) (low : ℚ) (done : List ε) (best : Option (ε × ℚ)) : Prop
    where
  high : ∀ other ∈ done, ∀ more, metric other = some more → low ≤ more
  unknown : best = none → ∀ other ∈ done, metric other = none
  least : ∀ ep value, best = some (ep, value) → Least metric done ep value

theorem Summary.skip {best : Option (ε × ℚ)} (summary : Summary metric low done best)
    (none_ : metric next = none) : Summary metric low (done ++ [next]) best := by
  have either {other : ε} (inside : other ∈ done ++ [next]) :
      other ∈ done ∨ metric other = none := by
    obtain old | new := List.mem_append.mp inside
    · exact .inl old
    · rw [List.mem_singleton.mp new]
      exact .inr none_
  refine ⟨fun other inside more known => ?_, fun absent other inside => ?_, fun ep value same => ?_⟩
  · obtain old | unknown := either inside
    · exact summary.high other old more known
    · rw [unknown] at known
      cases known
  · exact (either inside).elim (summary.unknown absent other) id
  · refine (summary.least ep value same).keep fun more known => ?_
    rw [none_] at known
    cases known

theorem Summary.compare {better : ℚ → ℚ → Bool} {best : Option (ε × ℚ)}
    (summary : Summary metric low done best)
    (right : ∀ ep least, best = some (ep, least) → (better value least = true ↔ value < least))
    (known : metric next = some value) (high : low ≤ value) :
    Summary metric low (done ++ [next]) (some (leastOf better next value best)) := by
  refine ⟨fun other inside more same => ?_, fun absent => (by cases absent),
    fun ep least same => ?_⟩
  · obtain old | new := List.mem_append.mp inside
    · exact summary.high other old more same
    · rw [List.mem_singleton.mp new, known] at same
      cases same
      exact high
  · rw [Option.some.injEq] at same
    cases best with
    | none =>
      cases same
      exact Least.first (summary.unknown rfl) known
    | some pair =>
      have own := summary.least pair.1 pair.2 rfl
      rw [leastOf] at same
      split at same
      · rename_i replaces
        cases same
        exact own.replace known ((right pair.1 pair.2 rfl).mp replaces)
      · rename_i stays
        cases same
        refine own.keep fun other same => ?_
        rw [known] at same
        cases same
        exact not_lt.mp (mt (right pair.1 pair.2 rfl).mpr stays)

theorem Best.exists_least (best : Best metric low list ep)
    (high : ∀ other ∈ list, ∀ more, metric other = some more → low ≤ more) {other : ε}
    (inside : other ∈ list) (isKnown : metric other = some value) :
    ∃ least, Least metric list ep least := by
  cases best with
  | low first =>
    have isLow := List.find?_some first
    obtain ⟨more, same⟩ | unknown := (metric ep).eq_none_or_eq_some.symm
    · rw [same] at isLow
      have := high ep (List.mem_of_find?_eq_some first) more same
      exact absurd (of_decide_eq_true isLow) (not_lt.mpr this)
    · rw [unknown] at isLow
      cases isLow
  | least _ value least => exact ⟨value, least⟩
  | unknown unknown _ =>
    rw [unknown other inside] at isKnown
    cases isKnown

theorem scan_best {better : ℚ → ℚ → Bool} {best : Option (ε × ℚ)}
    (summary : Summary metric low done best)
    (right : ∀ other ∈ done ++ rest, ∀ least, metric other = some least → low ≤ least →
      ∀ value, better value least = true ↔ value < least) :
    (∀ ep, scan better metric low best rest = some ep → Best metric low (done ++ rest) ep) ∧
      (scan better metric low best rest = none → ∀ other ∈ done ++ rest, metric other = none) := by
  -- The examined endpoints grow by one in each round, and so does the summary of them.
  induction rest generalizing done best with
  | nil =>
    rw [List.append_nil]
    cases best with
    | none => exact ⟨fun ep found => (by cases found), fun _ => summary.unknown rfl⟩
    | some pair =>
      refine ⟨fun ep found => ?_, fun found => (by cases found)⟩
      cases found
      exact .least summary.high pair.2 (summary.least pair.1 pair.2 rfl)
  | cons next rest ih =>
    have split_ : done ++ next :: rest = done ++ [next] ++ rest := List.append_cons ..
    cases known : metric next with
    | none =>
      rw [scan_unknown known, split_]
      exact ih (summary.skip known) (by rwa [← split_])
    | some value =>
      by_cases isLow : value < low
      · rw [scan_low known isLow]
        refine ⟨fun ep found => ?_, fun found => (by cases found)⟩
        cases found
        -- Those before it are not good enough, so it is the first one.
        apply Best.low
        rw [List.find?_append, List.find?_eq_none.mpr, Option.none_or, List.find?_cons_of_pos]
        · rw [known]
          exact decide_eq_true isLow
        · intro other inside found
          cases same : metric other with
          | none =>
            rw [same] at found
            cases found
          | some more =>
            rw [same] at found
            exact absurd (of_decide_eq_true found)
              (not_lt.mpr (summary.high other inside more same))
      · rw [scan_high known isLow, split_]
        refine ih (summary.compare ?_ known (not_lt.mp isLow)) (by rwa [← split_])
        intro ep least same
        obtain ⟨front, back, rfl, own, _⟩ := summary.least ep least same
        have inside : ep ∈ front ++ ep :: back := by simp
        exact right ep (List.mem_append_left _ inside) least own (summary.high ep inside least own)
          value

theorem sampleSelect_best {better : ℚ → ℚ → Bool} {opts : SampleOptions} (nonempty : list ≠ [])
    (whole : Whole opts list) (draws : Nat → Nat)
    (right : ∀ other ∈ list, ∀ least, metric other = some least → opts.low ≤ least →
      ∀ value, better value least = true ↔ value < least) :
    ∃ ep, sampleSelect better opts metric draws list = some ep ∧ Best metric opts.low list ep := by
  have start : Summary metric opts.low [] none :=
    ⟨fun _ none_ => (by cases none_), fun _ _ none_ => (by cases none_),
      fun _ _ none_ => (by cases none_)⟩
  obtain ⟨found, missing⟩ := @scan_best ε metric opts.low [] list better none start right
  rw [List.nil_append] at found missing
  unfold sampleSelect
  dsimp only
  rw [samples_of_whole whole]
  cases result : scan better metric opts.low none list with
  | some ep => exact ⟨ep, rfl, found ep result⟩
  | none =>
    obtain ⟨ep, member, drawn⟩ := exists_randomItem (draws list.length) nonempty
    exact ⟨ep, drawn, .unknown (missing result) member⟩

end Best

section Zero

variable {metric : ε → Option ℚ} {low : ℚ} {list : List ε} {ep : ε} {best : Option (ε × ℚ)}

/-- The endpoints with a known metric. -/
def known (metric : ε → Option ℚ) (list : List ε) : List ε :=
  list.filter fun ep => (metric ep).isSome

/-- The first endpoint with the metric zero. -/
def firstZero (metric : ε → Option ℚ) (list : List ε) : Option ε :=
  list.find? fun ep => metric ep = some 0

theorem scan_of_known_nil {better : ℚ → ℚ → Bool} (nothing : known metric list = []) :
    scan better metric low best list = best.map Prod.fst := by
  induction list with
  | nil => rfl
  | cons next rest ih =>
    have unknown : metric next = none := by
      have := List.filter_eq_nil_iff.mp nothing next List.mem_cons_self
      simpa using this
    rw [scan_unknown unknown]
    exact ih (by rwa [known, List.filter_cons_of_neg (by simp [unknown])] at nothing)

/-- If nothing is good enough, the last endpoint with a known metric decides: if its metric is zero,
it is returned, else one whose metric is not zero. -/
theorem scan_last (high : ∀ other ∈ list, ∀ more, metric other = some more → low ≤ more)
    (positive : ∀ other ∈ list, ∀ more, metric other = some more → 0 ≤ more)
    (own : ∀ minEp least, best = some (minEp, least) → metric minEp = some least ∧ 0 ≤ least)
    (last : (known metric list).getLast? = some ep) :
    (metric ep = some 0 → scan replacesLatency metric low best list = some ep) ∧
      (metric ep ≠ some 0 → ∃ found, scan replacesLatency metric low best list = some found ∧
        metric found ≠ some 0) := by
  induction list generalizing best with
  | nil => cases last
  | cons next rest ih =>
    have highRest := fun other inside => high other (List.mem_cons_of_mem _ inside)
    have positiveRest := fun other inside => positive other (List.mem_cons_of_mem _ inside)
    cases value : metric next with
    | none =>
      rw [scan_unknown value]
      rw [known, List.filter_cons_of_neg (by simp [value])] at last
      exact ih highRest positiveRest own last
    | some latency =>
      have notLow := not_lt.mpr (high next List.mem_cons_self latency value)
      have nonneg := positive next List.mem_cons_self latency value
      rw [scan_high value notLow]
      rw [known, List.filter_cons_of_pos (by simp [value])] at last
      -- What the best one is after this round.
      have after : ∀ minEp least, leastOf replacesLatency next latency best = (minEp, least) →
          (metric minEp = some least ∧ 0 ≤ least) ∧
            (latency = 0 → minEp = next) ∧ (latency ≠ 0 → least ≠ 0) := by
        intro minEp least same
        cases best with
        | none =>
          cases same
          exact ⟨⟨value, nonneg⟩, fun _ => rfl, id⟩
        | some pair =>
          rw [leastOf] at same
          split at same
          · cases same
            exact ⟨⟨value, nonneg⟩, fun _ => rfl, id⟩
          · rename_i stays
            cases same
            have kept := own pair.1 pair.2 rfl
            obtain ⟨notZero, notLess⟩ : pair.2 ≠ 0 ∧ ¬ latency < pair.2 := by
              simpa [replacesLatency] using stays
            refine ⟨kept, fun zero => ?_, fun _ => notZero⟩
            -- A positive minimum is replaced by zero.
            rw [zero] at notLess
            exact absurd (lt_of_le_of_ne kept.2 (Ne.symm notZero)) notLess
      obtain ⟨⟨minEp, least⟩, same⟩ : ∃ pair, leastOf replacesLatency next latency best = pair :=
        ⟨_, rfl⟩
      obtain ⟨kept, zero, notZero⟩ := after minEp least same
      rw [same]
      cases others : known metric rest with
      | nil =>
        rw [scan_of_known_nil others]
        rw [known] at others
        rw [others] at last
        obtain rfl : next = ep := Option.some.inj last
        rw [value, Option.some.injEq, ne_eq, Option.some.injEq]
        refine ⟨fun isZero => congrArg some (zero isZero), fun some_ => ⟨minEp, rfl, ?_⟩⟩
        rw [kept.1, ne_eq, Option.some.injEq]
        exact notZero some_
      | cons other more =>
        rw [known] at others
        rw [others, List.getLast?_cons_cons, ← others] at last
        refine ih highRest positiveRest (fun _ _ pair => ?_) last
        cases pair
        exact kept

theorem firstZero_spec (first : firstZero metric list = some ep) :
    ep ∈ list ∧ metric ep = some 0 := by
  have zero := List.find?_some first
  exact ⟨List.mem_of_find?_eq_some first, by simpa using zero⟩

theorem least_of_firstZero (positive : ∀ other ∈ list, ∀ more, metric other = some more → 0 ≤ more)
    (first : firstZero metric list = some ep) : Least metric list ep 0 := by
  obtain ⟨zero, front, back, rfl, before⟩ := List.find?_eq_some_iff_append.mp first
  refine ⟨front, back, rfl, of_decide_eq_true zero, fun other inside more known => ?_,
    fun other inside more known => positive other (by simp [inside]) more known⟩
  refine lt_of_le_of_ne (positive other (by simp [inside]) more known) fun same => ?_
  have not_ := before other inside
  rw [known, ← same] at not_
  simp at not_

theorem firstZero_of_least (positive : ∀ other ∈ list, ∀ more, metric other = some more → 0 ≤ more)
    {zero : ε} (first : firstZero metric list = some zero) {value : ℚ}
    (least : Least metric list ep value) : ep = zero := by
  obtain ⟨isZero, front, back, shape, before⟩ := List.find?_eq_some_iff_append.mp first
  have isZero : metric zero = some 0 := of_decide_eq_true isZero
  have below : value ≤ 0 := least.le (by rw [shape]; simp) isZero
  obtain ⟨head, tail, rfl, own, earlier, _⟩ := least
  have value_eq : value = 0 := le_antisymm below (positive ep (by simp) value own)
  subst value_eq
  have again : firstZero metric (head ++ ep :: tail) = some ep := by
    refine List.find?_eq_some_iff_append.mpr ⟨decide_eq_true own, head, tail, rfl, ?_⟩
    intro other inside
    simp only [Bool.not_eq_true', decide_eq_false_iff_not]
    intro zero_
    exact absurd (earlier other inside 0 zero_) (lt_irrefl 0)
  exact Option.some.inj (again.symm.trans first)

theorem latency_best_iff {opts : SampleOptions} (nonempty : list ≠ []) (whole : Whole opts list)
    (draws : Nat → Nat)
    (positive : ∀ other ∈ list, ∀ more, metric other = some more → 0 ≤ more) :
    (∃ ep, sampleSelect replacesLatency opts metric draws list = some ep ∧
        Best metric opts.low list ep) ↔
      0 < opts.low ∨ ∀ zero, firstZero metric list = some zero →
        (known metric list).getLast? = some zero := by
  by_cases threshold : 0 < opts.low
  · -- A latency that is compared is at least the threshold, so it is not zero.
    refine iff_of_true (sampleSelect_best nonempty whole draws ?_) (.inl threshold)
    intro other _ least _ high value
    have notZero : least ≠ 0 := (lt_of_lt_of_le threshold high).ne'
    simp [replacesLatency, notZero]
  rw [or_iff_right threshold]
  have high (other : ε) (inside : other ∈ list) (more : ℚ) (same : metric other = some more) :
      opts.low ≤ more := (not_lt.mp threshold).trans (positive other inside more same)
  cases first : firstZero metric list with
  | none =>
    refine iff_of_true (sampleSelect_best nonempty whole draws ?_)
      (fun zero none_ => by cases none_)
    intro other inside least same _ value
    have notZero : least ≠ 0 := by
      intro zero
      have not_ := List.find?_eq_none.mp first other inside
      rw [same, zero] at not_
      simp at not_
    simp [replacesLatency, notZero]
  | some zero =>
    obtain ⟨member, isZero⟩ := firstZero_spec first
    have some_ : known metric list ≠ [] :=
      List.ne_nil_of_mem (List.mem_filter.mpr ⟨member, by simp [isZero]⟩)
    obtain ⟨last, ends⟩ : ∃ last, (known metric list).getLast? = some last :=
      ⟨_, List.getLast?_eq_some_getLast some_⟩
    obtain ⟨returned, other⟩ := @scan_last ε metric opts.low list last none high positive
      (fun _ _ none_ => by cases none_) ends
    unfold sampleSelect
    dsimp only
    rw [samples_of_whole whole, ends]
    refine ⟨fun ⟨ep, found, best⟩ any same => ?_, fun same => ?_⟩
    · cases same
      -- The best endpoint is the first zero, and a zero is returned only if it is the last one.
      obtain ⟨least, isLeast⟩ := best.exists_least high member isZero
      have isFirst : ep = zero := firstZero_of_least positive first isLeast
      by_cases lastZero : metric last = some 0
      · rw [returned lastZero, Option.some_or] at found
        rw [← isFirst, ← found]
      · obtain ⟨nonzero, result, notZero⟩ := other lastZero
        rw [result, Option.some_or] at found
        rw [Option.some.inj found, isFirst] at notZero
        exact absurd isZero notZero
    · obtain rfl : last = zero := Option.some.inj (same zero rfl)
      rw [returned isZero]
      exact ⟨last, rfl, .least high 0 (least_of_firstZero positive first)⟩

end Zero

/-- If the whole list is examined, the processor strategy returns the best endpoint, and the latency
strategy does exactly if the threshold is positive or no endpoint with a known latency follows the
first one with the latency zero. -/
theorem best_endpoint_iff {opts : SampleOptions} {list : List ε} (nonempty : list ≠ [])
    (whole : Whole opts list) (draws : Nat → Nat) :
    (∀ cpu : ε → Option ℚ, ∃ ep, CpuUsage.select opts cpu draws list = some ep ∧
      Best cpu opts.low list ep) ∧
      ∀ (hostAvgLatency : OrderedMap String ℚ) (hostname : ε → String),
        (∀ host latency, hostAvgLatency.get host = some latency → 0 ≤ latency) →
        ((∃ ep, Latency.select opts hostAvgLatency hostname draws list = some ep ∧
            Best (fun ep => hostAvgLatency.get (hostname ep)) opts.low list ep) ↔
          0 < opts.low ∨
            ∀ zero, firstZero (fun ep => hostAvgLatency.get (hostname ep)) list = some zero →
              (known (fun ep => hostAvgLatency.get (hostname ep)) list).getLast? = some zero) := by
  refine ⟨fun cpu => ?_, fun hostAvgLatency hostname positive => ?_⟩
  · exact sampleSelect_best nonempty whole draws fun _ _ _ _ _ _ => decide_eq_true_iff
  · exact latency_best_iff nonempty whole draws fun ep _ latency => positive (hostname ep) latency

/-- Of two endpoints, the first one is good enough. -/
theorem best_endpoint_iff_first :
    ∃ ep, CpuUsage.select ⟨0, 10⟩ (fun ep : Bool => if ep then some 5 else none) (fun _ => 0)
        [true, false] = some ep ∧
      Best (fun ep : Bool => if ep then some 5 else none) 10 [true, false] ep :=
  (best_endpoint_iff (show [true, false] ≠ [] by simp)
    (show Whole ⟨0, 10⟩ [true, false] from .inl le_rfl) (fun _ => 0)).1 _

/-- The average latencies of two hosts, one of them zero. -/
def idleHosts : OrderedMap String ℚ := (OrderedMap.empty.set "fast" 0).set "slow" 5

/-- With the threshold zero, an endpoint with the latency zero is passed over for a slow one. -/
theorem zero_latency_passed_over :
    Latency.select ⟨0, 0⟩ idleHosts (fun host : String => host) (fun _ => 0) ["fast", "slow"] =
        some "slow" ∧
      ¬ Best (fun host => idleHosts.get host) 0 ["fast", "slow"] "slow" := by
  have result : Latency.select ⟨0, 0⟩ idleHosts (fun host : String => host) (fun _ => 0)
      ["fast", "slow"] = some "slow" := by decide +kernel
  have positive : ∀ host ∈ ["fast", "slow"], ∀ latency, idleHosts.get host = some latency →
      0 ≤ latency := by
    intro host inside latency known
    obtain rfl | rfl : host = "fast" ∨ host = "slow" := by simpa using inside
    · obtain rfl : 0 = latency := Option.some.inj known
      exact le_rfl
    · obtain rfl : 5 = latency := Option.some.inj known
      decide
  refine ⟨result, fun best => ?_⟩
  -- The best endpoint is the first zero.
  obtain ⟨least, isLeast⟩ := best.exists_least positive (show "fast" ∈ ["fast", "slow"] by simp)
    (show idleHosts.get "fast" = some 0 from rfl)
  have same : "slow" = "fast" := firstZero_of_least positive (by decide +kernel) isLeast
  exact absurd same (by decide)

end Moleculer.Strategies
