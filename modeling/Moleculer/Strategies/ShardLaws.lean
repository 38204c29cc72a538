import Moleculer.Strategies.Shard
import Moleculer.Base.Run

/-! The slots of the shard ring and the nodes of hash values. -/

namespace Moleculer.Strategies

open Base

variable {ι κ α : Type}

section Ring

/-- The nodes of the slots: all nodes in turn, once in each round. -/
def slotNodes (arr : List ι) (rounds : Nat) : List ι := (List.replicate rounds arr).flatten

/-- The ring as a table: the borders of the slots are multiples of the slice, rounded down. -/
def ringOf (size : Nat) (arr : List ι) (rounds : Nat) : List (Slot ι) :=
  (slotNodes arr rounds).mapIdx fun place nodeID =>
    ⟨size * (place + 1) / (arr.length * rounds), nodeID⟩

theorem length_slotNodes (arr : List ι) (rounds : Nat) :
    (slotNodes arr rounds).length = arr.length * rounds := by
  rw [slotNodes, List.length_flatten, List.map_replicate, List.sum_replicate, smul_eq_mul,
    Nat.mul_comm]

theorem getElem_slotNodes (arr : List ι) (rounds place : Nat) :
    (slotNodes arr rounds)[place]? =
      if place < arr.length * rounds then arr[place % arr.length]? else none := by
  induction rounds generalizing place with
  | zero => simp [slotNodes]
  | succ rounds ih =>
    have split : slotNodes arr (rounds + 1) = arr ++ slotNodes arr rounds := by
      rw [slotNodes, List.replicate_succ, List.flatten_cons]
      rfl
    rw [split, Nat.mul_succ]
    by_cases first : place < arr.length
    · rw [List.getElem?_append_left first, Nat.mod_eq_of_lt first, if_pos (by omega)]
    · -- The slots of the later rounds are shifted by one round.
      have shifted : (place - arr.length) % arr.length = place % arr.length := by
        rw [← Nat.mod_eq_sub_mod (Nat.le_of_not_lt first)]
      rw [List.getElem?_append_right (by omega), ih, shifted]
      by_cases inside : place - arr.length < arr.length * rounds
      · rw [if_pos inside, if_pos (by omega)]
      · rw [if_neg inside, if_neg (by omega)]

theorem foldl_pushSlot (slice : ℚ) (ids : List ι) :
    ids.foldl (pushSlot slice) [] =
      ids.mapIdx fun place nodeID => ⟨⌊slice * (place + 1)⌋₊, nodeID⟩ := by
  induction ids using List.reverseRecOn with
  | nil => rfl
  | append_singleton front last ih =>
    rw [List.foldl_append, List.foldl_cons, List.foldl_nil, ih, List.mapIdx_concat, pushSlot,
      List.length_mapIdx]

theorem pushRounds_eq (slice : ℚ) (arr : List ι) (rounds : Nat) :
    pushRounds slice arr rounds =
      (slotNodes arr rounds).mapIdx fun place nodeID => ⟨⌊slice * (place + 1)⌋₊, nodeID⟩ := by
  rw [← foldl_pushSlot, slotNodes, List.foldl_flatten, pushRounds]
  induction rounds with
  | zero => rfl
  | succ rounds ih =>
    rw [List.range_succ, List.foldl_append, ih, List.replicate_succ', List.foldl_append]
    rfl

theorem floor_slice (size total place : Nat) :
    ⌊(size : ℚ) / total * (place + 1)⌋₊ = size * (place + 1) / total := by
  have same : (size : ℚ) / total * (place + 1) = ((size * (place + 1) : Nat) : ℚ) / total := by
    push_cast
    ring
  rw [same, Nat.floor_div_eq_div]

/-- The nodes in the order in which the ring is built. -/
def sorted [LinearOrder ι] (ids : List ι) : List ι := ids.mergeSort fun left right => left ≤ right

theorem closeRing_eq {size : Nat} {ring : List (Slot ι)} (nonempty : ring ≠ [])
    (right : (ring.getLast nonempty).key = size) : closeRing size ring = some ring := by
  subst right
  rw [closeRing, List.getLast?_eq_some_getLast nonempty, Option.map_some]
  exact congrArg some (List.dropLast_concat_getLast nonempty)

theorem buildRing_eq [LinearOrder ι] (opts : ShardOptions) {ids : List ι} (nonempty : ids ≠ [])
    (rounds : 0 < opts.vnodes) :
    buildRing opts ids = some (ringOf opts.size (sorted ids) opts.vnodes) := by
  have pushed : pushRounds ((opts.size : ℚ) / ((sorted ids).length * opts.vnodes : Nat))
      (sorted ids) opts.vnodes = ringOf opts.size (sorted ids) opts.vnodes := by
    rw [pushRounds_eq, ringOf]
    simp only [floor_slice]
  have long : 0 < (sorted ids).length * opts.vnodes := by
    rw [sorted, List.length_mergeSort]
    exact Nat.mul_pos (List.length_pos_iff.mpr nonempty) rounds
  show closeRing opts.size (pushRounds ((opts.size : ℚ) / ((sorted ids).length * opts.vnodes : Nat))
    (sorted ids) opts.vnodes) = _
  rw [pushed]
  have some_ : ringOf opts.size (sorted ids) opts.vnodes ≠ [] := by
    rw [← List.length_pos_iff, ringOf, List.length_mapIdx, length_slotNodes]
    exact long
  apply closeRing_eq some_
  rw [List.getLast_eq_getElem]
  simp only [ringOf, List.getElem_mapIdx, List.length_mapIdx, length_slotNodes]
  rw [Nat.sub_add_cancel long, Nat.mul_div_cancel _ long]

theorem buildRing_eq_none [LinearOrder ι] (opts : ShardOptions) {ids : List ι}
    (empty : ids = [] ∨ opts.vnodes = 0) : buildRing opts ids = none := by
  have none_ : slotNodes (sorted ids) opts.vnodes = [] := by
    apply List.eq_nil_of_length_eq_zero
    rw [length_slotNodes, sorted, List.length_mergeSort]
    obtain rfl | zero := empty
    · simp
    · simp [zero]
  show closeRing opts.size (pushRounds _ (sorted ids) opts.vnodes) = none
  rw [pushRounds_eq, none_]
  rfl

variable {size rounds : Nat} {arr : List ι}

/-- The number of the slot that a hash value falls into. -/
def slotOf (size total hashNum : Nat) : Nat := (hashNum * total - 1) / size

theorem slotOf_lt {total hashNum : Nat} (some_ : 0 < total) (positive : 0 < size)
    (inside : hashNum ≤ size) : slotOf size total hashNum < total := by
  rw [slotOf, Nat.div_lt_iff_lt_mul positive]
  have upper : hashNum * total ≤ size * total := Nat.mul_le_mul_right total inside
  have more : 0 < size * total := Nat.mul_pos positive some_
  have same : total * size = size * total := Nat.mul_comm total size
  omega

theorem le_border_iff {total hashNum place : Nat} (some_ : 0 < total) (positive : 0 < size) :
    hashNum ≤ size * (place + 1) / total ↔ slotOf size total hashNum ≤ place := by
  have more : 0 < (place + 1) * size := Nat.mul_pos (Nat.succ_pos place) positive
  have low : slotOf size total hashNum ≤ place ↔ hashNum * total - 1 < (place + 1) * size := by
    rw [← Nat.div_lt_iff_lt_mul positive]
    exact Nat.lt_succ_iff.symm
  rw [Nat.le_div_iff_mul_le some_, low, Nat.mul_comm size]
  omega

@[simp] theorem length_ringOf : (ringOf size arr rounds).length = arr.length * rounds := by
  rw [ringOf, List.length_mapIdx, length_slotNodes]

theorem border_ringOf {place : Nat} (within : place < (ringOf size arr rounds).length) :
    (ringOf size arr rounds)[place].key = size * (place + 1) / (arr.length * rounds) := by
  simp only [ringOf, List.getElem_mapIdx]

theorem findIdx_ringOf (some_ : 0 < arr.length * rounds) (positive : 0 < size) {hashNum : Nat}
    (inside : hashNum ≤ size) :
    (ringOf size arr rounds).findIdx? (fun slot => hashNum ≤ slot.key) =
      some (slotOf size (arr.length * rounds) hashNum) := by
  have short := slotOf_lt some_ positive inside
  rw [List.findIdx?_eq_some_iff_getElem]
  refine ⟨length_ringOf ▸ short, ?_, ?_⟩
  · rw [border_ringOf, decide_eq_true_iff, le_border_iff some_ positive]
  · intro place before
    rw [border_ringOf, decide_eq_true_iff, le_border_iff some_ positive]
    omega

theorem findSlot_ringOf (some_ : 0 < arr.length * rounds) (positive : 0 < size) {hashNum : Nat}
    (inside : hashNum ≤ size) :
    findSlot (ringOf size arr rounds) hashNum =
      (ringOf size arr rounds)[slotOf size (arr.length * rounds) hashNum]? := by
  rw [findSlot, List.find?_eq_bind_findIdx?_getElem?, findIdx_ringOf some_ positive inside]
  rfl

theorem nodeID_findSlot (some_ : 0 < arr.length * rounds) (positive : 0 < size) {hashNum : Nat}
    (inside : hashNum ≤ size) :
    (findSlot (ringOf size arr rounds) hashNum).map Slot.nodeID =
      arr[slotOf size (arr.length * rounds) hashNum % arr.length]? := by
  have short := slotOf_lt some_ positive inside
  rw [findSlot_ringOf some_ positive inside, ringOf, List.getElem?_mapIdx, Option.map_map,
    getElem_slotNodes, if_pos short]
  simp [Function.comp_def]

theorem pairwise_ringOf : ((ringOf size arr rounds).map Slot.key).Pairwise (· ≤ ·) := by
  rw [List.pairwise_iff_getElem]
  intro first second inFirst inSecond before
  rw [List.length_map] at inFirst inSecond
  rw [List.getElem_map, List.getElem_map, border_ringOf, border_ringOf]
  exact Nat.div_le_div_right (Nat.mul_le_mul_left size (by omega))

theorem getLast_ringOf (some_ : 0 < arr.length * rounds) :
    ((ringOf size arr rounds).map Slot.key).getLast? = some size := by
  rw [List.getLast?_eq_getElem?, List.length_map, length_ringOf, List.getElem?_map,
    List.getElem?_eq_getElem (by rw [length_ringOf]; omega), Option.map_some, border_ringOf,
    Nat.sub_add_cancel some_, Nat.mul_div_cancel _ some_]

theorem count_ringOf [DecidableEq ι] (nodeID : ι) :
    ((ringOf size arr rounds).map Slot.nodeID).count nodeID = rounds * arr.count nodeID := by
  have nodes : (ringOf size arr rounds).map Slot.nodeID = slotNodes arr rounds := by
    apply List.ext_getElem?
    intro place
    simp [ringOf, Function.comp_def]
  rw [nodes, slotNodes, List.count_flatten, List.map_replicate, List.sum_replicate, smul_eq_mul]

end Ring

section Balance

variable {size total : Nat}

/-- The number of hash values that fall into a slot. -/
def slotCount (size total place : Nat) : Nat :=
  ((Finset.range size).filter fun hashNum => slotOf size total hashNum = place).card

theorem slotCount_eq (some_ : 0 < total) (positive : 0 < size) (place : Nat) :
    slotCount size total place =
      min size (size * (place + 1) / total + 1) -
        (if place = 0 then 0 else size * place / total + 1) := by
  rw [← Nat.card_Ico, slotCount]
  congr 1
  ext hashNum
  rw [Finset.mem_filter, Finset.mem_range, Finset.mem_Ico, Nat.lt_min, Nat.lt_succ_iff,
    le_border_iff some_ positive]
  cases place with
  | zero =>
    rw [if_pos rfl]
    omega
  | succ place =>
    have below := @le_border_iff size total hashNum place some_ positive
    rw [if_neg (Nat.succ_ne_zero place)]
    omega

theorem slotCount_bounds (some_ : 0 < total) (positive : 0 < size) {place : Nat}
    (inside : place < total) :
    size ≤ slotCount size total place * total + total ∧
      slotCount size total place * total ≤ size + total := by
  rw [slotCount_eq some_ positive]
  -- Both borders are multiples of the slice, rounded down.
  have lowBelow := Nat.div_mul_le_self (size * place) total
  have lowAbove := Nat.lt_div_mul_add some_ (a := size * place)
  have highBelow := Nat.div_mul_le_self (size * (place + 1)) total
  have highAbove := Nat.lt_div_mul_add some_ (a := size * (place + 1))
  have next : size * (place + 1) = size * place + size := Nat.mul_succ size place
  have room : size * place + size ≤ size * total := by
    rw [← Nat.mul_succ]
    exact Nat.mul_le_mul_left size inside
  generalize size * (place + 1) / total = high at *
  generalize size * place / total = low at *
  have single : size ≤ size * total := Nat.le_mul_of_pos_right size some_
  obtain full | cut := Nat.le_total size (high + 1)
  · -- Only the last hash values of the ring are cut off.
    have reach : size * total ≤ high * total + total := by
      rw [← Nat.succ_mul]
      exact Nat.mul_le_mul_right total full
    rw [Nat.min_eq_left full]
    split
    · rename_i first
      have zero : size * place = 0 := by rw [first, Nat.mul_zero]
      rw [Nat.sub_zero]
      omega
    · have less : low < size := by
        by_contra over_
        have := Nat.mul_le_mul_right total (Nat.le_of_not_lt over_)
        omega
      rw [Nat.sub_mul, Nat.succ_mul]
      have fits : low * total + total ≤ size * total := by
        rw [← Nat.succ_mul]
        exact Nat.mul_le_mul_right total less
      omega
  · rw [Nat.min_eq_right cut]
    split
    · rename_i first
      have zero : size * place = 0 := by rw [first, Nat.mul_zero]
      rw [Nat.sub_zero, Nat.succ_mul]
      omega
    · rw [Nat.add_sub_add_right, Nat.sub_mul]
      have rises : low * total ≤ high * total := by
        by_contra falls
        have lower : high < low := by
          by_contra above
          exact falls (Nat.mul_le_mul_right total (Nat.le_of_not_lt above))
        have := Nat.mul_le_mul_right total (Nat.succ_le_of_lt lower)
        rw [Nat.succ_mul] at this
        omega
      omega

theorem abs_sub_div_le_one {count : Nat} (some_ : 0 < total) (lower : size ≤ count * total + total)
    (upper : count * total ≤ size + total) : |(count : ℚ) - size / (total : Nat)| ≤ 1 := by
  have many : (0 : ℚ) < total := by exact_mod_cast some_
  have below : (size : ℚ) / total ≤ count + 1 := by
    rw [div_le_iff₀ many, add_mul, one_mul]
    exact_mod_cast lower
  have above : (count : ℚ) - 1 ≤ size / total := by
    rw [le_div_iff₀ many, sub_mul, one_mul, sub_le_iff_le_add]
    exact_mod_cast upper
  rw [abs_sub_le_iff]
  exact ⟨by linarith, by linarith⟩

end Balance

section Cache

variable (hash : κ → Nat)

/-- The node of a key by a search in the ring. -/
def nodeInRing (ring : List (Slot ι)) (key : κ) : Option ι :=
  (findSlot ring (hash key)).map Slot.nodeID

variable {σ : Type} [LruCache σ κ ι]

/-- What was found for keys is what a search in the ring finds. -/
def Shard.Coherent (shard : Shard ι σ) : Prop :=
  LruCache.All (fun key nodeID => nodeInRing hash shard.ring key = some nodeID) shard.cache

variable {hash} {shard : Shard ι σ}

theorem Shard.Coherent.lookup (coherent : shard.Coherent hash) (key : κ) :
    (shard.getNodeIDByKey hash key).2 = nodeInRing hash shard.ring key ∧
      (shard.getNodeIDByKey hash key).1.ring = shard.ring ∧
      (shard.getNodeIDByKey hash key).1.needRebuild = shard.needRebuild ∧
      (shard.getNodeIDByKey hash key).1.Coherent hash := by
  obtain ⟨right, kept⟩ := LruCache.All.get coherent key
  rw [getNodeIDByKey]
  dsimp only
  cases cached : (LruCache.get shard.cache key).1 with
  | some nodeID => exact ⟨(right nodeID cached).symm, rfl, rfl, kept⟩
  | none =>
    dsimp only
    cases found : findSlot shard.ring (hash key) with
    | none => exact ⟨by rw [nodeInRing, found]; rfl, rfl, rfl, kept⟩
    | some slot =>
      have here : nodeInRing hash shard.ring key = some slot.nodeID := by
        rw [nodeInRing, found]
        rfl
      exact ⟨here.symm, rfl, rfl, LruCache.All.set kept here⟩

theorem Shard.coherent_rebuild [LinearOrder ι] (opts : ShardOptions) (shard : Shard ι σ)
    (ids : List ι) : (shard.rebuild opts ids).1.Coherent hash := by
  rw [rebuild]
  cases buildRing opts ids with
  | none => exact LruCache.all_clear
  | some ring => exact LruCache.all_clear

/-- What is done with a strategy: keys are looked up, and the ring is rebuilt. -/
inductive ShardOp (ι κ : Type) where
  | lookup (key : κ)
  | rebuild (ids : List ι)

/-- One of them. -/
def Shard.apply [LinearOrder ι] (hash : κ → Nat) (opts : ShardOptions) (shard : Shard ι σ) :
    ShardOp ι κ → Shard ι σ
  | .lookup key => (shard.getNodeIDByKey hash key).1
  | .rebuild ids => (shard.rebuild opts ids).1

theorem Shard.coherent_run [LinearOrder ι] (hash : κ → Nat) (opts : ShardOptions)
    (ops : List (ShardOp ι κ)) :
    (run (Shard.apply hash opts) (Shard.new opts : Shard ι σ) ops).Coherent hash := by
  have kept (shard : Shard ι σ) (op : ShardOp ι κ) (before : shard.Coherent hash) (_ : True) :
      (shard.apply hash opts op).Coherent hash := by
    cases op with
    | lookup key => exact (before.lookup key).2.2.2
    | rebuild ids => exact coherent_rebuild opts shard ids
  have start : (Shard.new opts : Shard ι σ).Coherent hash := LruCache.all_new _
  exact run_invariant kept start (meets_of_forall (fun _ _ => trivial) _ ops)

end Cache

theorem ShardOptions.size_pos (opts : ShardOptions) : 0 < opts.size := by
  unfold size
  split <;> omega

theorem getHash_lt (digest : String → UInt32) (opts : ShardOptions) (key : String) :
    getHash digest opts key < opts.size := by
  unfold getHash ShardOptions.size
  split
  · exact Nat.mod_lt _ (Nat.succ_pos _)
  · exact (digest key).toNat_lt

end Moleculer.Strategies
