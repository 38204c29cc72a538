import Moleculer.Strategies.ShardLaws

/-! Which keys move to another node when a node leaves the shard ring. -/

namespace Moleculer.Strategies

open Base

variable {ι : Type} [LinearOrder ι]

/-- The node of a hash value under the ring that is built for a list of nodes. -/
def nodeOf (opts : ShardOptions) (ids : List ι) (hashNum : Nat) : Option ι :=
  (buildRing opts ids).bind fun ring => (findSlot ring hashNum).map Slot.nodeID

section Nodes

theorem nodeOf_eq {opts : ShardOptions} {ids : List ι} (nonempty : ids ≠ [])
    (rounds : 0 < opts.vnodes) {hashNum : Nat} (inside : hashNum ≤ opts.size) :
    nodeOf opts ids hashNum =
      (sorted ids)[slotOf opts.size (ids.length * opts.vnodes) hashNum % ids.length]? := by
  have length : (sorted ids).length = ids.length := List.length_mergeSort ids
  have some_ : 0 < (sorted ids).length * opts.vnodes := by
    rw [length]
    exact Nat.mul_pos (List.length_pos_iff.mpr nonempty) rounds
  rw [nodeOf, buildRing_eq opts nonempty rounds, Option.bind_some,
    nodeID_findSlot some_ opts.size_pos inside, length]

theorem pairwise_sorted (ids : List ι) : (sorted ids).Pairwise (· ≤ ·) := by
  have pairs := @List.pairwise_mergeSort ι (fun left right => decide (left ≤ right))
    (by
      intro a b c first second
      exact decide_eq_true ((of_decide_eq_true first).trans (of_decide_eq_true second)))
    (by
      intro a b
      simpa using le_total a b) ids
  exact pairs.imp fun both => of_decide_eq_true both

theorem sorted_erase (ids : List ι) (gone : ι) :
    sorted (ids.erase gone) = (sorted ids).erase gone := by
  refine List.Perm.eq_of_pairwise (fun a b _ _ => le_antisymm) (pairwise_sorted _)
    ((pairwise_sorted ids).sublist List.erase_sublist) ?_
  exact (List.mergeSort_perm _ _).trans ((List.mergeSort_perm ids _).symm.erase gone)

/-- The place of a node among the sorted nodes. -/
def rank (ids : List ι) (nodeID : ι) : Nat := (sorted ids).idxOf nodeID

end Nodes

section Moves

/-- A hash value of one of the other nodes keeps its node when the node at a place of the ring
leaves. With `count` nodes its slot belongs to the node at the slot's number modulo `count`; with
one node less both the number and the modulus are others. -/
def Stays (size count rounds gone hashNum : Nat) : Prop :=
  let before := slotOf size (count * rounds) hashNum % count
  let after := slotOf size ((count - 1) * rounds) hashNum % (count - 1)
  before ≠ gone → (if after < gone then after else after + 1) = before

instance (size count rounds gone hashNum : Nat) :
    Decidable (Stays size count rounds gone hashNum) :=
  inferInstanceAs (Decidable (_ → _))

theorem keeps_node_iff {opts : ShardOptions} {ids : List ι} (distinct : ids.Nodup)
    (several : 2 ≤ ids.length) {gone : ι} (member : gone ∈ ids) (rounds : 0 < opts.vnodes)
    {hashNum : Nat} (inside : hashNum < opts.size) :
    (nodeOf opts ids hashNum ≠ some gone →
        nodeOf opts (ids.erase gone) hashNum = nodeOf opts ids hashNum) ↔
      Stays opts.size ids.length opts.vnodes (rank ids gone) hashNum := by
  have length : (sorted ids).length = ids.length := List.length_mergeSort ids
  have fewer : (ids.erase gone).length = ids.length - 1 := List.length_erase_of_mem member
  have nonempty : ids ≠ [] := List.ne_nil_of_length_pos (by omega)
  have left : ids.erase gone ≠ [] := List.ne_nil_of_length_pos (by omega)
  have sortedDistinct : (sorted ids).Nodup := (List.mergeSort_perm ids _).nodup_iff.mpr distinct
  have here : (sorted ids)[rank ids gone]? = some gone :=
    List.getElem?_idxOf (List.mem_mergeSort.mpr member)
  rw [nodeOf_eq nonempty rounds inside.le, nodeOf_eq left rounds inside.le, fewer, sorted_erase,
    ← List.eraseIdx_idxOf_eq_erase, List.getElem?_eraseIdx, ← here]
  show _ ↔ (_ → _)
  have before : slotOf opts.size (ids.length * opts.vnodes) hashNum % ids.length <
      (sorted ids).length := length ▸ Nat.mod_lt _ (by omega)
  refine imp_congr (not_congr (List.getElem?_inj before sortedDistinct)) ?_
  rw [← apply_ite fun place => (sorted ids)[place]?, eq_comm, List.getElem?_inj before
    sortedDistinct, eq_comm]
  rfl

variable {size rounds count : Nat}

theorem slotOf_eq {total hashNum place : Nat} (above : place * size < hashNum * total)
    (below : hashNum * total ≤ (place + 1) * size) : slotOf size total hashNum = place := by
  apply Nat.div_eq_of_lt_le
  · omega
  · omega

theorem stays_two {gone : Nat} (inside : gone < 2) (hashNum : Nat) :
    Stays size 2 rounds gone hashNum := by
  intro other
  have only : slotOf size ((2 - 1) * rounds) hashNum % (2 - 1) = 0 := Nat.mod_one _
  have which := Nat.mod_lt (slotOf size (2 * rounds) hashNum) (show 0 < 2 by decide)
  rw [only]
  split <;> omega

theorem stays_three (positive : 0 < size) (hashNum : Nat) : Stays size 3 rounds 1 hashNum := by
  intro other
  have which := Nat.mod_lt (slotOf size (3 * rounds) hashNum) (show 0 < 3 by decide)
  have turn := Nat.div_add_mod (slotOf size (3 * rounds) hashNum) 3
  -- The slot lies between two multiples of the size.
  have three : hashNum * (3 * rounds) = 3 * (hashNum * rounds) := by ring
  have two : hashNum * ((3 - 1) * rounds) = 2 * (hashNum * rounds) := by
    show hashNum * (2 * rounds) = _
    ring
  have below : slotOf size (3 * rounds) hashNum * size ≤ hashNum * (3 * rounds) - 1 :=
    Nat.div_mul_le_self _ _
  have above : hashNum * (3 * rounds) - 1 < slotOf size (3 * rounds) hashNum * size + size :=
    Nat.lt_div_mul_add positive
  generalize slotOf size (3 * rounds) hashNum / 3 = turns at turn
  generalize same : slotOf size (3 * rounds) hashNum % 3 = place at *
  rw [← turn, Nat.add_mul, Nat.mul_assoc, three] at below above
  have after :
      slotOf size ((3 - 1) * rounds) hashNum = 2 * turns + (if place = 0 then 0 else 1) := by
    apply Nat.div_eq_of_lt_le
    · rw [two, Nat.add_mul, Nat.mul_assoc]
      obtain rfl | rfl : place = 0 ∨ place = 2 := by omega
      · rw [if_pos rfl]
        omega
      · rw [if_neg (by decide)]
        omega
    · rw [two, Nat.add_mul, Nat.add_mul, Nat.mul_assoc]
      obtain rfl | rfl : place = 0 ∨ place = 2 := by omega
      · rw [if_pos rfl]
        omega
      · rw [if_neg (by decide)]
        omega
  rw [after]
  obtain rfl | rfl : place = 0 ∨ place = 2 := by omega
  · simp
  · simp [Nat.add_mod]

section Moved

variable {rest : Nat}

theorem slots_ratio (rest rounds hashNum : Nat) : (rest + 1) * (hashNum * (rest * rounds)) =
    rest * (hashNum * ((rest + 1) * rounds)) := by
  ring

theorem moves_back (several : 2 ≤ rest) (positive : 0 < rounds)
    (large : rest * ((rest + 1) * rounds) ≤ size) {gone : Nat} (later : 2 ≤ gone) :
    ∃ hashNum < size, ¬ Stays size (rest + 1) rounds gone hashNum := by
  have fits : (rest + 1) * rounds ≤ size :=
    le_trans (Nat.le_mul_of_pos_left _ (by omega)) large
  have some_ : 0 < (rest + 1) * rounds := Nat.mul_pos (by omega) positive
  have border := Nat.div_mul_le_self size ((rest + 1) * rounds)
  have next := @Nat.lt_div_mul_add size _ some_
  refine ⟨size / ((rest + 1) * rounds) + 1, ?_⟩
  generalize size / ((rest + 1) * rounds) = whole at *
  have product : (whole + 1) * ((rest + 1) * rounds) =
      whole * ((rest + 1) * rounds) + (rest + 1) * rounds := Nat.succ_mul _ _
  -- With one node less, the border lies higher.
  have under : (whole + 1) * (rest * rounds) ≤ size := by
    refine Nat.le_of_mul_le_mul_left ?_ (Nat.succ_pos rest)
    have scaled : rest * ((whole + 1) * ((rest + 1) * rounds)) ≤
        rest * (size + (rest + 1) * rounds) := Nat.mul_le_mul_left rest (by omega)
    have parts : (rest + 1) * size = rest * size + size := Nat.succ_mul rest size
    rw [Nat.mul_add] at scaled
    rw [Nat.succ_eq_add_one, slots_ratio, parts]
    omega
  have two : 2 ≤ rest * rounds := le_trans several (Nat.le_mul_of_pos_right rest positive)
  have half : (whole + 1) * 2 ≤ (whole + 1) * (rest * rounds) := Nat.mul_le_mul_left _ two
  refine ⟨by omega, fun stays => ?_⟩
  have before : slotOf size ((rest + 1) * rounds) (whole + 1) = 1 :=
    slotOf_eq (by omega) (by omega)
  have after : slotOf size (rest * rounds) (whole + 1) = 0 := slotOf_eq (by omega) (by omega)
  rw [Stays, Nat.add_sub_cancel, before, after, Nat.zero_mod, Nat.mod_eq_of_lt (by omega)] at stays
  have wrong := stays (by omega)
  rw [if_pos (by omega)] at wrong
  omega

theorem moves_on (positive : 0 < rounds) (large : rest * ((rest + 1) * rounds) ≤ size) {gone : Nat}
    (followed : gone + 2 ≤ rest) :
    ∃ hashNum < size, ¬ Stays size (rest + 1) rounds gone hashNum := by
  have fits : (rest + 1) * rounds ≤ size :=
    le_trans (Nat.le_mul_of_pos_left _ (by omega)) large
  have some_ : 0 < (rest + 1) * rounds := Nat.mul_pos (by omega) positive
  have border := Nat.div_mul_le_self ((gone + 2) * size) ((rest + 1) * rounds)
  have next := @Nat.lt_div_mul_add ((gone + 2) * size) _ some_
  refine ⟨(gone + 2) * size / ((rest + 1) * rounds), ?_⟩
  generalize (gone + 2) * size / ((rest + 1) * rounds) = hashNum at *
  have step : (gone + 2) * size = (gone + 1) * size + size := Nat.succ_mul _ _
  -- With one node less, the border lies lower than this hash value.
  have scaled : rest * ((gone + 2) * size) + rest ≤
      rest * (hashNum * ((rest + 1) * rounds)) + rest * ((rest + 1) * rounds) := by
    rw [← Nat.mul_add, ← Nat.mul_succ]
    exact Nat.mul_le_mul_left rest next
  have nodes : (rest + 1) * ((gone + 1) * size) + (rest - gone - 1) * size =
      rest * ((gone + 2) * size) := by
    obtain ⟨more, rfl⟩ : ∃ more, rest = gone + 2 + more := ⟨rest - gone - 2, by omega⟩
    rw [show gone + 2 + more - gone - 1 = more + 1 by omega]
    ring
  have once : size ≤ (rest - gone - 1) * size := Nat.le_mul_of_pos_left size (by omega)
  have above : (gone + 1) * size < hashNum * (rest * rounds) := by
    refine Nat.lt_of_mul_lt_mul_left (a := rest + 1) ?_
    rw [slots_ratio]
    omega
  have below : hashNum * (rest * rounds) ≤ (gone + 2) * size := by
    refine le_trans ?_ border
    exact Nat.mul_le_mul_left hashNum (Nat.mul_le_mul_right rounds (Nat.le_succ rest))
  have inside : hashNum < size := by
    refine Nat.lt_of_mul_lt_mul_left (a := gone + 2) ?_
    have wide : gone + 2 < (rest + 1) * rounds :=
      lt_of_lt_of_le (by omega) (Nat.le_mul_of_pos_right (rest + 1) positive)
    have used : 0 < hashNum := by
      by_contra none_
      rw [Nat.eq_zero_of_not_pos none_, Nat.zero_mul] at above
      omega
    have product : hashNum * (gone + 2) < hashNum * ((rest + 1) * rounds) :=
      Nat.mul_lt_mul_of_pos_left wide used
    rw [Nat.mul_comm (gone + 2) hashNum]
    omega
  refine ⟨inside, fun stays => ?_⟩
  have before : slotOf size ((rest + 1) * rounds) hashNum = gone + 1 :=
    slotOf_eq (by omega) border
  have after : slotOf size (rest * rounds) hashNum = gone + 1 := slotOf_eq above below
  rw [Stays, Nat.add_sub_cancel, before, after, Nat.mod_eq_of_lt (show gone + 1 < rest by omega),
    Nat.mod_eq_of_lt (show gone + 1 < rest + 1 by omega)] at stays
  have wrong := stays (by omega)
  rw [if_neg (by omega)] at wrong
  omega

end Moved

theorem exists_moves (many : 3 ≤ count) (positive : 0 < rounds)
    (large : count * ((count - 1) * rounds) ≤ size) {gone : Nat}
    (notMiddle : ¬ (count = 3 ∧ gone = 1)) :
    ∃ hashNum < size, ¬ Stays size count rounds gone hashNum := by
  obtain ⟨rest, rfl⟩ : ∃ rest, count = rest + 1 := ⟨count - 1, by omega⟩
  have same : (rest + 1) * ((rest + 1 - 1) * rounds) = rest * ((rest + 1) * rounds) := by
    rw [Nat.add_sub_cancel]
    ring
  rw [same] at large
  by_cases later : 2 ≤ gone
  · exact moves_back (by omega) positive large later
  · exact moves_on positive large (by omega)

end Moves

section Keys

variable (digest : String → UInt32) (opts : ShardOptions) {σ : Type} [LruCache σ String ι]

/-- The node of a key right after the ring was rebuilt for a list of nodes. -/
def nodeByKey (shard : Shard ι σ) (ids : List ι) (key : String) : Option ι :=
  ((shard.rebuild opts ids).1.getNodeIDByKey (getHash digest opts) key).2

theorem nodeByKey_eq (shard : Shard ι σ) (ids : List ι) (key : String) :
    nodeByKey digest opts shard ids key = nodeOf opts ids (getHash digest opts key) := by
  rw [nodeByKey, ((Shard.coherent_rebuild opts shard ids).lookup key).1, nodeInRing, nodeOf,
    Shard.rebuild]
  cases buildRing opts ids with
  | none => rfl
  | some ring => rfl

/-- A key of another node keeps its node when a node leaves exactly if its slots in the two rings
belong to the same node. If the ring has at least `n * (n - 1) * vnodes` hash values, all of them
stay only with two nodes or if the middle one of three leaves. -/
theorem reshard_iff (σ : Type) [LruCache σ String ι] {ids : List ι} (distinct : ids.Nodup)
    (several : 2 ≤ ids.length) {gone : ι}
    (member : gone ∈ ids) (rounds : 0 < opts.vnodes) :
    (∀ (before after : Shard ι σ) (key : String),
      (nodeByKey digest opts before ids key ≠ some gone →
          nodeByKey digest opts after (ids.erase gone) key =
            nodeByKey digest opts before ids key) ↔
        Stays opts.size ids.length opts.vnodes (rank ids gone) (getHash digest opts key)) ∧
      (ids.length * ((ids.length - 1) * opts.vnodes) ≤ opts.size →
        ((∀ hashNum < opts.size,
            Stays opts.size ids.length opts.vnodes (rank ids gone) hashNum) ↔
          ids.length = 2 ∨ ids.length = 3 ∧ rank ids gone = 1)) := by
  refine ⟨fun before after key => ?_, fun large => ⟨fun all => ?_, fun few => ?_⟩⟩
  · rw [nodeByKey_eq, nodeByKey_eq]
    exact keeps_node_iff distinct several member rounds (getHash_lt digest opts key)
  · -- Otherwise one of the hash values moves.
    by_contra neither
    obtain ⟨two, middle⟩ := not_or.mp neither
    obtain ⟨hashNum, inside, moved⟩ := exists_moves (by omega) rounds large middle
    exact moved (all hashNum inside)
  · intro hashNum _
    obtain two | ⟨three, middle⟩ := few
    · have place : rank ids gone < ids.length := by
        rw [← List.length_mergeSort ids]
        exact List.idxOf_lt_length_of_mem (List.mem_mergeSort.mpr member)
      rw [two] at place ⊢
      exact stays_two place hashNum
    · rw [three, middle]
      exact stays_three opts.size_pos hashNum

/-- With two nodes a key of the other one stays. -/
theorem reshard_iff_two : Stays (2 ^ 32) 2 10 (rank ["a", "b"] "a") 2826958457 :=
  ((reshard_iff (fun _ => 0) ⟨10, none, 1000⟩ (Lru String String) (show ["a", "b"].Nodup by decide)
    (by decide)
    (show "a" ∈ ["a", "b"] by decide) (by decide)).2 (by decide)).mpr (Or.inl rfl) _ (by decide)

/-- With the default options, a key whose digest is that of `"4"` moves from `b` to `c` when `a`
leaves. -/
theorem leaving_moves_others :
    nodeByKey (fun _ => 2826958457) ⟨10, none, 1000⟩
        (Shard.new ⟨10, none, 1000⟩ : Shard String (Lru String String)) ["a", "b", "c"] "4" =
        some "b" ∧
      nodeByKey (fun _ => 2826958457) ⟨10, none, 1000⟩
        (Shard.new ⟨10, none, 1000⟩ : Shard String (Lru String String))
        (["a", "b", "c"].erase "a") "4" = some "c" := by
  have three : sorted ["a", "b", "c"] = ["a", "b", "c"] :=
    List.mergeSort_of_pairwise (by decide)
  have two : sorted ["b", "c"] = ["b", "c"] := List.mergeSort_of_pairwise (by decide)
  have left : ["a", "b", "c"].erase "a" = ["b", "c"] := by decide
  rw [left, nodeByKey_eq, nodeByKey_eq, nodeOf_eq (by simp) (by decide) (getHash_lt _ _ _).le,
    nodeOf_eq (by simp) (by decide) (getHash_lt _ _ _).le, three, two]
  decide

end Keys

end Moleculer.Strategies
