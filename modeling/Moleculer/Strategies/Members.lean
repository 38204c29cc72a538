import Moleculer.Strategies.Latency
import Moleculer.Strategies.ShardLaws

/-! Whether the built-in strategies return members of the lists that they are given, which differ
from call to call. -/

namespace Moleculer.Strategies

open Base

variable {ε ι κ σ : Type} [LinearOrder ι] [LruCache σ κ ι]

/-- What a strategy is given: the endpoints with what it reads of their nodes, the key that it finds
in the context, and the numbers that are drawn. -/
structure Query (ε κ : Type) where
  list : List ε
  key : Option κ
  draws : Nat → Nat
  cpu : ε → Option ℚ
  hostname : ε → String

/-- What the sharding strategy is given: the node of an endpoint, and the hash value of a key. -/
structure Sharding (ε ι κ : Type) where
  id : ε → ι
  digest : String → UInt32
  text : κ → String

/-- The hash value of a key. -/
def Sharding.hash (sharding : Sharding ε ι κ) (opts : ShardOptions) (key : κ) : Nat :=
  getHash sharding.digest opts (sharding.text key)

/-- `ShardStrategy.select`; the result is `none` if it throws. -/
def Shard.select (sharding : Sharding ε ι κ) (opts : ShardOptions) (shard : Shard ι σ)
    (query : Query ε κ) : Shard ι σ × Option (Option ε) :=
  match query.key with
  -- Return a random item (no key).
  | none => (shard, some (randomItem (query.draws 0) query.list))
  | some key =>
    let (shard, built) :=
      if shard.needRebuild then shard.rebuild opts (query.list.map sharding.id) else (shard, true)
    if built then
      let (shard, nodeID) := shard.getNodeIDByKey (sharding.hash opts) key
      match nodeID with
      | some nodeID => (shard, some (query.list.find? fun ep => sharding.id ep = nodeID))
      | none => (shard, some (randomItem (query.draws 0) query.list))
    else (shard, none)

/-- The built-in strategies with their options and what they remember. -/
inductive Builtin (ι σ : Type) where
  | roundRobin (strategy : RoundRobin)
  | random
  | cpuUsage (opts : SampleOptions)
  | latency (opts : SampleOptions) (strategy : Latency ι)
  | shard (opts : ShardOptions) (strategy : Shard ι σ)

/-- The configurations of a broker. -/
inductive Config where
  | roundRobin
  | random
  | cpuUsage (opts : SampleOptions)
  | latency (opts : SampleOptions) (collectCount : ℚ) (isMaster : Bool)
  | shard (opts : ShardOptions)

/-- A new strategy. -/
def Builtin.new : Config → Builtin ι σ
  | .roundRobin => .roundRobin ⟨0⟩
  | .random => .random
  | .cpuUsage opts => .cpuUsage opts
  | .latency opts collectCount isMaster => .latency opts (.new isMaster collectCount)
  | .shard opts => .shard opts (.new opts)

/-- What happens to a strategy. -/
inductive StrategyInput (ε ι κ : Type) where
  | select (query : Query ε κ)
  | event (event : NodeEvent ι)

namespace Builtin

/-- `select` of any strategy; the result is `none` if it throws. -/
def select (sharding : Sharding ε ι κ) (query : Query ε κ) :
    Builtin ι σ → Builtin ι σ × Option (Option ε)
  | .roundRobin strategy =>
    let (strategy, ep) := strategy.select query.list
    (.roundRobin strategy, some ep)
  | .random => (.random, some (randomItem (query.draws 0) query.list))
  | .cpuUsage opts =>
    (.cpuUsage opts, some (CpuUsage.select opts query.cpu query.draws query.list))
  | .latency opts strategy => (.latency opts strategy,
      some (Latency.select opts strategy.hostAvgLatency query.hostname query.draws query.list))
  | .shard opts strategy =>
    let (strategy, result) := strategy.select sharding opts query
    (.shard opts strategy, result)

/-- How a strategy handles an event whose name starts with `$node.`. -/
def handle (event : NodeEvent ι) : Builtin ι σ → Builtin ι σ
  | .latency opts strategy => .latency opts (strategy.handle event).1
  | .shard opts strategy => .shard opts { strategy with needRebuild := true }
  | other => other

/-- One step. -/
def step (sharding : Sharding ε ι κ) (strategy : Builtin ι σ) : StrategyInput ε ι κ → Builtin ι σ
  | .select query => (strategy.select sharding query).1
  | .event event => strategy.handle event

/-- If a strategy is given endpoints, it returns one of them. -/
def Returns (sharding : Sharding ε ι κ) (strategy : Builtin ι σ) : StrategyInput ε ι κ → Prop
  | .select query => query.list ≠ [] →
      ∃ ep ∈ query.list, (strategy.select sharding query).2 = some (some ep)
  | .event _ => True

/-- A key for the sharding strategy: either the ring is rebuilt first, and it can be, or the node of
the key has an endpoint in the list. -/
def Served (sharding : Sharding ε ι κ) (opts : ShardOptions) (shard : Shard ι σ) (list : List ε)
    (key : κ) : Prop :=
  if shard.needRebuild then 0 < opts.vnodes
  else ∀ nodeID, nodeInRing (sharding.hash opts) shard.ring key = some nodeID →
    ∃ ep ∈ list, sharding.id ep = nodeID

/-- The sharding strategy is only asked for keys that are served. -/
def Apt (sharding : Sharding ε ι κ) : Builtin ι σ → StrategyInput ε ι κ → Prop
  | .shard opts strategy, .select query => query.list ≠ [] → ∀ key, query.key = some key →
      Served sharding opts strategy query.list key
  | _, _ => True

end Builtin

section Shards

variable {sharding : Sharding ε ι κ} {opts : ShardOptions} {shard : Shard ι σ} {query : Query ε κ}

/-- The endpoint of a node, or a random one if there is no node. -/
def pickNode (sharding : Sharding ε ι κ) (query : Query ε κ) : Option ι → Option ε
  | some nodeID => query.list.find? fun ep => sharding.id ep = nodeID
  | none => randomItem (query.draws 0) query.list

theorem exists_pickNode_iff (nonempty : query.list ≠ []) (nodeID : Option ι) :
    (∃ ep ∈ query.list, pickNode sharding query nodeID = some ep) ↔
      ∀ id, nodeID = some id → ∃ ep ∈ query.list, sharding.id ep = id := by
  cases nodeID with
  | none =>
    refine iff_of_true (exists_randomItem _ nonempty) fun id same => ?_
    cases same
  | some id =>
    refine ⟨fun picked other same => ?_, fun all => ?_⟩
    · cases same
      obtain ⟨ep, member, found⟩ := picked
      exact ⟨ep, member, by simpa using List.find?_some found⟩
    · obtain ⟨ep, member, same⟩ := all id rfl
      have some_ : (query.list.find? fun ep => sharding.id ep = id).isSome :=
        List.find?_isSome.mpr ⟨ep, member, by simpa using same⟩
      obtain ⟨found, located⟩ := Option.isSome_iff_exists.mp some_
      exact ⟨found, List.mem_of_find?_eq_some located, located⟩

theorem select_of_ring (coherent : shard.Coherent (sharding.hash opts))
    (current : shard.needRebuild = false) {key : κ} (asked : query.key = some key) :
    (shard.select sharding opts query).2 =
      some (pickNode sharding query (nodeInRing (sharding.hash opts) shard.ring key)) := by
  unfold Shard.select
  rw [asked, current]
  simp only [Bool.false_eq_true, if_false, if_true]
  rw [← (coherent.lookup key).1]
  cases (shard.getNodeIDByKey (sharding.hash opts) key).2 with
  | none => rfl
  | some nodeID => rfl

theorem select_of_rebuild (due : shard.needRebuild = true) {key : κ}
    (asked : query.key = some key) :
    (shard.select sharding opts query).2 =
      (buildRing opts (query.list.map sharding.id)).map fun ring =>
        pickNode sharding query (nodeInRing (sharding.hash opts) ring key) := by
  have coherent :
      (shard.rebuild opts (query.list.map sharding.id)).1.Coherent (sharding.hash opts) :=
    Shard.coherent_rebuild opts shard _
  unfold Shard.select
  rw [asked, due]
  simp only [if_true]
  unfold Shard.rebuild at coherent ⊢
  cases built : buildRing opts (query.list.map sharding.id) with
  | none => rfl
  | some ring =>
    rw [built] at coherent
    simp only [if_true, Option.map_some]
    have found := (coherent.lookup key).1
    dsimp only at found
    rw [← found]
    cases (Shard.getNodeIDByKey (sharding.hash opts)
        ⟨false, ring, LruCache.clear shard.cache⟩ key).2 with
    | none => rfl
    | some nodeID => rfl

theorem ring_select_of_rebuild (due : shard.needRebuild = true) {key : κ}
    (asked : query.key = some key) {ring : List (Slot ι)}
    (built : buildRing opts (query.list.map sharding.id) = some ring) :
    (shard.select sharding opts query).1.ring = ring ∧
      (shard.select sharding opts query).1.needRebuild = false := by
  have coherent : Shard.Coherent (sharding.hash opts)
      (⟨false, ring, LruCache.clear shard.cache⟩ : Shard ι σ) := LruCache.all_clear
  obtain ⟨_, sameRing, sameFlag, _⟩ := coherent.lookup key
  unfold Shard.select Shard.rebuild
  simp only [asked, due, built, if_true]
  split
  · exact ⟨sameRing, sameFlag⟩
  · exact ⟨sameRing, sameFlag⟩

theorem mem_of_nodeInRing {hash : κ → Nat} {ids : List ι} {ring : List (Slot ι)}
    (built : buildRing opts ids = some ring) {key : κ} {nodeID : ι}
    (found : nodeInRing hash ring key = some nodeID) : nodeID ∈ ids := by
  obtain ⟨slot, located, rfl⟩ := Option.map_eq_some_iff.mp found
  have inside : slot.nodeID ∈ ring.map Slot.nodeID :=
    List.mem_map_of_mem (List.mem_of_find?_eq_some located)
  have possible : ids ≠ [] ∧ 0 < opts.vnodes := by
    by_contra impossible
    rw [buildRing_eq_none opts (by
      by_cases none_ : ids = []
      · exact .inl none_
      · exact .inr (Nat.eq_zero_of_not_pos fun some_ => impossible ⟨none_, some_⟩))] at built
    cases built
  rw [buildRing_eq opts possible.1 possible.2, Option.some.injEq] at built
  have counted := List.count_pos_iff.mpr inside
  rw [← built, count_ringOf] at counted
  exact List.mem_mergeSort.mp (List.count_pos_iff.mp (Nat.pos_of_mul_pos_left counted))

theorem shard_returns_iff (coherent : shard.Coherent (sharding.hash opts))
    (nonempty : query.list ≠ []) {key : κ} (asked : query.key = some key) :
    (∃ ep ∈ query.list, (shard.select sharding opts query).2 = some (some ep)) ↔
      Builtin.Served sharding opts shard query.list key := by
  unfold Builtin.Served
  split
  · rename_i due
    rw [select_of_rebuild due asked]
    refine ⟨fun returned => ?_, fun rounds => ?_⟩
    · -- Without virtual nodes the ring cannot be built.
      by_contra none_
      obtain ⟨ep, _, result⟩ := returned
      rw [buildRing_eq_none opts (.inr (Nat.eq_zero_of_not_pos none_))] at result
      cases result
    · have some_ : query.list.map sharding.id ≠ [] := by simpa using nonempty
      have built := buildRing_eq opts some_ rounds
      rw [built, Option.map_some]
      simp only [Option.some.injEq]
      refine (exists_pickNode_iff nonempty _).mpr fun id found => ?_
      obtain ⟨ep, member, same⟩ := List.mem_map.mp (mem_of_nodeInRing built found)
      exact ⟨ep, member, same⟩
  · rename_i current
    rw [select_of_ring coherent (by simpa using current) asked]
    simp only [Option.some.injEq]
    exact exists_pickNode_iff nonempty _

theorem coherent_select (coherent : shard.Coherent (sharding.hash opts)) (query : Query ε κ) :
    (shard.select sharding opts query).1.Coherent (sharding.hash opts) := by
  unfold Shard.select
  split
  · exact coherent
  · rename_i key _
    have ready : (if shard.needRebuild then shard.rebuild opts (query.list.map sharding.id)
        else (shard, true)).1.Coherent (sharding.hash opts) := by
      split
      · exact Shard.coherent_rebuild opts shard _
      · exact coherent
    dsimp only
    generalize (if shard.needRebuild then shard.rebuild opts (query.list.map sharding.id)
      else (shard, true)) = current at ready ⊢
    have found := (ready.lookup key).2.2.2
    split
    · split
      · exact found
      · exact found
    · exact ready

end Shards

namespace Builtin

variable {sharding : Sharding ε ι κ}

/-- What is invariant of the sharding strategy. -/
def Coherent (sharding : Sharding ε ι κ) : Builtin ι σ → Prop
  | .shard opts strategy => strategy.Coherent (sharding.hash opts)
  | _ => True

theorem returns_iff {strategy : Builtin ι σ} (coherent : strategy.Coherent sharding)
    (input : StrategyInput ε ι κ) :
    strategy.Returns sharding input ↔ strategy.Apt sharding input := by
  cases input with
  | event event => cases strategy <;> exact Iff.rfl
  | select query =>
    cases strategy with
    | roundRobin strategy =>
      refine iff_of_true (fun nonempty => ?_) trivial
      obtain ⟨ep, member, chosen⟩ := strategy.exists_select nonempty
      exact ⟨ep, member, congrArg some chosen⟩
    | random =>
      refine iff_of_true (fun nonempty => ?_) trivial
      obtain ⟨ep, member, chosen⟩ := exists_randomItem (query.draws 0) nonempty
      exact ⟨ep, member, congrArg some chosen⟩
    | cpuUsage opts =>
      refine iff_of_true (fun nonempty => ?_) trivial
      obtain ⟨ep, member, chosen⟩ := exists_sampleSelect opts query.draws nonempty
      exact ⟨ep, member, congrArg some chosen⟩
    | latency opts strategy =>
      refine iff_of_true (fun nonempty => ?_) trivial
      obtain ⟨ep, member, chosen⟩ := exists_sampleSelect opts query.draws nonempty
      exact ⟨ep, member, congrArg some chosen⟩
    | shard opts strategy =>
      refine forall_congr' fun nonempty => ?_
      show (∃ ep ∈ query.list, (strategy.select sharding opts query).2 = some (some ep)) ↔ _
      cases asked : query.key with
      | none =>
        -- Without a key the item is a random one.
        refine iff_of_true ?_ fun key same => ?_
        · obtain ⟨ep, member, chosen⟩ := exists_randomItem (query.draws 0) nonempty
          refine ⟨ep, member, ?_⟩
          unfold Shard.select
          rw [asked]
          exact congrArg some chosen
        · cases same
      | some key =>
        rw [shard_returns_iff coherent nonempty asked]
        refine ⟨fun served other same => ?_, fun all => all key rfl⟩
        cases same
        exact served

theorem coherent_step {strategy : Builtin ι σ} (coherent : strategy.Coherent sharding)
    (input : StrategyInput ε ι κ) : (strategy.step sharding input).Coherent sharding := by
  cases strategy with
  | shard opts strategy =>
    cases input with
    | select query => exact coherent_select coherent query
    | event event => exact coherent
  | roundRobin strategy => cases input <;> trivial
  | random => cases input <;> trivial
  | cpuUsage opts => cases input <;> trivial
  | latency opts strategy => cases input <;> trivial

omit [LinearOrder ι] in
theorem coherent_new (config : Config) : (new config : Builtin ι σ).Coherent sharding := by
  cases config with
  | shard opts => exact LruCache.all_new _
  | roundRobin => trivial
  | random => trivial
  | cpuUsage opts => trivial
  | latency opts collectCount isMaster => trivial

/-- In every run of any built-in strategy, all calls return members of their lists exactly if every
key that the sharding strategy is asked for is served. -/
theorem members_returned_iff (sharding : Sharding ε ι κ) (config : Config)
    (inputs : List (StrategyInput ε ι κ)) :
    Meets (step sharding) (Returns sharding) (new config : Builtin ι σ) inputs ↔
      Meets (step sharding) (Apt sharding) (new config : Builtin ι σ) inputs :=
  meets_iff (fun _ input _ coherent => returns_iff coherent input)
    (fun _ input _ coherent _ => coherent_step coherent input) (coherent_new config)

/-- A call with nodes as endpoints and a key. -/
def keyed (nodes : List Nat) : Query Nat String :=
  ⟨nodes, some "user-1", fun _ => 0, fun _ => none, fun _ => ""⟩

/-- Endpoints that are nodes, and a digest that lies in the second half of the ring. -/
def halves : Sharding Nat Nat String := ⟨id, fun _ => 2 ^ 31 + 1, id⟩

/-- The sharding strategy returns nothing for a key whose node has become unavailable without an
event. -/
theorem unavailable_node_selected :
    ¬ Meets (step halves) (Returns halves)
      (new (.shard ⟨1, none, 1000⟩) : Builtin Nat (Lru String Nat))
      [.select (keyed [1, 2]), .select (keyed [1])] := by
  intro returns
  let start : Shard Nat (Lru String Nat) := .new ⟨1, none, 1000⟩
  -- The ring was built for both nodes, and the key belongs to the second one.
  have both : sorted [1, 2] = [1, 2] := List.mergeSort_of_pairwise (by decide)
  have built : buildRing ⟨1, none, 1000⟩ ((keyed [1, 2]).list.map halves.id) =
      some (ringOf (2 ^ 32) [1, 2] 1) := by
    have whole := buildRing_eq ⟨1, none, 1000⟩ (show [1, 2] ≠ [] by decide) (show 0 < 1 by decide)
    rw [both] at whole
    exact whole
  obtain ⟨ring, current⟩ := @ring_select_of_rebuild _ _ _ _ _ _ halves _ start (keyed [1, 2]) rfl _
    rfl _ built
  have later : Served halves ⟨1, none, 1000⟩ (start.select halves ⟨1, none, 1000⟩ (keyed [1, 2])).1
      [1] "user-1" :=
    (returns_iff (coherent_step (coherent_new (.shard ⟨1, none, 1000⟩)) _) _).mp returns.2.1
      (by decide) "user-1" rfl
  unfold Served at later
  rw [current, ring] at later
  obtain ⟨ep, member, same⟩ := later 2 (by decide +kernel)
  rw [List.mem_singleton.mp member] at same
  exact absurd same (by decide)

end Builtin

end Moleculer.Strategies
