import Moleculer.Registry.InfoOrder
import Moleculer.Tcp.GossipLaws

/-! What gossip does to the record of one node, and that it leaves the records of the others
alone. -/

namespace Moleculer.Tcp

open Base Cluster Cluster.Registry

theorem get_getLocalNodeInfo (registry : Registry) (force : Bool) :
    (registry.getLocalNodeInfo force).1.nodeID = registry.nodeID ∧
      (∀ other, other ≠ some registry.nodeID →
        (registry.getLocalNodeInfo force).1.nodes.get other = registry.nodes.get other) ∧
      ∀ node, registry.nodes.get (some registry.nodeID) = some node →
        ∃ seq info, node.seq ≤ seq ∧
          (registry.getLocalNodeInfo force).1.nodes.get (some registry.nodeID) =
            some { node with seq := seq, rawInfo := info } := by
  unfold Registry.getLocalNodeInfo
  split
  · exact ⟨rfl, fun _ _ => rfl, fun node found => ⟨node.seq, node.rawInfo, le_rfl, found⟩⟩
  · refine ⟨rfl, fun other differs => ?_, fun node found => ?_⟩
    · dsimp only [regenerateLocalRawInfo]
      rw [get_modifyNode, if_neg differs]
    · have home : registry.localNode = node := by rw [localNode, found, Option.getD_some]
      dsimp only [regenerateLocalRawInfo]
      rw [get_modifyNode, if_pos rfl, found, Option.map_some, home]
      refine ⟨_, _, ?_, rfl⟩
      split <;> grind

variable {registry : Registry} {node : Node} {id : NodeID} (payload : GossipRequest) (now : Nat)

theorem get_getNodeInfo (home : node.isLocal = true → node.self.id = some registry.nodeID) :
    (getNodeInfo registry node).1.nodeID = registry.nodeID ∧
      ∀ other, other ≠ node.self.id →
        (getNodeInfo registry node).1.nodes.get other = registry.nodes.get other := by
  unfold getNodeInfo
  split
  · obtain ⟨nodeID, others, _⟩ := get_getLocalNodeInfo registry false
    exact ⟨nodeID, fun other differs => others other (home ‹_› ▸ differs)⟩
  · exact ⟨rfl, fun _ _ => rfl⟩

/-- Two states of an answer that do not differ outside of one id. -/
structure SameBut (id : NodeID) (before after : Registry × GossipResponse) : Prop where
  nodeID : after.1.nodeID = before.1.nodeID
  nodes : ∀ other, other ≠ id → after.1.nodes.get other = before.1.nodes.get other
  online : ∀ key, key ≠ propertyKey id → after.2.online.get key = before.2.online.get key
  offline : ∀ key, key ≠ propertyKey id → after.2.offline.get key = before.2.offline.get key

theorem sameBut_answerNode (payload : GossipRequest) (now : Nat)
    (state : Registry × GossipResponse) {node : Node}
    (home : node.isLocal = true → node.self.id = some state.1.nodeID) :
    SameBut node.self.id state (answerNode payload now state node) := by
  obtain ⟨registry, response⟩ := state
  have kept : SameBut node.self.id (registry, response) (registry, response) :=
    ⟨rfl, fun _ _ => rfl, fun _ _ => rfl, fun _ _ => rfl⟩
  have changed (change : Node → Node) : SameBut node.self.id (registry, response)
      (registry.modifyNode node.self.id change, response) :=
    ⟨rfl, fun other differs => by rw [get_modifyNode, if_neg differs], fun _ _ => rfl,
      fun _ _ => rfl⟩
  have row {value : OnlineRow} (key : String) (differs : key ≠ propertyKey node.self.id) :
      (response.online.set (propertyKey node.self.id) value).get key = response.online.get key := by
    rw [OrderedMap.get_set, if_neg differs]
  unfold answerNode
  dsimp only at home ⊢
  split
  · split
    · obtain ⟨nodeID, nodes⟩ := get_getNodeInfo home
      exact ⟨nodeID, nodes, row, fun _ _ => rfl⟩
    · refine ⟨rfl, fun _ _ => rfl, fun _ _ => rfl, fun key differs => ?_⟩
      dsimp only
      rw [OrderedMap.get_set, if_neg differs]
  · split
    · split
      · split
        · exact changed _
        · exact kept
      · split
        · refine ⟨nodeID_disconnected .., fun other differs => ?_, fun _ _ => rfl, fun _ _ => rfl⟩
          rw [get_modifyNode, if_neg differs, get_disconnected, if_neg differs]
        · -- Only the local node defends itself.
          rename_i isLocal
          have here := home (by simpa using isLocal)
          obtain ⟨nodeID, others, _⟩ := get_getLocalNodeInfo
            (registry.modifyNode node.self.id fun node => { node with seq := _ + 1 }) true
          refine ⟨nodeID, fun other differs => ?_, row, fun _ _ => rfl⟩
          refine (others other (here ▸ differs)).trans ?_
          rw [get_modifyNode, if_neg differs]
    · split
      · split
        · split
          · exact changed _
          · split
            · exact ⟨rfl, fun _ _ => rfl, row, fun _ _ => rfl⟩
            · exact kept
        · exact kept
      · exact kept

/-- Two states of an answer that agree about one id. -/
structure SameAt (id : NodeID) (before after : Registry × GossipResponse) : Prop where
  nodeID : after.1.nodeID = before.1.nodeID
  nodes : after.1.nodes.get id = before.1.nodes.get id
  online : after.2.online.get (propertyKey id) = before.2.online.get (propertyKey id)
  offline : after.2.offline.get (propertyKey id) = before.2.offline.get (propertyKey id)

theorem sameAt_answerNodes (nodes : List Node)
    (others : ∀ node ∈ nodes, node.self.id ≠ id ∧ propertyKey node.self.id ≠ propertyKey id)
    (state : Registry × GossipResponse)
    (home : ∀ node ∈ nodes, node.isLocal = true → node.self.id = some state.1.nodeID) :
    SameAt id state (nodes.foldl (answerNode payload now) state) := by
  refine List.foldlRecOn nodes _ (motive := fun after => SameAt id state after)
    ⟨rfl, rfl, rfl, rfl⟩ fun after same node inside => ?_
  have step := sameBut_answerNode payload now after (same.nodeID.symm ▸ home node inside)
  obtain ⟨differs, apart⟩ := others node inside
  exact ⟨step.nodeID.trans same.nodeID, (step.nodes id differs.symm).trans same.nodes,
    (step.online _ apart.symm).trans same.online, (step.offline _ apart.symm).trans same.offline⟩

theorem propertyKey_ne {one other : NodeID} (named : one ≠ none) (named' : other ≠ none)
    (differs : one ≠ other) : propertyKey one ≠ propertyKey other := by
  obtain ⟨left, rfl⟩ := Option.ne_none_iff_exists'.mp named
  obtain ⟨right, rfl⟩ := Option.ne_none_iff_exists'.mp named'
  exact fun same => differs (congrArg some same)

/-- All nodes are answered, starting with nothing to say. -/
def answerAll (registry : Registry) (payload : GossipRequest) (now : Nat) :
    Registry × GossipResponse :=
  registry.nodes.values.foldl (answerNode payload now) (registry, ⟨.empty, .empty⟩)

theorem nodeID_answerAll (sound : registry.Sound) (payload : GossipRequest) (now : Nat) :
    (answerAll registry payload now).1.nodeID = registry.nodeID := by
  refine List.foldlRecOn _ _ (motive := fun state : Registry × GossipResponse =>
    state.1.nodeID = registry.nodeID) rfl fun state same node inside => ?_
  refine (sameBut_answerNode payload now state fun isLocal => ?_).nodeID.trans same
  rw [same]
  exact (sound.keyed _ _ (stored_values sound inside)).2.2.mp isLocal

theorem values_split (sound : registry.Sound) (found : registry.nodes.get id = some node) :
    ∃ front back, registry.nodes.values = front ++ node :: back ∧
      ∀ other, other ∈ front ∨ other ∈ back → other ∈ registry.nodes.values ∧
        other.self.id ≠ id ∧ propertyKey other.self.id ≠ propertyKey id := by
  have self := (sound.keyed id node found).1
  obtain ⟨front, back, split⟩ := List.append_of_mem (OrderedMap.mem_values_iff.mpr ⟨id, found⟩)
  have distinct := nodup_values sound
  rw [split, List.map_append, List.map_cons, List.nodup_append] at distinct
  refine ⟨front, back, split, fun other place => ?_⟩
  have inside : other ∈ registry.nodes.values := by
    rw [split]
    exact place.elim (List.mem_append_left _) fun behind =>
      List.mem_append_right _ (List.mem_cons_of_mem _ behind)
  -- The ids of the nodes are distinct.
  have differs : other.self.id ≠ id := by
    intro same
    rcases place with before | behind
    · exact distinct.2.2 _ (List.mem_map_of_mem before) _ List.mem_cons_self
        (same.trans self.symm)
    · exact (List.nodup_cons.mp distinct.2.1).1
        (List.mem_map.mpr ⟨other, behind, same.trans self.symm⟩)
  exact ⟨inside, differs, propertyKey_ne
    (sound.keyed _ _ (stored_values sound inside)).2.1 (sound.keyed id node found).2.1 differs⟩

theorem exists_turn (sound : registry.Sound) (payload : GossipRequest) (now : Nat)
    (found : registry.nodes.get id = some node) :
    ∃ middle : Registry × GossipResponse, SameAt id (registry, ⟨.empty, .empty⟩) middle ∧
      SameAt id (answerNode payload now middle node) (answerAll registry payload now) := by
  obtain ⟨front, back, split, others⟩ := values_split sound found
  have home (other : Node) (inside : other ∈ registry.nodes.values)
      (isLocal : other.isLocal = true) :
      other.self.id = some registry.nodeID :=
    (sound.keyed _ _ (stored_values sound inside)).2.2.mp isLocal
  have before := sameAt_answerNodes payload now front
    (fun other inside => (others other (.inl inside)).2) (registry, ⟨.empty, .empty⟩)
    fun other inside => home other (others other (.inl inside)).1
  refine ⟨_, before, ?_⟩
  have turn := @sameBut_answerNode payload now (front.foldl (answerNode payload now)
    (registry, ⟨.empty, .empty⟩)) node (before.nodeID ▸ home node
      (OrderedMap.mem_values_iff.mpr ⟨id, found⟩))
  rw [answerAll, split, List.foldl_append, List.foldl_cons]
  refine sameAt_answerNodes payload now back (fun other inside => (others other (.inr inside)).2)
    _ fun other inside => ?_
  rw [turn.nodeID, before.nodeID]
  exact home other (others other (.inr inside)).1

/-- What a request makes of a remote node. -/
theorem answer_remote {middle : Registry × GossipResponse} {id : String}
    (self : node.self.id = some id) (remote : node.isLocal = false)
    (found : middle.1.nodes.get (some id) = some node) (unsaid : middle.2.online.get id = none ∧
      middle.2.offline.get id = none) :
    match (payload.knownSeq (some id)).filter fun seq => seq ≠ 0 ∧ ¬ seq < node.seq with
    | none => (answerNode payload now middle node).1.nodes.get (some id) = some node ∧
        (answerNode payload now middle node).2.online.get id =
          (if node.available then some (infoRow node node.rawInfo) else none) ∧
        (answerNode payload now middle node).2.offline.get id =
          (if node.available then none else some node.seq)
    | some seq => (answerNode payload now middle node).2.offline.get id = none ∧
        ∃ record, (answerNode payload now middle node).1.nodes.get (some id) = some record ∧
          if (payload.offlineSeq (some id)).isSome then
            (answerNode payload now middle node).2.online.get id = none ∧
              record.available = false ∧ record.seq = seq
          else ((answerNode payload now middle node).2.online.get id = none ∨ ∃ number usage,
              (answerNode payload now middle node).2.online.get id = some (.cpu number usage)) ∧
            record.available = node.available ∧ record.seq = node.seq ∧
              record.rawInfo = node.rawInfo := by
  obtain ⟨registry, response⟩ := middle
  obtain ⟨noRow, noClaim⟩ := unsaid
  dsimp only at noRow noClaim found
  unfold answerNode
  dsimp only
  rw [self]
  cases known : (payload.knownSeq (some id)).filter fun seq => seq ≠ 0 ∧ ¬ seq < node.seq with
  | none =>
    dsimp only
    cases available : node.available with
    | true =>
      simp [getNodeInfo, remote, found, OrderedMap.get_set, propertyKey, noClaim]
    | false =>
      simp [found, OrderedMap.get_set, propertyKey, noRow]
  | some seq =>
    have reached : ¬ seq < node.seq := by
      have test := (Option.filter_eq_some_iff.mp known).2
      simp only [decide_eq_true_eq] at test
      exact test.2
    dsimp only
    by_cases claimed : (payload.offlineSeq (some id)).isSome = true
    · rw [if_pos claimed]
      simp only [if_pos claimed]
      cases available : node.available with
      | false =>
        -- Both sides know it as offline.
        simp only [Bool.not_false, if_true]
        refine ⟨noClaim, ?_⟩
        by_cases newer : seq > node.seq
        · rw [if_pos newer]
          refine ⟨{ node with seq := seq }, ?_, noRow, available, rfl⟩
          rw [get_modifyNode, if_pos rfl, found]
          rfl
        · rw [if_neg newer]
          exact ⟨node, found, noRow, available, by grind⟩
      | true =>
        simp only [Bool.not_true, Bool.false_eq_true, if_false, remote, Bool.not_false, if_true]
        refine ⟨noClaim, { node.disconnected now with seq := seq }, ?_, noRow, ?_, rfl⟩
        · rw [get_modifyNode, if_pos rfl, get_disconnected, if_pos rfl, found]
          rfl
        · simp [Node.disconnected, available]
    · rw [if_neg claimed]
      simp only [if_neg claimed]
      cases payload.online.get (propertyKey (some id)) with
      | none => exact ⟨noClaim, node, found, .inl noRow, rfl, rfl, rfl⟩
      | some claim =>
        dsimp only
        cases available : node.available with
        | false =>
          exact ⟨noClaim, node, found, .inl noRow, available, rfl, rfl⟩
        | true =>
          simp only [if_true]
          by_cases newer : above claim.cpuSeq node.cpuSeq = true
          · -- A heartbeat of a node that is online.
            rw [if_pos newer]
            refine ⟨noClaim, node.heartbeat claim.cpu claim.cpuSeq now, ?_, .inl noRow, ?_⟩
            · rw [get_modifyNode, if_pos rfl, found]
              rfl
            · unfold Node.heartbeat
              cases claim.cpu <;> simp [available]
          · rw [if_neg newer]
            by_cases older : below claim.cpuSeq node.cpuSeq = true
            · rw [if_pos older]
              refine ⟨noClaim, node, found,
                .inr ⟨some (node.cpuSeq.getD 0), some (node.cpu.getD 0), ?_⟩,
                available, rfl, rfl⟩
              exact (OrderedMap.get_set ..).trans (if_pos rfl)
            · rw [if_neg older]
              exact ⟨noClaim, node, found, .inl noRow, available, rfl, rfl⟩

theorem answer_local (payload : GossipRequest) (now : Nat) {middle : Registry × GossipResponse}
    {node : Node} (self : node.self.id = some middle.1.nodeID) (isLocal : node.isLocal = true)
    (found : middle.1.nodes.get (some middle.1.nodeID) = some node)
    (online : node.available = true) :
    ∃ record, (answerNode payload now middle node).1.nodes.get (some middle.1.nodeID) =
      some record ∧
      record.available = true := by
  obtain ⟨registry, response⟩ := middle
  have asked (state : Registry) (nodeID : state.nodeID = registry.nodeID) (force : Bool)
      (awake : ∃ record, state.nodes.get (some registry.nodeID) = some record ∧
        record.available = true) :
      ∃ record, (state.getLocalNodeInfo force).1.nodes.get (some registry.nodeID) = some record ∧
        record.available = true := by
    obtain ⟨record, stored, available⟩ := awake
    rw [← nodeID] at stored ⊢
    obtain ⟨seq, info, _, kept⟩ := (get_getLocalNodeInfo state force).2.2 record stored
    exact ⟨_, kept, available⟩
  unfold answerNode
  dsimp only at self found ⊢
  rw [self]
  split
  · rw [if_pos online]
    simp only [getNodeInfo, isLocal, if_true]
    exact asked registry rfl false ⟨node, found, online⟩
  · rename_i seq _
    split
    · simp only [online, isLocal, Bool.not_true, Bool.false_eq_true, if_false]
      refine asked (registry.modifyNode (some registry.nodeID) _) rfl true
        ⟨{ node with seq := seq + 1 }, ?_, online⟩
      rw [get_modifyNode, if_pos rfl, found]
      rfl
    · split
      · rename_i claim _
        split
        · refine ⟨node.heartbeat claim.cpu claim.cpuSeq now, ?_, ?_⟩
          · rw [get_modifyNode, if_pos rfl, found]
            rfl
          · unfold Node.heartbeat
            cases claim.cpu <;> simp [online]
        · split <;> exact ⟨node, found, online⟩
      · exact ⟨node, found, online⟩

theorem processGossipRequest_spec (registry : Registry) (payload : GossipRequest) (now : Nat) :
    (processGossipRequest registry payload now).1 = (answerAll registry payload now).1 ∧
      ((answerAll registry payload now).1.nodes.get payload.sender ≠ none →
        (processGossipRequest registry payload now).2 =
          if (answerAll registry payload now).2.online.size = 0 ∧
            (answerAll registry payload now).2.offline.size = 0 then none
          else some (answerAll registry payload now).2) := by
  unfold processGossipRequest
  generalize same : registry.nodes.values.foldl (answerNode payload now)
    (registry, ⟨.empty, .empty⟩) = state
  have all : answerAll registry payload now = state := same
  obtain ⟨answered, response⟩ := state
  rw [all]
  dsimp only
  by_cases nothing : response.online.size = 0 ∧ response.offline.size = 0
  · rw [if_pos nothing, if_pos nothing]
    exact ⟨rfl, fun _ => rfl⟩
  · rw [if_neg nothing, if_neg nothing]
    refine ⟨?_, fun known => ?_⟩
    · split <;> rfl
    · rw [if_pos (Option.isSome_iff_ne_none.mpr known)]

section Learn

variable {registry : Registry} {now : Nat}

theorem get_processNodeInfo {payload : NodeInfo} {other : NodeID}
    (differs : other ≠ payload.sender) (foreign : other ≠ some registry.nodeID) :
    (registry.processNodeInfo payload now).nodes.get other = registry.nodes.get other := by
  have entered := frame_enterNode registry payload.sender now
  unfold processNodeInfo
  generalize registry.enterNode payload.sender now = result at *
  obtain ⟨first, node, isReconnected⟩ := result
  dsimp only at *
  split
  · rename_i serviceList _ _
    rw [(nodesKept_registerServices _ _ _ _).others other (entered.2.1 ▸ foreign)]
    dsimp only
    rw [OrderedMap.get_set, if_neg differs, entered.1]
  · rw [OrderedMap.get_set, if_neg differs, entered.1]

/-- What a row of a response makes of the record of its node. -/
def learnedOnline (registry : Registry) (now : Nat) (nodeID : String) (row : OnlineRow) :
    Option Node :=
  let informed := match newerInfo registry nodeID row with
    | some info => some (registry.updatedNode { info with sender := some nodeID } now)
    | none => registry.nodes.get (some nodeID)
  informed.map fun node =>
    if row.cpuSeq.any (· ≠ 0) && above row.cpuSeq node.cpuSeq then
      node.heartbeat row.usage row.cpuSeq now
    else node

theorem learnedOnline_some {id : String} {row : OnlineRow} {node : Node}
    (informed : (match newerInfo registry id row with
      | some info => some (registry.updatedNode { info with sender := some id } now)
      | none => registry.nodes.get (some id)) = some node) (online : node.available = true) :
    ∃ record, learnedOnline registry now id row = some record ∧ record.available = true ∧
      record.seq = node.seq ∧ record.rawInfo = node.rawInfo := by
  refine ⟨_, congrArg (Option.map _) informed, ?_⟩
  dsimp only
  split
  · unfold Node.heartbeat
    cases row.usage <;> simp [online]
  · exact ⟨online, rfl, rfl⟩

theorem get_learnOnline (entry : String × OnlineRow) (remote : entry.1 ≠ registry.nodeID) :
    (learnOnline now registry entry).nodeID = registry.nodeID ∧
      (learnOnline now registry entry).nodes.get (some entry.1) =
        learnedOnline registry now entry.1 entry.2 ∧
      ∀ other, other ≠ some entry.1 → other ≠ some registry.nodeID →
        (learnOnline now registry entry).nodes.get other = registry.nodes.get other := by
  -- The info comes first, then the processor usage.
  obtain ⟨id, stored, others⟩ : (learnInfo now registry entry.1 entry.2).nodeID = registry.nodeID ∧
      learnedOnline registry now entry.1 entry.2 =
        ((learnInfo now registry entry.1 entry.2).nodes.get (some entry.1)).map (fun node =>
          if entry.2.cpuSeq.any (· ≠ 0) && above entry.2.cpuSeq node.cpuSeq then
            node.heartbeat entry.2.usage entry.2.cpuSeq now else node) ∧
      ∀ other, other ≠ some entry.1 → other ≠ some registry.nodeID →
        (learnInfo now registry entry.1 entry.2).nodes.get other = registry.nodes.get other := by
    unfold learnInfo learnedOnline
    cases newerInfo registry entry.1 entry.2 with
    | none => exact ⟨rfl, rfl, fun _ _ _ => rfl⟩
    | some info =>
      obtain ⟨stored, id⟩ := @node_processNodeInfo registry { info with sender := some entry.1 } now
        fun same => remote (Option.some.inj same)
      exact ⟨id, congrArg (Option.map _) stored.symm,
        fun other differs local_ => get_processNodeInfo differs local_⟩
  rw [learnOnline_remote remote, stored]
  generalize learnInfo now registry entry.1 entry.2 = informed at *
  unfold learnUsage
  cases found : informed.nodes.get (some entry.1) with
  | none => exact ⟨id, found, others⟩
  | some node =>
    rw [Option.map_some]
    dsimp only
    split
    · refine ⟨id, ?_, fun other differs local_ => ?_⟩
      · rw [get_modifyNode, if_pos rfl, found, Option.map_some]
      · rw [get_modifyNode, if_neg differs, others other differs local_]
    · exact ⟨id, found, others⟩

/-- What a claim that a node is offline makes of its record. -/
def learnedOffline (now : Nat) (seq : ℚ) (node : Node) : Node :=
  if node.seq < seq then { node.disconnected now with seq := seq } else node

theorem get_learnOffline (entry : String × ℚ) (remote : entry.1 ≠ registry.nodeID) :
    (learnOffline now registry entry).nodeID = registry.nodeID ∧
      ∀ other, (learnOffline now registry entry).nodes.get other =
        if other = some entry.1 then
          (registry.nodes.get (some entry.1)).map (learnedOffline now entry.2)
        else registry.nodes.get other := by
  obtain ⟨nodeID, seq⟩ := entry
  unfold learnOffline
  dsimp only at remote ⊢
  rw [if_neg remote]
  cases found : registry.nodes.get (some nodeID) with
  | none =>
    refine ⟨rfl, fun other => ?_⟩
    dsimp only
    by_cases here : other = some nodeID
    · rw [if_pos here, here, found]
      rfl
    · rw [if_neg here]
  | some node =>
    dsimp only
    by_cases newer : node.seq < seq
    · rw [if_pos newer]
      by_cases online : node.available = true
      · rw [if_pos online]
        refine ⟨nodeID_disconnected .., fun other => ?_⟩
        rw [get_modifyNode, get_disconnected, get_disconnected, if_pos rfl, found]
        by_cases here : other = some nodeID
        · rw [if_pos here, if_pos here, Option.map_some, Option.map_some, Option.map_some,
            learnedOffline, if_pos newer]
        · rw [if_neg here, if_neg here, if_neg here]
      · rw [if_neg online]
        refine ⟨rfl, fun other => ?_⟩
        rw [get_modifyNode, found]
        by_cases here : other = some nodeID
        · rw [if_pos here, if_pos here, Option.map_some, Option.map_some, learnedOffline,
            if_pos newer, Node.disconnected, if_neg online]
        · rw [if_neg here, if_neg here]
    · rw [if_neg newer]
      refine ⟨rfl, fun other => ?_⟩
      split
      · rename_i here
        rw [here, found, Option.map_some, learnedOffline, if_neg newer]
      · rfl

theorem nodeID_learnOnline (registry : Registry) (entry : String × OnlineRow) :
    (learnOnline now registry entry).nodeID = registry.nodeID := by
  by_cases home : entry.1 = registry.nodeID
  · rw [learnOnline_home home]
  · exact (get_learnOnline entry home).1

theorem nodeID_learnOffline (registry : Registry) (entry : String × ℚ) :
    (learnOffline now registry entry).nodeID = registry.nodeID := by
  by_cases home : entry.1 = registry.nodeID
  · rw [learnOffline_home home]
  · exact (get_learnOffline entry home).1

theorem nodeID_processGossipResponse (registry : Registry) (payload : GossipResponse) (now : Nat) :
    (processGossipResponse registry payload now).nodeID = registry.nodeID :=
  List.foldlRecOn _ _ (motive := fun state : Registry => state.nodeID = registry.nodeID)
    (List.foldlRecOn _ _ (motive := fun state : Registry => state.nodeID = registry.nodeID) rfl
      fun state same entry _ => (nodeID_learnOnline state entry).trans same)
    fun state same entry _ => (nodeID_learnOffline state entry).trans same

/-- Two registries with the same record of a node. -/
def SameRecord (id : String) (before after : Registry) : Prop :=
  after.nodeID = before.nodeID ∧ after.nodes.get (some id) = before.nodes.get (some id)

theorem SameRecord.trans (id : String) (first second third : Registry)
    (left : SameRecord id first second) (right : SameRecord id second third) :
    SameRecord id first third := ⟨right.1.trans left.1, right.2.trans left.2⟩

theorem sameRecord_learnOnline {id : String} (remote : id ≠ registry.nodeID)
    (entry : String × OnlineRow) (differs : entry.1 ≠ id) :
    SameRecord id registry (learnOnline now registry entry) := by
  refine ⟨nodeID_learnOnline registry entry, ?_⟩
  by_cases home : entry.1 = registry.nodeID
  · rw [learnOnline_home home]
  · exact (get_learnOnline entry home).2.2 _ (fun here => differs (Option.some.inj here).symm)
      fun here => remote (Option.some.inj here)

theorem sameRecord_learnOffline {id : String} (entry : String × ℚ) (differs : entry.1 ≠ id) :
    SameRecord id registry (learnOffline now registry entry) := by
  refine ⟨nodeID_learnOffline registry entry, ?_⟩
  by_cases home : entry.1 = registry.nodeID
  · rw [learnOffline_home home]
  · rw [(get_learnOffline entry home).2, if_neg fun here => differs (Option.some.inj here).symm]

theorem get_processGossipResponse (payload : GossipResponse) {id : String}
    (remote : id ≠ registry.nodeID) :
    ∃ middle, SameRecord id registry middle ∧
      (processGossipResponse registry payload now).nodeID = registry.nodeID ∧
      (processGossipResponse registry payload now).nodes.get (some id) =
        ((match payload.online.get id with
          | some row => learnedOnline middle now id row
          | none => registry.nodes.get (some id)).map fun node =>
          match payload.offline.get id with
          | some seq => learnedOffline now seq node
          | none => node) := by
  -- First the online nodes, then the offline ones.
  have first := payload.online.foldl_entries id (learnOnline now)
    (fun state => state.nodeID = registry.nodeID) (SameRecord id)
    (fun state entry same => (nodeID_learnOnline state entry).trans same) (fun _ => ⟨rfl, rfl⟩)
    (SameRecord.trans id)
    (fun state entry same differs => sameRecord_learnOnline (same ▸ remote) entry differs) rfl
  have second (informed : Registry) (same : informed.nodeID = registry.nodeID) :
      let after := payload.offline.entries.foldl (learnOffline now) informed
      after.nodeID = registry.nodeID ∧
        after.nodes.get (some id) = (informed.nodes.get (some id)).map fun node =>
          match payload.offline.get id with
          | some seq => learnedOffline now seq node
          | none => node := by
    have loop := payload.offline.foldl_entries id (learnOffline now)
      (fun state => state.nodeID = registry.nodeID) (SameRecord id)
      (fun state entry same => (nodeID_learnOffline state entry).trans same) (fun _ => ⟨rfl, rfl⟩)
      (SameRecord.trans id) (fun state entry _ differs => sameRecord_learnOffline entry differs)
      same
    cases claim : payload.offline.get id with
    | none =>
      rw [claim] at loop
      exact ⟨loop.1.trans same, loop.2.trans (by simp)⟩
    | some seq =>
      rw [claim] at loop
      obtain ⟨middle, known, before, after⟩ := loop
      obtain ⟨nodeID, records⟩ := @get_learnOffline middle now (id, seq) (known ▸ remote)
      refine ⟨after.1.trans (nodeID.trans known), ?_⟩
      rw [after.2, records, if_pos rfl, before.2]
  cases row : payload.online.get id with
  | none =>
    rw [row] at first
    obtain ⟨nodeID, stored⟩ := second _ first.1
    exact ⟨registry, ⟨rfl, rfl⟩, nodeID, stored.trans (by rw [first.2])⟩
  | some value =>
    rw [row] at first
    obtain ⟨middle, known, before, after⟩ := first
    obtain ⟨id', learned, _⟩ := @get_learnOnline middle now (id, value) (known ▸ remote)
    obtain ⟨nodeID, stored⟩ := second _ (after.1.trans (id'.trans known))
    exact ⟨middle, before, nodeID, stored.trans (by rw [after.2, learned])⟩

end Learn

section Sound

variable {registry : Registry}

theorem sound_modifyNode (sound : registry.Sound) (id : NodeID) {change : Node → Node}
    (same : ∀ node, (change node).self = node.self ∧ (change node).isLocal = node.isLocal)
    (awake : ∀ node, node.available = true → (change node).available = true) :
    (registry.modifyNode id change).Sound := by
  refine sound.modifyNode id change same fun node found ⟨service, member, here⟩ => ?_
  obtain ⟨stored, located, _, able⟩ := sound.hosted service member
  rw [here, found] at located
  cases located
  exact able.imp_left (awake node)

theorem sound_heartbeat (sound : registry.Sound) (id : NodeID) (cpu : Option Nat)
    (cpuSeq : Option ℚ) (now : Nat) :
    (registry.modifyNode id (·.heartbeat cpu cpuSeq now)).Sound := by
  refine sound_modifyNode sound id (fun node => ?_) fun node _ => ?_
  · unfold Node.heartbeat
    cases node.available <;> cases cpu <;> exact ⟨rfl, rfl⟩
  · unfold Node.heartbeat
    cases available : node.available <;> cases cpu <;> simp [available]

theorem sound_getLocalNodeInfo (sound : registry.Sound) (force : Bool) :
    (registry.getLocalNodeInfo force).1.Sound := by
  unfold Registry.getLocalNodeInfo
  split
  · exact sound
  · -- The mark for a stale info is no part of what is sound.
    have renewed (seq : ℚ) (info : Option NodeInfo) :
        Registry.Sound { registry.modifyNode (some registry.nodeID) (fun node =>
          { node with seq := seq, rawInfo := info }) with localNodeInfoInvalidated := .none } := by
      have changed : (registry.modifyNode (some registry.nodeID) fun node =>
          { node with seq := seq, rawInfo := info }).Sound :=
        sound_modifyNode sound _ (fun _ => ⟨rfl, rfl⟩) fun _ available => available
      exact ⟨changed.keyed, changed.home, changed.hosted, changed.distinct, changed.actions,
        changed.events⟩
    exact renewed _ _

theorem sound_setSeq (sound : registry.Sound) (id : NodeID) (seq : ℚ) :
    (registry.modifyNode id fun node => { node with seq := seq }).Sound :=
  sound_modifyNode sound id (fun _ => ⟨rfl, rfl⟩) fun _ available => available

theorem sound_answerNode {state : Registry × GossipResponse} (sound : state.1.Sound)
    (payload : GossipRequest) (now : Nat) (node : Node) :
    (answerNode payload now state node).1.Sound :=
  answerNode_rule sound (fun _ => sound_getLocalNodeInfo sound false)
    (fun _ _ => sound_setSeq sound _ _) (fun _ _ _ => sound_setSeq (sound.disconnected _ now) _ _)
    (fun _ _ _ => sound_getLocalNodeInfo (sound_setSeq sound _ _) true)
    fun _ _ _ _ => sound_heartbeat sound _ _ _ now

theorem sound_processGossipRequest (sound : registry.Sound) (payload : GossipRequest) (now : Nat) :
    (processGossipRequest registry payload now).1.Sound := by
  rw [(processGossipRequest_spec registry payload now).1]
  exact List.foldlRecOn _ _ (motive := fun state : Registry × GossipResponse => state.1.Sound) sound
    fun _ kept node _ => sound_answerNode kept payload now node

theorem sound_learnOnline (sound : registry.Sound) (now : Nat) (entry : String × OnlineRow) :
    (learnOnline now registry entry).Sound :=
  learnOnline_rule sound (fun _ _ _ => sound.processNodeInfo (Option.some_ne_none _) now)
    fun _ _ _ kept _ _ => sound_heartbeat kept _ _ _ now

theorem sound_learnOffline (sound : registry.Sound) (now : Nat) (entry : String × ℚ) :
    (learnOffline now registry entry).Sound :=
  learnOffline_rule sound (fun _ => sound_setSeq sound _ _)
    fun _ => sound_setSeq (sound.disconnected _ now) _ _

theorem sound_processGossipResponse (sound : registry.Sound) (payload : GossipResponse)
    (now : Nat) : (processGossipResponse registry payload now).Sound :=
  List.foldlRecOn _ _ (motive := Registry.Sound)
    (List.foldlRecOn _ _ (motive := Registry.Sound) sound
      fun _ kept entry _ => sound_learnOnline kept now entry)
    fun _ kept entry _ => sound_learnOffline kept now entry

end Sound

end Moleculer.Tcp
