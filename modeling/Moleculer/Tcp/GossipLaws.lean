import Moleculer.Registry.WellFormed
import Moleculer.Registry.Acceptance
import Moleculer.Tcp.Gossip

/-! Which gossip lets a node come back without its services. -/

namespace Moleculer.Tcp

open Base Cluster Cluster.Registry

section Rules

variable {motive : Registry → Prop} {registry : Registry} {now : Nat}

theorem answerNode_rule {payload : GossipRequest} {response : GossipResponse} {node : Node}
    (same : motive registry)
    (asked : node.isLocal = true → motive (registry.getLocalNodeInfo false).1)
    (renumbered : ∀ seq, node.seq ≤ seq →
      motive (registry.modifyNode node.self.id fun node => { node with seq := seq }))
    (left : ∀ seq, node.isLocal = false → node.seq ≤ seq →
      motive ((registry.disconnected node.self.id now).modifyNode node.self.id
        fun node => { node with seq := seq }))
    (defended : ∀ seq, node.isLocal = true → node.seq ≤ seq →
      motive (Registry.getLocalNodeInfo
        (registry.modifyNode node.self.id fun node => { node with seq := seq + 1 }) true).1)
    (beaten : ∀ cpu cpuSeq, node.available = true → above cpuSeq node.cpuSeq = true →
      motive (registry.modifyNode node.self.id (·.heartbeat cpu cpuSeq now))) :
    motive (answerNode payload now (registry, response) node).1 := by
  unfold answerNode
  dsimp only
  split
  · split
    · unfold getNodeInfo
      split
      · exact asked ‹_›
      · exact same
    · exact same
  · rename_i seq known
    have reached : node.seq ≤ seq := by
      have test := (Option.filter_eq_some_iff.mp known).2
      simp only [decide_eq_true_eq] at test
      grind
    split
    · split
      · split
        · exact renumbered seq reached
        · exact same
      · split
        · rename_i remote
          exact left seq (by simpa using remote) reached
        · rename_i isLocal
          exact defended seq (by simpa using isLocal) reached
    · split
      · split
        · split
          · exact beaten _ _ ‹_› ‹_›
          · split <;> exact same
        · exact same
      · exact same

/-- The first half of `learnOnline` for a remote node: the info of the row. -/
def learnInfo (now : Nat) (registry : Registry) (nodeID : String) (row : OnlineRow) : Registry :=
  match newerInfo registry nodeID row with
  | some info => registry.processNodeInfo { info with sender := some nodeID } now
  | none => registry

/-- The second half: the processor usage. -/
def learnUsage (now : Nat) (nodeID : String) (row : OnlineRow) (registry : Registry) : Registry :=
  match registry.nodes.get (some nodeID) with
  | some node =>
    if row.cpuSeq.any (· ≠ 0) && above row.cpuSeq node.cpuSeq then
      registry.modifyNode (some nodeID) (·.heartbeat row.usage row.cpuSeq now)
    else registry
  | none => registry

variable {entry : String × OnlineRow}

theorem learnOnline_home (home : entry.1 = registry.nodeID) :
    learnOnline now registry entry = registry := if_pos home

theorem learnOnline_remote (remote : entry.1 ≠ registry.nodeID) :
    learnOnline now registry entry =
      learnUsage now entry.1 entry.2 (learnInfo now registry entry.1 entry.2) := if_neg remote

theorem learnOffline_home {entry : String × ℚ} (home : entry.1 = registry.nodeID) :
    learnOffline now registry entry = registry := if_pos home

theorem learnOnline_rule (same : motive registry) (informed : ∀ info, entry.1 ≠ registry.nodeID →
      newerInfo registry entry.1 entry.2 = some info →
      motive (registry.processNodeInfo { info with sender := some entry.1 } now))
    (beaten : ∀ state node, entry.1 ≠ registry.nodeID → motive state →
      state.nodes.get (some entry.1) = some node → above entry.2.cpuSeq node.cpuSeq = true →
      motive (state.modifyNode (some entry.1) (·.heartbeat entry.2.usage entry.2.cpuSeq now))) :
    motive (learnOnline now registry entry) := by
  by_cases home : entry.1 = registry.nodeID
  · rw [learnOnline_home home]
    exact same
  · rw [learnOnline_remote home]
    have told : motive (learnInfo now registry entry.1 entry.2) := by
      unfold learnInfo
      split
      · exact informed _ home ‹_›
      · exact same
    unfold learnUsage
    split
    · split
      · rename_i node found newer
        exact beaten _ node home told found (Bool.and_eq_true _ _ ▸ newer).2
      · exact told
    · exact told

theorem learnOffline_rule {entry : String × ℚ} (same : motive registry)
    (renumbered : entry.1 ≠ registry.nodeID →
      motive (registry.modifyNode (some entry.1) fun node => { node with seq := entry.2 }))
    (left : entry.1 ≠ registry.nodeID →
      motive ((registry.disconnected (some entry.1) now).modifyNode (some entry.1)
        fun node => { node with seq := entry.2 })) :
    motive (learnOffline now registry entry) := by
  unfold learnOffline
  dsimp only
  split
  · exact same
  · split
    · exact same
    · split
      · split
        · exact left ‹_›
        · exact renumbered ‹_›
      · exact same

theorem discovery_rule {nodeID address : String} {port : Option Nat} (same : motive registry)
    (unknown : registry.nodes.get (some nodeID) = none →
      motive (addOfflineNode registry nodeID address port now))
    (moved : motive (registry.modifyNode (some nodeID) fun node => { node with
      port := port
      hostname := some address
      ipList := if address ∈ node.ipList then node.ipList else address :: node.ipList })) :
    motive (processGossipHello registry nodeID address port now) ∧
      motive (udpMessage registry nodeID address port now) := by
  unfold processGossipHello udpMessage
  constructor
  · split
    · exact unknown ‹_›
    · exact same
  · split
    · exact same
    · split
      · exact unknown ‹_›
      · split
        · exact same
        · exact moved

end Rules

variable {registry : Registry} {nodeID : String} {row : OnlineRow}

theorem stored_values (sound : registry.Sound) {node : Node} (member : node ∈ registry.nodes.values)
    : registry.nodes.get node.self.id = some node := by
  obtain ⟨id, found⟩ := OrderedMap.mem_values_iff.mp member
  rw [(sound.keyed id node found).1]
  exact found

theorem nodup_values (sound : registry.Sound) :
    (registry.nodes.values.map fun node => node.self.id).Nodup := by
  have keys : registry.nodes.values.map (fun node => node.self.id) = registry.nodes.keys := by
    rw [OrderedMap.values, List.map_map, OrderedMap.keys]
    apply List.map_congr_left
    rintro ⟨id, node⟩ member
    exact (sound.keyed id node (OrderedMap.mem_entries_iff.mp member)).1
  rw [keys]
  exact registry.nodes.nodup

/-- The catalog holds exactly the services that a node lists. -/
def Serves (registry : Registry) (id : NodeID) (node : Node) : Prop :=
  ∀ fullName, (∃ service ∈ registry.refs, service.node.id = id ∧ service.fullName = fullName) ↔
    ∃ svc ∈ node.services, svc.fullName = some fullName

/-- A sound registry in which every remote node that is available has its services. -/
structure Good (registry : Registry) : Prop where
  sound : registry.Sound
  registered : ∀ id node, id ≠ some registry.nodeID → registry.nodes.get id = some node →
    node.available = true → Serves registry id node

/-- Two registries that differ at the local node and at the node of one id only. -/
structure KeptBut (id : NodeID) (before after : Registry) : Prop where
  nodeID : after.nodeID = before.nodeID
  nodes : ∀ other, other ≠ id → other ≠ some before.nodeID →
    after.nodes.get other = before.nodes.get other
  refs : ∀ service : ServiceRef, service.node.id ≠ id → service.node.id ≠ some before.nodeID →
    (service ∈ after.refs ↔ service ∈ before.refs)

namespace KeptBut

variable {id : NodeID}

theorem refl (registry : Registry) : KeptBut id registry registry :=
  ⟨rfl, fun _ _ _ => rfl, fun _ _ _ => Iff.rfl⟩

theorem trans {first second third : Registry} (left : KeptBut id first second)
    (right : KeptBut id second third) : KeptBut id first third := by
  refine ⟨right.nodeID.trans left.nodeID, fun other differs foreign => ?_,
    fun service differs foreign => ?_⟩
  · rw [right.nodes other differs (left.nodeID ▸ foreign), left.nodes other differs foreign]
  · rw [right.refs service differs (left.nodeID ▸ foreign), left.refs service differs foreign]

theorem modifyNode (registry : Registry) (id : NodeID) (change : Node → Node) :
    KeptBut id registry (registry.modifyNode id change) := by
  refine ⟨rfl, fun other differs _ => ?_, fun _ _ _ => Iff.rfl⟩
  simp only [Registry.modifyNode, OrderedMap.get_modify, if_neg differs]

theorem of_local {before after : Registry} (kept : KeptBut (some before.nodeID) before after)
    (id : NodeID) : KeptBut id before after :=
  ⟨kept.nodeID, fun other _ foreign => kept.nodes other foreign foreign,
    fun service _ foreign => kept.refs service foreign foreign⟩

end KeptBut

theorem Good.of_keptBut {before after : Registry} (good : Good before) (sound : after.Sound)
    {id : NodeID} (kept : KeptBut id before after)
    (here : id ≠ some before.nodeID → ∀ node, after.nodes.get id = some node →
      node.available = true → Serves after id node) : Good after := by
  refine ⟨sound, fun other node foreign found available => ?_⟩
  rw [kept.nodeID] at foreign
  by_cases same : other = id
  · subst same
    exact here foreign node found available
  · rw [kept.nodes other same foreign] at found
    intro fullName
    rw [← good.registered other node foreign found available fullName]
    -- The services of the other node are the same ones.
    constructor
    · rintro ⟨service, member, place, full⟩
      exact ⟨service, (kept.refs service (by rwa [place]) (by rwa [place])).mp member, place, full⟩
    · rintro ⟨service, member, place, full⟩
      exact ⟨service, (kept.refs service (by rwa [place]) (by rwa [place])).mpr member, place, full⟩

theorem Good.modifyNode (good : Good registry) (id : NodeID) (change : Node → Node)
    (same : ∀ node, (change node).self = node.self ∧ (change node).isLocal = node.isLocal ∧
      (change node).services = node.services)
    (awake : ∀ node, node.available = true → (change node).available = true)
    (asleep : id ≠ some registry.nodeID → ∀ node, registry.nodes.get id = some node →
      (change node).available = true → node.available = true) :
    Good (registry.modifyNode id change) := by
  refine good.of_keptBut ?_ (.modifyNode registry id change) fun foreign node found available => ?_
  · refine good.sound.modifyNode id change (fun node => ⟨(same node).1, (same node).2.1⟩) ?_
    rintro node found ⟨service, member, rfl⟩
    obtain ⟨stored, located, _, able⟩ := good.sound.hosted service member
    rw [found] at located
    cases located
    exact able.imp (awake node) id
  · rw [Registry.modifyNode, OrderedMap.get_modify, if_pos rfl] at found
    obtain ⟨old, located, rfl⟩ := Option.map_eq_some_iff.mp found
    have serves := good.registered id old foreign located (asleep foreign old located available)
    intro fullName
    rw [(same old).2.2]
    exact serves fullName

theorem Good.setSeq (good : Good registry) (id : NodeID) (seq : ℚ) :
    Good (registry.modifyNode id fun node => { node with seq := seq }) :=
  good.modifyNode id _ (fun _ => ⟨rfl, rfl, rfl⟩) (fun _ available => available)
    (fun _ _ _ available => available)

theorem Good.heartbeat (good : Good registry) (id : NodeID) (cpu : Option Nat) (cpuSeq : Option ℚ)
    (now : Nat) (online : id ≠ some registry.nodeID → ∀ node, registry.nodes.get id = some node →
      node.available = true) :
    Good (registry.modifyNode id (·.heartbeat cpu cpuSeq now)) := by
  have fields (node : Node) : (node.heartbeat cpu cpuSeq now).self = node.self ∧
      (node.heartbeat cpu cpuSeq now).isLocal = node.isLocal ∧
      (node.heartbeat cpu cpuSeq now).services = node.services ∧
      (node.heartbeat cpu cpuSeq now).available = true := by
    unfold Node.heartbeat
    cases available : node.available <;> cases cpu <;> simp [available]
  exact good.modifyNode id _ (fun node => ⟨(fields node).1, (fields node).2.1, (fields node).2.2.1⟩)
    (fun node _ => (fields node).2.2.2) (fun foreign node found _ => online foreign node found)

theorem Good.renew (good : Good registry) (seq : ℚ) (rawInfo : Option NodeInfo) (id : NodeID) :
    Good { registry.modifyNode (some registry.nodeID) (fun node =>
        { node with seq := seq, rawInfo := rawInfo }) with localNodeInfoInvalidated := .none } ∧
      KeptBut id registry { registry.modifyNode (some registry.nodeID) (fun node =>
        { node with seq := seq, rawInfo := rawInfo }) with localNodeInfoInvalidated := .none } := by
  have renewed := good.modifyNode (some registry.nodeID)
    (fun node => { node with seq := seq, rawInfo := rawInfo }) (fun _ => ⟨rfl, rfl, rfl⟩)
    (fun _ available => available) (fun foreign => absurd rfl foreign)
  have kept := (KeptBut.modifyNode registry (some registry.nodeID)
    fun node => { node with seq := seq, rawInfo := rawInfo }).of_local id
  exact ⟨⟨⟨renewed.sound.keyed, renewed.sound.home, renewed.sound.hosted, renewed.sound.distinct,
    renewed.sound.actions, renewed.sound.events⟩, renewed.registered⟩,
    ⟨kept.nodeID, kept.nodes, kept.refs⟩⟩

theorem Good.getLocalNodeInfo (good : Good registry) (force : Bool) (id : NodeID) :
    Good (registry.getLocalNodeInfo force).1 ∧
      KeptBut id registry (registry.getLocalNodeInfo force).1 := by
  unfold Registry.getLocalNodeInfo
  split
  · exact ⟨good, .refl registry⟩
  · exact good.renew _ _ id

/-- What `disconnected` does to the node, and to nothing else. -/
theorem disconnected_spec (sound : registry.Sound) (id : NodeID) (now : Nat) :
    KeptBut id registry (registry.disconnected id now) ∧
      ∀ node, (registry.disconnected id now).nodes.get id = some node → node.available = false := by
  unfold Registry.disconnected
  cases found : registry.nodes.get id with
  | none => exact ⟨.refl registry, fun node located => by rw [found] at located; cases located⟩
  | some stored =>
    have self := (sound.keyed id stored found).1
    dsimp only
    split
    · have swapped : Registry.unregisterServicesByNode
          (registry.modifyNode id (·.disconnected now)) stored.self.id =
          (registry.unregisterServicesByNode stored.self.id).modifyNode id (·.disconnected now) :=
        foldl_removeItem_modifyNode registry id _ _
      have members := (sound.unregisterServicesByNode stored.self.id).2
      obtain ⟨nodes, nodeID⟩ := nodes_unregisterServicesByNode registry stored.self.id
      have removed : KeptBut id registry (registry.unregisterServicesByNode stored.self.id) := by
        refine ⟨nodeID, fun other _ _ => by rw [nodes], fun service differs _ => ?_⟩
        rw [members, self]
        exact and_iff_left differs
      rw [swapped]
      refine ⟨removed.trans (.modifyNode _ id _), fun node located => ?_⟩
      rw [Registry.modifyNode, OrderedMap.get_modify, if_pos rfl, nodes, found] at located
      cases located
      simp [Node.disconnected, ‹stored.available = true›]
    · rename_i offline
      refine ⟨.refl registry, fun node located => ?_⟩
      rw [found] at located
      cases located
      simpa using offline

theorem Good.disconnected (good : Good registry) (id : NodeID) (now : Nat) :
    Good (registry.disconnected id now) := by
  obtain ⟨kept, gone⟩ := disconnected_spec good.sound id now
  refine good.of_keptBut (good.sound.disconnected id now) kept fun _ node found available => ?_
  rw [gone node found] at available
  cases available

theorem sound_addOfflineNode (sound : registry.Sound) {id : String}
    (unknown : registry.nodes.get (some id) = none) (address : String) (port : Option Nat)
    (now : Nat) : (addOfflineNode registry id address port now).Sound := by
  have remote : id ≠ registry.nodeID := by
    rintro rfl
    have home := sound.home
    rw [unknown] at home
    cases home
  have absent : ∀ service ∈ registry.refs, service.node.id ≠ some id := by
    intro service member here
    obtain ⟨node, located, _⟩ := sound.hosted service member
    rw [here, unknown] at located
    cases located
  refine ⟨?_, ?_, ?_, sound.distinct, sound.actions, sound.events⟩
  · intro other node found
    simp only [Tcp.addOfflineNode, OrderedMap.get_set] at found
    split at found
    · rename_i here
      cases found
      subst here
      refine ⟨rfl, Option.some_ne_none id, ?_⟩
      constructor
      · intro isLocal
        cases isLocal
      · intro here
        exact absurd (Option.some.inj here) remote
    · exact sound.keyed other node found
  · simp only [Tcp.addOfflineNode, OrderedMap.get_set]
    split
    · rfl
    · exact sound.home
  · intro service member
    simp only [Tcp.addOfflineNode, OrderedMap.get_set, if_neg (absent service member)]
    exact sound.hosted service member

theorem Good.addOfflineNode (good : Good registry) {id : String}
    (unknown : registry.nodes.get (some id) = none) (address : String) (port : Option Nat)
    (now : Nat) : Good (addOfflineNode registry id address port now) := by
  have kept : KeptBut (some id) registry (Tcp.addOfflineNode registry id address port now) := by
    refine ⟨rfl, fun other differs _ => ?_, fun _ _ _ => Iff.rfl⟩
    simp only [Tcp.addOfflineNode, OrderedMap.get_set, if_neg differs]
  refine good.of_keptBut (sound_addOfflineNode good.sound unknown address port now) kept ?_
  intro _ node found available
  simp only [Tcp.addOfflineNode, OrderedMap.get_set, if_true] at found
  cases found
  cases available

theorem Good.registerLocalService (good : Good registry) (svc : ServiceInfo) :
    Good (registry.registerLocalService svc) := by
  have kept : KeptBut (some registry.nodeID) registry (registry.registerLocalService svc) := by
    unfold Registry.registerLocalService
    split
    · exact .refl registry
    · have offered := (keeps_offerActions
        (registry.addService registry.localNode.self svc true).1 registry.localNode.self
        registry.localNode.isLocal (registry.addService registry.localNode.self svc true).2
        svc.actions).trans (keeps_offerEvents _ registry.localNode.self
          (registry.addService registry.localNode.self svc true).2 svc.events)
      refine ⟨offered.nodeID, fun other differs _ => ?_, fun service differs _ => ?_⟩
      · simp only [Registry.modifyNode, OrderedMap.get_modify, if_neg differs]
        rw [offered.nodes]
        rfl
      · have grown : (registry.addService registry.localNode.self svc true).1.refs =
            registry.refs ++ [(registry.addService registry.localNode.self svc true).2] := by
          simp [refs, addService, ServiceItem.new]
        have apart : service ≠ (registry.addService registry.localNode.self svc true).2 := by
          rintro rfl
          exact differs good.sound.localNode_id
        -- Only the new service comes in, and it lies on the local node.
        refine (Iff.of_eq (congrArg (service ∈ ·) (offered.refs.trans grown))).trans ?_
        rw [List.mem_append, List.mem_singleton]
        exact or_iff_left apart
  exact good.of_keptBut (good.sound.registerLocalService svc) kept fun foreign => absurd rfl foreign

theorem Good.answerNode {state : Registry × GossipResponse} (good : Good state.1)
    (payload : GossipRequest) (now : Nat) {node : Node}
    (live : node.self.id ≠ some state.1.nodeID → state.1.nodes.get node.self.id = some node) :
    Good (answerNode payload now state node).1 ∧
      KeptBut node.self.id state.1 (answerNode payload now state node).1 := by
  obtain ⟨registry, response⟩ := state
  dsimp only at good live ⊢
  refine answerNode_rule (motive := fun after => Good after ∧ KeptBut node.self.id registry after)
    ⟨good, .refl registry⟩ ?_ ?_ ?_ ?_ ?_
  · exact fun _ => good.getLocalNodeInfo false node.self.id
  · exact fun seq _ => ⟨good.setSeq _ seq, .modifyNode registry _ _⟩
  · exact fun seq _ _ => ⟨(good.disconnected _ now).setSeq _ seq,
      (disconnected_spec good.sound _ now).1.trans (.modifyNode _ _ _)⟩
  · -- The local node defends itself with a higher number.
    intro seq _ _
    obtain ⟨after, kept⟩ := (good.setSeq node.self.id (seq + 1)).getLocalNodeInfo true
      node.self.id
    exact ⟨after, (KeptBut.modifyNode registry _ _).trans kept⟩
  · intro cpu cpuSeq available _
    refine ⟨good.heartbeat _ cpu cpuSeq now fun foreign stored found => ?_,
      .modifyNode registry _ _⟩
    rw [live foreign] at found
    cases found
    exact available

theorem good_answerNodes (state : Registry × GossipResponse) (good : Good state.1)
    (payload : GossipRequest) (now : Nat) {nodes : List Node}
    (distinct : (nodes.map fun node => node.self.id).Nodup)
    (live : ∀ node ∈ nodes, node.self.id ≠ some state.1.nodeID →
      state.1.nodes.get node.self.id = some node) :
    Good (nodes.foldl (Tcp.answerNode payload now) state).1 := by
  induction nodes generalizing state with
  | nil => exact good
  | cons node rest ih =>
    rw [List.map_cons, List.nodup_cons] at distinct
    obtain ⟨first, others⟩ := List.forall_mem_cons.mp live
    obtain ⟨after, kept⟩ := good.answerNode payload now first
    refine ih _ after distinct.2 fun other member foreign => ?_
    -- The nodes that follow are still the ones that were listed.
    rw [kept.nodeID] at foreign
    rw [kept.nodes _ (fun same => distinct.1 (List.mem_map.mpr ⟨other, member, same⟩)) foreign]
    exact others other member foreign

/-- `processGossipRequest` never brings a node back. -/
theorem Good.processGossipRequest (good : Good registry) (payload : GossipRequest) (now : Nat) :
    Good (Tcp.processGossipRequest registry payload now).1 := by
  have answered := good_answerNodes (registry, ⟨.empty, .empty⟩) good payload now
    (nodup_values good.sound) fun node member _ => stored_values good.sound member
  unfold Tcp.processGossipRequest
  dsimp only
  split
  · exact answered
  · split <;> exact answered

/-- A row of a response that cannot bring a node back without its services. -/
structure Sane (registry : Registry) (nodeID : String) (row : OnlineRow) : Prop where
  /-- An info that is taken over has a list of services, and its node has an id. -/
  complete : ∀ info, newerInfo registry nodeID row = some info →
    nodeID ≠ "" ∧ info.services ≠ none
  /-- Without such an info, there is no newer heartbeat of a node that is offline. -/
  silent : newerInfo registry nodeID row = none → ∀ node,
    registry.nodes.get (some nodeID) = some node → node.available = false →
    (row.cpuSeq.any (· ≠ 0) && above row.cpuSeq node.cpuSeq) = false

theorem accepts_newerInfo {info : NodeInfo} (newer : newerInfo registry nodeID row = some info)
    (now : Nat) :
    registry.Accepts { info with sender := some nodeID } now := by
  obtain ⟨_, test⟩ := Option.filter_eq_some_iff.mp newer
  cases found : registry.nodes.get (some nodeID) with
  | none => exact accepts_of_unseen now found
  | some node =>
    rw [found] at test
    obtain ⟨seq, numbered, higher⟩ := (Option.any_eq_true _ _).mp test
    exact accepts_of_newer now found numbered (by simpa using higher)

theorem Good.takeOver (good : Good registry) (now : Nat) {info : NodeInfo}
    (newer : newerInfo registry nodeID row = some info) (remote : nodeID ≠ registry.nodeID)
    (nonempty : nodeID ≠ "") (complete : info.services ≠ none) :
    Good (registry.processNodeInfo { info with sender := some nodeID } now) ∧
      KeptBut (some nodeID) registry
        (registry.processNodeInfo { info with sender := some nodeID } now) ∧
      ∀ node, (registry.processNodeInfo { info with sender := some nodeID } now).nodes.get
        (some nodeID) = some node → node.available = true := by
  obtain ⟨serviceList, lists⟩ := Option.ne_none_iff_exists'.mp complete
  have sender : ({ info with sender := some nodeID } : NodeInfo).sender = some nodeID := rfl
  obtain ⟨sound, id, ⟨record, stored, available, listed⟩, others, here, rest⟩ :=
    good.sound.processNodeInfo_registers sender nonempty remote lists
      (accepts_newerInfo newer now)
  have kept : KeptBut (some nodeID) registry
      (registry.processNodeInfo { info with sender := some nodeID } now) :=
    ⟨id, others, fun service differs _ => rest service differs⟩
  refine ⟨good.of_keptBut sound kept fun _ node found _ => ?_, kept, fun node found => ?_⟩
  · rw [stored] at found
    cases found
    intro fullName
    rw [here fullName, listed]
    simp [ServiceInfo.complete]
  · rw [stored] at found
    cases found
    exact available

theorem Good.learnOnline (good : Good registry) (now : Nat) {entry : String × OnlineRow}
    (sane : entry.1 ≠ registry.nodeID → Sane registry entry.1 entry.2) :
    Good (Tcp.learnOnline now registry entry) ∧
      KeptBut (some entry.1) registry (Tcp.learnOnline now registry entry) := by
  obtain ⟨nodeID, row⟩ := entry
  by_cases remote : nodeID = registry.nodeID
  · rw [learnOnline_home remote]
    exact ⟨good, .refl registry⟩
  · rw [learnOnline_remote remote]
    have sane := sane remote
    unfold learnUsage learnInfo
    dsimp only at sane ⊢
    cases newer : newerInfo registry nodeID row with
    | none =>
      dsimp only
      split
      · rename_i node found
        split
        · -- The heartbeat is not one of a node that is offline.
          rename_i beats
          refine ⟨good.heartbeat _ _ _ now fun _ stored located => ?_, .modifyNode registry _ _⟩
          rw [found] at located
          cases located
          by_contra offline
          rw [sane.silent newer node found (by simpa using offline)] at beats
          cases beats
        · exact ⟨good, .refl registry⟩
      · exact ⟨good, .refl registry⟩
    | some info =>
      obtain ⟨nonempty, complete⟩ := sane.complete info newer
      obtain ⟨after, kept, online⟩ := good.takeOver now newer remote nonempty complete
      dsimp only
      split
      · split
        · exact ⟨after.heartbeat _ _ _ now fun _ stored located => online stored located,
            kept.trans (.modifyNode _ _ _)⟩
        · exact ⟨after, kept⟩
      · exact ⟨after, kept⟩

theorem Sane.of_get {before after : Registry} (sane : Sane before nodeID row)
    (same : after.nodes.get (some nodeID) = before.nodes.get (some nodeID)) :
    Sane after nodeID row := by
  have newer : newerInfo after nodeID row = newerInfo before nodeID row := by
    unfold newerInfo
    rw [same]
  refine ⟨fun info found => sane.complete info (newer ▸ found), fun none_ node found => ?_⟩
  exact sane.silent (newer ▸ none_) node (same ▸ found)

theorem Good.learnAllOnline (good : Good registry) (now : Nat) {entries : List (String × OnlineRow)}
    (distinct : (entries.map Prod.fst).Nodup)
    (sane : ∀ entry ∈ entries, entry.1 ≠ registry.nodeID → Sane registry entry.1 entry.2) :
    Good (entries.foldl (Tcp.learnOnline now) registry) := by
  induction entries generalizing registry with
  | nil => exact good
  | cons entry rest ih =>
    rw [List.map_cons, List.nodup_cons] at distinct
    obtain ⟨first, others⟩ := List.forall_mem_cons.mp sane
    obtain ⟨after, kept⟩ := good.learnOnline now first
    refine ih after distinct.2 fun other member remote => ?_
    rw [kept.nodeID] at remote
    -- The records of the rows that follow have not changed.
    refine (others other member remote).of_get (kept.nodes _ ?_ (by simpa using remote))
    intro same
    exact distinct.1 (List.mem_map.mpr ⟨other, member, Option.some.inj same⟩)

theorem Good.learnOffline (good : Good registry) (now : Nat) (entry : String × ℚ) :
    Good (Tcp.learnOffline now registry entry) :=
  learnOffline_rule good (fun _ => good.setSeq _ _) fun _ => (good.disconnected _ now).setSeq _ _

/-- An input that cannot bring a node back without its services. -/
def Orderly (registry : Registry) : GossipInput → Prop
  | .response payload _ => ∀ entry ∈ payload.online.entries, entry.1 ≠ registry.nodeID →
      Sane registry entry.1 entry.2
  | _ => True

theorem Good.gossipStep (good : Good registry) {input : GossipInput}
    (orderly : Orderly registry input) : Good (Tcp.gossipStep registry input) := by
  have discovered (nodeID address : String) (port : Option Nat) (now : Nat) :=
    discovery_rule good (fun unknown => good.addOfflineNode unknown address port now)
      (good.modifyNode (some nodeID) _ (fun _ => ⟨rfl, rfl, rfl⟩) (fun _ available => available)
        fun _ _ _ available => available)
  cases input with
  | request payload now => exact good.processGossipRequest payload now
  | response payload now =>
    exact List.foldlRecOn payload.offline.entries _
      (good.learnAllOnline now payload.online.nodup orderly)
      fun _ kept entry _ => kept.learnOffline now entry
  | hello sender host port now => exact (discovered sender host port now).1
  | udp nodeID address port now => exact (discovered nodeID address port now).2
  | writerClosed nodeID now => exact good.disconnected nodeID now
  | registerLocalService svc => exact good.registerLocalService svc

theorem good_create (nodeID instanceID : String) (now : Nat) :
    Good (create nodeID instanceID now) := by
  refine ⟨sound_create nodeID instanceID now, fun id node foreign found _ => ?_⟩
  change id ≠ some nodeID at foreign
  simp only [createWith, OrderedMap.get_set, OrderedMap.get_empty, if_neg foreign] at found
  cases found

/-- The service catalog holds exactly the services that each available remote node lists. -/
def ServicesRegistered (registry : Registry) : Prop :=
  ∀ id node, id ≠ some registry.nodeID → registry.nodes.get id = some node →
    node.available = true → ∀ fullName,
      (∃ item ∈ registry.services, item.self.node.id = id ∧ item.self.fullName = fullName) ↔
        ∃ svc ∈ node.services, svc.fullName = some fullName

/-- Along every run of orderly gossip, available nodes have their services registered. -/
theorem servicesRegistered_run (nodeID instanceID : String) (now : Nat)
    (inputs : List GossipInput)
    (orderly : Meets gossipStep Orderly (create nodeID instanceID now) inputs) :
    ServicesRegistered (run gossipStep (create nodeID instanceID now) inputs) := by
  have good : Good (run gossipStep (create nodeID instanceID now) inputs) :=
    run_invariant (fun _ _ good orderly => good.gossipStep orderly)
      (good_create nodeID instanceID now) orderly
  intro id node foreign found available fullName
  rw [← good.registered id node foreign found available fullName]
  simp [refs]

/-- A response with the first info of a remote node. -/
def firstResponse : GossipResponse :=
  ⟨.set .empty "remote" (.infoAndCpu (some (postsInfo none)) (some 1) (some 10)), .empty⟩

/-- A response with a newer heartbeat of the remote node. -/
def beatResponse : GossipResponse :=
  ⟨.set .empty "remote" (.cpu (some 2) (some 20)), .empty⟩

/-- A node says hello, is learned of with its services, and leaves. -/
theorem servicesRegistered_run_leaving :
    ServicesRegistered (run gossipStep (create "local" "instance" 0)
      [.hello "remote" "host" none 1, .response firstResponse 2,
        .writerClosed (some "remote") 3]) := by
  refine servicesRegistered_run "local" "instance" 0 _ ⟨trivial, ?_, trivial, trivial⟩
  intro entry member _
  rw [List.mem_singleton.mp member]
  constructor
  · intro info found
    cases found
    exact ⟨by decide, by decide⟩
  · intro none_
    cases none_

/-- A heartbeat that arrives after the node has left brings it back without its services. -/
theorem late_heartbeat_revives_node :
    ¬ ServicesRegistered (run gossipStep (create "local" "instance" 0)
      [.response firstResponse 1, .writerClosed (some "remote") 2, .response beatResponse 3]) := by
  intro registered
  have listed := (registered (some "remote") _ (by decide) rfl rfl "posts").mpr
    ⟨posts.complete, List.mem_cons_self, rfl⟩
  obtain ⟨item, member, _⟩ := listed
  cases member

end Moleculer.Tcp
