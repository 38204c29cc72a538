import Moleculer.Registry.Acceptance
import Moleculer.Registry.InfoOrder
import Moleculer.Registry.WellFormed

/-! Beats of remote nodes that are read from a store, and how they bring a stale record of a node up
to date (`discoverers/base.js`). -/

namespace Moleculer.Cluster

open Base

/-- The sequence number of a beat. -/
inductive BeatSeq where
  | missing
  | number (value : ℚ)
  /-- A number that no node has, such as `NaN`. -/
  | other
  deriving DecidableEq, Repr

/-- The payload of a beat, as far as it is looked at. -/
structure Beat where
  seq : BeatSeq
  instanceID : Option String
  cpu : Option Nat
  cpuSeq : Option ℚ
  deriving DecidableEq, Repr

/-- The beat has a number, and it is not that of the node. -/
def Beat.renumbered (payload : Beat) (node : Node) : Bool :=
  match payload.seq with
  | .missing => false
  | .number seq => node.seq ≠ seq
  | .other => true

/-- What `heartbeatReceived` does with a beat. -/
inductive Reaction where
  | discoverNode
  | heartbeat
  /-- `startsWith` of a missing `instanceID`. -/
  | typeError
  deriving DecidableEq, Repr

/-- The choice that `heartbeatReceived` makes. -/
def Beat.reaction (payload : Beat) : Option Node → Reaction
  | none => .discoverNode
  | some node =>
    if !node.available then .discoverNode
    else if payload.renumbered node then .discoverNode
    else
      match payload.instanceID, node.instanceID with
      | none, _ => .heartbeat
      | some _, none => .typeError
      | some part, some instanceID =>
        if part.toList.isPrefixOf instanceID.toList then .heartbeat else .discoverNode

namespace Registry

/-- `heartbeatReceived`: the reaction to a beat. -/
def reaction (registry : Registry) (nodeID : NodeID) (payload : Beat) : Reaction :=
  payload.reaction (registry.nodes.get nodeID)

/-- `heartbeatReceived`: the registry right after it. -/
def heartbeatReceived (registry : Registry) (nodeID : NodeID) (payload : Beat) (now : Nat) :
    Registry :=
  match registry.reaction nodeID payload with
  | .heartbeat => registry.modifyNode nodeID (·.heartbeat payload.cpu payload.cpuSeq now)
  | _ => registry

/-- What happens to the registry of a broker with such a discoverer. -/
inductive Discovery where
  | operation (operation : Operation)
  | beat (nodeID : NodeID) (payload : Beat) (now : Nat)

/-- One step. -/
def discover (registry : Registry) : Discovery → Registry
  | .operation change => registry.step change
  | .beat nodeID payload now => registry.heartbeatReceived nodeID payload now

/-- Infos are stored with their sender. -/
def Discovery.Named : Discovery → Prop
  | .operation change => change.Named
  | .beat _ _ _ => True

/-- A registry that can come about. -/
def Reachable (registry : Registry) : Prop :=
  ∃ (nodeID instanceID : String) (now : Nat) (events : List Discovery),
    (∀ event ∈ events, event.Named) ∧
      registry = run discover (create nodeID instanceID now) events

end Registry

theorem Node.heartbeat_kept (node : Node) (cpu : Option Nat) (cpuSeq : Option ℚ) (now : Nat) :
    (node.heartbeat cpu cpuSeq now).self = node.self ∧
      (node.heartbeat cpu cpuSeq now).isLocal = node.isLocal ∧
      (node.heartbeat cpu cpuSeq now).seq = node.seq ∧
      (node.heartbeat cpu cpuSeq now).instanceID = node.instanceID ∧
      (node.heartbeat cpu cpuSeq now).available = true := by
  unfold Node.heartbeat
  cases available : node.available <;> cases cpu <;> simp [available]

theorem Beat.reaction_congr (payload : Beat) {one other : Node}
    (available : one.available = other.available) (seq : one.seq = other.seq)
    (instanceID : one.instanceID = other.instanceID) :
    payload.reaction (some one) = payload.reaction (some other) := by
  unfold Beat.reaction Beat.renumbered
  simp only [available, seq, instanceID]

namespace Registry

variable {registry : Registry}

theorem reaction_heartbeat {nodeID : NodeID} {payload : Beat}
    (taken : registry.reaction nodeID payload = .heartbeat) :
    ∃ node, registry.nodes.get nodeID = some node ∧ node.available = true := by
  unfold reaction at taken
  cases found : registry.nodes.get nodeID with
  | none => simp [found, Beat.reaction] at taken
  | some node =>
    cases online : node.available with
    | true => exact ⟨node, rfl, online⟩
    | false => simp [found, Beat.reaction, online] at taken

theorem get_heartbeatReceived (registry : Registry) (nodeID : NodeID) (payload : Beat) (now : Nat)
    (id : NodeID) :
    (registry.heartbeatReceived nodeID payload now).nodes.get id = registry.nodes.get id ∨
      ∃ node, registry.nodes.get id = some node ∧ node.available = true ∧
        (registry.heartbeatReceived nodeID payload now).nodes.get id =
          some (node.heartbeat payload.cpu payload.cpuSeq now) := by
  unfold heartbeatReceived
  split
  · rename_i taken
    obtain ⟨node, found, online⟩ := reaction_heartbeat taken
    rw [get_modifyNode]
    split
    · rename_i here
      subst here
      exact .inr ⟨node, found, online, by rw [found, Option.map_some]⟩
    · exact .inl rfl
  · exact .inl rfl

theorem nodeID_heartbeatReceived (registry : Registry) (nodeID : NodeID) (payload : Beat)
    (now : Nat) : (registry.heartbeatReceived nodeID payload now).nodeID = registry.nodeID ∧
      (registry.heartbeatReceived nodeID payload now).refs = registry.refs := by
  unfold heartbeatReceived
  split <;> exact ⟨rfl, rfl⟩

theorem Sound.heartbeatReceived (sound : registry.Sound) (nodeID : NodeID) (payload : Beat)
    (now : Nat) : (registry.heartbeatReceived nodeID payload now).Sound := by
  unfold Registry.heartbeatReceived
  split
  · refine sound.modifyNode nodeID _ (fun node => ?_) (fun node _ _ => .inl ?_)
    · have kept := node.heartbeat_kept payload.cpu payload.cpuSeq now
      exact ⟨kept.1, kept.2.1⟩
    · exact (node.heartbeat_kept payload.cpu payload.cpuSeq now).2.2.2.2
  · exact sound

theorem Older.accepts {payload : NodeInfo} (older : registry.Older payload) (now : Nat) :
    registry.Accepts payload now := by
  cases found : registry.nodes.get payload.sender with
  | none => exact accepts_of_unseen now found
  | some node =>
    unfold Accepts enterNode
    rw [found]
    by_cases online : node.available = true
    · -- The number is higher, or the instance is another one.
      have accepted : payload.newSeq > node.seq ∨ false = true ∨
          node.instanceID ≠ some payload.instanceID := by
        by_cases same : node.instanceID = some payload.instanceID
        · exact .inl (older node found online same)
        · exact .inr (.inr same)
      simp only [online, if_true, Node.update, if_pos accepted]
    · simp [online, Node.update]

theorem Reachable.sound (reachable : registry.Reachable) : registry.Sound := by
  obtain ⟨nodeID, instanceID, now, events, named, rfl⟩ := reachable
  have start := sound_create nodeID instanceID now
  generalize create nodeID instanceID now = initial at start
  -- The events come one after the other.
  induction events generalizing initial with
  | nil => exact start
  | cons event rest ih =>
    obtain ⟨first, others⟩ := List.forall_mem_cons.mp named
    refine ih others (initial.discover event) ?_
    cases event with
    | operation operation =>
      refine start.step operation ?_
      rintro payload now rfl
      exact first
    | beat nodeID payload now => exact start.heartbeatReceived nodeID payload now

/-- Every known node has an `instanceID`. -/
def Identified (registry : Registry) : Prop :=
  ∀ id node, registry.nodes.get id = some node → node.instanceID ≠ none

theorem NodesKept.identified {before after : Registry} (kept : NodesKept before after)
    (identified : before.Identified) : after.Identified := by
  intro id node found
  by_cases own : id = some before.nodeID
  · obtain ⟨services, home⟩ := kept.home
    subst own
    rw [home] at found
    obtain ⟨old, located, rfl⟩ := Option.map_eq_some_iff.mp found
    exact identified _ old located
  · rw [kept.others id own] at found
    exact identified id node found

theorem Identified.modifyNode (identified : registry.Identified) (id : NodeID)
    {change : Node → Node} (same : ∀ node, (change node).instanceID = node.instanceID) :
    (registry.modifyNode id change).Identified := by
  intro other node found
  rw [get_modifyNode] at found
  split at found
  · obtain ⟨old, located, rfl⟩ := Option.map_eq_some_iff.mp found
    rw [same]
    exact identified id old located
  · exact identified other node found

theorem instanceID_update (node : Node) (payload : NodeInfo) (isReconnected : Bool) :
    (node.update payload isReconnected).1.instanceID = some payload.instanceID := by
  unfold Node.update
  dsimp only
  split
  · rfl
  · rename_i refused
    by_contra differs
    exact refused (.inr (.inr differs))

theorem Identified.processNodeInfo (identified : registry.Identified) (payload : NodeInfo)
    (now : Nat) : (registry.processNodeInfo payload now).Identified := by
  have entered := (frame_enterNode registry payload.sender now).1
  have stored (state : Registry) (nodes : state.nodes = registry.nodes) (node : Node)
      (same : node.instanceID = some payload.instanceID) :
      Identified { state with nodes := state.nodes.set payload.sender node } := by
    intro id other found
    simp only [OrderedMap.get_set] at found
    split at found
    · cases found
      simp [same]
    · rw [nodes] at found
      exact identified id other found
  unfold Registry.processNodeInfo
  dsimp only
  split
  · refine (nodesKept_registerServices ..).identified (stored _ entered _ ?_)
    exact instanceID_update ..
  · exact stored _ entered _ (instanceID_update ..)

theorem Identified.checkOfflineNodes (identified : registry.Identified) (timeout now : Nat) :
    (registry.checkOfflineNodes timeout now).Identified := by
  unfold Registry.checkOfflineNodes
  split
  · exact identified
  · refine List.foldlRecOn _ _ (motive := Identified) identified fun state kept node _ => ?_
    unfold checkOfflineNode
    split
    · exact kept
    · split
      · exact kept.modifyNode _ fun _ => rfl
      · split
        · intro id other found
          simp only [OrderedMap.get_delete] at found
          split at found
          · cases found
          · exact kept id other found
        · exact kept

theorem Identified.discover (identified : registry.Identified) (event : Discovery) :
    (registry.discover event).Identified := by
  cases event with
  | operation change =>
    cases change with
    | registerLocalService svc =>
      exact (nodesKept_registerLocalService registry svc).identified identified
    | unregisterService fullName nodeID =>
      exact (nodesKept_unregisterService registry fullName nodeID).identified identified
    | processNodeInfo payload now => exact identified.processNodeInfo payload now
    | disconnected nodeID now =>
      intro id node found
      rw [Registry.discover, Registry.step, get_disconnected] at found
      split at found
      · obtain ⟨old, located, rfl⟩ := Option.map_eq_some_iff.mp found
        have kept := identified nodeID old located
        unfold Node.disconnected
        split <;> exact kept
      · exact identified id node found
    | checkOfflineNodes timeout now => exact identified.checkOfflineNodes timeout now
  | beat nodeID payload now =>
    unfold Registry.discover Registry.heartbeatReceived
    dsimp only
    split
    · exact identified.modifyNode _ fun node => (node.heartbeat_kept ..).2.2.2.1
    · exact identified

/-- Every node of a reachable registry has an `instanceID`. -/
theorem Reachable.identified (reachable : registry.Reachable) : registry.Identified := by
  obtain ⟨nodeID, instanceID, now, events, _, rfl⟩ := reachable
  have start : (create nodeID instanceID now).Identified := by
    intro id node found
    simp only [createWith, OrderedMap.get_set, OrderedMap.get_empty] at found
    split at found
    · cases found
      simp
    · cases found
  exact run_invariant (fun _ event kept _ => kept.discover event) start
    (meets_of_forall (fun _ _ => trivial) _ _)

end Registry

/-- A node as it stands in the store: what its INFO says, with a number that counts from one. -/
structure StoredNode where
  id : String
  instanceID : String
  seq : ℚ
  services : List ServiceInfo
  ipList : List String
  hostname : Option String
  port : Option Nat
  client : Json
  config : Json
  metadata : Json
  named : id ≠ ""
  counted : 0 < seq

namespace StoredNode

/-- The INFO of the node, as `sendLocalNodeInfo` stores it. -/
def info (stored : StoredNode) : NodeInfo where
  sender := some stored.id
  instanceID := stored.instanceID
  seq := some stored.seq
  services := some stored.services
  ipList := stored.ipList
  hostname := stored.hostname
  port := stored.port
  client := stored.client
  config := stored.config
  metadata := stored.metadata

/-- The beginning of the `instanceID` that is part of the key of the beat. -/
def instanceHash (stored : StoredNode) : String := String.ofList (stored.instanceID.toList.take 8)

/-- The beat of the node, read from its key. -/
def beat (stored : StoredNode) : Beat :=
  ⟨.number stored.seq, some stored.instanceHash, none, none⟩

/-- A registry has registered the services that the INFO lists. -/
def ListedIn (stored : StoredNode) (registry : Registry) : Prop :=
  ∀ fullName, (∃ service ∈ registry.refs, service.node.id = some stored.id ∧
    service.fullName = fullName) ↔ ∃ svc ∈ stored.services, svc.resolvedName = fullName

/-- What is known of the node is not newer than the INFO, and not something else under its
number. -/
def NotAhead (stored : StoredNode) (registry : Registry) : Prop :=
  ∀ node, registry.nodes.get (some stored.id) = some node → node.available = true →
    node.instanceID = some stored.instanceID → node.seq ≤ stored.seq ∧
      (node.seq = stored.seq → stored.ListedIn registry)

/-- The beat is handled, and the INFO is processed if it is asked for. -/
def deliver (stored : StoredNode) (registry : Registry) (now later : Nat) : Registry :=
  let heard := registry.heartbeatReceived (some stored.id) stored.beat now
  if registry.reaction (some stored.id) stored.beat = .discoverNode then
    heard.processNodeInfo stored.info later
  else heard

/-- The record of the node is up to date, and another beat does not ask for the INFO again. -/
structure UpToDate (stored : StoredNode) (registry : Registry) : Prop where
  record : ∃ node, registry.nodes.get (some stored.id) = some node ∧ node.available = true ∧
    node.seq = stored.seq ∧ node.instanceID = some stored.instanceID
  listed : stored.ListedIn registry
  quiet : registry.reaction (some stored.id) stored.beat = .heartbeat

/-- A record that is online under the number of the node is of the same instance, or of one that the
beat does not match. -/
def Distinguished (stored : StoredNode) (registry : Registry) : Prop :=
  ∀ node, registry.nodes.get (some stored.id) = some node → node.available = true →
    node.seq = stored.seq → node.instanceID = some stored.instanceID ∨
      ∃ other, node.instanceID = some other ∧
        ¬ stored.instanceHash.toList.isPrefixOf other.toList = true

variable {stored : StoredNode} {registry : Registry}

theorem isPrefixOf_instanceHash (stored : StoredNode) :
    stored.instanceHash.toList.isPrefixOf stored.instanceID.toList = true := by
  rw [instanceHash, String.toList_ofList, List.isPrefixOf_iff_prefix]
  exact List.take_prefix 8 _

theorem newSeq_info (stored : StoredNode) : stored.info.newSeq = stored.seq := by
  have positive := stored.counted
  show (if stored.seq = 0 then 1 else stored.seq) = stored.seq
  rw [if_neg (by grind)]

theorem reaction_current {node : Node}
    (found : registry.nodes.get (some stored.id) = some node) (online : node.available = true)
    (seq : node.seq = stored.seq) (instanceID : node.instanceID = some stored.instanceID) :
    registry.reaction (some stored.id) stored.beat = .heartbeat := by
  simp [Registry.reaction, found, Beat.reaction, Beat.renumbered, beat, online, seq, instanceID,
    stored.isPrefixOf_instanceHash]

theorem upToDate_processNodeInfo (sound : registry.Sound) (remote : stored.id ≠ registry.nodeID)
    (older : registry.Older stored.info) (now : Nat) :
    stored.UpToDate (registry.processNodeInfo stored.info now) := by
  have foreign : stored.info.sender ≠ some registry.nodeID := fun same =>
    remote (Option.some.inj same)
  obtain ⟨found, _⟩ := Registry.node_processNodeInfo now foreign
  obtain ⟨online, instanceID, _⟩ := registry.updatedNode_kept stored.info now
  have seq : (registry.updatedNode stored.info now).seq = stored.seq := by
    rw [← stored.newSeq_info]
    exact congrArg NodeRecord.seq (older.record now)
  have registers := sound.processNodeInfo_registers rfl stored.named remote rfl
    (older.accepts now)
  exact ⟨⟨_, found, online, seq, instanceID⟩, registers.2.2.2.2.1,
    reaction_current found online seq instanceID⟩

theorem older_of_discoverNode (behind : stored.NotAhead registry)
    (asked : registry.reaction (some stored.id) stored.beat = .discoverNode) :
    registry.Older stored.info := by
  intro node found online same
  rw [newSeq_info]
  obtain ⟨bounded, _⟩ := behind node found online same
  refine lt_of_le_of_ne bounded fun equal => ?_
  cases asked.symm.trans (reaction_current found online equal same)

theorem record_of_not_discoverNode
    (taken : registry.reaction (some stored.id) stored.beat ≠ .discoverNode) :
    ∃ node, registry.nodes.get (some stored.id) = some node ∧ node.available = true ∧
      node.seq = stored.seq ∧ ∀ other, node.instanceID = some other →
        stored.instanceHash.toList.isPrefixOf other.toList = true := by
  unfold Registry.reaction at taken
  cases found : registry.nodes.get (some stored.id) with
  | none => simp [found, Beat.reaction] at taken
  | some node =>
    have online : node.available = true := by
      cases offline : node.available with
      | true => rfl
      | false => simp [found, Beat.reaction, offline] at taken
    have seq : node.seq = stored.seq := by
      by_contra differs
      simp [found, Beat.reaction, Beat.renumbered, beat, online, differs] at taken
    refine ⟨node, rfl, online, seq, fun other instanceID => ?_⟩
    by_contra differs
    simp [found, Beat.reaction, Beat.renumbered, beat, online, seq, instanceID, differs] at taken

theorem get_deliver_of_not_discoverNode {node : Node} (now later : Nat)
    (taken : registry.reaction (some stored.id) stored.beat ≠ .discoverNode)
    (found : registry.nodes.get (some stored.id) = some node) (online : node.available = true) :
    ∃ heard, (stored.deliver registry now later).nodes.get (some stored.id) = some heard ∧
      heard.available = true ∧ heard.seq = node.seq ∧ heard.instanceID = node.instanceID := by
  rw [deliver, if_neg taken]
  obtain same | ⟨_, located, _, changed⟩ :=
    registry.get_heartbeatReceived (some stored.id) stored.beat now (some stored.id)
  · exact ⟨node, same.trans found, online, rfl, rfl⟩
  · cases located.symm.trans found
    have kept := node.heartbeat_kept stored.beat.cpu stored.beat.cpuSeq now
    exact ⟨_, changed, kept.2.2.2.2, kept.2.2.1, kept.2.2.2.1⟩

/-- After its beat was handled, and its INFO processed if that was asked for, the record of a node
is up to date exactly if it was not online with the same number for another instance that the beat
matches. -/
theorem up_to_date_iff (reachable : registry.Reachable) (remote : stored.id ≠ registry.nodeID)
    (behind : stored.NotAhead registry) (now later : Nat) :
    stored.UpToDate (stored.deliver registry now later) ↔ stored.Distinguished registry := by
  by_cases asked : registry.reaction (some stored.id) stored.beat = .discoverNode
  · -- The INFO is asked for only where it is accepted.
    have heard : registry.heartbeatReceived (some stored.id) stored.beat now = registry := by
      rw [Registry.heartbeatReceived, asked]
    refine iff_of_true ?_ fun node found online seq => ?_
    · rw [deliver, if_pos asked, heard]
      exact upToDate_processNodeInfo reachable.sound remote (older_of_discoverNode behind asked)
        later
    · cases instanceID : node.instanceID with
      | none =>
        simp [Registry.reaction, found, Beat.reaction, Beat.renumbered, beat, online, seq,
          instanceID] at asked
      | some other =>
        refine .inr ⟨other, rfl, fun matching => ?_⟩
        simp [Registry.reaction, found, Beat.reaction, Beat.renumbered, beat, online, seq,
          instanceID, matching] at asked
  · obtain ⟨node, found, online, seq, matching⟩ := record_of_not_discoverNode asked
    obtain ⟨heard, located, still, number, same⟩ :=
      get_deliver_of_not_discoverNode now later asked found online
    constructor
    · intro upToDate other there _ _
      obtain ⟨record, stands, _, _, instanceID⟩ := upToDate.record
      cases located.symm.trans stands
      cases found.symm.trans there
      exact .inl (same.symm.trans instanceID)
    · intro distinguished
      have instanceID : node.instanceID = some stored.instanceID := by
        obtain own | ⟨other, another, differs⟩ := distinguished node found online seq
        · exact own
        · exact absurd (matching other another) differs
      have refs : (stored.deliver registry now later).refs = registry.refs := by
        rw [deliver, if_neg asked]
        exact (registry.nodeID_heartbeatReceived ..).2
      refine ⟨⟨heard, located, still, number.trans seq, same.trans instanceID⟩, ?_,
        reaction_current located still (number.trans seq) (same.trans instanceID)⟩
      unfold ListedIn
      rw [refs]
      exact (behind node found online instanceID).2 seq

/-- A node without services, for the runs below. -/
def restarted (instanceID : String) : StoredNode where
  id := "node-2"
  instanceID := instanceID
  seq := 1
  services := []
  ipList := []
  hostname := none
  port := none
  client := default
  config := default
  metadata := default
  named := by decide
  counted := by decide

/-- A node that is not known yet. -/
theorem up_to_date_iff_unknown :
    (restarted "12345678-b").UpToDate
        ((restarted "12345678-b").deliver (Registry.create "node-1" "instance" 0) 1 2) ↔
      (restarted "12345678-b").Distinguished (Registry.create "node-1" "instance" 0) :=
  up_to_date_iff ⟨"node-1", "instance", 0, [], by simp, rfl⟩ (by decide)
    (fun _ found => (by cases found)) 1 2

/-- The other instance of the node is known, with a service. -/
def outdated : Registry :=
  run Registry.discover (Registry.create "node-1" "instance" 0)
    [.operation (.processNodeInfo { (restarted "12345678-a").info with
      services := some [Registry.posts] } 1)]

/-- A node restarts with the same number and an `instanceID` that begins like the old one: its old
record stays. -/
theorem same_hash_stays_stale :
    outdated.Reachable ∧ (restarted "12345678-b").NotAhead outdated ∧
      ¬ (restarted "12345678-b").UpToDate ((restarted "12345678-b").deliver outdated 2 3) := by
  refine ⟨⟨"node-1", "instance", 0, _, ?_, rfl⟩, fun node found _ same => ?_, fun upToDate => ?_⟩
  · simp [Registry.Discovery.Named, Registry.Operation.Named, restarted, info]
  · have known : (outdated.nodes.get (some "node-2")).map (·.instanceID) =
        some (some "12345678-a") := by decide +kernel
    have found : outdated.nodes.get (some "node-2") = some node := found
    rw [found, Option.map_some, same] at known
    exact absurd known (by decide)
  · obtain ⟨node, found, _, _, same⟩ := upToDate.record
    have known : (((restarted "12345678-b").deliver outdated 2 3).nodes.get (some "node-2")).map
        (·.instanceID) = some (some "12345678-a") := by decide +kernel
    have found : ((restarted "12345678-b").deliver outdated 2 3).nodes.get (some "node-2") =
        some node := found
    rw [found, Option.map_some, same] at known
    exact absurd known (by decide)

end StoredNode

end Moleculer.Cluster
