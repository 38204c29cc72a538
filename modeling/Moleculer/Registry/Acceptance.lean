import Moleculer.Registry.Soundness

/-! What an accepted info leaves in the node catalog and in the service catalog. -/

namespace Moleculer.Cluster

open Base

namespace Registry

/-- The info makes the registry register the services of its node again. -/
def Accepts (registry : Registry) (payload : NodeInfo) (now : Nat) : Prop :=
  let (_, node, isReconnected) := registry.enterNode payload.sender now
  (node.update payload isReconnected).2 = true

variable {registry : Registry} {payload : NodeInfo}

theorem accepts_of_unseen (now : Nat) (unseen : registry.nodes.get payload.sender = none) :
    registry.Accepts payload now := by
  simp [Accepts, enterNode, unseen, Node.update, Node.new]

theorem accepts_of_newer (now : Nat) {node : Node}
    (found : registry.nodes.get payload.sender = some node) {seq : ℚ}
    (numbered : payload.seq = some seq) (newer : node.seq < seq) :
    registry.Accepts payload now := by
  have higher : payload.newSeq > node.seq := by
    rw [NodeInfo.newSeq, numbered]
    dsimp only
    split <;> linarith
  unfold Accepts enterNode
  rw [found]
  dsimp only
  by_cases available : node.available = true
  · simp [available, Node.update, higher]
  · simp [available, Node.update]

/-- An accepted info registers its services for a node that is stored by then. -/
theorem Sound.processNodeInfo_accepted (sound : registry.Sound) {now : Nat} {id : String}
    {serviceList : List ServiceInfo} (sender : payload.sender = some id)
    (remote : id ≠ registry.nodeID) (lists : payload.services = some serviceList)
    (accepts : registry.Accepts payload now) :
    ∃ (stored : Registry) (node : NodeRef),
      registry.processNodeInfo payload now = stored.registerServices node false serviceList ∧
      stored.Sound ∧ stored.Hosts node ∧ node.id = some id ∧
      (∃ record : Node, stored.nodes = registry.nodes.set (some id) record ∧
        record.available = true ∧ record.services = serviceList.map (·.complete)) ∧
      stored.nodeID = registry.nodeID ∧ stored.services = registry.services ∧
      stored.actions = registry.actions ∧ stored.events = registry.events := by
  have named : payload.sender ≠ none := by
    rw [sender]
    exact Option.some_ne_none id
  have entering := sound.enterNode named now payload
    (some { payload with services := some (serviceList.map (·.complete)) })
    (serviceList.map (·.complete))
  have frame := frame_enterNode registry payload.sender now
  have entered : (registry.enterNode payload.sender now).2.1.isLocal = false ∧
      (registry.enterNode payload.sender now).2.1.available = true := by
    unfold Registry.enterNode
    cases found : registry.nodes.get payload.sender with
    | none => exact ⟨rfl, rfl⟩
    | some node =>
      have differs : ¬ node.isLocal = true := by
        rw [(sound.keyed _ node found).2.2, sender, Option.some.injEq]
        exact remote
      simp only [Bool.not_eq_true] at differs
      dsimp only
      split
      · exact ⟨differs, ‹_›⟩
      · exact ⟨differs, rfl⟩
  unfold Registry.processNodeInfo
  unfold Accepts at accepts
  generalize registry.enterNode payload.sender now = result at *
  obtain ⟨first, node, isReconnected⟩ := result
  dsimp only at *
  have online : (node.update payload isReconnected).1.available = true := by
    unfold Node.update
    dsimp only
    split <;> exact entered.2
  rw [lists, accepts, entered.1]
  refine ⟨_, node.self, rfl, entering.1, entering.2.1, entering.2.2.trans sender, ?_, frame.2⟩
  refine ⟨{ (node.update payload isReconnected).1 with
    services := serviceList.map (·.complete)
    rawInfo := some { payload with services := some (serviceList.map (·.complete)) } }, ?_, online,
    rfl⟩
  rw [sender, frame.1]

/-- After an accepted info, the catalogs hold its node with the services that it lists. -/
theorem Sound.processNodeInfo_registers (sound : registry.Sound) {now : Nat} {id : String}
    {serviceList : List ServiceInfo} (sender : payload.sender = some id) (nonempty : id ≠ "")
    (remote : id ≠ registry.nodeID) (lists : payload.services = some serviceList)
    (accepts : registry.Accepts payload now) :
    (registry.processNodeInfo payload now).Sound ∧
      (registry.processNodeInfo payload now).nodeID = registry.nodeID ∧
      (∃ record, (registry.processNodeInfo payload now).nodes.get (some id) = some record ∧
        record.available = true ∧ record.services = serviceList.map (·.complete)) ∧
      (∀ other, other ≠ some id → other ≠ some registry.nodeID →
        (registry.processNodeInfo payload now).nodes.get other = registry.nodes.get other) ∧
      (∀ fullName, (∃ service ∈ (registry.processNodeInfo payload now).refs,
          service.node.id = some id ∧ service.fullName = fullName) ↔
        ∃ svc ∈ serviceList, svc.resolvedName = fullName) ∧
      ∀ service, service.node.id ≠ some id →
        (service ∈ (registry.processNodeInfo payload now).refs ↔ service ∈ registry.refs) := by
  obtain ⟨stored, node, same, after, hosts, self, ⟨record, nodes, online, listed⟩, nodeID,
    services, _, _⟩ := sound.processNodeInfo_accepted sender remote lists accepts
  have named : node.id ≠ none := by
    rw [self]
    exact Option.some_ne_none id
  have final := after.registerServices hosts named false serviceList
  have kept := nodesKept_registerServices stored node false serviceList
  obtain ⟨registered, grow, origin, all⟩ := after.registerEach hosts named false serviceList
  obtain ⟨_, members⟩ := registered.pruneServices node serviceList
    (stored.registerEach node false serviceList).services
  -- The services are unregistered on the node itself.
  have target : (stored.registerEach node false serviceList).targetID node.id = id := by
    simp [targetID, self, nonempty]
  have refs : stored.refs = registry.refs := by
    rw [Registry.refs, services]
    rfl
  rw [target] at members
  rw [same]
  refine ⟨final, kept.nodeID.trans nodeID, ⟨record, ?_, online, listed⟩, ?_, ?_, ?_⟩
  · rw [kept.others (some id) (by rw [nodeID]; simpa using remote), nodes, OrderedMap.get_set,
      if_pos rfl]
  · intro other differs foreign
    rw [kept.others other (by rw [nodeID]; exact foreign), nodes, OrderedMap.get_set,
      if_neg differs]
  · intro fullName
    constructor
    · rintro ⟨service, member, here, rfl⟩
      rw [registerServices_eq, members] at member
      obtain ⟨inside, survives⟩ := member
      by_contra unlisted
      obtain ⟨item, within, rfl⟩ := List.mem_map.mp inside
      -- An item under the id lies on the node itself.
      have place : item.self.node = node := by
        obtain ⟨stored', located, self', _⟩ := registered.hosted item.self inside
        obtain ⟨host, located', self'', _⟩ := hosts
        rw [(nodes_registerEach ..).1, here, ← self, located'] at located
        cases located
        rw [← self', self'']
      exact survives item within place (fun svc inList equal => unlisted ⟨svc, inList, equal.symm⟩)
        ⟨rfl, here⟩
    · rintro ⟨svc, inList, rfl⟩
      obtain ⟨service, inside, place, full⟩ := all svc inList
      refine ⟨service, ?_, by rw [place, self], full⟩
      rw [registerServices_eq, members]
      exact ⟨inside, fun item _ _ unlisted equal =>
        unlisted svc inList (equal.1.symm.trans full)⟩
  · intro service differs
    rw [registerServices_eq, members, ← refs]
    constructor
    · rintro ⟨inside, _⟩
      rcases origin service inside with old | ⟨place, _⟩
      · exact old
      · rw [place] at differs
        exact absurd self differs
    · intro old
      exact ⟨grow service old, fun _ _ _ _ equal => differs equal.2⟩

end Registry

end Moleculer.Cluster
