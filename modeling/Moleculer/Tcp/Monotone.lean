import Moleculer.Tcp.Records

/-! The numbers that a node has stored about the others never go back. -/

namespace Moleculer.Tcp

open Base Cluster Cluster.Registry

/-- A record with numbers that are at least as high. A number of the processor usage that is missing
counts as zero. -/
structure Newer (before after : Node) : Prop where
  seq : before.seq ≤ after.seq
  cpuSeq : before.cpuSeq.getD 0 ≤ after.cpuSeq.getD 0

variable {registry : Registry} (node : Node) (now : Nat)

theorem Newer.refl : Newer node node := ⟨le_rfl, le_rfl⟩

theorem Newer.trans {first second third : Node} (left : Newer first second)
    (right : Newer second third) : Newer first third :=
  ⟨left.seq.trans right.seq, left.cpuSeq.trans right.cpuSeq⟩

theorem cpuSeq_disconnected :
    (node.disconnected now).cpuSeq = node.cpuSeq := by
  unfold Node.disconnected
  split <;> rfl

theorem newer_disconnected : Newer node (node.disconnected now) := by
  refine ⟨?_, by rw [cpuSeq_disconnected]⟩
  unfold Node.disconnected
  split
  · exact le_add_of_nonneg_right zero_le_one
  · exact le_rfl

/-- No record gets lost, and none gets older. -/
def Grows (before after : Registry) : Prop :=
  ∀ id node, before.nodes.get id = some node →
    ∃ record, after.nodes.get id = some record ∧ Newer node record

namespace Grows

variable {registry : Registry}

theorem refl (registry : Registry) : Grows registry registry :=
  fun _ node found => ⟨node, found, .refl node⟩

theorem of_nodes {before after : Registry} (nodes : after.nodes = before.nodes) :
    Grows before after := fun _ node found => ⟨node, nodes ▸ found, .refl node⟩

theorem trans {first second third : Registry} (left : Grows first second)
    (right : Grows second third) : Grows first third := by
  intro id node found
  obtain ⟨record, stored, newer⟩ := left id node found
  obtain ⟨last, kept, newest⟩ := right id record stored
  exact ⟨last, kept, newer.trans newest⟩

theorem foldl {ι : Type} {step : Registry → ι → Registry}
    (grows : ∀ state input, Grows state (step state input)) (registry : Registry)
    (inputs : List ι) : Grows registry (inputs.foldl step registry) :=
  List.foldlRecOn inputs step (motive := fun state => Grows registry state) (refl registry)
    fun state before input _ => before.trans (grows state input)

theorem modifyNode {id : NodeID} {change : Node → Node}
    (newer : ∀ node, registry.nodes.get id = some node → Newer node (change node)) :
    Grows registry (registry.modifyNode id change) := by
  intro other node found
  rw [get_modifyNode]
  by_cases here : other = id
  · subst here
    rw [if_pos rfl, found]
    exact ⟨_, rfl, newer node found⟩
  · rw [if_neg here]
    exact ⟨node, found, .refl node⟩

theorem disconnected (id : NodeID) (now : Nat) : Grows registry (registry.disconnected id now) := by
  intro other node found
  rw [get_disconnected]
  by_cases here : other = id
  · subst here
    rw [if_pos rfl, found]
    exact ⟨_, rfl, newer_disconnected node now⟩
  · rw [if_neg here]
    exact ⟨node, found, .refl node⟩

theorem getLocalNodeInfo (force : Bool) : Grows registry (registry.getLocalNodeInfo force).1 := by
  obtain ⟨_, others, home⟩ := get_getLocalNodeInfo registry force
  intro id node found
  by_cases here : id = some registry.nodeID
  · subst here
    obtain ⟨seq, info, higher, stored⟩ := home node found
    exact ⟨_, stored, higher, le_rfl⟩
  · exact ⟨node, (others id here).trans found, .refl node⟩

theorem heartbeat {id : NodeID} {cpu : Option Nat} {cpuSeq : Option ℚ} (now : Nat)
    (higher : ∀ node, registry.nodes.get id = some node → above cpuSeq node.cpuSeq = true) :
    Grows registry (registry.modifyNode id (·.heartbeat cpu cpuSeq now)) := by
  refine modifyNode fun node found => ?_
  obtain ⟨number, rfl, more⟩ := (Option.any_eq_true _ _).mp (higher node found)
  have more : node.cpuSeq.getD 0 < number := by simpa using more
  unfold Node.heartbeat
  cases cpu with
  | none =>
    dsimp only
    split <;> exact ⟨le_rfl, le_rfl⟩
  | some value =>
    -- A zero is stored as one.
    have stored : node.cpuSeq.getD 0 ≤ if number = 0 then 1 else number := by
      split <;> grind
    dsimp only
    split <;> exact ⟨le_rfl, stored⟩

end Grows

theorem grows_answerNode (payload : GossipRequest) (now : Nat) (state : Registry × GossipResponse)
    {node : Node} (live : state.1.nodes.get node.self.id = some node) :
    Grows state.1 (answerNode payload now state node).1 := by
  obtain ⟨registry, response⟩ := state
  refine answerNode_rule (.refl registry) (fun _ => Grows.getLocalNodeInfo false) ?_ ?_ ?_ ?_
  · refine fun seq reached => Grows.modifyNode fun stored found => ?_
    cases live.symm.trans found
    exact ⟨reached, le_rfl⟩
  · -- The number that leaving counts up is replaced by the one of the claim.
    intro seq _ reached other record found
    rw [get_modifyNode, get_disconnected, get_disconnected, if_pos rfl]
    by_cases here : other = node.self.id
    · subst here
      cases live.symm.trans found
      rw [if_pos rfl, found]
      exact ⟨_, rfl, reached, (newer_disconnected node now).cpuSeq⟩
    · rw [if_neg here, if_neg here]
      exact ⟨record, found, .refl record⟩
  · intro seq _ reached
    refine Grows.trans (Grows.modifyNode fun stored found => ?_) (Grows.getLocalNodeInfo true)
    cases live.symm.trans found
    exact ⟨reached.trans (le_add_of_nonneg_right zero_le_one), le_rfl⟩
  · refine fun cpu cpuSeq _ newer => Grows.heartbeat now fun stored found => ?_
    cases live.symm.trans found
    exact newer

theorem grows_answerAll (sound : registry.Sound) (payload : GossipRequest) (now : Nat) :
    Grows registry (answerAll registry payload now).1 := by
  -- The nodes that follow are still the ones that were listed.
  have loop (nodes : List Node) (state : Registry × GossipResponse)
      (distinct : (nodes.map fun node => node.self.id).Nodup)
      (live : ∀ node ∈ nodes, state.1.nodes.get node.self.id = some node)
      (home : ∀ node ∈ nodes, node.isLocal = true → node.self.id = some state.1.nodeID) :
      Grows state.1 (nodes.foldl (answerNode payload now) state).1 := by
    induction nodes generalizing state with
    | nil => exact .refl state.1
    | cons node rest ih =>
      rw [List.map_cons, List.nodup_cons] at distinct
      obtain ⟨stored, others⟩ := List.forall_mem_cons.mp live
      obtain ⟨own, homes⟩ := List.forall_mem_cons.mp home
      have step := sameBut_answerNode payload now state own
      refine (grows_answerNode payload now state stored).trans (ih _ distinct.2 ?_ ?_)
      · intro other inside
        rw [step.nodes _ fun same => distinct.1 (List.mem_map.mpr ⟨other, inside, same⟩)]
        exact others other inside
      · rw [step.nodeID]
        exact homes
  refine loop _ (registry, ⟨.empty, .empty⟩) (nodup_values sound)
    (fun node inside => stored_values sound inside) fun node inside isLocal => ?_
  exact (sound.keyed _ _ (stored_values sound inside)).2.2.mp isLocal

section Learn

variable {registry : Registry} {now : Nat}

theorem home_processNodeInfo {payload : NodeInfo}
    (foreign : payload.sender ≠ some registry.nodeID) :
    ∃ services : Node → List ServiceInfo,
      (registry.processNodeInfo payload now).nodes.get (some registry.nodeID) =
        (registry.nodes.get (some registry.nodeID)).map fun node =>
          { node with services := services node } := by
  have entered := frame_enterNode registry payload.sender now
  unfold processNodeInfo
  generalize registry.enterNode payload.sender now = result at *
  obtain ⟨first, node, isReconnected⟩ := result
  dsimp only at *
  split
  · obtain ⟨services, home⟩ := (nodesKept_registerServices { first with nodes := _ } _ _ _).home
    refine ⟨services, ?_⟩
    rw [← entered.2.1]
    refine home.trans ?_
    dsimp only
    rw [OrderedMap.get_set, if_neg (entered.2.1 ▸ foreign.symm), entered.1]
  · refine ⟨fun node => node.services, ?_⟩
    dsimp only
    rw [OrderedMap.get_set, if_neg foreign.symm, entered.1]
    simp

theorem newer_updatedNode {payload : NodeInfo} {node : Node} {seq : ℚ}
    (found : registry.nodes.get payload.sender = some node) (numbered : payload.seq = some seq)
    (higher : node.seq < seq) : Newer node (registry.updatedNode payload now) := by
  -- A zero counts as one, which is higher still.
  have newSeq : node.seq < payload.newSeq := by
    unfold NodeInfo.newSeq
    rw [numbered]
    dsimp only
    split <;> grind
  -- Whether the node comes back or not, it is updated.
  have updated (old : Node) (isReconnected : Bool) (seq : old.seq = node.seq)
      (cpuSeq : old.cpuSeq = node.cpuSeq) :
      ((old.update payload isReconnected).1.seq = payload.newSeq ∧
        (old.update payload isReconnected).1.cpuSeq = node.cpuSeq) ∧
        (old.update payload isReconnected).2 = true := by
    have accepted : payload.newSeq > old.seq ∨ isReconnected = true ∨
        old.instanceID ≠ some payload.instanceID := .inl (seq ▸ newSeq)
    rw [Node.update, if_pos accepted]
    exact ⟨⟨rfl, cpuSeq⟩, rfl⟩
  unfold updatedNode enterNode
  rw [found]
  by_cases available : node.available = true
  · simp only [if_pos available]
    obtain ⟨⟨number, usage⟩, needed⟩ := updated node false rfl rfl
    rw [if_pos needed]
    exact ⟨newSeq.le.trans number.ge, (congrArg (Option.getD · 0) usage).ge⟩
  · simp only [if_neg available]
    obtain ⟨⟨number, usage⟩, needed⟩ := updated
      { node with lastHeartbeatTime := now, available := true, offlineSince := none } true rfl rfl
    rw [if_pos needed]
    exact ⟨newSeq.le.trans number.ge, (congrArg (Option.getD · 0) usage).ge⟩

theorem grows_learnOnline (registry : Registry) (entry : String × OnlineRow) :
    Grows registry (learnOnline now registry entry) := by
  refine learnOnline_rule (.refl registry) (fun info remote newer id node found => ?_)
    fun state node _ informed found newer =>
      informed.trans (Grows.heartbeat now fun stored located => ?_)
  · have foreign : (some entry.1 : NodeID) ≠ some registry.nodeID := fun same =>
      remote (Option.some.inj same)
    by_cases here : id = some entry.1
    · subst here
      obtain ⟨_, test⟩ := Option.filter_eq_some_iff.mp newer
      rw [found] at test
      obtain ⟨seq, numbered, higher⟩ := (Option.any_eq_true _ _).mp test
      obtain ⟨stored, _⟩ := @node_processNodeInfo registry { info with sender := some entry.1 }
        now foreign
      exact ⟨_, stored, newer_updatedNode found numbered (by simpa using higher)⟩
    · by_cases home : id = some registry.nodeID
      · subst home
        obtain ⟨services, kept⟩ := @home_processNodeInfo registry now
          { info with sender := some entry.1 } foreign
        rw [found, Option.map_some] at kept
        exact ⟨_, kept, le_rfl, le_rfl⟩
      · refine ⟨node, ?_, .refl node⟩
        exact (@get_processNodeInfo registry now { info with sender := some entry.1 } id here
          home).trans found
  · cases found.symm.trans located
    exact newer

theorem grows_learnOffline (registry : Registry) (entry : String × ℚ) :
    Grows registry (learnOffline now registry entry) := by
  by_cases home : entry.1 = registry.nodeID
  · rw [learnOffline_home home]
    exact .refl registry
  · intro id node found
    rw [(get_learnOffline entry home).2]
    by_cases here : id = some entry.1
    · subst here
      rw [if_pos rfl, found]
      refine ⟨_, rfl, ?_⟩
      unfold learnedOffline
      split
      · rename_i higher
        exact ⟨higher.le, (newer_disconnected node now).cpuSeq⟩
      · exact .refl node
    · rw [if_neg here]
      exact ⟨node, found, .refl node⟩

theorem home_learnOnline (registry : Registry) (entry : String × OnlineRow) :
    ∃ services : Node → List ServiceInfo,
      (learnOnline now registry entry).nodes.get (some registry.nodeID) =
        (registry.nodes.get (some registry.nodeID)).map fun node =>
          { node with services := services node } := by
  refine learnOnline_rule (motive := fun after => ∃ services : Node → List ServiceInfo,
      after.nodes.get (some registry.nodeID) = (registry.nodes.get (some registry.nodeID)).map
        fun node => { node with services := services node })
    ⟨fun node => node.services, by simp⟩ (fun info remote _ => ?_) fun state _ remote kept _ _ => ?_
  · exact home_processNodeInfo fun same => remote (Option.some.inj same)
  · rw [get_modifyNode, if_neg fun same => remote (Option.some.inj same).symm]
    exact kept

end Learn

theorem grows_addOfflineNode {id : String} (unknown : registry.nodes.get (some id) = none)
    (address : String) (port : Option Nat) (now : Nat) :
    Grows registry (addOfflineNode registry id address port now) := by
  intro other node found
  refine ⟨node, ?_, .refl node⟩
  rw [addOfflineNode, OrderedMap.get_set]
  split
  · rename_i here
    rw [here, unknown] at found
    cases found
  · exact found

/-- What an input says about a node that it takes for offline. -/
def GossipInput.offlineClaim (id : NodeID) : GossipInput → Option ℚ
  | .request payload _ => payload.offline.get (propertyKey id)
  | .response payload _ => payload.offline.get (propertyKey id)
  | _ => none

/-- Nothing goes back, and who left has at least the number of the claim that it did. -/
structure NeverBack (registry : Registry) (input : GossipInput) : Prop where
  grows : Grows registry (gossipStep registry input)
  left : ∀ id node record, registry.nodes.get id = some node → node.available = true →
    (gossipStep registry input).nodes.get id = some record → record.available = false →
    ∀ seq, input.offlineClaim id = some seq → seq ≤ record.seq

theorem left_request (sound : registry.Sound) (payload : GossipRequest) (now : Nat) {id : NodeID}
    {node record : Node} (found : registry.nodes.get id = some node)
    (online : node.available = true)
    (stored : (processGossipRequest registry payload now).1.nodes.get id = some record)
    (offline : record.available = false) {seq : ℚ}
    (claimed : payload.offline.get (propertyKey id) = some seq) : record.seq = seq := by
  obtain ⟨self, named, isLocal⟩ := sound.keyed id node found
  obtain ⟨name, rfl⟩ := Option.ne_none_iff_exists'.mp named
  obtain ⟨middle, before, after⟩ := exists_turn sound payload now found
  rw [(processGossipRequest_spec registry payload now).1, after.nodes] at stored
  by_cases home : name = registry.nodeID
  · -- The local node stays awake.
    subst home
    have here := before.nodeID
    dsimp only at here
    obtain ⟨last, kept, awake⟩ := @answer_local payload now middle node
      (here ▸ self) (isLocal.mpr rfl) (here ▸ before.nodes.trans found) online
    rw [here, stored] at kept
    cases kept
    rw [awake] at offline
    cases offline
  · have away : node.isLocal = false := by
      rw [Bool.eq_false_iff]
      exact fun here => home (Option.some.inj (isLocal.mp here))
    have turn := answer_remote payload now self away (before.nodes.trans found)
      ⟨before.online, before.offline⟩
    split at turn
    · rw [stored] at turn
      cases turn.1
      rw [online] at offline
      cases offline
    · rename_i number known
      obtain ⟨_, last, kept, rest⟩ := turn
      cases stored.symm.trans kept
      split at rest
      · -- The number that counts is the one of the claim.
        rename_i said
        rw [rest.2.2]
        have counts : payload.offlineSeq (some name) = some seq := by
          unfold GossipRequest.offlineSeq at said ⊢
          rw [claimed] at said ⊢
          by_cases zero : seq ≠ 0
          · simp [Option.filter_some, zero]
          · simp [Option.filter_some, zero] at said
        have first := (Option.filter_eq_some_iff.mp known).1
        unfold GossipRequest.knownSeq at first
        rw [counts] at first
        exact (Option.some.inj first).symm
      · rw [rest.2.1, online] at offline
        cases offline

theorem left_response (payload : GossipResponse) (now : Nat) {id : String}
    (remote : id ≠ registry.nodeID) {node record : Node}
    (found : registry.nodes.get (some id) = some node) (online : node.available = true)
    (stored : (processGossipResponse registry payload now).nodes.get (some id) = some record)
    (offline : record.available = false) {seq : ℚ} (claimed : payload.offline.get id = some seq) :
    record.seq = seq := by
  obtain ⟨middle, same, _, learned⟩ := @get_processGossipResponse registry now payload id remote
  rw [stored] at learned
  obtain ⟨between, first, last⟩ := Option.map_eq_some_iff.mp learned.symm
  rw [claimed] at last
  dsimp only at last
  -- Only the claim can put the node to sleep.
  have awake : between.available = true := by
    split at first
    · rename_i row _
      unfold learnedOnline at first
      obtain ⟨informed, located, rfl⟩ := Option.map_eq_some_iff.mp first
      have there : informed.available = true := by
        split at located
        · cases located
          exact (updatedNode_kept ..).1
        · rw [same.2, found] at located
          cases located
          exact online
      split
      · unfold Node.heartbeat
        cases row.usage <;> simp [there]
      · exact there
    · rw [found] at first
      cases first
      exact online
  by_cases higher : between.seq < seq
  · rw [← last, learnedOffline, if_pos higher]
  · rw [← last, learnedOffline, if_neg higher, awake] at offline
    cases offline

theorem home_processGossipResponse (registry : Registry) (payload : GossipResponse) (now : Nat)
    {node : Node} (found : registry.nodes.get (some registry.nodeID) = some node) :
    ∃ services, (processGossipResponse registry payload now).nodes.get (some registry.nodeID) =
      some { node with services := services } := by
  -- Each step keeps the id and the node, up to its services.
  have loop {ι : Type} (step : Registry → ι → Registry)
      (id : ∀ state input, (step state input).nodeID = state.nodeID)
      (home : ∀ state input, ∃ services : Node → List ServiceInfo,
        (step state input).nodes.get (some state.nodeID) =
          (state.nodes.get (some state.nodeID)).map fun node =>
            { node with services := services node }) (inputs : List ι) (state : Registry)
      (here : state.nodeID = registry.nodeID ∧ ∃ services, state.nodes.get (some registry.nodeID) =
        some { node with services := services }) :
      (inputs.foldl step state).nodeID = registry.nodeID ∧ ∃ services,
        (inputs.foldl step state).nodes.get (some registry.nodeID) =
          some { node with services := services } := by
    refine List.foldlRecOn inputs step (motive := fun state : Registry =>
      state.nodeID = registry.nodeID ∧ ∃ services, state.nodes.get (some registry.nodeID) =
        some { node with services := services }) here fun state before input _ => ?_
    obtain ⟨same, services, stored⟩ := before
    obtain ⟨change, kept⟩ := home state input
    rw [same, stored] at kept
    exact ⟨(id state input).trans same, _, kept⟩
  have first := loop (learnOnline now) nodeID_learnOnline home_learnOnline payload.online.entries
    registry ⟨rfl, node.services, found⟩
  refine (loop (learnOffline now) nodeID_learnOffline
    (fun state entry => ⟨fun node => node.services, ?_⟩) payload.offline.entries _ first).2
  by_cases home : entry.1 = state.nodeID
  · rw [learnOffline_home home]
    simp
  · rw [(get_learnOffline entry home).2, if_neg fun here => home (Option.some.inj here).symm]
    simp

theorem neverBack_gossipStep (sound : registry.Sound) (input : GossipInput) :
    NeverBack registry input := by
  have discovered (nodeID address : String) (port : Option Nat) (now : Nat) :
      Grows registry (processGossipHello registry nodeID address port now) ∧
        Grows registry (udpMessage registry nodeID address port now) :=
    discovery_rule (.refl registry) (fun unknown => grows_addOfflineNode unknown address port now)
      (.modifyNode fun _ _ => ⟨le_rfl, le_rfl⟩)
  cases input with
  | request payload now =>
    refine ⟨?_, fun id node record found online stored offline seq claimed => ?_⟩
    · rw [gossipStep, (processGossipRequest_spec registry payload now).1]
      exact grows_answerAll sound payload now
    · exact (left_request sound payload now found online stored offline claimed).ge
  | response payload now =>
    refine ⟨(Grows.foldl grows_learnOnline _ _).trans (.foldl grows_learnOffline _ _),
      fun id node record found online stored offline seq claimed => ?_⟩
    obtain ⟨name, rfl⟩ := Option.ne_none_iff_exists'.mp (sound.keyed id node found).2.1
    by_cases home : name = registry.nodeID
    · -- A response does not put the local node to sleep.
      subst home
      obtain ⟨services, kept⟩ := home_processGossipResponse registry payload now found
      cases stored.symm.trans kept
      rw [online] at offline
      cases offline
    · exact (left_response payload now home found online stored offline claimed).ge
  | hello sender host port now =>
    exact ⟨(discovered sender host port now).1, fun _ _ _ _ _ _ _ _ claimed => by cases claimed⟩
  | udp nodeID address port now =>
    exact ⟨(discovered nodeID address port now).2, fun _ _ _ _ _ _ _ _ claimed => by cases claimed⟩
  | writerClosed nodeID now =>
    exact ⟨Grows.disconnected nodeID now, fun _ _ _ _ _ _ _ _ claimed => by cases claimed⟩
  | registerLocalService svc =>
    refine ⟨?_, fun _ _ _ _ _ _ _ _ claimed => by cases claimed⟩
    rw [gossipStep, Registry.registerLocalService]
    split
    · exact .refl registry
    · have offered := (keeps_offerActions
        (registry.addService registry.localNode.self svc true).1 registry.localNode.self
        registry.localNode.isLocal (registry.addService registry.localNode.self svc true).2
        svc.actions).trans (keeps_offerEvents _ registry.localNode.self
          (registry.addService registry.localNode.self svc true).2 svc.events)
      exact (Grows.of_nodes offered.nodes).trans (Grows.modifyNode fun _ _ => ⟨le_rfl, le_rfl⟩)

theorem sound_gossipStep (sound : registry.Sound) (input : GossipInput) :
    (gossipStep registry input).Sound := by
  have discovered (nodeID address : String) (port : Option Nat) (now : Nat) :=
    discovery_rule sound (fun unknown => sound_addOfflineNode sound unknown address port now)
      (sound_modifyNode sound (some nodeID) (fun _ => ⟨rfl, rfl⟩) fun _ available => available)
  cases input with
  | request payload now => exact sound_processGossipRequest sound payload now
  | response payload now => exact sound_processGossipResponse sound payload now
  | hello sender host port now => exact (discovered sender host port now).1
  | udp nodeID address port now => exact (discovered nodeID address port now).2
  | writerClosed nodeID now => exact sound.disconnected nodeID now
  | registerLocalService svc => exact sound.registerLocalService svc

theorem sound_gossipRun (sound : registry.Sound) (inputs : List GossipInput) :
    (run gossipStep registry inputs).Sound := by
  induction inputs generalizing registry with
  | nil => exact sound
  | cons input rest ih => exact ih (sound_gossipStep sound input)

/-- From every sound registry on, no input of a run takes back anything. -/
theorem gossip_never_goes_back {registry : Registry} (sound : registry.Sound)
    (inputs : List GossipInput) : Meets gossipStep NeverBack registry inputs := by
  -- The registry stays sound, so that each step can be looked at on its own.
  induction inputs generalizing registry with
  | nil => trivial
  | cons input rest ih =>
    exact ⟨neverBack_gossipStep sound input, ih (sound_gossipStep sound input)⟩

/-- A node that was heard of and left again. -/
theorem gossip_never_goes_back_hello :
    Meets gossipStep NeverBack (create "node-1" "instance" 0)
      [.hello "node-2" "10.0.0.2" (some 3000) 1, .writerClosed (some "node-2") 2] :=
  gossip_never_goes_back (sound_create "node-1" "instance" 0) _

/-- Whatever nodes tell each other, the catalogs of a TCP node fit together. -/
theorem wellFormed_gossipRun (nodeID instanceID : String) (now : Nat) (inputs : List GossipInput) :
    WellFormed (run gossipStep (create nodeID instanceID now) inputs) :=
  (sound_gossipRun (sound_create nodeID instanceID now) inputs).wellFormed

end Moleculer.Tcp
