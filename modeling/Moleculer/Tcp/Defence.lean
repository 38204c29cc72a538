import Moleculer.Registry.Heartbeats
import Moleculer.Tcp.Monotone
import Moleculer.Tcp.Places

/-! What the network can do to the local node of a broker with the TCP transporter. -/

namespace Moleculer.Tcp

open Base Cluster Cluster.Registry

/-- The packets that arrive, each with the id that its sender gives. -/
inductive Packet where
  | gossipHello (sender host : String) (port : Option Nat)
  | gossipRequest (payload : GossipRequest)
  | gossipResponse (payload : GossipResponse)
  | info (sender : String) (payload : NodeInfo)
  | heartbeat (sender : String) (payload : Beat)
  | disconnect (sender : String)
  | ping (sender : String)
  /-- A request whose handling sends a number of packets back. -/
  | request (sender : String) (replies : Nat)

/-- What a packet does to the registry; the INFO packets that it asks for are not sent over TCP.
`messageHandler` skips the packets that carry the own id, except for requests; gossip does not pass
through it. -/
def receive (registry : Registry) (now : Nat) : Packet → Registry
  | .gossipHello sender host port => processGossipHello registry sender host port now
  | .gossipRequest payload => (processGossipRequest registry payload now).1
  | .gossipResponse payload => processGossipResponse registry payload now
  | .info sender payload =>
    if sender = registry.nodeID then registry
    else registry.processNodeInfo { payload with sender := some sender } now
  | .heartbeat sender payload =>
    if sender = registry.nodeID then registry
    else registry.heartbeatReceived (some sender) payload now
  | .disconnect sender =>
    if sender = registry.nodeID then registry
    else registry.disconnected (some sender) now
  | .ping _ => registry
  | .request _ _ => registry

/-- The ids to which a packet makes the node send something. A missing or empty one gets nothing. -/
def targets (registry : Registry) (now : Nat) : Packet → List String
  | .gossipRequest payload =>
    if (processGossipRequest registry payload now).2.isSome then
      payload.sender.toList.filter (· ≠ "")
    else []
  | .ping sender => if sender = registry.nodeID ∨ sender = "" then [] else [sender]
  | .request sender replies => if sender = "" then [] else List.replicate replies sender
  | _ => []

/-- A broker with the ids that it has sent something to. -/
structure Host where
  registry : Registry
  contacted : List String

/-- What happens to a broker. -/
inductive HostInput where
  | packet (packet : Packet) (now : Nat)
  /-- A send fails, or the connection that it opened fails or ends. -/
  | lost (target : String) (now : Nat)

/-- The broker after one input. Only connections that were used can be lost. -/
def Host.step (host : Host) : HostInput → Host
  | .packet packet now =>
    ⟨receive host.registry now packet, host.contacted ++ targets host.registry now packet⟩
  | .lost target now =>
    if target ∈ host.contacted then
      { host with registry := host.registry.disconnected (some target) now }
    else host

/-- The local node stays online and keeps its services and endpoints. -/
structure HomeKept (before after : Registry) : Prop where
  online : before.localNode.available = true → after.localNode.available = true
  services : ∀ item ∈ before.itemsAt (some before.nodeID),
    item ∈ after.itemsAt (some before.nodeID)
  actions : ∀ name, ∀ ep ∈ before.actions.placed (some before.nodeID) name,
    ep ∈ after.actions.placed (some before.nodeID) name
  events : ∀ key, ∀ ep ∈ before.events.placed (some before.nodeID) key,
    ep ∈ after.events.placed (some before.nodeID) key

/-- No info is about a node with the empty id. -/
def HostInput.Named : HostInput → Prop
  | .packet (.info sender _) _ => sender ≠ ""
  | .packet (.gossipResponse payload) _ => payload.online.get "" = none
  | _ => True

/-- A step that keeps the local node. -/
def Host.KeepsHome (host : Host) (input : HostInput) : Prop :=
  HomeKept host.registry (host.step input).registry

/-- No connection to the own id is lost. -/
def Host.Reachable (host : Host) : HostInput → Prop
  | .lost target _ => target = host.registry.nodeID → target ∉ host.contacted
  | _ => True

section Kept

variable {registry : Registry}

theorem HomeKept.of_keptAt {before after : Registry}
    (kept : KeptAt (some before.nodeID) before after)
    (online : before.localNode.available = true → after.localNode.available = true) :
    HomeKept before after := by
  refine ⟨online, ?_, fun name => ?_, fun key => ?_⟩
  · rw [kept.items]
    exact fun _ inside => inside
  · rw [kept.actions]
    exact fun _ inside => inside
  · rw [kept.events]
    exact fun _ inside => inside

theorem keptAt_home_request (sound : registry.Sound) (payload : GossipRequest) (now : Nat) :
    KeptAt (some registry.nodeID) registry (processGossipRequest registry payload now).1 := by
  rw [(processGossipRequest_spec registry payload now).1]
  -- The records are about other nodes, or the local one defends itself.
  refine (List.foldlRecOn registry.nodes.values (answerNode payload now)
    (motive := fun state : Registry × GossipResponse => state.1.Sound ∧
      KeptAt (some registry.nodeID) registry state.1) ⟨sound, .refl registry⟩ ?_).2
  intro state known node inside
  refine ⟨sound_answerNode known.1 payload now node, known.2.trans ?_⟩
  refine (@keptAt_answerNode (some registry.nodeID) state known.1 payload now node
    fun away here => ?_).1
  have home := (sound.keyed _ _ (stored_values sound inside)).2.2.mpr here
  rw [home] at away
  cases away

theorem keptAt_home_response (sound : registry.Sound) {payload : GossipResponse}
    (named : payload.online.get "" = none) (now : Nat) :
    KeptAt (some registry.nodeID) registry (processGossipResponse registry payload now) := by
  let good (state : Registry) : Prop := state.Sound ∧ state.nodeID = registry.nodeID ∧
    KeptAt (some registry.nodeID) registry state
  have first : good (payload.online.entries.foldl (learnOnline now) registry) := by
    refine List.foldlRecOn payload.online.entries (learnOnline now) (motive := good)
      ⟨sound, rfl, .refl registry⟩ fun state known entry inside => ?_
    refine ⟨sound_learnOnline known.1 now entry,
      (nodeID_learnOnline state entry).trans known.2.1, known.2.2.trans ?_⟩
    by_cases home : entry.1 = state.nodeID
    · rw [learnOnline_home home]
      exact .refl state
    · have nonempty : entry.1 ≠ "" := by
        intro empty
        have present := OrderedMap.mem_entries_iff.mp
          (show (entry.1, entry.2) ∈ payload.online.entries from inside)
        rw [empty, named] at present
        cases present
      have other : some entry.1 ≠ some registry.nodeID := fun same =>
        home ((Option.some.inj same).trans known.2.1.symm)
      refine keptAt_learnOnline known.1 now entry other ?_
      simp only [targetID, if_neg nonempty]
      exact other
  refine (List.foldlRecOn payload.offline.entries (learnOffline now) (motive := good) first
    fun state known entry _ => ?_).2.2
  refine ⟨sound_learnOffline known.1 now entry,
    (nodeID_learnOffline state entry).trans known.2.1, known.2.2.trans ?_⟩
  by_cases home : entry.1 = state.nodeID
  · rw [learnOffline_home home]
    exact .refl state
  · exact keptAt_learnOffline known.1 now entry fun same =>
      home ((Option.some.inj same).trans known.2.1.symm)

theorem localNode_of_get {after : Registry} (nodeID : after.nodeID = registry.nodeID)
    (same : after.nodes.get (some registry.nodeID) = registry.nodes.get (some registry.nodeID)) :
    registry.localNode.available = true → after.localNode.available = true := by
  rw [localNode, localNode, nodeID, same]
  exact id

/-- A packet keeps the local node, unless it is an info for the empty id. -/
theorem homeKept_receive (sound : registry.Sound) {packet : Packet} {now : Nat}
    (named : HostInput.Named (.packet packet now)) :
    HomeKept registry (receive registry now packet) ∧ (receive registry now packet).Sound ∧
      (receive registry now packet).nodeID = registry.nodeID := by
  have home := sound.get_localNode
  have kept : HomeKept registry registry ∧ registry.Sound ∧ registry.nodeID = registry.nodeID :=
    ⟨.of_keptAt (.refl registry) id, sound, rfl⟩
  cases packet with
  | gossipHello sender host port =>
    dsimp only [receive, processGossipHello]
    cases found : registry.nodes.get (some sender) with
    | some node => exact kept
    | none =>
      dsimp only
      refine ⟨.of_keptAt (.of_catalogs rfl rfl rfl rfl) (localNode_of_get rfl ?_),
        sound_addOfflineNode sound found host port now, rfl⟩
      rw [addOfflineNode, OrderedMap.get_set, if_neg]
      intro same
      rw [same, found] at home
      cases home
  | gossipRequest payload =>
    refine ⟨.of_keptAt (keptAt_home_request sound payload now) fun online => ?_,
      sound_processGossipRequest sound payload now,
      (keptAt_home_request sound payload now).nodeID⟩
    -- The local node defends itself when its turn comes.
    obtain ⟨middle, before, after⟩ := exists_turn sound payload now home
    have here := before.nodeID
    have stored := before.nodes.trans home
    dsimp only at here
    rw [← here] at stored
    obtain ⟨record, last, awake⟩ := @answer_local payload now middle registry.localNode
      (here ▸ sound.localNode_id) ((sound.keyed _ _ home).2.2.mpr rfl) stored online
    rw [here, ← after.nodes, ← (processGossipRequest_spec registry payload now).1] at last
    rw [receive, localNode, (keptAt_home_request sound payload now).nodeID, last]
    exact awake
  | gossipResponse payload =>
    refine ⟨.of_keptAt (keptAt_home_response sound named now) fun online => ?_,
      sound_processGossipResponse sound payload now, nodeID_processGossipResponse registry _ now⟩
    obtain ⟨services, stored⟩ := home_processGossipResponse registry payload now home
    rw [receive, localNode, nodeID_processGossipResponse, stored]
    exact online
  | info sender payload =>
    dsimp only [receive]
    by_cases own : sender = registry.nodeID
    · rw [if_pos own]
      exact kept
    · rw [if_neg own]
      have foreign : some sender ≠ some registry.nodeID := fun same => own (Option.some.inj same)
      have target : some (registry.targetID (some sender)) ≠ some registry.nodeID := by
        simp only [targetID, if_neg (show sender ≠ "" from named)]
        exact foreign
      have same := @Sound.keptAt_processNodeInfo registry sound
        { payload with sender := some sender } _ (Option.some_ne_none sender) foreign target now
      refine ⟨.of_keptAt same fun online => ?_,
        sound.processNodeInfo (Option.some_ne_none sender) now,
        same.nodeID⟩
      obtain ⟨services, stored⟩ := @home_processNodeInfo registry now
        { payload with sender := some sender } foreign
      rw [localNode, same.nodeID, stored, home]
      exact online
  | heartbeat sender payload =>
    dsimp only [receive]
    by_cases own : sender = registry.nodeID
    · rw [if_pos own]
      exact kept
    · rw [if_neg own]
      unfold Registry.heartbeatReceived
      split
      · refine ⟨.of_keptAt (.of_catalogs rfl rfl rfl rfl) (localNode_of_get rfl ?_),
          sound_heartbeat sound _ _ _ now, rfl⟩
        rw [get_modifyNode, if_neg fun same => own (Option.some.inj same).symm]
      · exact kept
  | disconnect sender =>
    dsimp only [receive]
    by_cases own : sender = registry.nodeID
    · rw [if_pos own]
      exact kept
    · rw [if_neg own]
      have foreign : some sender ≠ some registry.nodeID := fun same => own (Option.some.inj same)
      refine ⟨.of_keptAt (sound.keptAt_disconnected foreign now)
        (localNode_of_get (nodeID_disconnected ..) ?_), sound.disconnected _ now,
        nodeID_disconnected ..⟩
      rw [get_disconnected, if_neg foreign.symm]
  | ping sender => exact kept
  | request sender replies => exact kept

theorem homeKept_lost_iff (sound : registry.Sound) (online : registry.localNode.available = true)
    (target : String) (now : Nat) :
    HomeKept registry (registry.disconnected (some target) now) ↔ target ≠ registry.nodeID := by
  constructor
  · intro kept own
    have awake := kept.online online
    rw [localNode, nodeID_disconnected, get_disconnected, own, if_pos rfl, sound.get_localNode,
      Option.map_some, Option.getD_some, Node.disconnected, if_pos online] at awake
    cases awake
  · intro own
    have foreign : some target ≠ some registry.nodeID := fun same => own (Option.some.inj same)
    refine .of_keptAt (sound.keptAt_disconnected foreign now)
      (localNode_of_get (nodeID_disconnected ..) ?_)
    rw [get_disconnected, if_neg foreign.symm]

end Kept

/-- From every sound state with the local node online, packets that do not speak for the empty id
and lost connections keep the local node up, exactly as long as no connection to the own id is
lost. -/
theorem network_keeps_home_iff {host : Host} (sound : host.registry.Sound)
    (online : host.registry.localNode.available = true) (inputs : List HostInput)
    (named : ∀ input ∈ inputs, input.Named) :
    Meets Host.step Host.KeepsHome host inputs ↔ Meets Host.step Host.Reachable host inputs := by
  refine @meets_iff _ _ _ _ _ (fun host : Host => host.registry.Sound ∧
    host.registry.localNode.available = true) _ _ ?_ ?_ ⟨sound, online⟩
  · intro host input inside known
    unfold Host.KeepsHome Host.Reachable
    cases input with
    | packet packet now =>
      exact iff_of_true (homeKept_receive known.1 (named _ inside)).1 trivial
    | lost target now =>
      dsimp only [Host.step]
      by_cases used : target ∈ host.contacted
      · rw [if_pos used]
        refine (homeKept_lost_iff known.1 known.2 target now).trans ?_
        exact ⟨fun other own => absurd own other, fun unused own => unused own used⟩
      · rw [if_neg used]
        exact iff_of_true (.of_keptAt (.refl _) id) fun _ => used
  · intro host input inside known kept
    refine ⟨?_, ?_⟩
    · cases input with
      | packet packet now => exact (homeKept_receive known.1 (named _ inside)).2.1
      | lost target now =>
        dsimp only [Host.step]
        split
        · exact known.1.disconnected _ now
        · exact known.1
    · exact kept.online known.2

/-- A broker with one service. -/
def serving : Host := ⟨(create "local" "instance" 0).registerLocalService posts, []⟩

/-- A request from another node is answered, and the connection to that node is lost. -/
theorem network_keeps_home_stranger :
    Meets Host.step Host.KeepsHome serving
      [.packet (.request "stranger" 1) 1, .lost "stranger" 2] := by
  refine (network_keeps_home_iff (Sound.registerLocalService (sound_create _ _ _) _) (by decide) _
    ?_).mpr ⟨trivial, ?_, trivial⟩
  · intro input inside
    simp only [List.mem_cons, List.not_mem_nil, or_false] at inside
    rcases inside with rfl | rfl <;> trivial
  · exact fun same => absurd same (by decide)

/-- A gossip request that carries the own id is answered to the own id. If that fails, the local
node and its services are gone. -/
theorem gossip_from_itself_takes_node_down :
    ¬ Meets Host.step Host.KeepsHome serving
      [.packet (.gossipRequest ⟨some "local", .empty, .empty⟩) 1, .lost "local" 2] := by
  intro meets
  have awake := meets.2.1.online (by decide)
  exact absurd awake (by decide)

end Moleculer.Tcp
