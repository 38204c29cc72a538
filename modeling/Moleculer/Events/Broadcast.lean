import Moleculer.Base.Enlist
import Moleculer.Events.EmitLaws
import Moleculer.Registry.Soundness

/-! Broadcast events: every subscriber on every node is called once. -/

namespace Moleculer.Events

open Base Cluster

/-- The `uniqBy` of lodash: of the elements with the same key one is kept. -/
class UniqBy (α ν : Type) where
  uniqBy : (α → ν) → List α → List α
  nodup (key : α → ν) (list : List α) : ((uniqBy key list).map key).Nodup
  mem (key : α → ν) (list : List α) (value : ν) :
    value ∈ (uniqBy key list).map key ↔ value ∈ list.map key

/-- The first element for each key. -/
instance {α ν : Type} [DecidableEq ν] : UniqBy α ν where
  uniqBy key list := list.foldl (enlist key) []
  nodup _ list := nodup_foldl_enlist [] list List.nodup_nil
  mem key list value := by
    simp only [List.mem_map, mem_foldl_enlist, List.not_mem_nil, false_or, false_imp_iff,
      implies_true, true_and]
    refine ⟨fun ⟨entry, found, same⟩ => ⟨entry, List.mem_of_find?_eq_some found, same⟩,
      fun ⟨entry, inside, same⟩ => ?_⟩
    have some_ : (list.find? fun other => key other = key entry).isSome := by
      rw [List.find?_isSome]
      exact ⟨entry, inside, by simp⟩
    obtain ⟨first, found⟩ := Option.isSome_iff_exists.mp some_
    have here : key first = key entry := by simpa using List.find?_some found
    exact ⟨first, by rw [here]; exact found, here.trans same⟩

/-- An EVENT packet of a broadcast. -/
structure BroadcastPacket where
  target : NodeID
  groups : Option (List String)

namespace Network

variable (net : Network) (eventName : String)

section Packets

variable [UniqBy (Endpoint EventInfo) NodeID]

/-- `getAllEndpoints` on the sender: one endpoint for each node with a subscriber. -/
def getAllEndpoints (sender : String) (groups : Option (List String)) :
    List (Endpoint EventInfo) :=
  UniqBy.uniqBy (·.node.id) ((net.catalog sender).entries.flatMap fun (key, list) =>
    if net.wants eventName groups key then list.endpoints.filter (·.state) else [])

/-- The packets that `broadcast` sends to the other nodes. -/
def broadcastPackets (sender : String) (groups : Option (List String)) : List BroadcastPacket :=
  ((net.getAllEndpoints eventName sender groups).filter fun ep => ep.node.id ≠ some sender).map
    fun ep => ⟨ep.node.id, groups⟩

end Packets

/-- `emitLocalServices` for a broadcast, which also is what `broadcastLocal` does. -/
def broadcastLocal (node : String) (groups : Option (List String)) : List Invocation :=
  (net.catalog node).entries.flatMap fun (key, list) =>
    if net.wants eventName groups key then
      (list.endpoints.filter (·.isLocal)).map fun ep => ⟨node, key, ep⟩
    else []

/-- The handlers that are called when a packet arrives. -/
def receiveBroadcast (packet : BroadcastPacket) : List Invocation :=
  match packet.target with
  | some node => if node ∈ net.nodes then net.broadcastLocal eventName node packet.groups else []
  | none => []

/-- All calls that a broadcast leads to when the packets arrive in some order. -/
def broadcast (sender : String) (groups : Option (List String)) (order : List BroadcastPacket) :
    List Invocation :=
  net.broadcastLocal eventName sender groups ++ order.flatMap (net.receiveBroadcast eventName)

/-- The endpoints of a list are different objects, and their flags say which ones are local. -/
structure Flagged (net : Network) : Prop where
  distinct : ∀ node ∈ net.nodes, ∀ key list, (net.catalog node).get key = some list →
    list.endpoints.Nodup
  isLocal : ∀ node ∈ net.nodes, ∀ key list, (net.catalog node).get key = some list →
    ∀ ep ∈ list.endpoints, ep.isLocal = true ↔ ep.node.id = some node

/-- The call is that of an endpoint of its node whose list matches the name and the groups. -/
def Subscriber (groups : Option (List String)) (call : Invocation) : Prop :=
  call.node ∈ net.nodes ∧ net.wants eventName groups call.key = true ∧
    ∃ list, (net.catalog call.node).get call.key = some list ∧
      call.endpoint ∈ list.endpoints ∧ call.endpoint.node.id = some call.node

variable {net} {eventName} {sender : String} {groups : Option (List String)}

theorem mem_broadcastLocal (flagged : net.Flagged) {node : String} (known : node ∈ net.nodes)
    (call : Invocation) :
    call ∈ net.broadcastLocal eventName node groups ↔
      call.node = node ∧ net.Subscriber eventName groups call := by
  simp only [broadcastLocal, List.mem_flatMap, Subscriber]
  constructor
  · rintro ⟨⟨key, list⟩, entry, inside⟩
    have found := OrderedMap.mem_entries_iff.mp entry
    dsimp only at inside
    split at inside
    · rename_i wanted
      obtain ⟨ep, member, rfl⟩ := List.mem_map.mp inside
      obtain ⟨listed, isLocal⟩ := List.mem_filter.mp member
      exact ⟨rfl, known, wanted, list, found, listed,
        (flagged.isLocal node known key list found ep listed).mp isLocal⟩
    · cases inside
  · rintro ⟨rfl, _, wanted, list, found, listed, here⟩
    refine ⟨(call.key, list), OrderedMap.mem_entries_iff.mpr found, ?_⟩
    dsimp only
    rw [if_pos wanted]
    refine List.mem_map.mpr ⟨call.endpoint, List.mem_filter.mpr ⟨listed, ?_⟩, rfl⟩
    exact (flagged.isLocal call.node known call.key list found call.endpoint listed).mpr here

theorem nodup_broadcastLocal (flagged : net.Flagged) {node : String} (known : node ∈ net.nodes) :
    (net.broadcastLocal eventName node groups).Nodup := by
  rw [broadcastLocal, List.nodup_flatMap]
  refine ⟨fun ⟨key, list⟩ entry => ?_, ?_⟩
  · dsimp only
    split
    · refine ((flagged.distinct node known key list
        (OrderedMap.mem_entries_iff.mp entry)).filter _).map fun one other same => ?_
      exact (Invocation.mk.inj same).2.2
    · exact List.nodup_nil
  · -- Different lists have different keys.
    have keys := List.pairwise_map.mp (net.catalog node).nodup
    refine keys.imp fun {one other} differs call first second => differs ?_
    have key {entry : ListKey × EndpointList EventInfo}
        (inside : call ∈ if net.wants eventName groups entry.1 then
          (entry.2.endpoints.filter (·.isLocal)).map fun ep => (⟨node, entry.1, ep⟩ : Invocation)
          else []) : call.key = entry.1 := by
      split at inside
      · obtain ⟨ep, _, rfl⟩ := List.mem_map.mp inside
        rfl
      · cases inside
    exact (key first).symm.trans (key second)

section Packets

variable [UniqBy (Endpoint EventInfo) NodeID]

theorem mem_broadcastPackets (consistent : net.Consistent) (known : sender ∈ net.nodes)
    (target : NodeID) :
    target ∈ (net.broadcastPackets eventName sender groups).map (·.target) ↔
      ∃ host ∈ net.nodes, target = some host ∧ host ≠ sender ∧
        ∃ key, net.wants eventName groups key = true ∧ net.Hosts host host key := by
  have listed : target ∈ (net.broadcastPackets eventName sender groups).map (·.target) ↔
      target ∈ (net.getAllEndpoints eventName sender groups).map (·.node.id) ∧
        target ≠ some sender := by
    simp only [broadcastPackets, List.map_map, Function.comp_def, List.mem_map, List.mem_filter,
      decide_eq_true_eq]
    constructor
    · rintro ⟨ep, ⟨inside, away⟩, rfl⟩
      exact ⟨⟨ep, inside, rfl⟩, away⟩
    · rintro ⟨⟨ep, inside, rfl⟩, away⟩
      exact ⟨ep, ⟨inside, away⟩, rfl⟩
  rw [listed, getAllEndpoints, UniqBy.mem]
  simp only [List.mem_map, List.mem_flatMap]
  constructor
  · rintro ⟨⟨ep, ⟨⟨key, list⟩, entry, inside⟩, rfl⟩, away⟩
    have found := OrderedMap.mem_entries_iff.mp entry
    dsimp only at inside
    split at inside
    · rename_i wanted
      obtain ⟨member, _⟩ := List.mem_filter.mp inside
      obtain ⟨host, there, place⟩ := consistent.placed sender known key list found ep member
      refine ⟨host, there, place, fun same => away (same ▸ place), key, wanted, _,
        (consistent.agree sender known host there key _).mp ⟨list, found, ep, member, place, rfl⟩⟩
    · cases inside
  · rintro ⟨host, there, rfl, away, key, wanted, service, hosts⟩
    obtain ⟨list, found, ep, member, place, _⟩ :=
      (consistent.agree sender known host there key service).mpr hosts
    refine ⟨⟨ep, ⟨(key, list), OrderedMap.mem_entries_iff.mpr found, ?_⟩, place⟩,
      fun same => away (Option.some.inj same)⟩
    dsimp only
    rw [if_pos wanted]
    exact List.mem_filter.mpr ⟨member, consistent.available sender known key list found ep member⟩

theorem broadcastPackets_spec (net : Network) (eventName sender : String)
    (groups : Option (List String)) :
    (∀ packet ∈ net.broadcastPackets eventName sender groups, packet.groups = groups) ∧
      ((net.broadcastPackets eventName sender groups).map (·.target)).Nodup := by
  constructor
  · intro packet inside
    obtain ⟨ep, _, rfl⟩ := List.mem_map.mp inside
    rfl
  · rw [broadcastPackets, List.map_map]
    exact (UniqBy.nodup _ _).sublist (List.filter_sublist.map _)

/-- A broadcast calls the handler of every matching endpoint on every node once, and nothing else,
in whatever order the packets arrive. -/
theorem broadcast_exactly_once (net : Network) (consistent : net.Consistent)
    (flagged : net.Flagged) {sender : String} (known : sender ∈ net.nodes) (eventName : String)
    (groups : Option (List String)) {order : List BroadcastPacket}
    (delivered : order.Perm (net.broadcastPackets eventName sender groups)) :
    (net.broadcast eventName sender groups order).Nodup ∧
      ∀ call, call ∈ net.broadcast eventName sender groups order ↔
        net.Subscriber eventName groups call := by
  obtain ⟨same_groups, targets⟩ := broadcastPackets_spec net eventName sender groups
  -- A packet leads to the calls of the subscribers on its node.
  have received (packet : BroadcastPacket) (sent : packet ∈ order) (call : Invocation) :
      call ∈ net.receiveBroadcast eventName packet ↔
        some call.node = packet.target ∧ net.Subscriber eventName groups call := by
    have carries := same_groups packet (delivered.mem_iff.mp sent)
    unfold receiveBroadcast
    cases target : packet.target with
    | none => simp
    | some host =>
      by_cases there : host ∈ net.nodes
      · simp only [if_pos there, carries, mem_broadcastLocal flagged there, Option.some.injEq]
      · simp only [if_neg there, List.not_mem_nil, Option.some.injEq, false_iff]
        rintro ⟨rfl, inside, _⟩
        exact there inside
  have target_away {packet : BroadcastPacket} (sent : packet ∈ order) :
      packet.target ≠ some sender := by
    obtain ⟨host, _, same, away, _⟩ := (mem_broadcastPackets consistent known packet.target).mp
      (List.mem_map.mpr ⟨packet, delivered.mem_iff.mp sent, rfl⟩)
    rw [same]
    exact fun equal => away (Option.some.inj equal)
  constructor
  · rw [broadcast, List.nodup_append]
    refine ⟨nodup_broadcastLocal flagged known, List.nodup_flatMap.mpr ⟨fun packet _ => ?_, ?_⟩, ?_⟩
    · unfold receiveBroadcast
      split
      · split
        · exact nodup_broadcastLocal flagged ‹_›
        · exact List.nodup_nil
      · exact List.nodup_nil
    · -- Two packets have two targets.
      have apart : order.Pairwise fun one other => one.target ≠ other.target :=
        List.pairwise_map.mp ((delivered.map _).nodup_iff.mpr targets)
      refine apart.imp_of_mem fun {one other} first second differs call here there => differs ?_
      exact ((received one first call).mp here).1.symm.trans
        ((received other second call).mp there).1
    · rintro call here other there rfl
      obtain ⟨packet, sent, inside⟩ := List.mem_flatMap.mp there
      refine target_away sent ?_
      rw [← ((received packet sent call).mp inside).1, ((mem_broadcastLocal flagged known call).mp
        here).1]
  · intro call
    rw [broadcast, List.mem_append, mem_broadcastLocal flagged known, List.mem_flatMap]
    constructor
    · rintro (⟨_, subscriber⟩ | ⟨packet, sent, inside⟩)
      · exact subscriber
      · exact ((received packet sent call).mp inside).2
    · intro subscriber
      by_cases here : call.node = sender
      · exact .inl ⟨here, subscriber⟩
      · -- The sender sees the subscriber and sends a packet to its node.
        have ⟨there, wanted, list, found, listed, place⟩ := subscriber
        have target := (mem_broadcastPackets consistent known (some call.node)).mpr
          ⟨call.node, there, rfl, here, call.key, wanted, _, list, found, call.endpoint, listed,
            place, rfl⟩
        obtain ⟨packet, sent, same⟩ := List.mem_map.mp target
        have inside := delivered.mem_iff.mpr sent
        exact .inr ⟨packet, inside, (received packet inside call).mpr ⟨same.symm, subscriber⟩⟩

end Packets

/-- In the sample, overlapping patterns lead to one call for each of them on each node. -/
theorem broadcast_exactly_once_mail :
    ((mailNetwork ["user.created", "user.*"]).broadcast "user.created" "a" none
        ((mailNetwork ["user.created", "user.*"]).broadcastPackets "user.created" "a" none)).Nodup ∧
      ∀ call, call ∈ (mailNetwork ["user.created", "user.*"]).broadcast "user.created" "a" none
          ((mailNetwork ["user.created", "user.*"]).broadcastPackets "user.created" "a" none) ↔
        (mailNetwork ["user.created", "user.*"]).Subscriber "user.created" none call := by
  have entry {node key list} (found : ((mailNetwork ["user.created", "user.*"]).catalog node).get
      key = some list) := OrderedMap.mem_entries_iff.mpr found
  refine broadcast_exactly_once _ consistent_mailNetwork ⟨?_, ?_⟩ (by decide) _ _ (List.Perm.refl _)
  · have all : ∀ node ∈ ["a", "b", "c"],
        ∀ pair ∈ ((mailNetwork ["user.created", "user.*"]).catalog node).entries,
        pair.2.endpoints.Nodup := by decide
    exact fun node known key list found => all node known _ (entry found)
  · have all : ∀ node ∈ ["a", "b", "c"],
        ∀ pair ∈ ((mailNetwork ["user.created", "user.*"]).catalog node).entries,
        ∀ ep ∈ pair.2.endpoints, ep.isLocal = true ↔ ep.node.id = some node := by decide
    exact fun node known key list found => all node known _ (entry found)

end Network

end Moleculer.Events
