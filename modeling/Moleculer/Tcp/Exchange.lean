import Moleculer.Tcp.Monotone

/-! A gossip exchange between two nodes: what one of them asks, what the other one answers, and what
both make of it. -/

namespace Moleculer.Tcp

open Base Cluster Cluster.Registry

/-- The row for an online node in a request. -/
def onlineClaim (node : Node) : OnlineClaim :=
  ⟨some node.seq, some (node.cpuSeq.getD 0), some (node.cpu.getD 0)⟩

/-- The packet of `sendGossipRequest`. -/
def gossipRequest (registry : Registry) : GossipRequest where
  sender := some registry.nodeID
  online := (registry.nodes.values.filter fun node => node.available).foldl
    (fun online node => online.set (propertyKey node.self.id) (onlineClaim node)) .empty
  offline := (registry.nodes.values.filter fun node => !node.available && 0 < node.seq).foldl
    (fun offline node => offline.set (propertyKey node.self.id) node.seq) .empty

/-- A complete exchange that the first node starts, with successful sends. -/
def exchange (asker teller : Registry) (now : Nat) : Registry × Registry :=
  let (answered, response) := processGossipRequest teller (gossipRequest asker) now
  match response with
  | some response => (processGossipResponse asker response now, answered)
  | none => (asker, answered)

theorem exchange_eq {asker teller : Registry} (sound : teller.Sound)
    (knows : teller.nodes.get (some asker.nodeID) ≠ none) (now : Nat) :
    exchange asker teller now =
      (processGossipResponse asker (answerAll teller (gossipRequest asker) now).2 now,
        (answerAll teller (gossipRequest asker) now).1) := by
  obtain ⟨answered, sent⟩ := processGossipRequest_spec teller (gossipRequest asker) now
  have known : (answerAll teller (gossipRequest asker) now).1.nodes.get (some asker.nodeID) ≠
      none := by
    obtain ⟨node, found⟩ := Option.ne_none_iff_exists'.mp knows
    obtain ⟨record, stored, _⟩ := grows_answerAll sound (gossipRequest asker) now _ node found
    rw [stored]
    exact Option.some_ne_none record
  have response := sent known
  generalize answerAll teller (gossipRequest asker) now = all at *
  unfold exchange
  generalize processGossipRequest teller (gossipRequest asker) now = reply at *
  obtain ⟨_, _⟩ := reply
  dsimp only at answered response ⊢
  rw [answered, response]
  by_cases silent : all.2.online.size = 0 ∧ all.2.offline.size = 0
  · have noRows : all.2.online.entries = [] := List.length_eq_zero_iff.mp silent.1
    have noClaims : all.2.offline.entries = [] := List.length_eq_zero_iff.mp silent.2
    rw [if_pos silent, processGossipResponse, noRows, noClaims]
    rfl
  · rw [if_neg silent]

theorem latest_values {registry : Registry} (sound : registry.Sound) (test : Node → Bool)
    (id : String) :
    OrderedMap.latest (fun node : Node => propertyKey node.self.id)
      (registry.nodes.values.filter test) id = (registry.nodes.get (some id)).filter test := by
  have here {node : Node} (inside : node ∈ registry.nodes.values)
      (named : propertyKey node.self.id = id) : registry.nodes.get (some id) = some node := by
    have stored := stored_values sound inside
    obtain ⟨own, self⟩ := Option.ne_none_iff_exists'.mp (sound.keyed _ _ stored).2.1
    rw [self] at stored named
    exact named ▸ stored
  cases last : OrderedMap.latest (fun node : Node => propertyKey node.self.id)
      (registry.nodes.values.filter test) id with
  | some node =>
    obtain ⟨inside, named⟩ := OrderedMap.latest_spec last
    obtain ⟨member, passed⟩ := List.mem_filter.mp inside
    rw [here member named, Option.filter_some, if_pos passed]
  | none =>
    refine Eq.symm (Option.eq_none_iff_forall_not_mem.mpr fun node found => ?_)
    obtain ⟨stored, passed⟩ := Option.filter_eq_some_iff.mp found
    refine OrderedMap.latest_eq_none_iff.mp last node (List.mem_filter.mpr
      ⟨OrderedMap.mem_values_iff.mpr ⟨some id, stored⟩, passed⟩) ?_
    rw [(sound.keyed _ _ stored).1]
    rfl

theorem get_gossipRequest {registry : Registry} (sound : registry.Sound) (id : String) :
    (gossipRequest registry).online.get id =
        ((registry.nodes.get (some id)).filter fun node => node.available).map onlineClaim ∧
      (gossipRequest registry).offline.get id = ((registry.nodes.get (some id)).filter
        fun node => !node.available && 0 < node.seq).map (·.seq) := by
  constructor
  · rw [gossipRequest, OrderedMap.get_foldl_set_map (fun node : Node => propertyKey node.self.id),
      latest_values sound, OrderedMap.get_empty, Option.or_none]
  · rw [gossipRequest, OrderedMap.get_foldl_set_map (fun node : Node => propertyKey node.self.id)
      (fun node : Node => node.seq), latest_values sound, OrderedMap.get_empty, Option.or_none]

theorem knownSeq_gossipRequest {registry : Registry} (sound : registry.Sound) (id : String) :
    (gossipRequest registry).offlineSeq (some id) = ((registry.nodes.get (some id)).filter
        fun node => !node.available && 0 < node.seq).map (·.seq) ∧
      (gossipRequest registry).knownSeq (some id) = ((registry.nodes.get (some id)).filter
        fun node => node.available || 0 < node.seq).map (·.seq) := by
  obtain ⟨online, offline⟩ := get_gossipRequest sound id
  have claimed : (gossipRequest registry).offlineSeq (some id) =
      ((registry.nodes.get (some id)).filter fun node => !node.available && 0 < node.seq).map
        (·.seq) := by
    unfold GossipRequest.offlineSeq
    rw [show propertyKey (some id) = id from rfl, offline]
    cases registry.nodes.get (some id) with
    | none => rfl
    | some node =>
      by_cases positive : 0 < node.seq
      · cases available : node.available <;>
          simp [Option.filter_some, available, positive, positive.ne']
      · simp [Option.filter_some, positive]
  refine ⟨claimed, ?_⟩
  unfold GossipRequest.knownSeq
  rw [claimed, show propertyKey (some id) = id from rfl, online]
  cases registry.nodes.get (some id) with
  | none => rfl
  | some node =>
    by_cases positive : 0 < node.seq <;> cases available : node.available <;>
      simp [Option.filter_some, available, positive, onlineClaim]

end Moleculer.Tcp
