import Moleculer.Registry.Soundness

/-! What the order in which the infos of a node arrive does to the record of the node. -/

namespace Moleculer.Cluster

open Base

/-- The part of a node that its infos decide. -/
structure NodeRecord where
  seq : ℚ
  services : List ServiceInfo
  rawInfo : Option NodeInfo
  metadata : Json
  ipList : List String
  hostname : Option String
  port : Option Nat
  client : Json
  config : Json
  deriving DecidableEq

/-- The record that a registry has of a node. -/
def Node.record (node : Node) : NodeRecord :=
  ⟨node.seq, node.services, node.rawInfo, node.metadata, node.ipList, node.hostname, node.port,
    node.client, node.config⟩

/-- The info with the full names that registering fills in. -/
def NodeInfo.complete (payload : NodeInfo) : NodeInfo :=
  { payload with services := payload.services.map (·.map (·.complete)) }

/-- The record that an info describes. -/
def NodeInfo.record (payload : NodeInfo) : NodeRecord :=
  ⟨payload.newSeq, payload.complete.services.getD [], some payload.complete, payload.metadata,
    payload.ipList, payload.hostname, payload.port, payload.client, payload.config⟩

namespace Registry

/-- The node that a registry keeps after an info. The full names are filled in if it registers the
services. -/
def updatedNode (registry : Registry) (payload : NodeInfo) (now : Nat) : Node :=
  let (_, node, isReconnected) := registry.enterNode payload.sender now
  let (updated, needRegister) := node.update payload isReconnected
  if needRegister then
    { updated with
      services := payload.complete.services.getD []
      rawInfo := some payload.complete }
  else updated

theorem node_processNodeInfo {registry : Registry} {payload : NodeInfo} (now : Nat)
    (foreign : payload.sender ≠ some registry.nodeID) :
    (registry.processNodeInfo payload now).nodes.get payload.sender =
        some (registry.updatedNode payload now) ∧
      (registry.processNodeInfo payload now).nodeID = registry.nodeID := by
  have entered := (frame_enterNode registry payload.sender now).2.1
  unfold processNodeInfo updatedNode
  generalize registry.enterNode payload.sender now = result at *
  obtain ⟨first, node, isReconnected⟩ := result
  dsimp only at *
  cases lists : payload.services with
  | some serviceList =>
    cases needed : (node.update payload isReconnected).2 with
    | true =>
      -- Registering the services leaves the node that was stored.
      have complete : payload.complete =
          { payload with services := some (serviceList.map (·.complete)) } := by
        simp [NodeInfo.complete, lists]
      have kept (stored : Node) := nodesKept_registerServices
        { first with nodes := first.nodes.set payload.sender stored } node.self node.isLocal
        serviceList
      refine ⟨?_, (kept _).nodeID.trans entered⟩
      rw [(kept _).others payload.sender (entered ▸ foreign)]
      simp only [OrderedMap.get_set, if_true, complete, Option.getD_some]
    | false => exact ⟨by simp [OrderedMap.get_set], entered⟩
  | none =>
    have complete : payload.complete = payload := by
      cases payload
      cases lists
      rfl
    have listed : (node.update payload isReconnected).1.services = payload.services.getD [] ∧
        (node.update payload isReconnected).1.rawInfo = some payload := by
      unfold Node.update
      dsimp only
      split <;> exact ⟨rfl, rfl⟩
    cases needed : (node.update payload isReconnected).2 with
    | true =>
      refine ⟨?_, entered⟩
      rw [complete, ← listed.1, ← listed.2]
      simp [OrderedMap.get_set]
    | false => exact ⟨by simp [OrderedMap.get_set], entered⟩

theorem updatedNode_kept (registry : Registry) (payload : NodeInfo) (now : Nat) :
    (registry.updatedNode payload now).available = true ∧
      (registry.updatedNode payload now).instanceID = some payload.instanceID ∧
      (registry.updatedNode payload now).rawInfo.map (·.seq) = some payload.seq := by
  have online : (registry.enterNode payload.sender now).2.1.available = true := by
    unfold enterNode
    split
    · rfl
    · split
      · assumption
      · rfl
  unfold updatedNode
  generalize registry.enterNode payload.sender now = result at *
  obtain ⟨first, node, isReconnected⟩ := result
  dsimp only at *
  unfold Node.update
  by_cases accepted : payload.newSeq > node.seq ∨ isReconnected = true ∨
      node.instanceID ≠ some payload.instanceID
  · rw [if_pos accepted]
    exact ⟨online, rfl, rfl⟩
  · rw [if_neg accepted]
    have same : node.instanceID = some payload.instanceID := by
      by_contra differs
      exact accepted (.inr (.inr differs))
    exact ⟨online, same, rfl⟩

/-- What is known of a node is older than an info of it. -/
def Older (registry : Registry) (payload : NodeInfo) : Prop :=
  ∀ node, registry.nodes.get payload.sender = some node → node.available = true →
    node.instanceID = some payload.instanceID → node.seq < payload.newSeq

variable {registry : Registry} {payloads : List NodeInfo} {payload top : NodeInfo}

theorem older_of_unseen (unseen : registry.nodes.get payload.sender = none) :
    registry.Older payload := by
  intro node found
  cases unseen.symm.trans found

theorem Older.record (older : registry.Older payload) (now : Nat) :
    (registry.updatedNode payload now).record = payload.record := by
  unfold updatedNode enterNode
  cases found : registry.nodes.get payload.sender with
  | none => simp [Node.update, Node.new, Node.record, NodeInfo.record]
  | some node =>
    by_cases online : node.available = true
    · -- The number is higher, or the instance is another one.
      have accepted : payload.newSeq > node.seq ∨ false = true ∨
          node.instanceID ≠ some payload.instanceID := by
        by_cases same : node.instanceID = some payload.instanceID
        · exact .inl (older node found online same)
        · exact .inr (.inr same)
      simp only [online, if_true, Node.update, if_pos accepted]
      rfl
    · simp [online, Node.update, Node.record, NodeInfo.record]

theorem Older.processNodeInfo (older : registry.Older top) (sender : payload.sender = top.sender)
    (instanceID : payload.instanceID = top.instanceID) (lower : payload.newSeq < top.newSeq)
    (foreign : payload.sender ≠ some registry.nodeID) (now : Nat) :
    (registry.processNodeInfo payload now).Older top := by
  intro node found _ _
  rw [← sender, (node_processNodeInfo now foreign).1, Option.some.injEq] at found
  subst found
  unfold updatedNode enterNode
  cases known : registry.nodes.get payload.sender with
  | none => simpa [Node.update, Node.new] using lower
  | some node =>
    by_cases online : node.available = true
    · simp only [online, if_true, Node.update]
      split
      · exact lower
      · -- The number of the node stays.
        rename_i refused
        have same : node.instanceID = some top.instanceID := by
          by_contra differs
          exact refused (.inr (.inr (instanceID ▸ differs)))
        exact older node (sender ▸ known) online same
    · simpa [online, Node.update] using lower

/-- The registry after several infos, each with the time of its arrival. -/
def receiveInfos (registry : Registry) (infos : List (NodeInfo × Nat)) : Registry :=
  infos.foldl (fun state info => state.processNodeInfo info.1 info.2) registry

/-- The record of a node after several infos. -/
def recordAfter (registry : Registry) (infos : List (NodeInfo × Nat)) (id : NodeID) :
    Option NodeRecord :=
  ((registry.receiveInfos infos).nodes.get id).map Node.record

theorem receiveInfos_concat (registry : Registry) (infos : List (NodeInfo × Nat))
    (last : NodeInfo × Nat) : registry.receiveInfos (infos ++ [last]) =
      (registry.receiveInfos infos).processNodeInfo last.1 last.2 := by
  simp [receiveInfos]

theorem nodeID_receiveInfos {id : NodeID} (foreign : id ≠ some registry.nodeID)
    (infos : List (NodeInfo × Nat)) (senders : ∀ info ∈ infos, info.1.sender = id) :
    (registry.receiveInfos infos).nodeID = registry.nodeID := by
  induction infos using List.reverseRecOn with
  | nil => rfl
  | append_singleton init last ih =>
    have before := ih fun info inside => senders info (List.mem_append_left _ inside)
    have sender : last.1.sender = id := senders last (by simp)
    rw [receiveInfos_concat, (node_processNodeInfo last.2 ?_).2, before]
    rw [sender, before]
    exact foreign

theorem Older.receiveInfos (older : registry.Older top)
    (foreign : top.sender ≠ some registry.nodeID) (infos : List (NodeInfo × Nat))
    (same : ∀ info ∈ infos, info.1.sender = top.sender ∧ info.1.instanceID = top.instanceID ∧
      info.1.newSeq < top.newSeq) : (registry.receiveInfos infos).Older top := by
  induction infos using List.reverseRecOn with
  | nil => exact older
  | append_singleton init last ih =>
    obtain ⟨sender, instanceID, lower⟩ := same last (by simp)
    have earlier := fun info inside => same info (List.mem_append_left [last] inside)
    rw [receiveInfos_concat]
    refine (ih earlier).processNodeInfo sender instanceID lower ?_ last.2
    rw [sender, nodeID_receiveInfos foreign init fun info inside => (earlier info inside).1]
    exact foreign

/-- The infos of one instance of a node, with the newest of them. -/
structure Instance (payloads : List NodeInfo) (top : NodeInfo) : Prop where
  same : ∀ payload ∈ payloads, payload.sender = top.sender ∧ payload.instanceID = top.instanceID
  positive : ∀ payload ∈ payloads, ∃ seq, payload.seq = some seq ∧ 0 < seq
  distinct : (payloads.map (·.seq)).Nodup
  listed : top ∈ payloads
  highest : ∀ payload ∈ payloads, payload.newSeq ≤ top.newSeq

theorem Instance.eq_of_seq (infos : Instance payloads top) (inside : payload ∈ payloads)
    (same : payload.seq = top.seq) :
    payload = top :=
  List.inj_on_of_nodup_map infos.distinct inside infos.listed same

theorem Instance.lower (infos : Instance payloads top) (inside : payload ∈ payloads)
    (other : payload ≠ top) :
    payload.newSeq < top.newSeq := by
  obtain ⟨seq, numbered, positive⟩ := infos.positive payload inside
  obtain ⟨highest, top_numbered, top_positive⟩ := infos.positive top infos.listed
  have le := infos.highest payload inside
  have differs : seq ≠ highest := by
    rintro rfl
    exact other (infos.eq_of_seq inside (numbered.trans top_numbered.symm))
  simp only [NodeInfo.newSeq, numbered, top_numbered, if_neg positive.ne',
    if_neg top_positive.ne'] at le ⊢
  exact lt_of_le_of_ne le differs

theorem Instance.recordAfter_iff (infos : Instance payloads top)
    (foreign : top.sender ≠ some registry.nodeID) (older : registry.Older top)
    {order : List (NodeInfo × Nat)} (delivers : (order.map Prod.fst).Perm payloads) :
    registry.recordAfter order top.sender = some top.record ↔
      (order.map Prod.fst).getLast? = some top := by
  -- All that matters is what comes last, and that the rest is older.
  rcases List.eq_nil_or_concat order with rfl | ⟨init, last, rfl⟩
  · have empty := delivers.symm.mem_iff.mp infos.listed
    cases empty
  rw [List.concat_eq_append] at delivers ⊢
  have inside (info : NodeInfo × Nat) (member : info ∈ init ++ [last]) : info.1 ∈ payloads :=
    delivers.mem_iff.mp (List.mem_map_of_mem member)
  have last_inside := inside last (by simp)
  have sender := (infos.same last.1 last_inside).1
  have nodeID := nodeID_receiveInfos foreign init fun info member =>
    (infos.same info.1 (inside info (List.mem_append_left _ member))).1
  have final : registry.recordAfter (init ++ [last]) top.sender =
      some ((registry.receiveInfos init).updatedNode last.1 last.2).record := by
    rw [recordAfter, receiveInfos_concat, ← sender, (node_processNodeInfo last.2 ?_).1]
    · rfl
    · rw [sender, nodeID]
      exact foreign
  rw [final, Option.some.injEq, List.map_append, List.map_singleton, List.getLast?_concat,
    Option.some.injEq]
  constructor
  · intro described
    -- The raw info shows which payload was the last one.
    have shown := (updatedNode_kept (registry.receiveInfos init) last.1 last.2).2.2
    have raw : ((registry.receiveInfos init).updatedNode last.1 last.2).rawInfo =
        some top.complete := congrArg NodeRecord.rawInfo described
    rw [raw] at shown
    exact infos.eq_of_seq last_inside (Option.some.inj shown).symm
  · intro newest
    rw [newest]
    refine Older.record (older.receiveInfos foreign init fun info member => ?_) last.2
    have member_inside := inside info (List.mem_append_left _ member)
    refine ⟨(infos.same _ member_inside).1, (infos.same _ member_inside).2,
      infos.lower member_inside fun again => ?_⟩
    -- The newest info comes only once.
    have distinct := (delivers.nodup_iff).mpr (List.Nodup.of_map _ infos.distinct)
    rw [List.map_append, List.map_singleton, newest, List.nodup_append] at distinct
    exact distinct.2.2 info.1 (List.mem_map_of_mem member) top (by simp) again

/-- Two orders in which the infos of an instance arrive give the same record, that of the newest
one, exactly if the newest one comes last in both. -/
theorem info_order_iff (registry : Registry) {payloads : List NodeInfo} {top : NodeInfo}
    (infos : Instance payloads top) (foreign : top.sender ≠ some registry.nodeID)
    (older : registry.Older top) (first second : List (NodeInfo × Nat))
    (delivers : (first.map Prod.fst).Perm payloads)
    (delivers' : (second.map Prod.fst).Perm payloads) :
    (registry.recordAfter first top.sender = registry.recordAfter second top.sender ∧
        registry.recordAfter first top.sender = some top.record) ↔
      (first.map Prod.fst).getLast? = some top ∧ (second.map Prod.fst).getLast? = some top := by
  rw [← infos.recordAfter_iff foreign older delivers,
    ← infos.recordAfter_iff foreign older delivers']
  constructor
  · rintro ⟨same, described⟩
    exact ⟨described, same ▸ described⟩
  · rintro ⟨described, described'⟩
    exact ⟨described.trans described'.symm, described⟩

/-- An info of a node without services. -/
def plainInfo (seq : ℚ) (hostname : String) : NodeInfo where
  sender := some "node-2"
  instanceID := "i"
  seq := some seq
  services := some []
  ipList := []
  hostname := some hostname
  port := none
  client := .text "\x7b\x7d"
  config := .text "\x7b\x7d"
  metadata := .text "\x7b\x7d"

theorem instance_plainInfo :
    Instance [plainInfo 1 "a", plainInfo 2 "b", plainInfo 3 "c"] (plainInfo 3 "c") :=
  ⟨by decide, by simp [plainInfo], by decide, by decide, by decide⟩

/-- Three infos arrive in two orders that end with the newest one. -/
theorem info_order_ended :
    (create "node-1" "l" 0).recordAfter [(plainInfo 1 "a", 1), (plainInfo 2 "b", 2),
        (plainInfo 3 "c", 3)] (some "node-2") =
      (create "node-1" "l" 0).recordAfter [(plainInfo 2 "b", 1), (plainInfo 1 "a", 2),
        (plainInfo 3 "c", 3)] (some "node-2") ∧
    (create "node-1" "l" 0).recordAfter [(plainInfo 1 "a", 1), (plainInfo 2 "b", 2),
        (plainInfo 3 "c", 3)] (some "node-2") = some (plainInfo 3 "c").record :=
  (info_order_iff (create "node-1" "l" 0) instance_plainInfo (by decide)
    (older_of_unseen (by decide)) _ _ (by decide) (by decide)).mpr ⟨rfl, rfl⟩

/-- An info that arrives late overwrites the record of a newer one, whose number stays. -/
theorem late_info_overwrites :
    (create "node-1" "l" 0).recordAfter [(plainInfo 2 "new", 1), (plainInfo 1 "old", 2)]
        (some "node-2") ≠ some (plainInfo 2 "new").record ∧
      ((create "node-1" "l" 0).recordAfter [(plainInfo 2 "new", 1), (plainInfo 1 "old", 2)]
        (some "node-2")).map (fun record => (record.seq, record.hostname)) =
      some (2, some "old") := by
  decide

end Registry

end Moleculer.Cluster
