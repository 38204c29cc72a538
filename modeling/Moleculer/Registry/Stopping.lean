import Moleculer.Registry.LocalInfo

/-! What a broker that is stopping still tells the other nodes about its services. -/

namespace Moleculer.Cluster

open Base

namespace Registry

/-- What `stop` has done to the registry once the empty info is generated. -/
def stopping (registry : Registry) : Registry :=
  (regenerateLocalRawInfo { registry with started := false } true true).1

/-- What can go on while a broker is stopping. -/
inductive Activity where
  /-- Something happens to the local node: also a `start` that is still running may connect the
  transporter and set the flag. -/
  | own (event : LocalEvent)
  /-- An INFO packet from another node, or from this one. -/
  | info (payload : NodeInfo) (now : Nat)
  | disconnected (nodeID : NodeID) (now : Nat)
  | checkOfflineNodes (timeout now : Nat)

/-- What one activity does to the registry, and the info that `getLocalNodeInfo` returns in it. -/
def act (registry : Registry) : Activity → Registry × Option NodeInfo
  | .own event => registry.perform event
  | .info payload now =>
    -- `messageHandler` skips its own packets.
    if payload.sender = some registry.nodeID then (registry, none)
    else (registry.processNodeInfo payload now, none)
  | .disconnected nodeID now => (registry.disconnected nodeID now, none)
  | .checkOfflineNodes timeout now => (registry.checkOfflineNodes timeout now, none)

/-- The registry after an activity. -/
def next (registry : Registry) (activity : Activity) : Registry := (registry.act activity).1

/-- The infos that `getLocalNodeInfo` returns along the way. -/
def returned : Registry → List Activity → List NodeInfo
  | _, [] => []
  | registry, activity :: rest =>
    (registry.act activity).2.toList ++ returned (registry.next activity) rest

/-- An info that is asked for is the cached one, or it is generated while the broker is stopped and
no change of the services is pending, or there are no local services. -/
def Silent (registry : Registry) (force : Bool) : Prop :=
  (force = false ∧ registry.localNodeInfoInvalidated = .none ∧
      registry.localNode.rawInfo.isSome = true) ∨
    (registry.started = false ∧ registry.localNodeInfoInvalidated ≠ .seq) ∨
    registry.getLocalNodeServices = []

/-- The transporter is connected only while there are no local services. -/
def Bare (registry : Registry) : Activity → Prop
  | .own (.connected _) => registry.getLocalNodeServices = []
  | _ => True

/-- Nothing makes the local info list services. -/
def Quiet (registry : Registry) : Activity → Prop
  | .own (.getLocalNodeInfo force) => registry.Silent force
  | .own (.claimedOffline seq) => registry.Silent (¬ (seq = 0 ∨ seq < registry.localNode.seq))
  | .own (.connected _) => registry.getLocalNodeServices = []
  | _ => True

/-- The cached info lists no services. -/
def Emptied (registry : Registry) : Prop :=
  ∀ info, registry.localNode.rawInfo = some info → info.services = some []

/-- The local info is kept or dropped. -/
def LocalKept (before after : Registry) : Prop :=
  ∀ info, after.localNode.rawInfo = some info → before.localNode.rawInfo = some info

namespace LocalKept

theorem refl (registry : Registry) : LocalKept registry registry := fun _ => id

theorem trans {first second third : Registry} (left : LocalKept first second)
    (right : LocalKept second third) : LocalKept first third :=
  fun info found => left info (right info found)

theorem foldl {ι : Type} {step : Registry → ι → Registry}
    (kept : ∀ state input, LocalKept state (step state input)) (registry : Registry)
    (inputs : List ι) : LocalKept registry (inputs.foldl step registry) :=
  List.foldlRecOn inputs step (.refl registry) fun _ before input _ =>
    before.trans (kept _ input)

theorem of_get {before after : Registry} (nodeID : after.nodeID = before.nodeID)
    (nodes : after.nodes.get (some before.nodeID) = before.nodes.get (some before.nodeID)) :
    LocalKept before after := by
  intro info found
  rw [localNode, nodeID, nodes] at found
  exact found

theorem of_nodesKept {before after : Registry} (kept : NodesKept before after) :
    LocalKept before after := by
  intro info found
  obtain ⟨services, home⟩ := kept.home
  rw [localNode, kept.nodeID, home] at found
  rw [localNode]
  cases located : before.nodes.get (some before.nodeID) with
  | none =>
    rw [located] at found
    cases found
  | some node =>
    rw [located] at found
    exact found

end LocalKept

theorem Emptied.kept {before after : Registry} (empty : before.Emptied)
    (kept : LocalKept before after) : after.Emptied :=
  fun info found => empty info (kept info found)

variable (registry : Registry) (id : NodeID)

theorem localKept_modifyNode (change : Node → Node)
    (same : ∀ node, (change node).rawInfo = node.rawInfo) :
    LocalKept registry (registry.modifyNode id change) := by
  intro info found
  simp only [localNode, modifyNode, OrderedMap.get_modify] at found ⊢
  split at found
  · cases located : registry.nodes.get (some registry.nodeID) with
    | none =>
      rw [located] at found
      cases found
    | some node =>
      rw [located] at found
      rw [← found]
      exact (same node).symm
  · exact found

theorem localKept_processNodeInfo (payload : NodeInfo) (now : Nat)
    (foreign : payload.sender ≠ some registry.nodeID) :
    LocalKept registry (registry.processNodeInfo payload now) := by
  obtain ⟨nextRef, _, entered⟩ := enterNode_eq registry payload.sender now
  have stored (node : Node) : LocalKept registry
      { (registry.enterNode payload.sender now).1 with
        nodes := (registry.enterNode payload.sender now).1.nodes.set payload.sender node } := by
    rw [entered]
    refine .of_get rfl ?_
    rw [OrderedMap.get_set, if_neg (Ne.symm foreign)]
  unfold processNodeInfo
  dsimp only
  split
  · exact (stored _).trans (.of_nodesKept (nodesKept_registerServices ..))
  · exact stored _

theorem localKept_disconnected (now : Nat) :
    LocalKept registry (registry.disconnected id now) := by
  unfold disconnected
  split
  · split
    · have removed (state : Registry) (item : ServiceItem) :
          LocalKept state (state.removeItem item.self) := .of_get rfl rfl
      refine (localKept_modifyNode registry id (·.disconnected now) fun node => ?_).trans
        (.foldl removed _ _)
      unfold Node.disconnected
      split <;> rfl
    · exact .refl registry
  · exact .refl registry

theorem localKept_checkOfflineNodes (timeout now : Nat) :
    LocalKept registry (registry.checkOfflineNodes timeout now) := by
  unfold checkOfflineNodes
  split
  · exact .refl registry
  · refine .foldl (fun state node => ?_) _ _
    unfold checkOfflineNode
    split
    · exact .refl state
    · split
      · exact localKept_modifyNode _ _ _ fun _ => rfl
      · split
        · -- A deleted node has no info any more.
          intro info found
          simp only [localNode, OrderedMap.get_delete] at found ⊢
          split at found
          · cases found
          · exact found
        · exact .refl state

/-- A generated info is the only one that can be cached then. -/
theorem cached_regenerate (incSeq isStopping : Bool) (info : NodeInfo)
    (found : (registry.regenerateLocalRawInfo incSeq isStopping).1.localNode.rawInfo = some info) :
    info = (registry.regenerateLocalRawInfo incSeq isStopping).2 := by
  simp only [regenerateLocalRawInfo, localNode, modifyNode, OrderedMap.get_modify, if_true]
    at found ⊢
  cases located : registry.nodes.get (some registry.nodeID) with
  | none =>
    rw [located] at found
    cases found
  | some node =>
    rw [located] at found
    exact (Option.some.inj found).symm

theorem emptied_regenerate {incSeq isStopping : Bool}
    (nothing : isStopping = true ∨ registry.getLocalNodeServices = []) :
    (registry.regenerateLocalRawInfo incSeq isStopping).1.Emptied := by
  intro info found
  rw [cached_regenerate registry incSeq isStopping info found]
  rcases nothing with rfl | none
  · rfl
  · simp [regenerateLocalRawInfo, NodeInfo.safetyObject, none, Sharing.pruneEach]

variable {registry}

/-- The info that is asked for lists nothing exactly if it is silent, and then the cached one lists
nothing either. -/
theorem Emptied.asked (empty : registry.Emptied) (force : Bool) :
    ((registry.getLocalNodeInfo force).2.services = some [] ↔ registry.Silent force) ∧
      ((registry.getLocalNodeInfo force).2.services = some [] →
        (registry.getLocalNodeInfo force).1.Emptied) := by
  unfold getLocalNodeInfo
  split
  · -- The cached info, which is empty.
    rename_i info found valid
    refine ⟨iff_of_true (empty info found) (.inl ⟨rfl, valid, ?_⟩), fun _ => empty⟩
    rw [found]
    rfl
  · rename_i force _ _ _ other
    have fresh : ¬ (force = false ∧ registry.localNodeInfoInvalidated = .none ∧
        registry.localNode.rawInfo.isSome = true) := by
      rintro ⟨plain, valid, present⟩
      obtain ⟨info, found⟩ := Option.isSome_iff_exists.mp present
      exact other info plain found valid
    refine ⟨?_, fun lists info found => ?_⟩
    · rw [Silent, or_iff_right fresh]
      -- What is generated depends on the two flags and on whether there are services.
      change some (registry.advertised _) = some [] ↔ _
      rw [Option.some.injEq, advertised, safely_eq_nil_iff]
      cases registry.started <;> cases registry.localNodeInfoInvalidated <;> simp
    · rw [cached_regenerate registry _ _ info found]
      exact lists

theorem silent_true : registry.Silent true ↔
    (registry.started = false ∧ registry.localNodeInfoInvalidated ≠ .seq) ∨
      registry.getLocalNodeServices = [] := by
  simp [Silent]

/-- An activity that returns an info returns an empty one exactly if nothing makes it list services,
and the cached info stays empty. -/
theorem Emptied.next (empty : registry.Emptied) (activity : Activity) :
    (((∀ info ∈ (registry.act activity).2, info.services = some []) ∧ registry.Bare activity) ↔
      registry.Quiet activity) ∧ (registry.Quiet activity → (registry.next activity).Emptied) := by
  -- There are activities that ask for the info, and activities that leave the cached one alone.
  have asks {state : Registry} (empty : state.Emptied) (force : Bool) :
      ((∀ info ∈ some (state.getLocalNodeInfo force).2, info.services = some []) ∧ True ↔
        state.Silent force) ∧
        (state.Silent force → (state.getLocalNodeInfo force).1.Emptied) := by
    obtain ⟨silent, kept⟩ := empty.asked force
    simp only [Option.mem_def, Option.some.injEq, forall_eq', and_true]
    exact ⟨silent, fun quiet => kept (silent.mpr quiet)⟩
  have keeps {after : Registry} (kept : LocalKept registry after) :
      ((∀ info ∈ (none : Option NodeInfo), info.services = some []) ∧ True ↔ True) ∧
        (True → after.Emptied) :=
    ⟨iff_true_intro ⟨nofun, trivial⟩, fun _ => empty.kept kept⟩
  cases activity with
  | own event =>
    cases event with
    | registerLocalService svc =>
      exact keeps (.of_nodesKept (nodesKept_registerLocalService registry svc))
    | unregisterService fullName id =>
      exact keeps (.of_nodesKept (nodesKept_unregisterService registry fullName id))
    | getLocalNodeInfo force => exact asks empty force
    | connected port =>
      exact ⟨⟨And.right, fun none => ⟨nofun, none⟩⟩, fun none => emptied_regenerate _ (.inr none)⟩
    | claimedOffline seq =>
      change (_ ∧ True ↔ registry.Silent _) ∧ (registry.Silent _ → _)
      rw [Registry.next, act, perform]
      split
      · rename_i outdated
        simpa only [outdated, not_true_eq_false, decide_false] using asks empty false
      · rename_i newer
        -- The number has no part in it, and a forced call does not look at the cached info.
        have raised := asks (empty.kept (localKept_modifyNode registry (some registry.nodeID)
          (fun node => { node with seq := seq + 1 }) fun _ => rfl)) true
        rw [silent_true] at raised
        rw [decide_eq_true newer, silent_true]
        exact raised
    | started => exact keeps (.refl registry)
    | stop => exact keeps (.refl registry)
    | blocked =>
      exact ⟨(keeps (.refl registry)).1, fun _ => emptied_regenerate registry (.inl rfl)⟩
  | info payload now =>
    rw [Registry.next, act]
    split
    · exact keeps (.refl registry)
    · exact keeps (localKept_processNodeInfo registry payload now ‹_›)
  | disconnected id now => exact keeps (localKept_disconnected registry id now)
  | checkOfflineNodes timeout now => exact keeps (localKept_checkOfflineNodes registry timeout now)

theorem returned_iff (registry : Registry) (activities : List Activity) :
    ((∀ info ∈ registry.returned activities, info.services = some []) ∧
        Meets Registry.next Bare registry activities) ↔
      Meets Registry.next (fun registry activity =>
        (∀ info ∈ (registry.act activity).2, info.services = some []) ∧ registry.Bare activity)
        registry activities := by
  induction activities generalizing registry with
  | nil => simp [returned, Meets]
  | cons activity rest ih =>
    simp only [returned, Meets, ← ih, List.mem_append, or_imp, forall_and, Option.mem_toList]
    tauto

/-- A stopping broker lists no services, and is not connected while it has local ones, exactly as
long as every info that is asked for is the cached one, or is generated while the broker is stopped
and no change of the services is pending, or there are no local services. -/
theorem advertises_nothing_iff (registry : Registry) (activities : List Activity) :
    ((∀ info ∈ registry.stopping.returned activities, info.services = some []) ∧
        Meets Registry.next Bare registry.stopping activities) ↔
      Meets Registry.next Quiet registry.stopping activities := by
  rw [returned_iff]
  exact meets_iff (fun _ activity _ empty => (empty.next activity).1)
    (fun _ activity _ empty lists => (empty.next activity).2 ((empty.next activity).1.mp lists))
    (emptied_regenerate _ (.inl rfl))

/-- A service registered shortly before the stop is advertised by the next info. -/
theorem pending_change_advertised :
    ¬ ∀ info ∈ (stopping { run step (create "local" "instance" 0) [.registerLocalService posts] with
        started := true }).returned [.own (.getLocalNodeInfo false)], info.services = some [] := by
  decide +kernel

end Registry

end Moleculer.Cluster
