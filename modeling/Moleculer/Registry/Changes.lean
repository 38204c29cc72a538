import Mathlib.Logic.Relation
import Moleculer.Registry.Registry

/-! The elementary changes that all operations of the registry consist of. -/

namespace Moleculer.Cluster

open Base

namespace Registry

/-- A change to the nodes, or to the services and endpoints of one of the given nodes. -/
inductive Change (on : NodeID → Prop) : Registry → Registry → Prop where
  | nodes {registry : Registry} {nextRef : Nat} {nodes : OrderedMap NodeID Node}
      {invalidated : Invalidation} (grow : registry.nextRef ≤ nextRef) :
      Change on registry { registry with
        nextRef := nextRef
        nodes := nodes
        localNodeInfoInvalidated := invalidated }
  | addService {registry : Registry} {node : NodeRef} (svc : ServiceInfo) (isLocal : Bool)
      (here : on node.id) : Change on registry (registry.addService node svc isLocal).1
  | update {registry : Registry} {service : ServiceRef} (svc : ServiceInfo)
      (here : on service.node.id) :
      Change on registry (registry.modifyItem service (·.update svc))
  | registerAction {registry : Registry} {node : NodeRef} {service : ServiceRef} (isLocal : Bool)
      (action : ActionInfo) (here : on node.id) (there : on service.node.id) :
      Change on registry (registry.registerAction node isLocal service action)
  | registerEvent {registry : Registry} {node : NodeRef} {service : ServiceRef} (event : EventInfo)
      (here : on node.id) (there : on service.node.id) :
      Change on registry (registry.registerEvent node service event)
  | unregisterAction {registry : Registry} {node : NodeRef} (actionName : String)
      (here : on node.id) : Change on registry (registry.unregisterAction node actionName)
  | unregisterEvent {registry : Registry} {node : NodeRef} (eventName : String)
      (here : on node.id) : Change on registry (registry.unregisterEvent node eventName)
  | removeItem {registry : Registry} {service : ServiceRef} (here : on service.node.id) :
      Change on registry (registry.removeItem service)

/-- Any number of changes, one after the other. -/
abbrev Changes (on : NodeID → Prop) : Registry → Registry → Prop :=
  Relation.ReflTransGen (Change on)

variable {on : NodeID → Prop} {registry after : Registry} {node : NodeRef} {service : ServiceRef}
  {id : NodeID}

theorem Change.flags (change : Change on registry after) :
    after.nodeID = registry.nodeID ∧ after.started = registry.started := by
  cases change with
  | registerAction =>
    unfold Registry.registerAction
    split <;> exact ⟨rfl, rfl⟩
  | _ => exact ⟨rfl, rfl⟩

theorem enterNode_eq (registry : Registry) (id : NodeID) (now : Nat) :
    ∃ nextRef, registry.nextRef ≤ nextRef ∧
      (registry.enterNode id now).1 = { registry with nextRef := nextRef } := by
  unfold enterNode
  split
  · exact ⟨_, Nat.le_succ _, rfl⟩
  · split <;> exact ⟨_, le_rfl, rfl⟩

theorem frame_enterNode (registry : Registry) (id : NodeID) (now : Nat) :
    (registry.enterNode id now).1.nodes = registry.nodes ∧
      (registry.enterNode id now).1.nodeID = registry.nodeID ∧
      (registry.enterNode id now).1.services = registry.services ∧
      (registry.enterNode id now).1.actions = registry.actions ∧
      (registry.enterNode id now).1.events = registry.events := by
  obtain ⟨nextRef, _, same⟩ := enterNode_eq registry id now
  simp only [same, and_self]

namespace Changes

theorem flags (changes : Changes on registry after) :
    after.nodeID = registry.nodeID ∧ after.started = registry.started := by
  induction changes with
  | refl => exact ⟨rfl, rfl⟩
  | tail _ change ih => exact ⟨change.flags.1.trans ih.1, change.flags.2.trans ih.2⟩

theorem invariant {holds : Registry → Prop}
    (kept : ∀ before after, holds before → Change on before after → holds after)
    (changes : Changes on registry after) (first : holds registry) : holds after := by
  induction changes with
  | refl => exact first
  | tail _ change ih => exact kept _ _ ih change

theorem foldl {ι : Type} {step : Registry → ι → Registry} {inputs : List ι}
    (each : ∀ state, ∀ input ∈ inputs, Changes on state (step state input)) :
    Changes on registry (inputs.foldl step registry) :=
  List.foldlRecOn inputs step .refl fun _ before input inside => before.trans (each _ input inside)

theorem offerActions (here : on node.id) (there : on service.node.id) (isLocal : Bool)
    (actions : Option (OrderedMap String ActionInfo)) :
    Changes on registry (registry.offerActions node isLocal service actions) := by
  cases actions with
  | none => exact .refl
  | some actions =>
    exact foldl fun _ action _ => .single (.registerAction isLocal action here there)

theorem offerEvents (here : on node.id) (there : on service.node.id)
    (events : Option (OrderedMap String EventInfo)) :
    Changes on registry (registry.offerEvents node service events) := by
  cases events with
  | none => exact .refl
  | some events => exact foldl fun _ event _ => .single (.registerEvent event here there)

theorem syncActions (here : on node.id) (there : on service.node.id) (isLocal : Bool)
    (before : List String) (actions : Option (OrderedMap String ActionInfo)) :
    Changes on registry (registry.syncActions node isLocal service before actions) :=
  (offerActions here there isLocal actions).trans
    (foldl fun _ name _ => .single (.unregisterAction name here))

theorem syncEvents (here : on node.id) (there : on service.node.id) (before : List String)
    (events : Option (OrderedMap String EventInfo)) :
    Changes on registry (registry.syncEvents node service before events) :=
  (offerEvents here there events).trans
    (foldl fun _ name _ => .single (.unregisterEvent name here))

theorem enterService (here : on node.id) (any : node.id = none → ∀ id, on id) (svc : ServiceInfo) :
    Changes on registry (registry.enterService node svc).1 ∧
      on (registry.enterService node svc).2.1.node.id := by
  unfold Registry.enterService
  cases found : registry.findService svc.resolvedName node.id with
  | none => exact ⟨.single (.addService svc false here), here⟩
  | some item =>
    -- The item that is found lies on the node, unless the node has no id.
    have fits := List.find?_some found
    simp only [ServiceItem.equals, decide_eq_true_eq] at fits
    have place : on item.self.node.id := fits.2.elim (any · _) fun same => same ▸ here
    exact ⟨.single (.update svc place), place⟩

theorem registerService (here : on node.id) (any : node.id = none → ∀ id, on id) (isLocal : Bool)
    (svc : ServiceInfo) : Changes on registry (registry.registerService node isLocal svc) := by
  have entered := @enterService on registry node here any svc
  unfold Registry.registerService
  exact (entered.1.trans (syncActions here entered.2 isLocal _ svc.actions)).trans
    (syncEvents here entered.2 _ svc.events)

theorem unregisterService (fullName : String) (here : on (some (registry.targetID id))) :
    Changes on registry (registry.unregisterService fullName id) := by
  have removed : Changes on registry
      (registry.removeService fullName (some (registry.targetID id))) := by
    unfold removeService
    cases found : registry.findService fullName (some (registry.targetID id)) with
    | none => exact .refl
    | some item =>
      have fits := List.find?_some found
      simp only [ServiceItem.equals, decide_eq_true_eq, Option.some_ne_none, false_or] at fits
      exact .single (.removeItem (fits.2 ▸ here))
  unfold Registry.unregisterService
  dsimp only
  split
  · exact removed.tail (.nodes le_rfl)
  · exact removed

theorem registerServices (here : on node.id) (target : on (some (registry.targetID node.id)))
    (any : node.id = none → ∀ id, on id) (isLocal : Bool) (serviceList : List ServiceInfo) :
    Changes on registry (registry.registerServices node isLocal serviceList) := by
  have registered : Changes on registry (serviceList.foldl (fun state svc =>
      state.registerService node isLocal svc) registry) :=
    foldl fun _ svc _ => registerService here any isLocal svc
  refine List.foldlRecOn _ _ registered fun state before item _ => ?_
  unfold pruneService
  split
  · -- The id of the broker is still the same.
    refine before.trans (unregisterService _ ?_)
    unfold targetID at target ⊢
    rwa [before.flags.1]
  · exact before

theorem registerLocalService (here : on registry.localNode.self.id) (svc : ServiceInfo) :
    Changes on registry (registry.registerLocalService svc) := by
  unfold Registry.registerLocalService
  split
  · exact .refl
  · have added : Changes on registry (registry.addService registry.localNode.self svc true).1 :=
      .single (.addService svc true here)
    have there : on (registry.addService registry.localNode.self svc true).2.node.id := here
    have acting := added.trans (offerActions here there registry.localNode.isLocal svc.actions)
    exact (acting.trans (offerEvents here there svc.events)).tail (.nodes le_rfl)

theorem processNodeInfo {payload : NodeInfo} {now : Nat}
    (here : on (registry.enterNode payload.sender now).2.1.self.id)
    (target : on (some (registry.targetID (registry.enterNode payload.sender now).2.1.self.id)))
    (any : (registry.enterNode payload.sender now).2.1.self.id = none → ∀ id, on id) :
    Changes on registry (registry.processNodeInfo payload now) := by
  have entered : Changes on registry (registry.enterNode payload.sender now).1 := by
    obtain ⟨nextRef, grow, same⟩ := enterNode_eq registry payload.sender now
    rw [same]
    exact .single (.nodes grow)
  unfold Registry.processNodeInfo
  generalize registry.enterNode payload.sender now = result at *
  obtain ⟨first, node, isReconnected⟩ := result
  dsimp only at *
  split
  · refine (entered.tail (.nodes le_rfl)).trans (registerServices here ?_ any _ _)
    unfold targetID at target ⊢
    dsimp only
    rwa [entered.flags.1]
  · exact entered.tail (.nodes le_rfl)

theorem disconnected (here : ∀ node, registry.nodes.get id = some node → on node.self.id)
    (now : Nat) : Changes on registry (registry.disconnected id now) := by
  unfold Registry.disconnected
  split
  · rename_i node found
    split
    · refine .head (.nodes le_rfl) (foldl fun state item inside => .single (.removeItem ?_))
      have place := (List.mem_filter.mp inside).2
      rw [decide_eq_true_eq] at place
      exact place ▸ here node found
    · exact .refl
  · exact .refl

theorem checkOfflineNodes (timeout now : Nat) :
    Changes on registry (registry.checkOfflineNodes timeout now) := by
  unfold Registry.checkOfflineNodes
  split
  · exact .refl
  · refine foldl fun state node _ => ?_
    unfold checkOfflineNode
    split
    · exact .refl
    · split
      · exact .single (.nodes le_rfl)
      · split
        · exact .single (.nodes le_rfl)
        · exact .refl

end Changes

/-- Every operation consists of changes. -/
theorem changes_step (registry : Registry) (operation : Operation) :
    Changes (fun _ => True) registry (registry.step operation) := by
  cases operation with
  | registerLocalService svc => exact .registerLocalService trivial svc
  | unregisterService fullName nodeID => exact .unregisterService fullName trivial
  | processNodeInfo payload now => exact .processNodeInfo trivial trivial fun _ _ => trivial
  | disconnected nodeID now => exact .disconnected (fun _ _ => trivial) now
  | checkOfflineNodes timeout now => exact .checkOfflineNodes timeout now

end Registry

end Moleculer.Cluster
