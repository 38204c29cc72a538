import Moleculer.Registry.InfoOrder

/-! What happens to one node is nothing to the services and endpoints of another one. -/

namespace Moleculer.Cluster

open Base

section Endpoints

variable {κ δ : Type} [DecidableEq κ]

/-- An endpoint lies on a node, and so does its service. -/
def Endpoint.LiesOn (id : NodeID) (ep : Endpoint δ) : Prop :=
  ep.node.id = id ∧ ep.service.node.id = id

instance (id : NodeID) (ep : Endpoint δ) : Decidable (ep.LiesOn id) :=
  inferInstanceAs (Decidable (ep.node.id = id ∧ ep.service.node.id = id))

/-- The endpoints of a node in a list, without the data that they carry. -/
def EndpointList.placed (list : EndpointList δ) (id : NodeID) : List (Nat × NodeRef × ServiceRef) :=
  (list.endpoints.filter fun ep => ep.LiesOn id).map fun ep => (ep.ref, ep.node, ep.service)

/-- The endpoints of a node under a key. -/
def Catalog.placed (catalog : Catalog κ δ) (id : NodeID) (key : κ) :
    List (Nat × NodeRef × ServiceRef) :=
  (catalog.get key).elim [] (·.placed id)

variable (catalog : Catalog κ δ) {id : NodeID}

theorem EndpointList.placed_add (list : EndpointList δ) (brokerID : String) (fresh : Nat)
    {node : NodeRef} (service : ServiceRef) (data : δ) (other : node.id ≠ id) :
    (list.add brokerID fresh node service data).placed id = list.placed id := by
  unfold EndpointList.add EndpointList.placed
  split
  · -- New data for an endpoint leaves it where it is.
    rename_i found _
    have unmoved (ep : Endpoint δ) :
        decide ((if ep.ref = found.ref then { ep with data := data } else ep).LiesOn id) =
          decide (ep.LiesOn id) ∧
        (if ep.ref = found.ref then { ep with data := data } else ep).ref = ep.ref ∧
        (if ep.ref = found.ref then { ep with data := data } else ep).node = ep.node ∧
        (if ep.ref = found.ref then { ep with data := data } else ep).service = ep.service := by
      split <;> exact ⟨rfl, rfl, rfl, rfl⟩
    simp only [List.filter_map, List.map_map, Function.comp_def, unmoved]
  · have away : ¬ Endpoint.LiesOn id
        (⟨fresh, node, node.id = some brokerID, true, service, data⟩ : Endpoint δ) :=
      fun lies => other lies.1
    simp [EndpointList.setLocalEndpoints, List.filter_append, away]

theorem EndpointList.placed_filter (list : EndpointList δ) {test : Endpoint δ → Bool}
    (passes : ∀ ep : Endpoint δ, ep.LiesOn id → test ep = true) :
    EndpointList.placed
        (setLocalEndpoints { list with endpoints := list.endpoints.filter test }) id =
      list.placed id := by
  unfold EndpointList.placed EndpointList.setLocalEndpoints
  dsimp only
  rw [List.filter_filter]
  refine congrArg _ (List.filter_congr fun ep _ => ?_)
  by_cases lies : ep.LiesOn id
  · simp [lies, passes ep lies]
  · simp [lies]

theorem Catalog.placed_add (added : κ) (name : String) (group : Option String) (brokerID : String)
    (fresh : Nat) {node : NodeRef} (service : ServiceRef) (data : δ) (other : node.id ≠ id)
    (key : κ) :
    (Catalog.add catalog added (.new name group) brokerID fresh node service data).placed id key =
      catalog.placed id key := by
  unfold Catalog.placed Catalog.add
  rw [OrderedMap.get_set]
  by_cases same : key = added
  · -- A list that is created for the endpoint has none on the node.
    subst same
    rw [if_pos rfl, Option.elim_some, EndpointList.placed_add _ _ _ _ _ other]
    cases catalog.get key <;> rfl
  · rw [if_neg same]

theorem Catalog.placed_removeByService {service : ServiceRef} (other : service.node.id ≠ id)
    (key : κ) :
    (Catalog.removeByService catalog service).placed id key = catalog.placed id key := by
  unfold Catalog.placed Catalog.removeByService
  rw [OrderedMap.get_mapValues]
  cases catalog.get key with
  | none => rfl
  | some list =>
    refine list.placed_filter fun ep lies => ?_
    simp only [decide_not, Bool.not_eq_true', decide_eq_false_iff_not]
    exact fun same => other (same ▸ lies.2)

theorem Catalog.placed_remove (test : κ → Bool) {nodeID : NodeID} (other : nodeID ≠ id) (key : κ) :
    (Catalog.remove catalog test nodeID).placed id key = catalog.placed id key := by
  unfold Catalog.placed Catalog.remove
  rw [OrderedMap.get_mapEntries]
  cases catalog.get key with
  | none => rfl
  | some list =>
    simp only [Option.map_some, Option.elim_some]
    split
    · refine list.placed_filter fun ep lies => ?_
      simp only [decide_not, Bool.not_eq_true', decide_eq_false_iff_not]
      exact fun same => other (same.symm.trans lies.1)
    · rfl

end Endpoints

namespace Registry

/-- The services of a node. -/
def itemsAt (registry : Registry) (id : NodeID) : List ServiceItem :=
  registry.services.filter fun item => item.self.node.id = id

/-- A node has the same services and the same endpoints. -/
structure KeptAt (id : NodeID) (before after : Registry) : Prop where
  nodeID : after.nodeID = before.nodeID
  items : after.itemsAt id = before.itemsAt id
  actions : ∀ name, after.actions.placed id name = before.actions.placed id name
  events : ∀ key, after.events.placed id key = before.events.placed id key

namespace KeptAt

variable {id : NodeID} {registry : Registry}

theorem refl (registry : Registry) : KeptAt id registry registry :=
  ⟨rfl, rfl, fun _ => rfl, fun _ => rfl⟩

theorem trans {first second third : Registry} (left : KeptAt id first second)
    (right : KeptAt id second third) : KeptAt id first third :=
  ⟨right.nodeID.trans left.nodeID, right.items.trans left.items,
    fun name => (right.actions name).trans (left.actions name),
    fun key => (right.events key).trans (left.events key)⟩

theorem of_catalogs {before after : Registry} (nodeID : after.nodeID = before.nodeID)
    (services : after.services = before.services) (actions : after.actions = before.actions)
    (events : after.events = before.events) : KeptAt id before after :=
  ⟨nodeID, by rw [itemsAt, services]; rfl, fun _ => by rw [actions], fun _ => by rw [events]⟩

variable {service : ServiceRef} {node : NodeRef}

theorem modifyItem {change : ServiceItem → ServiceItem} (other : service.node.id ≠ id)
    (same : ∀ item, (change item).self = item.self) :
    KeptAt id registry (registry.modifyItem service change) := by
  refine ⟨rfl, ?_, fun _ => rfl, fun _ => rfl⟩
  unfold itemsAt Registry.modifyItem
  -- The item that changes does not lie on the node.
  induction registry.services with
  | nil => rfl
  | cons item rest ih =>
    rw [List.map_cons, List.filter_cons, List.filter_cons, ih]
    by_cases here : item.self = service
    · rw [if_pos here, same, here, if_neg (by simpa using other), if_neg (by simpa using other)]
    · rw [if_neg here]

theorem change {after : Registry} (change : Change (· ≠ id) registry after) :
    KeptAt id registry after := by
  cases change with
  | nodes grow => exact of_catalogs rfl rfl rfl rfl
  | addService svc isLocal other =>
    refine ⟨rfl, ?_, fun _ => rfl, fun _ => rfl⟩
    simp [itemsAt, addService, ServiceItem.new, other]
  | update svc other => exact modifyItem other fun _ => rfl
  | registerAction isLocal action other foreign =>
    unfold Registry.registerAction
    split
    · refine trans ?_ (modifyItem foreign ?_)
      · exact ⟨rfl, rfl, fun name => Catalog.placed_add _ _ _ _ _ _ _ _ other name, fun _ => rfl⟩
      · exact fun _ => rfl
    · exact refl registry
  | registerEvent event other foreign =>
    unfold Registry.registerEvent
    refine trans ?_ (modifyItem foreign ?_)
    · exact ⟨rfl, rfl, fun _ => rfl, fun key => Catalog.placed_add _ _ _ _ _ _ _ _ other key⟩
    · exact fun _ => rfl
  | unregisterAction actionName other =>
    exact ⟨rfl, rfl, fun key => Catalog.placed_remove _ _ other key, fun _ => rfl⟩
  | unregisterEvent eventName other =>
    exact ⟨rfl, rfl, fun _ => rfl, fun key => Catalog.placed_remove _ _ other key⟩
  | @removeItem service other =>
    refine ⟨rfl, ?_, fun name => Catalog.placed_removeByService _ other name,
      fun key => Catalog.placed_removeByService _ other key⟩
    unfold itemsAt Registry.removeItem
    rw [List.filter_filter]
    refine List.filter_congr fun item _ => ?_
    by_cases here : item.self.node.id = id
    · have differs : item.self ≠ service := fun same => other (same ▸ here)
      simp [here, differs]
    · simp [here]

theorem changes {after : Registry} (changes : Changes (· ≠ id) registry after) :
    KeptAt id registry after :=
  Changes.invariant (fun _ _ before change => before.trans (KeptAt.change change)) changes
    (refl registry)

end KeptAt

variable {registry : Registry}

theorem Sound.keptAt_processNodeInfo (sound : registry.Sound) {payload : NodeInfo} {id : NodeID}
    (named : payload.sender ≠ none) (other : payload.sender ≠ id)
    (target : some (registry.targetID payload.sender) ≠ id) (now : Nat) :
    KeptAt id registry (registry.processNodeInfo payload now) := by
  have self : (registry.enterNode payload.sender now).2.1.self.id = payload.sender := by
    unfold Registry.enterNode
    cases found : registry.nodes.get payload.sender with
    | none => rfl
    | some node =>
      have self := (sound.keyed _ node found).1
      dsimp only
      split <;> exact self
  exact .changes (.processNodeInfo (self.symm ▸ other) (self.symm ▸ target) fun unnamed =>
    absurd (self.symm.trans unnamed) named)

theorem Sound.keptAt_disconnected (sound : registry.Sound) {nodeID id : NodeID}
    (other : nodeID ≠ id)
    (now : Nat) : KeptAt id registry (registry.disconnected nodeID now) :=
  .changes (.disconnected (fun node found => (sound.keyed _ node found).1 ▸ other) now)

theorem flags_disconnected (registry : Registry) (nodeID : NodeID) (now : Nat) :
    (registry.disconnected nodeID now).started = registry.started ∧
      (registry.disconnected nodeID now).localNodeInfoInvalidated =
        registry.localNodeInfoInvalidated := by
  unfold Registry.disconnected
  split
  · split
    · exact List.foldlRecOn _ _ (motive := fun state : Registry =>
        state.started = registry.started ∧
          state.localNodeInfoInvalidated = registry.localNodeInfoInvalidated) ⟨rfl, rfl⟩
        fun _ kept _ _ => kept
    · exact ⟨rfl, rfl⟩
  · exact ⟨rfl, rfl⟩

theorem keptAt_getLocalNodeInfo (registry : Registry) (force : Bool) (id : NodeID) :
    KeptAt id registry (registry.getLocalNodeInfo force).1 := by
  unfold getLocalNodeInfo
  split
  · exact .refl registry
  · exact .of_catalogs rfl rfl rfl rfl

end Registry

end Moleculer.Cluster
