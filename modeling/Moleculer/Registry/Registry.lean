import Moleculer.Registry.Catalog

/-! The registry of a broker: its nodes, services and endpoints, and everything that changes
them. -/

namespace Moleculer.Cluster

open Base

/-- Why the info of the local node has to be generated again. -/
inductive Invalidation where
  | none
  | stale
  /-- The services changed, so that the sequence number has to grow. -/
  | seq
  deriving DecidableEq, Repr

/-- The catalogs of a registry and what it reads from its broker. -/
structure Registry where
  nodeID : String
  /-- The supply of object references. -/
  nextRef : Nat
  nodes : OrderedMap NodeID Node
  services : List ServiceItem
  actions : ActionCatalog
  events : EventCatalog
  localNodeInfoInvalidated : Invalidation
  started : Bool
  deriving DecidableEq

namespace Registry

/-- A registry that knows the local node only, with the metadata of the broker options. -/
def createWith (nodeID instanceID : String) (now : Nat) (metadata : Json) : Registry where
  nodeID := nodeID
  nextRef := 1
  nodes := OrderedMap.empty.set (some nodeID)
    { Node.new ⟨0, some nodeID⟩ now with
      isLocal := true
      instanceID := some instanceID
      metadata := metadata
      seq := 1 }
  services := []
  actions := .empty
  events := .empty
  localNodeInfoInvalidated := .stale
  started := false

/-- The registry of a broker without metadata. -/
abbrev create (nodeID instanceID : String) (now : Nat) : Registry :=
  createWith nodeID instanceID now (.text "null")

/-- The local node, which is never removed. -/
def localNode (registry : Registry) : Node :=
  (registry.nodes.get (some registry.nodeID)).getD (.new ⟨0, some registry.nodeID⟩ 0)

/-- `ServiceCatalog.get`. -/
def findService (registry : Registry) (fullName : String) (nodeID : NodeID) : Option ServiceItem :=
  registry.services.find? fun item => item.equals fullName nodeID

/-- `ServiceCatalog.add`. -/
def addService (registry : Registry) (node : NodeRef) (svc : ServiceInfo) (isLocal : Bool) :
    Registry × ServiceRef :=
  let self : ServiceRef := ⟨registry.nextRef, node, svc.name, svc.resolvedName⟩
  ({ registry with
      nextRef := registry.nextRef + 1
      services := registry.services ++ [.new self svc isLocal] }, self)

/-- Change the item behind a reference. -/
def modifyItem (registry : Registry) (service : ServiceRef) (change : ServiceItem → ServiceItem) :
    Registry :=
  { registry with
    services := registry.services.map fun item =>
      if item.self = service then change item else item }

/-- `checkActionVisibility`. -/
def checkActionVisibility (action : ActionInfo) (isLocal : Bool) : Bool :=
  match action.visibility with
  | none => true
  | some .published => true
  | some .public => true
  | some .protected => isLocal
  | some .private => false

/-- Register one action. -/
def registerAction (registry : Registry) (node : NodeRef) (isLocal : Bool) (service : ServiceRef)
    (action : ActionInfo) : Registry :=
  if checkActionVisibility action isLocal then
    modifyItem { registry with
      nextRef := registry.nextRef + 1
      actions := registry.actions.add registry.nodeID registry.nextRef node service action }
      service (·.addAction action)
  else registry

/-- `registerActions`. -/
def registerActions (registry : Registry) (node : NodeRef) (isLocal : Bool) (service : ServiceRef)
    (actions : OrderedMap String ActionInfo) : Registry :=
  actions.values.foldl (fun state action => state.registerAction node isLocal service action)
    registry

/-- Register the actions of a service that lists some. -/
def offerActions (registry : Registry) (node : NodeRef) (isLocal : Bool) (service : ServiceRef) :
    Option (OrderedMap String ActionInfo) → Registry
  | some actions => registry.registerActions node isLocal service actions
  | none => registry

/-- Register one event. -/
def registerEvent (registry : Registry) (node : NodeRef) (service : ServiceRef)
    (event : EventInfo) : Registry :=
  modifyItem { registry with
    nextRef := registry.nextRef + 1
    events := registry.events.add registry.nodeID registry.nextRef node service event }
    service (·.addEvent event)

/-- `registerEvents`. -/
def registerEvents (registry : Registry) (node : NodeRef) (service : ServiceRef)
    (events : OrderedMap String EventInfo) : Registry :=
  events.values.foldl (fun state event => state.registerEvent node service event) registry

/-- Register the events of a service that lists some. -/
def offerEvents (registry : Registry) (node : NodeRef) (service : ServiceRef) :
    Option (OrderedMap String EventInfo) → Registry
  | some events => registry.registerEvents node service events
  | none => registry

/-- `unregisterAction`. -/
def unregisterAction (registry : Registry) (node : NodeRef) (actionName : String) : Registry :=
  { registry with actions := registry.actions.remove actionName node.id }

/-- `unregisterEvent`. -/
def unregisterEvent (registry : Registry) (node : NodeRef) (eventName : String) : Registry :=
  { registry with events := registry.events.remove eventName node.id }

/-- Forget a service item and its endpoints. -/
def removeItem (registry : Registry) (service : ServiceRef) : Registry :=
  { registry with
    actions := Catalog.removeByService registry.actions service
    events := Catalog.removeByService registry.events service
    services := registry.services.filter fun item => item.self ≠ service }

/-- `ServiceCatalog.remove`. -/
def removeService (registry : Registry) (fullName : String) (nodeID : NodeID) : Registry :=
  match registry.findService fullName nodeID with
  | some item => registry.removeItem item.self
  | none => registry

/-- Change the node stored under an id. -/
def modifyNode (registry : Registry) (nodeID : NodeID) (change : Node → Node) : Registry :=
  { registry with nodes := registry.nodes.modify nodeID change }

/-- The node id that `unregisterService` works on: a falsy one stands for the local node. -/
def targetID (registry : Registry) : NodeID → String
  | some nodeID => if nodeID = "" then registry.nodeID else nodeID
  | none => registry.nodeID

/-- `unregisterService`. -/
def unregisterService (registry : Registry) (fullName : String) (nodeID : NodeID) : Registry :=
  let target := registry.targetID nodeID
  let removed := registry.removeService fullName (some target)
  if target = registry.nodeID then
    -- Clean the local node services.
    { removed.modifyNode (some registry.nodeID) fun node =>
        { node with services := node.services.eraseP fun svc => svc.fullName = some fullName } with
      localNodeInfoInvalidated := .seq }
  else removed

/-- `unregisterServicesByNode`. -/
def unregisterServicesByNode (registry : Registry) (nodeID : NodeID) : Registry :=
  (registry.services.filter fun item => item.self.node.id = nodeID).foldl
    (fun state item => state.removeItem item.self) registry

/-- `registerLocalService`. -/
def registerLocalService (registry : Registry) (svc : ServiceInfo) : Registry :=
  match registry.findService svc.resolvedName (some registry.nodeID) with
  | some _ => registry
  | none =>
    let node := registry.localNode
    let (added, service) := registry.addService node.self svc true
    let acting := added.offerActions node.self node.isLocal service svc.actions
    let listening := acting.offerEvents node.self service svc.events
    { listening.modifyNode (some registry.nodeID) fun node =>
        { node with services := node.services ++ [svc.complete] } with
      localNodeInfoInvalidated := .seq }

/-- The item that a listed service belongs to, with the actions and events it had before. -/
def enterService (registry : Registry) (node : NodeRef) (svc : ServiceInfo) :
    Registry × ServiceRef × List String × List String :=
  match registry.findService svc.resolvedName node.id with
  | none =>
    let (added, service) := registry.addService node svc false
    (added, service, [], [])
  | some item =>
    (registry.modifyItem item.self (·.update svc), item.self, item.actions.keys, item.events.keys)

/-- The names of `before` that are not found in a listing, which finds inherited names as well. -/
def dropped {δ : Type} (before : List String) (listed : Option (OrderedMap String δ)) :
    List String :=
  before.filter fun name => !(listed.any fun entries => entries.finds name)

/-- Register the listed actions of a service, then remove old actions which do not exist. -/
def syncActions (registry : Registry) (node : NodeRef) (isLocal : Bool) (service : ServiceRef)
    (before : List String) (actions : Option (OrderedMap String ActionInfo)) : Registry :=
  (dropped before actions).foldl (fun state name => state.unregisterAction node name)
    (registry.offerActions node isLocal service actions)

/-- Register the listed events of a service, then remove old events which do not exist. -/
def syncEvents (registry : Registry) (node : NodeRef) (service : ServiceRef)
    (before : List String) (events : Option (OrderedMap String EventInfo)) : Registry :=
  (dropped before events).foldl (fun state name => state.unregisterEvent node name)
    (registry.offerEvents node service events)

/-- The body of the loop in `registerServices`. -/
def registerService (registry : Registry) (node : NodeRef) (isLocal : Bool) (svc : ServiceInfo) :
    Registry :=
  let (entered, service, prevActions, prevEvents) := registry.enterService node svc
  (entered.syncActions node isLocal service prevActions svc.actions).syncEvents node service
    prevEvents svc.events

/-- Remove an item of the node that is not in the new list. -/
def pruneService (node : NodeRef) (serviceList : List ServiceInfo) (registry : Registry)
    (item : ServiceItem) : Registry :=
  if item.self.node = node ∧ !serviceList.any fun svc => item.equals svc.resolvedName none then
    registry.unregisterService item.self.fullName node.id
  else registry

/-- `registerServices`. -/
def registerServices (registry : Registry) (node : NodeRef) (isLocal : Bool)
    (serviceList : List ServiceInfo) : Registry :=
  let registered := serviceList.foldl (fun state svc => state.registerService node isLocal svc)
    registry
  registered.services.foldl (pruneService node serviceList) registered

/-- The node that an info is about, with a flag for a node that comes back. -/
def enterNode (registry : Registry) (nodeID : NodeID) (now : Nat) : Registry × Node × Bool :=
  match registry.nodes.get nodeID with
  | none => ({ registry with nextRef := registry.nextRef + 1 },
      .new ⟨registry.nextRef, nodeID⟩ now, false)
  | some node =>
    if node.available then (registry, node, false)
    else (registry,
      { node with lastHeartbeatTime := now, available := true, offlineSince := none }, true)

/-- `processNodeInfo`. -/
def processNodeInfo (registry : Registry) (payload : NodeInfo) (now : Nat) : Registry :=
  let (entered, node, isReconnected) := registry.enterNode payload.sender now
  let (updated, needRegister) := node.update payload isReconnected
  match needRegister, payload.services with
  | true, some serviceList =>
    -- Registering fills in the full names in the list that the node keeps.
    let completed := serviceList.map (·.complete)
    let stored := { updated with
      services := completed
      rawInfo := some { payload with services := some completed } }
    registerServices { entered with nodes := entered.nodes.set payload.sender stored }
      node.self node.isLocal serviceList
  | _, _ => { entered with nodes := entered.nodes.set payload.sender updated }

/-- `NodeCatalog.disconnected`. -/
def disconnected (registry : Registry) (nodeID : NodeID) (now : Nat) : Registry :=
  match registry.nodes.get nodeID with
  | some node =>
    if node.available then
      unregisterServicesByNode (registry.modifyNode nodeID (·.disconnected now)) node.self.id
    else registry
  | none => registry

/-- What `checkOfflineNodes` does with one node. -/
def checkOfflineNode (timeout now : Nat) (registry : Registry) (node : Node) : Registry :=
  if node.isLocal || node.available then registry
  else if node.lastHeartbeatTime = 0 then
    registry.modifyNode node.self.id fun node => { node with lastHeartbeatTime := now }
  else if now - node.lastHeartbeatTime > timeout then
    { registry with nodes := registry.nodes.delete node.self.id }
  else registry

/-- `checkOfflineNodes`, where a zero timeout disables the check. -/
def checkOfflineNodes (registry : Registry) (timeout now : Nat) : Registry :=
  if timeout = 0 then registry
  else registry.nodes.values.foldl (checkOfflineNode timeout now) registry

/-- The entries of a map that pass a test, under the names that they carry. -/
def collect {δ : Type} (nameOf : δ → String) (test : δ → Bool) (entries : OrderedMap String δ) :
    OrderedMap String δ :=
  (entries.values.filter test).foldl (fun result entry => result.set (nameOf entry) entry) .empty

/-- `getLocalNodeServices`. -/
def getLocalNodeServices (registry : Registry) : List ServiceInfo :=
  (registry.services.filter (·.isLocal)).map fun item =>
    { name := item.self.name
      version := item.version
      fullName := some item.self.fullName
      settings := item.settings
      metadata := item.metadata
      actions := some (collect (·.name) (!·.isProtected) item.actions)
      events := some (collect (·.name) (fun _ => true) item.events) }

/-- `regenerateLocalRawInfo`. -/
def regenerateLocalRawInfo (registry : Registry) (incSeq isStopping : Bool) :
    Registry × NodeInfo :=
  let node := registry.localNode
  let seq := if incSeq then node.seq + 1 else node.seq
  let info : NodeInfo :=
    { sender := none
      instanceID := node.instanceID.getD ""
      seq := some seq
      services := some (if !isStopping && (registry.started || incSeq) then
        registry.getLocalNodeServices else [])
      ipList := node.ipList
      hostname := node.hostname
      port := node.port
      client := node.client
      config := node.config
      metadata := node.metadata }
  let info := info.safetyObject
  (registry.modifyNode (some registry.nodeID) fun node =>
    { node with seq := seq, rawInfo := some info }, info)

/-- `getLocalNodeInfo`. -/
def getLocalNodeInfo (registry : Registry) (force : Bool) : Registry × NodeInfo :=
  match force, registry.localNode.rawInfo, registry.localNodeInfoInvalidated with
  | false, some info, .none => (registry, info)
  | _, _, _ =>
    let (regenerated, info) :=
      registry.regenerateLocalRawInfo (registry.localNodeInfoInvalidated = .seq) false
    ({ regenerated with localNodeInfoInvalidated := .none }, info)

/-- The operations that change a registry. -/
inductive Operation where
  | registerLocalService (svc : ServiceInfo)
  | unregisterService (fullName : String) (nodeID : NodeID)
  | processNodeInfo (payload : NodeInfo) (now : Nat)
  | disconnected (nodeID : NodeID) (now : Nat)
  | checkOfflineNodes (timeout now : Nat)

/-- One operation. -/
def step (registry : Registry) : Operation → Registry
  | .registerLocalService svc => registry.registerLocalService svc
  | .unregisterService fullName nodeID => registry.unregisterService fullName nodeID
  | .processNodeInfo payload now => registry.processNodeInfo payload now
  | .disconnected nodeID now => registry.disconnected nodeID now
  | .checkOfflineNodes timeout now => registry.checkOfflineNodes timeout now

end Registry

end Moleculer.Cluster
