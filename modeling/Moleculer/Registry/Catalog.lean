import Moleculer.Base.Sharing

/-! Nodes, services and their endpoints, and the catalogs that hold them. -/

namespace Moleculer.Cluster

open Base

/-- The id of a node, absent when a packet names no sender. -/
abbrev NodeID := Option String

/-- A value that the registry stores and passes on without looking into it. -/
abbrev Json := Sharing.Value

/-- Who may call an action. -/
inductive Visibility where
  | published
  | «public»
  | «protected»
  | «private»
  deriving DecidableEq, Repr

/-- The definition of an action, as far as the registry reads it. -/
structure ActionInfo where
  name : String
  visibility : Option Visibility
  isProtected : Bool
  rest : Json
  deriving DecidableEq, Repr

/-- The definition of an event handler, as far as the registry reads it. -/
structure EventInfo where
  name : String
  group : Option String
  rest : Json
  deriving DecidableEq, Repr

/-- The version of a service. -/
inductive Version where
  | number (value : Int)
  | text (value : String)
  deriving DecidableEq, Repr

/-- A service as it is listed in the info of its node. -/
structure ServiceInfo where
  name : String
  version : Option Version
  fullName : Option String
  settings : Json
  metadata : Json
  actions : Option (OrderedMap String ActionInfo)
  events : Option (OrderedMap String EventInfo)
  deriving DecidableEq

/-- `Service.getVersionedFullName`. -/
def getVersionedFullName (name : String) : Option Version → String
  | none => name
  | some (.number value) => "v" ++ toString value ++ "." ++ name
  | some (.text value) => value ++ "." ++ name

/-- The full name under which a listed service is registered. -/
def ServiceInfo.resolvedName (svc : ServiceInfo) : String :=
  match svc.fullName with
  | some fullName =>
    if fullName = "" then getVersionedFullName svc.name svc.version else fullName
  | none => getVersionedFullName svc.name svc.version

/-- Fill in a missing full name. -/
def ServiceInfo.complete (svc : ServiceInfo) : ServiceInfo :=
  { svc with fullName := some svc.resolvedName }

/-- The info of a node, as it is sent in an INFO packet. -/
structure NodeInfo where
  sender : NodeID
  instanceID : String
  seq : Option ℚ
  services : Option (List ServiceInfo)
  ipList : List String
  hostname : Option String
  port : Option Nat
  client : Json
  config : Json
  metadata : Json
  deriving DecidableEq

/-- The definition of an action after other objects were met. -/
def ActionInfo.safe (seen : List Nat) (action : ActionInfo) : ActionInfo :=
  { action with rest := action.rest.prune seen }

/-- The definition of an event handler after other objects were met. -/
def EventInfo.safe (seen : List Nat) (event : EventInfo) : EventInfo :=
  { event with rest := event.rest.prune seen }

namespace ServiceInfo

variable (svc : ServiceInfo)

/-- The objects in the settings and the metadata of a service. -/
def ownObjects : List Nat := svc.settings.objects ++ svc.metadata.objects

/-- The objects in the actions of a service. -/
def actionObjects : List Nat :=
  (svc.actions.getD .empty).values.flatMap (·.rest.objects)

/-- The objects in a service. -/
def objects : List Nat :=
  svc.ownObjects ++ svc.actionObjects ++ (svc.events.getD .empty).values.flatMap (·.rest.objects)

/-- A service after other objects were met. -/
def safe (seen : List Nat) : ServiceInfo :=
  { svc with
    settings := svc.settings.prune seen
    metadata := svc.metadata.prune (svc.settings.objects ++ seen)
    actions := svc.actions.map
      (Sharing.pruneValues (·.rest.objects) ActionInfo.safe (svc.ownObjects ++ seen))
    events := svc.events.map (Sharing.pruneValues (·.rest.objects) EventInfo.safe
      (svc.ownObjects ++ svc.actionObjects ++ seen)) }

end ServiceInfo

/-- The objects of a node that its info has before the services. -/
def NodeInfo.objects (info : NodeInfo) : List Nat :=
  info.client.objects ++ info.config.objects ++ info.metadata.objects

/-- `utils.safetyObject` of an info, without a limit on the size of objects. An object keeps its
address in the copy, where nothing reads it. -/
def NodeInfo.safetyObject (info : NodeInfo) : NodeInfo :=
  { info with
    client := info.client.prune []
    config := info.config.prune info.client.objects
    metadata := info.metadata.prune (info.client.objects ++ info.config.objects)
    services := info.services.map
      (Sharing.pruneEach ServiceInfo.objects (fun seen svc => svc.safe seen) info.objects) }

/-- A reference to a node object, with the id that never changes. -/
structure NodeRef where
  ref : Nat
  id : NodeID
  deriving DecidableEq, Repr

/-- A reference to a service item, with the fields that never change. -/
structure ServiceRef where
  ref : Nat
  node : NodeRef
  name : String
  fullName : String
  deriving DecidableEq, Repr

/-- A node of the cluster. -/
structure Node where
  self : NodeRef
  instanceID : Option String
  available : Bool
  isLocal : Bool
  lastHeartbeatTime : Nat
  ipList : List String
  hostname : Option String
  port : Option Nat
  client : Json
  config : Json
  metadata : Json
  rawInfo : Option NodeInfo
  services : List ServiceInfo
  cpu : Option Nat
  cpuSeq : Option ℚ
  seq : ℚ
  offlineSince : Option Nat
  deriving DecidableEq

/-- The constructor of a remote node. -/
def Node.new (self : NodeRef) (now : Nat) : Node where
  self := self
  instanceID := none
  available := true
  isLocal := false
  lastHeartbeatTime := now
  ipList := []
  hostname := none
  port := none
  client := .text "\x7b\x7d"
  config := .text "\x7b\x7d"
  metadata := .text "null"
  rawInfo := none
  services := []
  cpu := none
  cpuSeq := none
  seq := 0
  offlineSince := none

/-- The sequence number of an info, where zero counts as missing. -/
def NodeInfo.newSeq (payload : NodeInfo) : ℚ :=
  match payload.seq with
  | some seq => if seq = 0 then 1 else seq
  | none => 1

/-- `Node.update`: the flag says whether the services have to be registered again. -/
def Node.update (node : Node) (payload : NodeInfo) (isReconnected : Bool) : Node × Bool :=
  let updated := { node with
    metadata := payload.metadata
    ipList := payload.ipList
    hostname := payload.hostname
    port := payload.port
    client := payload.client
    config := payload.config
    -- A missing list of services is kept as an empty one.
    services := payload.services.getD []
    rawInfo := some payload }
  if payload.newSeq > node.seq ∨ isReconnected = true ∨ node.instanceID ≠ some payload.instanceID
  then ({ updated with instanceID := some payload.instanceID, seq := payload.newSeq }, true)
  else (updated, false)

/-- `Node.heartbeat`. -/
def Node.heartbeat (node : Node) (cpu : Option Nat) (cpuSeq : Option ℚ) (now : Nat) : Node :=
  let alive := if node.available then node
    else { node with available := true, offlineSince := none }
  let measured := match cpu with
    | none => alive
    | some value => { alive with
        cpu := some value
        cpuSeq := some (if cpuSeq.getD 0 = 0 then 1 else cpuSeq.getD 0) }
  { measured with lastHeartbeatTime := now }

/-- `Node.disconnected`. -/
def Node.disconnected (node : Node) (now : Nat) : Node :=
  if node.available then
    { node with offlineSince := some now, seq := node.seq + 1, available := false }
  else node

/-- A registered service of a node. -/
structure ServiceItem where
  self : ServiceRef
  isLocal : Bool
  version : Option Version
  settings : Json
  metadata : Json
  actions : OrderedMap String ActionInfo
  events : OrderedMap String EventInfo
  deriving DecidableEq

namespace ServiceItem

/-- The constructor of a service item. -/
def new (self : ServiceRef) (svc : ServiceInfo) (isLocal : Bool) : ServiceItem :=
  ⟨self, isLocal, svc.version, svc.settings, svc.metadata, .empty, .empty⟩

/-- `ServiceItem.equals`, where a missing node id stands for any node. -/
def equals (item : ServiceItem) (fullName : String) (nodeID : NodeID) : Bool :=
  item.self.fullName = fullName ∧ (nodeID = none ∨ item.self.node.id = nodeID)

/-- `ServiceItem.update`: the full name is the one under which the item was found. -/
def update (item : ServiceItem) (svc : ServiceInfo) : ServiceItem :=
  { item with version := svc.version, settings := svc.settings, metadata := svc.metadata }

/-- `ServiceItem.addAction`. -/
def addAction (item : ServiceItem) (action : ActionInfo) : ServiceItem :=
  { item with actions := item.actions.set action.name action }

/-- `ServiceItem.addEvent`. -/
def addEvent (item : ServiceItem) (event : EventInfo) : ServiceItem :=
  { item with events := item.events.set event.name event }

end ServiceItem

/-- An endpoint of an action or of an event. -/
structure Endpoint (δ : Type) where
  ref : Nat
  node : NodeRef
  isLocal : Bool
  state : Bool
  service : ServiceRef
  data : δ
  deriving DecidableEq, Repr

/-- The endpoints of one action, or of one event in one group. -/
structure EndpointList (δ : Type) where
  name : String
  group : Option String
  internal : Bool
  endpoints : List (Endpoint δ)
  /-- The objects in `localEndpoints`, by reference. -/
  localEndpoints : List Nat
  deriving DecidableEq, Repr

namespace EndpointList

variable {δ : Type}

/-- The constructor of an endpoint list. -/
def new (name : String) (group : Option String) : EndpointList δ :=
  ⟨name, group, name.toList.head? = some '$', [], []⟩

/-- `EndpointList.setLocalEndpoints`. -/
def setLocalEndpoints (list : EndpointList δ) : EndpointList δ :=
  { list with localEndpoints := (list.endpoints.filter (·.isLocal)).map (·.ref) }

/-- `EndpointList.add`: a service of the same name on the node keeps its endpoint. -/
def add (list : EndpointList δ) (brokerID : String) (fresh : Nat) (node : NodeRef)
    (service : ServiceRef) (data : δ) : EndpointList δ :=
  match list.endpoints.find? fun ep => ep.node = node ∧ ep.service.name = service.name with
  | some found => { list with
      endpoints := list.endpoints.map fun ep =>
        if ep.ref = found.ref then { ep with data := data } else ep }
  | none => setLocalEndpoints { list with
      endpoints := list.endpoints ++
        [⟨fresh, node, node.id = some brokerID, true, service, data⟩] }

/-- `EndpointList.removeByService`. -/
def removeByService (list : EndpointList δ) (service : ServiceRef) : EndpointList δ :=
  setLocalEndpoints { list with endpoints := list.endpoints.filter fun ep => ep.service ≠ service }

/-- `EndpointList.removeByNodeID`. -/
def removeByNodeID (list : EndpointList δ) (nodeID : NodeID) : EndpointList δ :=
  setLocalEndpoints { list with endpoints := list.endpoints.filter fun ep => ep.node.id ≠ nodeID }

end EndpointList

/-- Endpoint lists in the order of their creation, each found under its key. -/
abbrev Catalog (κ δ : Type) := OrderedMap κ (EndpointList δ)

namespace Catalog

variable {κ δ : Type} [DecidableEq κ]

/-- Add an endpoint to the list under a key, which is created when it is missing. -/
def add (catalog : Catalog κ δ) (key : κ) (created : EndpointList δ) (brokerID : String)
    (fresh : Nat) (node : NodeRef) (service : ServiceRef) (data : δ) : Catalog κ δ :=
  catalog.set key (((catalog.get key).getD created).add brokerID fresh node service data)

/-- Remove the endpoints of a service from all lists. -/
def removeByService (catalog : Catalog κ δ) (service : ServiceRef) : Catalog κ δ :=
  catalog.mapValues (·.removeByService service)

/-- Remove the endpoints of a node from the lists whose key passes a test. -/
def remove (catalog : Catalog κ δ) (test : κ → Bool) (nodeID : NodeID) : Catalog κ δ :=
  catalog.mapEntries fun key list => if test key then list.removeByNodeID nodeID else list

end Catalog

/-- The endpoint lists of actions, by action name. -/
abbrev ActionCatalog := Catalog String ActionInfo

/-- `ActionCatalog.add`. -/
def ActionCatalog.add (catalog : ActionCatalog) (brokerID : String) (fresh : Nat) (node : NodeRef)
    (service : ServiceRef) (action : ActionInfo) : ActionCatalog :=
  Catalog.add catalog action.name (.new action.name none) brokerID fresh node service action

/-- `ActionCatalog.remove`. -/
def ActionCatalog.remove (catalog : ActionCatalog) (actionName : String) (nodeID : NodeID) :
    ActionCatalog :=
  Catalog.remove catalog (· = actionName) nodeID

/-- The endpoint lists of events, by event name and group. -/
abbrev EventCatalog := Catalog (String × String) EventInfo

/-- The group of an event handler: its own one, or the name of its service. -/
def EventInfo.groupName (event : EventInfo) (serviceName : String) : String :=
  match event.group with
  | some group => if group = "" then serviceName else group
  | none => serviceName

/-- `EventCatalog.add`. -/
def EventCatalog.add (catalog : EventCatalog) (brokerID : String) (fresh : Nat) (node : NodeRef)
    (service : ServiceRef) (event : EventInfo) : EventCatalog :=
  let groupName := event.groupName service.name
  Catalog.add catalog (event.name, groupName) (.new event.name (some groupName)) brokerID fresh
    node service event

/-- `EventCatalog.remove`, which takes the lists of all groups. -/
def EventCatalog.remove (catalog : EventCatalog) (eventName : String) (nodeID : NodeID) :
    EventCatalog :=
  Catalog.remove catalog (fun key => key.1 = eventName) nodeID

end Moleculer.Cluster
