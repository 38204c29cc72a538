import Moleculer.Registry.Balancer
import Moleculer.Utils.Match

/-! Balanced events: how an emitted event is spread over the nodes and handled there. -/

namespace Moleculer.Events

open Base Cluster Utils

/-- The name and the group of an event endpoint list. -/
abbrev ListKey := String × String

/-- Whether a group is wanted: no filter, or an empty one, wants all groups. -/
def inGroups (groups : Option (List String)) (group : String) : Bool :=
  match groups with
  | none => true
  | some names => names.isEmpty || names.contains group

/-- The brokers of a cluster, each with its own view of the event endpoints. -/
structure Network where
  nodes : List String
  catalog : String → EventCatalog
  preferLocal : String → Bool
  /-- The regular expression engine. -/
  test : String → String → Bool

/-- The strategies of all lists on all nodes. -/
abbrev Strategies := String → ListKey → Strategy EventInfo

/-- A call of a handler on a node, for an endpoint of a list. -/
structure Invocation where
  node : String
  key : ListKey
  endpoint : Endpoint EventInfo

/-- An EVENT packet of an emitted event. -/
structure EventPacket where
  target : NodeID
  groups : List String

namespace Network

variable (net : Network) (strategies : Strategies) (eventName : String)

/-- A list takes part in an event. -/
def wants (groups : Option (List String)) (key : ListKey) : Bool :=
  patternMatch net.test eventName key.1 && inGroups groups key.2

/-- `getBalancedEndpoints` on the sender. -/
def getBalancedEndpoints (sender : String) (groups : Option (List String)) :
    List (ListKey × Endpoint EventInfo) :=
  (net.catalog sender).entries.filterMap fun (key, list) =>
    if net.wants eventName groups key then
      -- Use built-in balancer, get the next endpoint.
      ((list.next (strategies sender key) (net.preferLocal sender)).filter (·.state)).map (key, ·)
    else none

/-- Add the group of an endpoint to the packet for its node. -/
def addGroup (sender : String) (grouped : OrderedMap NodeID (List String))
    (picked : ListKey × Endpoint EventInfo) : OrderedMap NodeID (List String) :=
  if picked.2.node.id = some sender then grouped
  else grouped.set picked.2.node.id
    ((grouped.get picked.2.node.id).getD [] ++ [picked.1.2])

/-- The handlers that `emit` calls on the sender itself. -/
def localCalls (sender : String) (groups : Option (List String)) : List Invocation :=
  ((net.getBalancedEndpoints strategies eventName sender groups).filter fun picked =>
    picked.2.node.id = some sender).map fun picked => ⟨sender, picked.1, picked.2⟩

/-- The packets that `emit` sends, one for each node with a picked endpoint. -/
def packets (sender : String) (groups : Option (List String)) : List EventPacket :=
  ((net.getBalancedEndpoints strategies eventName sender groups).foldl (addGroup sender)
    .empty).entries.map fun (target, names) => ⟨target, names⟩

/-- `emitLocalServices` for an event that is not a broadcast. -/
def emitLocalServices (node : String) (groups : List String) : List Invocation :=
  (net.catalog node).entries.filterMap fun (key, list) =>
    if net.wants eventName (some groups) key then
      (list.nextLocal (strategies node key)).map fun ep => ⟨node, key, ep⟩
    else none

/-- The handlers that are called when a packet arrives. -/
def receive (packet : EventPacket) : List Invocation :=
  match packet.target with
  | some node => if node ∈ net.nodes then net.emitLocalServices strategies eventName node
      packet.groups else []
  | none => []

/-- All calls that an emitted event leads to when the packets arrive in some order. -/
def emit (sender : String) (groups : Option (List String)) (order : List EventPacket) :
    List Invocation :=
  net.localCalls strategies eventName sender groups ++
    order.flatMap (net.receive strategies eventName)

end Network

end Moleculer.Events
