import Moleculer.Registry.Registry

/-! The gossip of TCP nodes: what each packet and each connection event does to the registry. -/

namespace Moleculer.Tcp

open Base Cluster

/-- The property under which a packet mentions a node. -/
def propertyKey (id : NodeID) : String := id.getD "undefined"

/-- What a gossip request claims about an online node. -/
structure OnlineClaim where
  seq : Option ℚ
  cpuSeq : Option ℚ
  cpu : Option Nat
  deriving DecidableEq

/-- The payload of a GOSSIP_REQ packet. -/
structure GossipRequest where
  sender : NodeID
  online : OrderedMap String OnlineClaim
  offline : OrderedMap String ℚ

/-- The array under an online node in a gossip response, by its length. -/
inductive OnlineRow where
  | info (value : Option NodeInfo)
  | cpu (number : Option ℚ) (value : Option Nat)
  | infoAndCpu (value : Option NodeInfo) (number : Option ℚ) (usage : Option Nat)
  /-- No array, or one of another length. -/
  | other
  deriving DecidableEq

/-- The info that a row carries. -/
def OnlineRow.nodeInfo : OnlineRow → Option NodeInfo
  | .info value => value
  | .infoAndCpu value _ _ => value
  | _ => none

/-- The number of the processor usage that a row carries. -/
def OnlineRow.cpuSeq : OnlineRow → Option ℚ
  | .cpu number _ => number
  | .infoAndCpu _ number _ => number
  | _ => none

/-- The processor usage that a row carries. -/
def OnlineRow.usage : OnlineRow → Option Nat
  | .cpu _ value => value
  | .infoAndCpu _ _ usage => usage
  | _ => none

/-- The payload of a GOSSIP_RES packet. -/
structure GossipResponse where
  online : OrderedMap String OnlineRow
  offline : OrderedMap String ℚ

/-- `addOfflineNode`. -/
def addOfflineNode (registry : Registry) (id : String) (address : String) (port : Option Nat)
    (now : Nat) : Registry :=
  { registry with
    nextRef := registry.nextRef + 1
    nodes := registry.nodes.set (some id)
      { Node.new ⟨registry.nextRef, some id⟩ now with
        hostname := some address
        ipList := [address]
        port := port
        available := false
        seq := 0
        offlineSince := some now } }

/-- `Registry.getNodeInfo` for a node of the catalog. -/
def getNodeInfo (registry : Registry) (node : Node) : Registry × Option NodeInfo :=
  if node.isLocal then
    let (regenerated, info) := registry.getLocalNodeInfo false
    (regenerated, some info)
  else (registry, node.rawInfo)

/-- The claim that a request makes about an offline node, where zero counts as none. -/
def GossipRequest.offlineSeq (payload : GossipRequest) (id : NodeID) : Option ℚ :=
  (payload.offline.get (propertyKey id)).filter (· ≠ 0)

/-- The sequence number that a request knows for a node. -/
def GossipRequest.knownSeq (payload : GossipRequest) (id : NodeID) : Option ℚ :=
  match payload.offlineSeq id with
  | some seq => some seq
  | none => (payload.online.get (propertyKey id)).bind (·.seq)

/-- A number that is greater than the stored one, where a missing one counts as zero. -/
def above (cpuSeq : Option ℚ) (stored : Option ℚ) : Bool :=
  cpuSeq.any fun number => number > stored.getD 0

/-- A number that is smaller than the stored one, where a missing one counts as zero. -/
def below (cpuSeq : Option ℚ) (stored : Option ℚ) : Bool :=
  cpuSeq.any fun number => number < stored.getD 0

/-- The row that answers with an info. -/
def infoRow (node : Node) (info : Option NodeInfo) : OnlineRow :=
  .infoAndCpu info (some (node.cpuSeq.getD 0)) (some (node.cpu.getD 0))

/-- What a request makes of one node: the loop body of `processGossipRequest`. -/
def answerNode (payload : GossipRequest) (now : Nat) (state : Registry × GossipResponse)
    (node : Node) : Registry × GossipResponse :=
  let (registry, response) := state
  let id := node.self.id
  match (payload.knownSeq id).filter fun seq => seq ≠ 0 ∧ ¬ seq < node.seq with
  | none =>
    -- We have newer info, or the requester does not know the node.
    if node.available then
      let (asked, info) := getNodeInfo registry node
      (asked, { response with online := response.online.set (propertyKey id) (infoRow node info) })
    else (registry, { response with offline := response.offline.set (propertyKey id) node.seq })
  | some seq =>
    if (payload.offlineSeq id).isSome then
      -- The requester said it is offline.
      if !node.available then
        (if seq > node.seq then registry.modifyNode id fun node => { node with seq := seq }
          else registry, response)
      else if !node.isLocal then
        ((registry.disconnected id now).modifyNode id fun node => { node with seq := seq },
          response)
      else
        -- We are online, and a higher number makes the requester update us.
        let (asked, info) := Registry.getLocalNodeInfo
          (registry.modifyNode id fun node => { node with seq := seq + 1 }) true
        (asked, { response with
          online := response.online.set (propertyKey id) (infoRow node (some info)) })
    else match payload.online.get (propertyKey id) with
      | some claim =>
        -- The requester said it is online.
        if node.available then
          if above claim.cpuSeq node.cpuSeq then
            (registry.modifyNode id (·.heartbeat claim.cpu claim.cpuSeq now), response)
          else if below claim.cpuSeq node.cpuSeq then
            (registry, { response with
              online := response.online.set (propertyKey id)
                (.cpu (some (node.cpuSeq.getD 0)) (some (node.cpu.getD 0))) })
          else (registry, response)
        else (registry, response)
      | none => (registry, response)

/-- `processGossipRequest`, with the response that goes back to a sender it knows. -/
def processGossipRequest (registry : Registry) (payload : GossipRequest) (now : Nat) :
    Registry × Option GossipResponse :=
  let (answered, response) :=
    registry.nodes.values.foldl (answerNode payload now) (registry, ⟨.empty, .empty⟩)
  if response.online.size = 0 ∧ response.offline.size = 0 then (answered, none)
  else if (answered.nodes.get payload.sender).isSome then (answered, some response)
  else (answered, none)

/-- A row about a node has an info that is newer than ours. -/
def newerInfo (registry : Registry) (nodeID : String) (row : OnlineRow) : Option NodeInfo :=
  row.nodeInfo.filter fun info =>
    match registry.nodes.get (some nodeID) with
    | some node => info.seq.any fun seq => node.seq < seq
    | none => true

/-- What a response makes of one online node. -/
def learnOnline (now : Nat) (registry : Registry) (entry : String × OnlineRow) : Registry :=
  let (nodeID, row) := entry
  -- We do not process the self info. We know it better.
  if nodeID = registry.nodeID then registry
  else
    let informed := match newerInfo registry nodeID row with
      | some info => registry.processNodeInfo { info with sender := some nodeID } now
      | none => registry
    match informed.nodes.get (some nodeID) with
    | some node =>
      if row.cpuSeq.any (· ≠ 0) && above row.cpuSeq node.cpuSeq then
        informed.modifyNode (some nodeID) (·.heartbeat row.usage row.cpuSeq now)
      else informed
    | none => informed

/-- What a response makes of one offline node. -/
def learnOffline (now : Nat) (registry : Registry) (entry : String × ℚ) : Registry :=
  let (nodeID, seq) := entry
  if nodeID = registry.nodeID then registry
  else match registry.nodes.get (some nodeID) with
    | none => registry
    | some node =>
      if node.seq < seq then
        let left := if node.available then registry.disconnected (some nodeID) now else registry
        left.modifyNode (some nodeID) fun node => { node with seq := seq }
      else registry

/-- `processGossipResponse`. -/
def processGossipResponse (registry : Registry) (payload : GossipResponse) (now : Nat) :
    Registry :=
  payload.offline.entries.foldl (learnOffline now)
    (payload.online.entries.foldl (learnOnline now) registry)

/-- `processGossipHello`. -/
def processGossipHello (registry : Registry) (sender host : String) (port : Option Nat)
    (now : Nat) : Registry :=
  match registry.nodes.get (some sender) with
  | none => addOfflineNode registry sender host port now
  | some _ => registry

/-- A UDP discovery message. -/
def udpMessage (registry : Registry) (nodeID address : String) (port : Option Nat) (now : Nat) :
    Registry :=
  if nodeID = "" ∨ nodeID = registry.nodeID then registry
  else match registry.nodes.get (some nodeID) with
    | none => addOfflineNode registry nodeID address port now
    | some node =>
      if node.available then registry
      else registry.modifyNode (some nodeID) fun node => { node with
        port := port
        hostname := some address
        ipList := if address ∈ node.ipList then node.ipList else address :: node.ipList }

/-- What can happen to a TCP node. -/
inductive GossipInput where
  | request (payload : GossipRequest) (now : Nat)
  | response (payload : GossipResponse) (now : Nat)
  | hello (sender host : String) (port : Option Nat) (now : Nat)
  | udp (nodeID address : String) (port : Option Nat) (now : Nat)
  /-- The connection to a node ends or fails, be it while sending. -/
  | writerClosed (nodeID : NodeID) (now : Nat)
  | registerLocalService (svc : ServiceInfo)

/-- The registry after one input. -/
def gossipStep (registry : Registry) : GossipInput → Registry
  | .request payload now => (processGossipRequest registry payload now).1
  | .response payload now => processGossipResponse registry payload now
  | .hello sender host port now => processGossipHello registry sender host port now
  | .udp nodeID address port now => udpMessage registry nodeID address port now
  | .writerClosed nodeID now => registry.disconnected nodeID now
  | .registerLocalService svc => registry.registerLocalService svc

end Moleculer.Tcp
