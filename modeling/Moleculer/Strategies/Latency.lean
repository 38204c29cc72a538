import Moleculer.Base.Run
import Moleculer.Strategies.Sampling

/-! How the instances of the latency strategy collect the latencies of hosts
(`strategies/latency.js`). One instance of a broker is the master; it measures the latencies and
tells them to all instances over the local bus. -/

namespace Moleculer.Strategies

open Base

variable {ι : Type} [DecidableEq ι]

/-- What the strategy reads of a node. -/
structure NodeData (ι : Type) where
  id : ι
  hostname : String
  deriving DecidableEq, Repr

/-- What the master knows of a host. -/
structure HostInfo (ι : Type) where
  historicLatency : List ℚ
  nodeList : List ι

/-- An instance of the strategy. -/
structure Latency (ι : Type) where
  isMaster : Bool
  collectCount : ℚ
  hostAvgLatency : OrderedMap String ℚ
  hostMap : OrderedMap String (HostInfo ι)

/-- An event of the local bus whose name starts with `$node.`. A pong brings the node that is
registered under its sender, if there is one. -/
inductive NodeEvent (ι : Type) where
  | pong (node : Option (NodeData ι)) (elapsedTime : ℚ)
  | connected (node : NodeData ι)
  | disconnected (node : NodeData ι)
  | latencySlave (hostname : String) (avgLatency : ℚ)
  | latencySlaveRemoveHost (hostname : String)
  | updated

namespace Latency

/-- A new instance. -/
def new (isMaster : Bool) (collectCount : ℚ) : Latency ι := ⟨isMaster, collectCount, .empty, .empty⟩

/-- `getHostLatency`: what is known of the host of a node, which may be new. -/
def getHostLatency (strategy : Latency ι) (node : NodeData ι) : HostInfo ι :=
  (strategy.hostMap.get node.hostname).getD ⟨[], [node.id]⟩

/-- Store what is known of a host. -/
def setHost (strategy : Latency ι) (hostname : String) (info : HostInfo ι) : Latency ι :=
  { strategy with hostMap := strategy.hostMap.set hostname info }

/-- Keep the last latencies of a host. -/
def collect (collectCount : ℚ) (historicLatency : List ℚ) (elapsedTime : ℚ) : List ℚ :=
  (if historicLatency.length > collectCount - 1 then historicLatency.tail else historicLatency) ++
    [elapsedTime]

/-- `processPong`, with the events that it emits. -/
def processPong (strategy : Latency ι) (node : Option (NodeData ι)) (elapsedTime : ℚ) :
    Latency ι × List (NodeEvent ι) :=
  match node with
  | none => (strategy, [])
  | some node =>
    let info := strategy.getHostLatency node
    let historicLatency := collect strategy.collectCount info.historicLatency elapsedTime
    (strategy.setHost node.hostname { info with historicLatency := historicLatency },
      [.latencySlave node.hostname (historicLatency.sum / historicLatency.length)])

/-- `addNode`. -/
def addNode (strategy : Latency ι) (node : NodeData ι) : Latency ι :=
  let info := strategy.getHostLatency node
  -- Each host may have multiple nodes.
  strategy.setHost node.hostname
    { info with nodeList := if node.id ∈ info.nodeList then info.nodeList
        else info.nodeList ++ [node.id] }

/-- `removeHostMap`, with the events that it emits. -/
def removeHostMap (strategy : Latency ι) (node : NodeData ι) : Latency ι × List (NodeEvent ι) :=
  match strategy.hostMap.get node.hostname with
  | none => (strategy, [])
  | some info =>
    let nodeList := info.nodeList.filter (· ≠ node.id)
    if nodeList.length = 0 then
      -- Only remove the host if the last node disconnected.
      ({ strategy with hostMap := strategy.hostMap.delete node.hostname },
        [.latencySlaveRemoveHost node.hostname])
    else (strategy.setHost node.hostname { info with nodeList := nodeList }, [])

/-- `updateLatency`. -/
def updateLatency (strategy : Latency ι) (hostname : String) (avgLatency : ℚ) : Latency ι :=
  { strategy with hostAvgLatency := strategy.hostAvgLatency.set hostname avgLatency }

/-- `removeHostLatency`. -/
def removeHostLatency (strategy : Latency ι) (hostname : String) : Latency ι :=
  { strategy with hostAvgLatency := strategy.hostAvgLatency.delete hostname }

/-- The subscriptions of the constructor: how an instance handles an event, and what it emits. -/
def handle (strategy : Latency ι) : NodeEvent ι → Latency ι × List (NodeEvent ι)
  | .pong node elapsedTime =>
    if strategy.isMaster then strategy.processPong node elapsedTime else (strategy, [])
  | .connected node => if strategy.isMaster then (strategy.addNode node, []) else (strategy, [])
  | .disconnected node => if strategy.isMaster then strategy.removeHostMap node else (strategy, [])
  -- Remove node if we are told by master.
  | .latencySlaveRemoveHost hostname =>
    if strategy.isMaster then (strategy, []) else (strategy.removeHostLatency hostname, [])
  | .latencySlave hostname avgLatency => (strategy.updateLatency hostname avgLatency, [])
  | .updated => (strategy, [])

end Latency

/-- What the registry knows of a remote node. -/
structure NodeRecord where
  hostname : String
  available : Bool
  deriving DecidableEq, Repr

/-- A broker with the registry of its remote nodes and the instances of the strategy. -/
structure LatencyBroker (ι : Type) where
  nodes : OrderedMap ι NodeRecord
  master : Latency ι
  slaves : List (Latency ι)

/-- What happens to a broker. -/
inductive LatencyInput (ι : Type) where
  /-- An INFO of a node. -/
  | info (id : ι) (hostname : String)
  | disconnected (id : ι)
  | pong (id : ι) (elapsedTime : ℚ)

namespace LatencyBroker

/-- All instances handle an event; with what they emit. -/
def deliver (broker : LatencyBroker ι) (event : NodeEvent ι) :
    LatencyBroker ι × List (NodeEvent ι) :=
  let handled := broker.slaves.map (·.handle event)
  ({ broker with master := (broker.master.handle event).1, slaves := handled.map Prod.fst },
    (broker.master.handle event).2 ++ handled.flatMap Prod.snd)

/-- `localBus.emit`: all instances handle an event and then what they have emitted. -/
def emit (broker : LatencyBroker ι) (event : NodeEvent ι) : LatencyBroker ι :=
  let (broker, emitted) := broker.deliver event
  emitted.foldl (fun broker event => (broker.deliver event).1) broker

/-- The node that is registered under an id. -/
def registered (broker : LatencyBroker ι) (id : ι) : Option (NodeData ι) :=
  (broker.nodes.get id).map fun node => ⟨id, node.hostname⟩

/-- One step of the broker. The registry tells of a node that connects only if it was not connected,
and of one that disconnects only if it was; it keeps the nodes that have disconnected. Every INFO
brings the hostname of its node. -/
def step (broker : LatencyBroker ι) : LatencyInput ι → LatencyBroker ι
  | .info id hostname =>
    { broker with nodes := broker.nodes.set id ⟨hostname, true⟩ }.emit
      (if (broker.nodes.get id).any NodeRecord.available then .updated
        else .connected ⟨id, hostname⟩)
  | .disconnected id =>
    match broker.nodes.get id with
    | some ⟨hostname, true⟩ =>
      { broker with nodes := broker.nodes.set id ⟨hostname, false⟩ }.emit
        (.disconnected ⟨id, hostname⟩)
    | _ => broker
  | .pong id elapsedTime => broker.emit (.pong (broker.registered id) elapsedTime)

/-- A broker with one master and some slaves. -/
def new (collectCount : ℚ) (slaves : Nat) : LatencyBroker ι :=
  ⟨.empty, .new true collectCount, List.replicate slaves (.new false collectCount)⟩

/-- A node is connected. -/
def Online (nodes : OrderedMap ι NodeRecord) (id : ι) : Prop :=
  ∃ hostname, nodes.get id = some ⟨hostname, true⟩

/-- The data of the instances fits the nodes that are connected: averages are only there for hosts
that the master has an entry for, each entry has a node, and all its nodes are connected. -/
structure Clean (broker : LatencyBroker ι) : Prop where
  averages : ∀ strategy ∈ broker.master :: broker.slaves, ∀ host,
    (strategy.hostAvgLatency.get host).isSome → (broker.master.hostMap.get host).isSome
  nonempty : ∀ host info, broker.master.hostMap.get host = some info → info.nodeList ≠ []
  connected : ∀ host info, broker.master.hostMap.get host = some info → ∀ id ∈ info.nodeList,
    Online broker.nodes id

/-- An input that leaves the data fitting: a node that disconnects is in the list of no other host
than its last one, and it is not the last node of a host of which the master has an average; and no
node that has disconnected answers after the entry of its host has gone. -/
def Harmless (broker : LatencyBroker ι) : LatencyInput ι → Prop
  | .info _ _ => True
  | .disconnected id => ∀ hostname, broker.nodes.get id = some ⟨hostname, true⟩ →
      ∀ host info, broker.master.hostMap.get host = some info →
        (id ∈ info.nodeList → host = hostname) ∧
        (host = hostname → info.nodeList.filter (· ≠ id) = [] →
          broker.master.hostAvgLatency.get hostname = none)
  | .pong id _ => ∀ node, broker.nodes.get id = some node →
      broker.master.hostMap.get node.hostname = none → node.available = true

section Laws

variable {broker : LatencyBroker ι}

/-- There is one master. -/
structure Roles (broker : LatencyBroker ι) : Prop where
  master : broker.master.isMaster = true
  slaves : ∀ strategy ∈ broker.slaves, strategy.isMaster = false

theorem emit_of_master (roles : broker.Roles) {event : NodeEvent ι}
    (idle : ∀ strategy : Latency ι, strategy.isMaster = false →
      strategy.handle event = (strategy, [])) :
    broker.emit event = (broker.master.handle event).2.foldl
      (fun broker event => (broker.deliver event).1)
      { broker with master := (broker.master.handle event).1 } := by
  have same : broker.slaves.map (·.handle event) = broker.slaves.map fun slave => (slave, []) :=
    List.map_congr_left fun strategy inside => idle strategy (roles.slaves strategy inside)
  have kept : (broker.slaves.map fun slave => (slave, ([] : List (NodeEvent ι)))).map Prod.fst =
      broker.slaves := by simp [Function.comp_def]
  have silent : (broker.slaves.map fun slave => (slave, ([] : List (NodeEvent ι)))).flatMap
      Prod.snd = [] := by simp
  unfold emit
  rw [deliver]
  dsimp only
  rw [same, kept, silent, List.append_nil]

theorem emit_connected (roles : broker.Roles) (node : NodeData ι) :
    broker.emit (.connected node) = { broker with master := broker.master.addNode node } := by
  rw [emit_of_master roles fun _ slave => by simp [Latency.handle, slave]]
  simp [Latency.handle, roles.master]

theorem emit_updated (roles : broker.Roles) : broker.emit .updated = broker := by
  rw [emit_of_master roles fun _ _ => rfl]
  rfl

theorem deliver_latencySlave (hostname : String) (avgLatency : ℚ) :
    (broker.deliver (.latencySlave hostname avgLatency)).1 =
      { broker with
        master := broker.master.updateLatency hostname avgLatency
        slaves := broker.slaves.map (·.updateLatency hostname avgLatency) } := by
  simp [deliver, Latency.handle, Function.comp_def]

theorem deliver_removeHost (roles : broker.Roles) (hostname : String) :
    (broker.deliver (.latencySlaveRemoveHost hostname)).1 =
      { broker with slaves := broker.slaves.map (·.removeHostLatency hostname) } := by
  have handled :
      broker.slaves.map (fun slave => (slave.handle (.latencySlaveRemoveHost hostname)).1) =
      broker.slaves.map (·.removeHostLatency hostname) := by
    apply List.map_congr_left
    intro slave inside
    simp [Latency.handle, roles.slaves slave inside]
  unfold deliver
  simp only [List.map_map, Function.comp_def, handled]
  simp [Latency.handle, roles.master]

theorem emit_pong_none (roles : broker.Roles) (elapsedTime : ℚ) :
    broker.emit (.pong none elapsedTime) = broker := by
  rw [emit_of_master roles fun _ slave => by simp [Latency.handle, slave]]
  simp [Latency.handle, Latency.processPong, roles.master]

theorem emit_pong (roles : broker.Roles) (node : NodeData ι) (elapsedTime : ℚ) :
    ∃ historicLatency avgLatency, broker.emit (.pong (some node) elapsedTime) =
      { broker with
        master := (broker.master.setHost node.hostname { broker.master.getHostLatency node with
          historicLatency := historicLatency }).updateLatency node.hostname avgLatency
        slaves := broker.slaves.map (·.updateLatency node.hostname avgLatency) } := by
  let historicLatency := Latency.collect broker.master.collectCount
    (broker.master.getHostLatency node).historicLatency elapsedTime
  refine ⟨historicLatency, historicLatency.sum / historicLatency.length, ?_⟩
  rw [emit_of_master roles fun _ slave => by simp [Latency.handle, slave]]
  simp only [Latency.handle, Latency.processPong, roles.master, if_true, List.foldl_cons,
    List.foldl_nil]
  rw [deliver_latencySlave]

variable {node : NodeData ι} {info : HostInfo ι} {hostname : String}

theorem emit_disconnected_absent (roles : broker.Roles)
    (absent : broker.master.hostMap.get node.hostname = none) :
    broker.emit (.disconnected node) = broker := by
  rw [emit_of_master roles fun _ slave => by simp [Latency.handle, slave]]
  simp [Latency.handle, Latency.removeHostMap, absent, roles.master]

theorem emit_disconnected_more (roles : broker.Roles)
    (present : broker.master.hostMap.get node.hostname = some info)
    (others : info.nodeList.filter (· ≠ node.id) ≠ []) :
    broker.emit (.disconnected node) =
      { broker with
        master := broker.master.setHost node.hostname
          { info with nodeList := info.nodeList.filter (· ≠ node.id) } } := by
  have some_ : ¬ (info.nodeList.filter (· ≠ node.id)).length = 0 :=
    fun nothing => others (List.eq_nil_of_length_eq_zero nothing)
  rw [emit_of_master roles fun _ slave => by simp [Latency.handle, slave]]
  simp only [Latency.handle, Latency.removeHostMap, roles.master, present, if_true, if_neg some_,
    List.foldl_nil]

theorem emit_disconnected_last (roles : broker.Roles)
    (present : broker.master.hostMap.get node.hostname = some info)
    (last : info.nodeList.filter (· ≠ node.id) = []) :
    broker.emit (.disconnected node) =
      { broker with
        master := { broker.master with hostMap := broker.master.hostMap.delete node.hostname }
        slaves := broker.slaves.map (·.removeHostLatency node.hostname) } := by
  have empty : (info.nodeList.filter (· ≠ node.id)).length = 0 := by
    rw [last]
    rfl
  rw [emit_of_master roles fun _ slave => by simp [Latency.handle, slave]]
  simp only [Latency.handle, if_pos roles.master, Latency.removeHostMap, present, if_pos empty,
    List.foldl_cons, List.foldl_nil]
  have stillRoles : Roles { broker with
      master := { broker.master with hostMap := broker.master.hostMap.delete node.hostname } } :=
    ⟨roles.master, roles.slaves⟩
  exact deliver_removeHost stillRoles node.hostname

/-- What is invariant. -/
structure Fitting (broker : LatencyBroker ι) : Prop where
  roles : broker.Roles
  clean : broker.Clean

theorem online_set_true {nodes : OrderedMap ι NodeRecord} {id other : ι}
    (online : other = id ∨ Online nodes other) : Online (nodes.set id ⟨hostname, true⟩) other := by
  unfold Online
  simp only [OrderedMap.get_set]
  split
  · exact ⟨hostname, rfl⟩
  · exact online.resolve_left ‹_›

theorem online_set_false {nodes : OrderedMap ι NodeRecord} {id other : ι} :
    Online (nodes.set id ⟨hostname, false⟩) other ↔ other ≠ id ∧ Online nodes other := by
  unfold Online
  simp only [OrderedMap.get_set]
  split
  · rename_i same
    simp [same]
  · rename_i differs
    simp [differs]

omit [DecidableEq ι] in
theorem mem_getHostLatency {strategy : Latency ι} {other : ι}
    (inside : other ∈ (strategy.getHostLatency node).nodeList) :
    (strategy.hostMap.get node.hostname = none ∧ other = node.id) ∨
      ∃ info, strategy.hostMap.get node.hostname = some info ∧ other ∈ info.nodeList := by
  unfold Latency.getHostLatency at inside
  cases present : strategy.hostMap.get node.hostname with
  | none =>
    rw [present] at inside
    exact .inl ⟨rfl, List.mem_singleton.mp inside⟩
  | some info =>
    rw [present] at inside
    exact .inr ⟨info, rfl, inside⟩

omit [DecidableEq ι] in
theorem isSome_updateLatency {strategy : Latency ι} {host : String} {avgLatency : ℚ}
    (some_ : ((strategy.updateLatency hostname avgLatency).hostAvgLatency.get host).isSome) :
    host = hostname ∨ (strategy.hostAvgLatency.get host).isSome := by
  rw [Latency.updateLatency, OrderedMap.get_set] at some_
  split at some_
  · exact .inl (by assumption)
  · exact .inr some_

theorem Fitting.setHost {after : LatencyBroker ι} (fitting : broker.Fitting) (roles : after.Roles)
    (map : ∀ host, after.master.hostMap.get host =
      if host = hostname then some info else broker.master.hostMap.get host)
    (own : ∀ host, (after.master.hostAvgLatency.get host).isSome →
      host = hostname ∨ (broker.master.hostAvgLatency.get host).isSome)
    (theirs : ∀ slave ∈ after.slaves, ∀ host, (slave.hostAvgLatency.get host).isSome →
      host = hostname ∨ ∃ old ∈ broker.slaves, (old.hostAvgLatency.get host).isSome)
    (nonempty : info.nodeList ≠ []) (here : ∀ id ∈ info.nodeList, Online after.nodes id)
    (others : ∀ host info, host ≠ hostname → broker.master.hostMap.get host = some info →
      ∀ id ∈ info.nodeList, Online after.nodes id) : after.Fitting := by
  have either {host : String} {entry : HostInfo ι}
      (found : after.master.hostMap.get host = some entry) :
      entry = info ∨ host ≠ hostname ∧ broker.master.hostMap.get host = some entry := by
    rw [map] at found
    split at found
    · exact .inl (Option.some.inj found).symm
    · rename_i other
      exact .inr ⟨other, found⟩
  refine ⟨roles, ?_, ?_, ?_⟩
  · intro strategy inside host some_
    rw [map]
    split
    · rfl
    · rename_i other
      obtain rfl | slave := List.mem_cons.mp inside
      · exact fitting.clean.averages _ List.mem_cons_self host ((own host some_).resolve_left other)
      · obtain ⟨old, member, had⟩ := (theirs strategy slave host some_).resolve_left other
        exact fitting.clean.averages old (List.mem_cons_of_mem _ member) host had
  · intro host entry found
    obtain rfl | ⟨_, old⟩ := either found
    · exact nonempty
    · exact fitting.clean.nonempty host entry old
  · intro host entry found id inside
    obtain rfl | ⟨other, old⟩ := either found
    · exact here id inside
    · exact others host entry other old id inside

/-- The nodes that are listed stay connected when an INFO arrives, also with another hostname. -/
theorem Fitting.heard (fitting : broker.Fitting) (id : ι) (hostname : String) :
    (broker.step (.info id hostname)).Fitting := by
  have kept {host : String} {info : HostInfo ι} {other : ι}
      (present : broker.master.hostMap.get host = some info) (inside : other ∈ info.nodeList) :
      Online (broker.nodes.set id ⟨hostname, true⟩) other :=
    online_set_true (.inr (fitting.clean.connected host info present other inside))
  have newRoles : Roles { broker with nodes := broker.nodes.set id ⟨hostname, true⟩ } :=
    ⟨fitting.roles.master, fitting.roles.slaves⟩
  unfold step
  dsimp only
  split
  · rw [emit_updated newRoles]
    exact ⟨newRoles, fitting.clean.averages, fitting.clean.nonempty,
      fun host info present other inside => kept present inside⟩
  · rw [emit_connected newRoles]
    refine fitting.setHost ⟨fitting.roles.master, fitting.roles.slaves⟩
      (fun host => OrderedMap.get_set broker.master.hostMap hostname host _)
      (fun _ => .inr) (fun slave inside _ some_ => .inr ⟨slave, inside, some_⟩)
      ?_ (fun other inside => ?_) fun host info _ present other inside => kept present inside
    · -- The new node is in the list.
      dsimp only
      split
      · rename_i member
        exact List.ne_nil_of_mem member
      · simp
    · have either : other = id ∨ ∃ info, broker.master.hostMap.get hostname = some info ∧
          other ∈ info.nodeList := by
        dsimp only at inside
        split at inside
        · exact (mem_getHostLatency inside).imp_left And.right
        · obtain old | new := List.mem_append.mp inside
          · exact (mem_getHostLatency old).imp_left And.right
          · exact .inl (List.mem_singleton.mp new)
      obtain rfl | ⟨info, present, old⟩ := either
      · exact online_set_true (.inl rfl)
      · exact kept present old

/-- A pong leaves the data fitting exactly if it is harmless. -/
theorem Fitting.pong_iff (fitting : broker.Fitting) (id : ι) (elapsedTime : ℚ) :
    ((broker.step (.pong id elapsedTime)).Clean ↔ broker.Harmless (.pong id elapsedTime)) ∧
      (broker.Harmless (.pong id elapsedTime) → (broker.step (.pong id elapsedTime)).Fitting) := by
  show ((broker.emit (.pong (broker.registered id) elapsedTime)).Clean ↔ _) ∧
    (_ → (broker.emit (.pong (broker.registered id) elapsedTime)).Fitting)
  unfold registered
  cases found : broker.nodes.get id with
  | none =>
    rw [Option.map_none, emit_pong_none fitting.roles]
    refine ⟨iff_of_true fitting.clean fun node same => ?_, fun _ => fitting⟩
    rw [found] at same
    cases same
  | some node =>
    obtain ⟨historicLatency, avgLatency, effect⟩ :=
      emit_pong fitting.roles ⟨id, node.hostname⟩ elapsedTime
    rw [Option.map_some, effect]
    have harmless : broker.Harmless (.pong id elapsedTime) ↔
        (broker.master.hostMap.get node.hostname = none → node.available = true) := by
      refine ⟨fun all absent => all node found absent, fun this other same absent => ?_⟩
      rw [found] at same
      cases same
      exact this absent
    rw [harmless]
    have sufficient (available : broker.master.hostMap.get node.hostname = none →
        node.available = true) : LatencyBroker.Fitting { broker with
          master := (broker.master.setHost node.hostname
            { broker.master.getHostLatency ⟨id, node.hostname⟩ with
              historicLatency := historicLatency }).updateLatency node.hostname avgLatency
          slaves := broker.slaves.map (·.updateLatency node.hostname avgLatency) } := by
      refine fitting.setHost ⟨fitting.roles.master, fun slave inside => ?_⟩
        (fun host => OrderedMap.get_set broker.master.hostMap node.hostname host _)
        (fun host some_ => ?_) (fun slave inside host some_ => ?_) ?_ (fun other inside => ?_)
        fun host info _ => fitting.clean.connected host info
      · obtain ⟨old, member, rfl⟩ := List.mem_map.mp inside
        exact fitting.roles.slaves old member
      · exact isSome_updateLatency some_
      · obtain ⟨old, member, rfl⟩ := List.mem_map.mp inside
        exact (isSome_updateLatency some_).imp_right fun had => ⟨old, member, had⟩
      · show (broker.master.getHostLatency ⟨id, node.hostname⟩).nodeList ≠ []
        unfold Latency.getHostLatency
        cases present : broker.master.hostMap.get node.hostname with
        | none => simp
        | some info => exact fitting.clean.nonempty _ info present
      · show Online broker.nodes other
        obtain ⟨absent, rfl⟩ | ⟨info, present, old⟩ := mem_getHostLatency inside
        · exact ⟨node.hostname, by rw [found, ← available absent]⟩
        · exact fitting.clean.connected _ info present other old
    refine ⟨⟨fun clean absent => ?_, fun available => (sufficient available).clean⟩, sufficient⟩
    -- The new entry has the node in its list, so the node must be connected.
    have entry :=
      clean.connected node.hostname _ ((OrderedMap.get_set ..).trans (if_pos rfl)) id (by
      show id ∈ (broker.master.getHostLatency ⟨id, node.hostname⟩).nodeList
      simp [Latency.getHostLatency, absent])
    obtain ⟨hostname, connected⟩ := entry
    rw [show broker.nodes.get id = some node from found] at connected
    cases connected
    rfl

/-- When the entry of a host goes, the data fits exactly if the master has no average of the host,
as far as the node is in no other list. -/
theorem Fitting.forget_iff (fitting : broker.Fitting) {id : ι}
    (away : ∀ host info, broker.master.hostMap.get host = some info → id ∈ info.nodeList →
      host = hostname) (after : LatencyBroker ι)
    (nodes : after.nodes = broker.nodes.set id ⟨hostname, false⟩) (master : after.master =
      { broker.master with hostMap := broker.master.hostMap.delete hostname })
    (slaves : after.slaves = broker.slaves.map (·.removeHostLatency hostname)) :
    (after.Clean ↔ broker.master.hostAvgLatency.get hostname = none) ∧
      (broker.master.hostAvgLatency.get hostname = none → after.Fitting) := by
  have gone (host : String) : after.master.hostMap.get host =
      if host = hostname then none else broker.master.hostMap.get host := by
    rw [master]
    exact OrderedMap.get_delete ..
  have remaining {host : String} {entry : HostInfo ι}
      (there : after.master.hostMap.get host = some entry) :
      host ≠ hostname ∧ broker.master.hostMap.get host = some entry := by
    rw [gone] at there
    split at there
    · cases there
    · rename_i differs
      exact ⟨differs, there⟩
  have sufficient (none_ : broker.master.hostAvgLatency.get hostname = none) : after.Fitting := by
    refine ⟨⟨?_, ?_⟩, ?_, ?_, ?_⟩
    · rw [master]
      exact fitting.roles.master
    · intro slave inside
      rw [slaves] at inside
      obtain ⟨old, member, rfl⟩ := List.mem_map.mp inside
      exact fitting.roles.slaves old member
    · -- Neither the master nor a slave has an average of the host.
      intro strategy inside host some_
      have had : host ≠ hostname ∧ (broker.master.hostMap.get host).isSome := by
        obtain rfl | slave := List.mem_cons.mp inside
        · rw [master] at some_
          refine ⟨fun same => ?_, fitting.clean.averages _ List.mem_cons_self host some_⟩
          rw [same, none_] at some_
          cases some_
        · rw [slaves] at slave
          obtain ⟨old, member, rfl⟩ := List.mem_map.mp slave
          rw [Latency.removeHostLatency, OrderedMap.get_delete] at some_
          split at some_
          · cases some_
          · rename_i differs
            exact ⟨differs, fitting.clean.averages old (List.mem_cons_of_mem _ member) host some_⟩
      rw [gone, if_neg had.1]
      exact had.2
    · exact fun host entry there => fitting.clean.nonempty host entry (remaining there).2
    · intro host entry there other inside
      obtain ⟨differs, old⟩ := remaining there
      rw [nodes]
      refine online_set_false.mpr ⟨?_, fitting.clean.connected host entry old other inside⟩
      rintro rfl
      exact differs (away host entry old inside)
  refine ⟨⟨fun clean => ?_, fun none_ => (sufficient none_).clean⟩, sufficient⟩
  by_contra some_
  have average := clean.averages after.master List.mem_cons_self hostname (by
    rw [master]
    exact Option.isSome_iff_ne_none.mpr some_)
  rw [gone, if_pos rfl] at average
  cases average

/-- A node that disconnects goes from the list of its last host only. -/
theorem away_of_clean {id : ι} {after : LatencyBroker ι} (clean : after.Clean)
    (nodes : after.nodes = broker.nodes.set id ⟨hostname, false⟩)
    (others : ∀ host, host ≠ hostname →
      after.master.hostMap.get host = broker.master.hostMap.get host) (host : String)
    (info : HostInfo ι) (present : broker.master.hostMap.get host = some info)
    (inside : id ∈ info.nodeList) : host = hostname := by
  by_contra differs
  have online := clean.connected host info ((others host differs).trans present) id inside
  rw [nodes] at online
  exact (online_set_false.mp online).1 rfl

/-- The condition on a node that disconnects is about the lists of other hosts and about the entry
of its own host. -/
theorem harmless_disconnected_iff {id : ι} (found : broker.nodes.get id = some ⟨hostname, true⟩) :
    broker.Harmless (.disconnected id) ↔
      (∀ host info, broker.master.hostMap.get host = some info → id ∈ info.nodeList →
        host = hostname) ∧
      ∀ info, broker.master.hostMap.get hostname = some info →
        info.nodeList.filter (· ≠ id) = [] →
        broker.master.hostAvgLatency.get hostname = none := by
  constructor
  · intro all
    exact ⟨fun host info present => (all hostname found host info present).1,
      fun info present => (all hostname found hostname info present).2 rfl⟩
  · rintro ⟨away, last⟩ other same host info present
    cases found.symm.trans same
    exact ⟨away host info present, fun here => last info (here ▸ present)⟩

/-- A disconnection leaves the data fitting exactly if it is harmless. -/
theorem Fitting.disconnect_iff (fitting : broker.Fitting) (id : ι) :
    ((broker.step (.disconnected id)).Clean ↔ broker.Harmless (.disconnected id)) ∧
      (broker.Harmless (.disconnected id) → (broker.step (.disconnected id)).Fitting) := by
  unfold step
  dsimp only
  split
  · rename_i hostname found
    have newRoles : Roles { broker with nodes := broker.nodes.set id ⟨hostname, false⟩ } :=
      ⟨fitting.roles.master, fitting.roles.slaves⟩
    have kept {host : String} {info : HostInfo ι} {other : ι} (differs : other ≠ id)
        (present : broker.master.hostMap.get host = some info) (inside : other ∈ info.nodeList) :
        Online (broker.nodes.set id ⟨hostname, false⟩) other :=
      online_set_false.mpr ⟨differs, fitting.clean.connected host info present other inside⟩
    rw [harmless_disconnected_iff found]
    cases present : broker.master.hostMap.get hostname with
    | none =>
      -- The host has no entry, so the master leaves the map alone.
      rw [emit_disconnected_absent newRoles (show broker.master.hostMap.get hostname = none from
        present)]
      have still (away : ∀ host info, broker.master.hostMap.get host = some info →
          id ∈ info.nodeList → host = hostname) : LatencyBroker.Fitting
          { broker with nodes := broker.nodes.set id ⟨hostname, false⟩ } := by
        refine ⟨newRoles, fitting.clean.averages, fitting.clean.nonempty, ?_⟩
        intro host info there other inside
        refine kept ?_ there inside
        rintro rfl
        rw [away host info there inside, present] at there
        cases there
      exact ⟨⟨fun clean => ⟨away_of_clean clean rfl fun _ _ => rfl, nofun⟩,
        fun both => (still both.1).clean⟩, fun both => still both.1⟩
    | some info =>
      have there : broker.master.hostMap.get (NodeData.mk id hostname).hostname = some info :=
          present
      by_cases last : info.nodeList.filter (· ≠ id) = []
      · -- The last node of the host: its entry goes, and the slaves drop their averages.
        rw [emit_disconnected_last newRoles there last]
        have only : (∀ other, some info = some other → other.nodeList.filter (· ≠ id) = [] →
            broker.master.hostAvgLatency.get hostname = none) ↔
            broker.master.hostAvgLatency.get hostname = none :=
          ⟨fun all => all info rfl last, fun none_ _ _ _ => none_⟩
        rw [only]
        refine ⟨⟨fun clean => ?_, fun ⟨away, none_⟩ => ?_⟩, fun ⟨away, none_⟩ => ?_⟩
        · have away := away_of_clean clean rfl fun host differs =>
            (OrderedMap.get_delete ..).trans (if_neg differs)
          exact ⟨away, (fitting.forget_iff away _ rfl rfl rfl).1.mp clean⟩
        · exact (fitting.forget_iff away _ rfl rfl rfl).1.mpr none_
        · exact (fitting.forget_iff away _ rfl rfl rfl).2 none_
      · -- Others are left on the host.
        rw [emit_disconnected_more newRoles there last]
        have still (away : ∀ host info, broker.master.hostMap.get host = some info →
            id ∈ info.nodeList → host = hostname) : LatencyBroker.Fitting { broker with
            nodes := broker.nodes.set id ⟨hostname, false⟩
            master := broker.master.setHost hostname
              { info with nodeList := info.nodeList.filter (· ≠ id) } } := by
          refine fitting.setHost ⟨fitting.roles.master, fitting.roles.slaves⟩
            (fun host => OrderedMap.get_set broker.master.hostMap hostname host _)
            (fun _ => .inr) (fun slave inside _ some_ => .inr ⟨slave, inside, some_⟩) last
            (fun other inside => ?_) fun host entry differs located other inside => ?_
          · obtain ⟨member, apart⟩ := List.mem_filter.mp inside
            exact kept (by simpa using apart) present member
          · refine kept ?_ located inside
            rintro rfl
            exact differs (away host entry located inside)
        have more : ∀ other, some info = some other → other.nodeList.filter (· ≠ id) = [] →
            broker.master.hostAvgLatency.get hostname = none := by
          rintro _ ⟨⟩ none_
          exact absurd none_ last
        refine ⟨⟨fun clean => ⟨?_, more⟩, fun both => (still both.1).clean⟩,
          fun both => still both.1⟩
        exact away_of_clean clean rfl fun host differs =>
          (OrderedMap.get_set ..).trans (if_neg differs)
  · rename_i offline
    refine ⟨iff_of_true fitting.clean fun hostname found => ?_, fun _ => fitting⟩
    exact absurd found (offline hostname)

theorem Fitting.clean_step_iff (fitting : broker.Fitting) (input : LatencyInput ι) :
    ((broker.step input).Clean ↔ broker.Harmless input) ∧
      (broker.Harmless input → (broker.step input).Fitting) := by
  cases input with
  | info id hostname =>
    have kept := fitting.heard id hostname
    exact ⟨iff_of_true kept.clean trivial, fun _ => kept⟩
  | disconnected id => exact fitting.disconnect_iff id
  | pong id elapsedTime => exact fitting.pong_iff id elapsedTime

theorem fitting_new (collectCount : ℚ) (slaves : Nat) :
    (new collectCount slaves : LatencyBroker ι).Fitting := by
  have slave {strategy : Latency ι} (inside : strategy ∈ (new collectCount slaves).slaves) :
      strategy = .new false collectCount := List.eq_of_mem_replicate inside
  refine ⟨⟨rfl, fun strategy inside => ?_⟩, fun strategy inside host some_ => ?_,
    fun host info there => ?_, fun host info there => ?_⟩
  · rw [slave inside]
    rfl
  · have none_ : strategy.hostAvgLatency.get host = none := by
      obtain rfl | other := List.mem_cons.mp inside
      · rfl
      · rw [slave other]
        rfl
    rw [none_] at some_
    cases some_
  · cases there
  · cases there

end Laws

/-- The data of all instances fits the connected nodes after every step of a run exactly if every
input is harmless. -/
theorem latency_dropped_iff (collectCount : ℚ) (slaves : Nat) (inputs : List (LatencyInput ι)) :
    Meets step (fun broker input => (broker.step input).Clean) (new collectCount slaves) inputs ↔
      Meets step Harmless (new collectCount slaves) inputs := by
  refine meets_iff (fun broker input _ fitting => (Fitting.clean_step_iff fitting input).1)
    (fun broker input _ fitting clean => ?_) (fitting_new collectCount slaves)
  obtain ⟨agrees, kept⟩ := Fitting.clean_step_iff fitting input
  exact kept (agrees.mp clean)

/-- After the only node of a host has disconnected, the master still has an average of the host. -/
theorem master_keeps_average :
    ¬ ((((new 5 1 : LatencyBroker String).step (.info "node-1" "host")).step
      (.pong "node-1" 3)).step (.disconnected "node-1")).Clean := by
  intro clean
  have average := clean.averages _ List.mem_cons_self "host" (by decide +kernel)
  exact absurd average (by decide +kernel)

end LatencyBroker

end Moleculer.Strategies
