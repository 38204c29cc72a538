import Moleculer.Base.Promise
import Moleculer.Registry.Heartbeats

/-! How the discoverers for Redis and etcd collect the nodes that are online
(`discoverers/redis.js`, `discoverers/etcd3.js`). -/

namespace Moleculer.Discoverers

open Base Cluster

variable {ρ : Type}

/-- The properties of a decoded value that are looked at; one that is missing is `none`. -/
structure Fields where
  sender : Option NodeID
  instanceID : Option (Option String)
  seq : Option BeatSeq
  cpu : Option (Option Nat)
  cpuSeq : Option (Option ℚ)
  deriving DecidableEq

/-- A decoded value. -/
inductive Decoded where
  /-- A falsy value, such as `null`. -/
  | falsy
  | value (fields : Fields)
  deriving DecidableEq

/-- A packet as it is passed to `heartbeatReceived`. -/
structure Packet where
  sender : NodeID
  payload : Beat
  deriving DecidableEq

/-- What the discoverers use: the serializer, `none` if it throws, and `Number`. -/
structure Platform (ρ : Type) where
  deserialize : ρ → Option Decoded
  number : Option String → BeatSeq

/-- A beat in the store: the parts of its key, and the value that was read for it. The separators of
the keys are not part of the ids of nodes. -/
structure StoredBeat (ρ : Type) where
  nodeID : String
  instanceHash : String
  seq : String
  value : ρ
  plain : '|' ∉ nodeID.toList ∧ '/' ∉ nodeID.toList

/-- The key of a beat: `BEAT_KEY` with the sequence number. -/
def StoredBeat.key (beat : StoredBeat ρ) (head : List Char) (separator : Char) : List Char :=
  head ++ (beat.nodeID.toList ++ separator :: (beat.instanceHash.toList ++
    separator :: beat.seq.toList))

/-- A discoverer: its options, its counter, and what the keys of all beats begin with. -/
structure Discoverer where
  head : List Char
  fullCheck : Option Int
  idx : Nat

/-- Whether this is a full check, and the counter after it. -/
def Discoverer.check (discoverer : Discoverer) : Bool × Nat :=
  match discoverer.fullCheck with
  | none => (false, discoverer.idx)
  | some fullCheck =>
    if fullCheck = 0 then (false, discoverer.idx)
    else if ((discoverer.idx : Int) + 1) % fullCheck = 0 then (true, 0)
    else (false, discoverer.idx + 1)

/-- The packet that is read from a key. -/
def parseKey (platform : Platform ρ) (head : List Char) (separator : Char) (key : List Char) :
    Packet :=
  let p := (key.drop head.length).splitOn separator
  ⟨p[0]?.map String.ofList,
    ⟨platform.number (p[2]?.map String.ofList), p[1]?.map String.ofList, none, none⟩⟩

/-- The properties of a decoded value are spread over those of a packet. -/
def Packet.spread (packet : Packet) : Decoded → Packet
  | .falsy => packet
  | .value fields =>
    ⟨fields.sender.getD packet.sender,
      ⟨fields.seq.getD packet.payload.seq, fields.instanceID.getD packet.payload.instanceID,
        fields.cpu.getD packet.payload.cpu, fields.cpuSeq.getD packet.payload.cpuSeq⟩⟩

/-- The packet that the Redis discoverer gets from a beat, `none` for `undefined`. -/
def redisPacket (platform : Platform ρ) (discoverer : Discoverer) (beat : StoredBeat ρ) :
    Option Packet :=
  let packet := parseKey platform discoverer.head '|' (beat.key discoverer.head '|')
  if discoverer.check.1 then (platform.deserialize beat.value).map packet.spread
  else some packet

/-- The packet that the etcd discoverer gets from a beat, `none` for what `_.compact` drops. -/
def etcdPacket (platform : Platform ρ) (discoverer : Discoverer) (beat : StoredBeat ρ) :
    Option Packet :=
  if discoverer.check.1 then
    match platform.deserialize beat.value with
    | some (.value fields) =>
      some (Packet.spread ⟨none, ⟨.missing, none, none, none⟩⟩ (.value fields))
    | _ => none
  else some (parseKey platform discoverer.head '/' (beat.key discoverer.head '/'))

/-- The state of `collectOnlineNodes`, with the calls of `heartbeatReceived` so far. -/
structure Progress where
  registry : Registry
  prevNodes : List NodeID
  heartbeats : List (NodeID × Packet)

/-- The start: the remote nodes that are available. -/
def Progress.start (registry : Registry) : Progress :=
  ⟨registry, ((registry.nodes.values.filter (·.available)).map (·.self.id)).filter
    (· ≠ some registry.nodeID), []⟩

/-- The loop over the packets, and whether it gets to the end: reading `sender` of `undefined`
throws, and `heartbeatReceived` may throw. -/
def receiveAll (now : Nat) : Progress → List (Option Packet) → Progress × Bool
  | progress, [] => (progress, true)
  | progress, none :: _ => (progress, false)
  | progress, some packet :: rest =>
    if packet.sender = some progress.registry.nodeID then receiveAll now progress rest
    else
      let left := { progress with prevNodes := progress.prevNodes.erase packet.sender }
      if progress.registry.reaction packet.sender packet.payload = .typeError then (left, false)
      else
        receiveAll now { left with
          registry := progress.registry.heartbeatReceived packet.sender packet.payload now
          heartbeats := progress.heartbeats ++ [(packet.sender, packet)] } rest

/-- The nodes that are left are disconnected. -/
def Progress.disconnectRest (progress : Progress) (now : Nat) : Registry :=
  progress.prevNodes.foldl (fun registry id => registry.disconnected id now) progress.registry

/-- What `collectOnlineNodes` leads to. -/
structure Outcome where
  settlement : Settlement Unit Unit
  registry : Registry
  heartbeats : List (NodeID × Packet)
  idx : Nat

/-- `RedisDiscoverer.collectOnlineNodes`. An error in the inner chain of promises does not reach the
promise that was returned. -/
def redisCollect (platform : Platform ρ) (discoverer : Discoverer) (registry : Registry)
    (beats : List (StoredBeat ρ)) (now : Nat) : Outcome :=
  if beats.isEmpty then
    ⟨.fulfilled (), (Progress.start registry).disconnectRest now, [], discoverer.idx⟩
  else
    let (progress, done) := receiveAll now (.start registry)
      (beats.map (redisPacket platform discoverer))
    if done then
      ⟨.fulfilled (), progress.disconnectRest now, progress.heartbeats, discoverer.check.2⟩
    else ⟨.pending, progress.registry, progress.heartbeats, discoverer.check.2⟩

/-- `Etcd3Discoverer.collectOnlineNodes`. -/
def etcdCollect (platform : Platform ρ) (discoverer : Discoverer) (registry : Registry)
    (beats : List (StoredBeat ρ)) (now : Nat) : Outcome :=
  let (progress, done) := receiveAll now (.start registry)
    ((beats.filterMap (etcdPacket platform discoverer)).map some)
  if done then
    ⟨.fulfilled (), progress.disconnectRest now, progress.heartbeats, discoverer.check.2⟩
  else ⟨.rejected (), progress.registry, progress.heartbeats, discoverer.check.2⟩

/-- A beat that can be used: in the full check its value has to be decoded. -/
def Usable (platform : Platform ρ) (discoverer : Discoverer) (beat : StoredBeat ρ) : Prop :=
  discoverer.check.1 = true → platform.deserialize beat.value ≠ none

/-- A node is known and available. -/
def online (registry : Registry) (id : NodeID) : Bool := (registry.nodes.get id).any (·.available)

/-- The right outcome: the promise settles, the beats of other nodes are handled, and the nodes
without beats and only these are disconnected. `read` tells what a beat tells. -/
structure Right (registry : Registry) (beats : List (StoredBeat ρ)) (usable : StoredBeat ρ → Prop)
    (read : StoredBeat ρ → Option Packet) (outcome : Outcome) : Prop where
  settles : outcome.settlement ≠ .pending
  heard : ∀ beat ∈ beats, usable beat → beat.nodeID ≠ registry.nodeID →
    ∃ packet, read beat = some packet ∧ (some beat.nodeID, packet) ∈ outcome.heartbeats
  gone : ∀ id, online registry (some id) = true → id ≠ registry.nodeID →
    (∀ beat ∈ beats, beat.nodeID ≠ id) → online outcome.registry (some id) = false
  kept : ∀ beat ∈ beats, usable beat → beat.nodeID ≠ registry.nodeID →
    online outcome.registry (some beat.nodeID) = online registry (some beat.nodeID)

/-- The values say what the keys say: those of other nodes name the node of their key, and none
names an available node without a beat. -/
structure Genuine (registry : Registry) (beats : List (StoredBeat ρ))
    (usable : StoredBeat ρ → Prop) (read : StoredBeat ρ → Option Packet) : Prop where
  named : ∀ beat ∈ beats, usable beat → beat.nodeID ≠ registry.nodeID →
    ∃ packet, read beat = some packet ∧ packet.sender = some beat.nodeID
  astray : ∀ beat ∈ beats, ∀ packet id, read beat = some packet → packet.sender = some id →
    online registry (some id) = true → id ≠ registry.nodeID → ∃ other ∈ beats, other.nodeID = id

section Laws

variable {registry : Registry} {beats : List (StoredBeat ρ)} {platform : Platform ρ}
  {discoverer : Discoverer}

theorem sender_parseKey (beat : StoredBeat ρ) (head : List Char) {separator : Char}
    (plain : separator ∉ beat.nodeID.toList) :
    (parseKey platform head separator (beat.key head separator)).sender = some beat.nodeID := by
  have split : ((beat.key head separator).drop head.length).splitOn separator =
      beat.nodeID.toList :: (beat.instanceHash.toList ++
        separator :: beat.seq.toList).splitOn separator := by
    rw [StoredBeat.key, List.drop_left]
    refine List.splitOnP_append_cons_of_forall_mem (fun char inside => ?_) _ (by simp) _
    rw [beq_eq_false_iff_ne]
    rintro rfl
    exact plain inside
  simp only [parseKey, split]
  simp

/-- Two registries whose nodes react alike to beats. -/
structure Alike (before after : Registry) : Prop where
  nodeID : after.nodeID = before.nodeID
  nodes : ∀ id, (after.nodes.get id).map (fun node => (node.available, node.seq, node.instanceID)) =
    (before.nodes.get id).map fun node => (node.available, node.seq, node.instanceID)

theorem Alike.online {before after : Registry} (alike : Alike before after) (id : NodeID) :
    online after id = online before id := by
  have same := alike.nodes id
  unfold Discoverers.online
  cases found : before.nodes.get id with
  | none => simp_all
  | some node =>
    rw [found, Option.map_some, Option.map_eq_some_iff] at same
    obtain ⟨changed, located, equal⟩ := same
    rw [located]
    simpa using congrArg Prod.fst equal

theorem Alike.reaction {before after : Registry} (alike : Alike before after) (id : NodeID)
    (payload : Beat) : after.reaction id payload = before.reaction id payload := by
  have same := alike.nodes id
  unfold Registry.reaction
  cases found : before.nodes.get id with
  | none => simp_all
  | some node =>
    rw [found, Option.map_some, Option.map_eq_some_iff] at same
    obtain ⟨changed, located, equal⟩ := same
    rw [located]
    simp only [Prod.mk.injEq] at equal
    exact payload.reaction_congr equal.1 equal.2.1 equal.2.2

theorem alike_heartbeatReceived (registry : Registry) (id : NodeID) (payload : Beat) (now : Nat) :
    Alike registry (registry.heartbeatReceived id payload now) := by
  refine ⟨(registry.nodeID_heartbeatReceived id payload now).1, fun other => ?_⟩
  obtain same | ⟨node, found, online, changed⟩ :=
    registry.get_heartbeatReceived id payload now other
  · rw [same]
  · have kept := node.heartbeat_kept payload.cpu payload.cpuSeq now
    rw [changed, found]
    simp [kept.2.2.1, kept.2.2.2.1, kept.2.2.2.2, online]

/-- Beats of nodes with an `instanceID` do not make `heartbeatReceived` throw. -/
theorem reaction_ne_typeError (identified : registry.Identified) (id : NodeID) (payload : Beat) :
    registry.reaction id payload ≠ .typeError := by
  unfold Registry.reaction
  cases found : registry.nodes.get id with
  | none => simp [Beat.reaction]
  | some node =>
    obtain ⟨instanceID, named⟩ := Option.ne_none_iff_exists'.mp (identified id node found)
    unfold Beat.reaction
    simp only [named]
    repeat' split
    all_goals simp_all

/-- The packets of other nodes. -/
def others (registry : Registry) (packets : List Packet) : List Packet :=
  packets.filter fun packet => packet.sender ≠ some registry.nodeID

/-- The loop gets to the end unless a packet is `undefined`. -/
theorem receiveAll_packets (identified : registry.Identified) (now : Nat) (packets : List Packet)
    (progress : Progress) (alike : Alike registry progress.registry) :
    (receiveAll now progress (packets.map some)).2 = true ∧
      Alike registry (receiveAll now progress (packets.map some)).1.registry ∧
      (receiveAll now progress (packets.map some)).1.prevNodes =
        progress.prevNodes.diff ((others registry packets).map (·.sender)) ∧
      (receiveAll now progress (packets.map some)).1.heartbeats =
        progress.heartbeats ++ (others registry packets).map fun packet =>
          (packet.sender, packet) := by
  induction packets generalizing progress with
  | nil => simp [receiveAll, alike, others]
  | cons packet rest ih =>
    rw [List.map_cons, receiveAll, alike.nodeID]
    by_cases own : packet.sender = some registry.nodeID
    · rw [if_pos own]
      have skipped : others registry (packet :: rest) = others registry rest := by
        simp [others, own]
      rw [skipped]
      exact ih progress alike
    · rw [if_neg own, alike.reaction]
      dsimp only
      rw [if_neg (reaction_ne_typeError identified _ _)]
      have taken : others registry (packet :: rest) = packet :: others registry rest := by
        simp [others, own]
      have heard := alike_heartbeatReceived progress.registry packet.sender packet.payload now
      obtain ⟨done, final, left, calls⟩ := ih
        { progress with
          prevNodes := progress.prevNodes.erase packet.sender
          registry := progress.registry.heartbeatReceived packet.sender packet.payload now
          heartbeats := progress.heartbeats ++ [(packet.sender, packet)] }
        ⟨heard.nodeID.trans alike.nodeID, fun id => (heard.nodes id).trans (alike.nodes id)⟩
      refine ⟨done, final, ?_, ?_⟩
      · rw [left, taken, List.map_cons, List.diff_cons]
      · rw [calls, taken]
        simp

/-- An `undefined` packet stops the loop. -/
theorem receiveAll_undefined (now : Nat) {packets : List (Option Packet)}
    (undefined : none ∈ packets)
    (progress : Progress) : (receiveAll now progress packets).2 = false := by
  induction packets generalizing progress with
  | nil => cases undefined
  | cons packet rest ih =>
    cases packet with
    | none => rfl
    | some packet =>
      have later : none ∈ rest := by simpa using undefined
      rw [receiveAll]
      split
      · exact ih later progress
      · dsimp only
        split
        · rfl
        · exact ih later _

theorem online_disconnectAll (registry : Registry) (ids : List NodeID) (now : Nat) (id : NodeID) :
    online (ids.foldl (fun registry id => registry.disconnected id now) registry) id =
      (online registry id && decide (id ∉ ids)) := by
  induction ids generalizing registry with
  | nil => simp
  | cons first rest ih =>
    rw [List.foldl_cons, ih]
    unfold online
    rw [Registry.get_disconnected]
    by_cases here : id = first
    · subst here
      have offline (node : Node) : (node.disconnected now).available = false := by
        unfold Node.disconnected
        cases available : node.available <;> simp [available]
      cases registry.nodes.get id <;> simp [offline]
    · simp [here]

theorem mem_prevNodes (sound : registry.Sound) (id : NodeID) :
    id ∈ (Progress.start registry).prevNodes ↔
      online registry id = true ∧ id ≠ some registry.nodeID := by
  simp only [Progress.start, List.mem_filter, List.mem_map, decide_eq_true_eq]
  refine and_congr_left fun _ => ?_
  unfold online
  constructor
  · rintro ⟨node, ⟨inside, available⟩, rfl⟩
    obtain ⟨key, found⟩ := OrderedMap.mem_values_iff.mp inside
    rw [(sound.keyed key node found).1, found]
    exact available
  · intro available
    cases found : registry.nodes.get id with
    | none => simp [found] at available
    | some node =>
      refine ⟨node, ⟨OrderedMap.mem_values_iff.mpr ⟨id, found⟩, ?_⟩, (sound.keyed id node found).1⟩
      simpa [found] using available

theorem nodup_prevNodes (sound : registry.Sound) : (Progress.start registry).prevNodes.Nodup := by
  have ids : registry.nodes.values.map (·.self.id) = registry.nodes.keys := by
    rw [OrderedMap.values, OrderedMap.keys, List.map_map]
    refine List.map_congr_left fun entry inside => ?_
    exact (sound.keyed _ _ (OrderedMap.mem_entries_iff.mp inside)).1
  have nodup : (registry.nodes.values.map (·.self.id)).Nodup := by
    rw [ids]
    exact registry.nodes.nodup
  exact (nodup.sublist (List.filter_sublist.map _)).filter _

theorem online_disconnectRest (reachable : registry.Reachable) (now : Nat) (packets : List Packet)
    (id : NodeID) :
    online ((receiveAll now (.start registry) (packets.map some)).1.disconnectRest now) id = true ↔
      online registry id = true ∧
        (id = some registry.nodeID ∨ ∃ packet ∈ packets, packet.sender = id) := by
  obtain ⟨_, alike, left, _⟩ := receiveAll_packets reachable.identified now packets
    (.start registry) ⟨rfl, fun _ => rfl⟩
  rw [Progress.disconnectRest, online_disconnectAll, alike.online, left, Bool.and_eq_true,
    decide_eq_true_eq, (nodup_prevNodes reachable.sound).mem_sdiff_iff,
    mem_prevNodes reachable.sound]
  refine and_congr_right fun available => ?_
  by_cases own : id = some registry.nodeID
  · simp [own]
  · constructor
    · intro spared
      by_contra missing
      refine spared ⟨⟨available, own⟩, fun named => missing (.inr ?_)⟩
      obtain ⟨packet, inside, same⟩ := List.mem_map.mp named
      exact ⟨packet, List.mem_of_mem_filter inside, same⟩
    · rintro (here | ⟨packet, inside, rfl⟩)
      · exact absurd here own
      · intro missing
        refine missing.2 (List.mem_map.mpr ⟨packet, List.mem_filter.mpr ⟨inside, ?_⟩, rfl⟩)
        exact decide_eq_true own

theorem right_iff_genuine (reachable : registry.Reachable) (now : Nat)
    (usable : StoredBeat ρ → Prop) (read : StoredBeat ρ → Option Packet) {outcome : Outcome}
    (settles : outcome.settlement = .fulfilled ())
    (heartbeats : outcome.heartbeats = (others registry (beats.filterMap read)).map fun packet =>
      (packet.sender, packet))
    (nodes : outcome.registry = (receiveAll now (.start registry)
      ((beats.filterMap read).map some)).1.disconnectRest now) :
    Right registry beats usable read outcome ↔ Genuine registry beats usable read := by
  have final (id : NodeID) := online_disconnectRest reachable now (beats.filterMap read) id
  rw [← nodes] at final
  have called (packet : Packet) (nodeID : String) :
      (some nodeID, packet) ∈ outcome.heartbeats ↔
        packet ∈ beats.filterMap read ∧ packet.sender = some nodeID ∧
          nodeID ≠ registry.nodeID := by
    rw [heartbeats, List.mem_map]
    constructor
    · rintro ⟨call, inside, equal⟩
      obtain ⟨read, foreign⟩ := List.mem_filter.mp inside
      obtain ⟨sender, rfl⟩ := Prod.mk.inj equal
      refine ⟨read, sender, fun own => ?_⟩
      exact of_decide_eq_true foreign (own ▸ sender)
    · rintro ⟨read, sender, foreign⟩
      refine ⟨packet, List.mem_filter.mpr ⟨read, decide_eq_true ?_⟩, by rw [sender]⟩
      exact fun own => foreign (Option.some.inj (sender.symm.trans own))
  have spared {beat : StoredBeat ρ} (inside : beat ∈ beats) {packet : Packet}
      (tells : read beat = some packet) : packet ∈ beats.filterMap read :=
    List.mem_filterMap.mpr ⟨beat, inside, tells⟩
  constructor
  · intro right
    refine ⟨fun beat inside able foreign => ?_,
      fun beat inside packet id tells sender up away => ?_⟩
    · obtain ⟨packet, tells, call⟩ := right.heard beat inside able foreign
      exact ⟨packet, tells, ((called packet beat.nodeID).mp call).2.1⟩
    · -- A node that is named stays, so it has to have a beat.
      by_contra missing
      have off := right.gone id up away fun other there same => missing ⟨other, there, same⟩
      have on := (final (some id)).mpr ⟨up, .inr ⟨packet, spared inside tells, sender⟩⟩
      rw [off] at on
      cases on
  · intro genuine
    refine ⟨by simp [settles], fun beat inside able foreign => ?_, fun id up away missing => ?_,
      fun beat inside able foreign => ?_⟩
    · obtain ⟨packet, tells, sender⟩ := genuine.named beat inside able foreign
      exact ⟨packet, tells, (called packet beat.nodeID).mpr ⟨spared inside tells, sender, foreign⟩⟩
    · rw [Bool.eq_false_iff]
      intro on
      obtain own | ⟨packet, there, sender⟩ := ((final (some id)).mp on).2
      · exact away (Option.some.inj own)
      · obtain ⟨beat, inside, tells⟩ := List.mem_filterMap.mp there
        obtain ⟨other, present, same⟩ := genuine.astray beat inside packet id tells sender up away
        exact missing other present same
    · obtain ⟨packet, tells, sender⟩ := genuine.named beat inside able foreign
      rw [Bool.eq_iff_iff, final (some beat.nodeID)]
      exact and_iff_left (.inr ⟨packet, spared inside tells, sender⟩)

theorem genuine_of_keys (usable : StoredBeat ρ → Prop) {read : StoredBeat ρ → Option Packet}
    (keys : ∀ beat, ∃ packet, read beat = some packet ∧ packet.sender = some beat.nodeID) :
    Genuine registry beats usable read := by
  refine ⟨fun beat _ _ _ => keys beat, fun beat inside packet id tells sender _ _ => ?_⟩
  obtain ⟨same, reads, named⟩ := keys beat
  cases tells.symm.trans reads
  exact ⟨beat, inside, Option.some.inj (named.symm.trans sender)⟩

/-- A list without `undefined`. -/
theorem map_eq_map_filterMap {α β : Type} {read : α → Option β} {items : List α}
    (complete : ∀ item ∈ items, read item ≠ none) :
    items.map read = (items.filterMap read).map some := by
  induction items with
  | nil => rfl
  | cons item rest ih =>
    obtain ⟨first, later⟩ := List.forall_mem_cons.mp complete
    obtain ⟨result, reads⟩ := Option.ne_none_iff_exists'.mp first
    rw [List.map_cons, List.filterMap_cons_some reads, List.map_cons, reads, ih later]

theorem redis_right_iff_genuine (reachable : registry.Reachable) (now : Nat)
    (complete : ∀ beat ∈ beats, redisPacket platform discoverer beat ≠ none) :
    Right registry beats (Usable platform discoverer) (redisPacket platform discoverer)
        (redisCollect platform discoverer registry beats now) ↔
      Genuine registry beats (Usable platform discoverer) (redisPacket platform discoverer) := by
  have done := receiveAll_packets reachable.identified now
    (beats.filterMap (redisPacket platform discoverer)) (.start registry) ⟨rfl, fun _ => rfl⟩
  by_cases empty : beats.isEmpty
  · obtain rfl := List.isEmpty_iff.mp empty
    exact right_iff_genuine reachable now _ _ rfl rfl rfl
  · rw [redisCollect, if_neg empty, map_eq_map_filterMap complete]
    dsimp only
    rw [if_pos done.1]
    exact right_iff_genuine reachable now _ _ rfl done.2.2.2 rfl

theorem redis_right_iff (reachable : registry.Reachable) (now : Nat) :
    Right registry beats (Usable platform discoverer) (redisPacket platform discoverer)
        (redisCollect platform discoverer registry beats now) ↔
      (discoverer.check.1 = true → (∀ beat ∈ beats, platform.deserialize beat.value ≠ none) ∧
        Genuine registry beats (Usable platform discoverer) (redisPacket platform discoverer)) := by
  by_cases complete : ∀ beat ∈ beats, redisPacket platform discoverer beat ≠ none
  · rw [redis_right_iff_genuine reachable now complete]
    cases check : discoverer.check.1 with
    | true =>
      have decoded : ∀ beat ∈ beats, platform.deserialize beat.value ≠ none := by
        intro beat inside failed
        exact complete beat inside (by simp [redisPacket, check, failed])
      exact ⟨fun genuine _ => ⟨decoded, genuine⟩, fun good => (good rfl).2⟩
    | false =>
      refine iff_of_true (genuine_of_keys _ fun beat => ?_) (by simp)
      exact ⟨_, by rw [redisPacket, check]; rfl, sender_parseKey beat _ beat.plain.1⟩
  · push Not at complete
    obtain ⟨beat, inside, undefined⟩ := complete
    have full : discoverer.check.1 = true := by
      by_contra lazy
      simp [redisPacket, lazy] at undefined
    have failed : platform.deserialize beat.value = none := by
      simpa [redisPacket, full] using undefined
    refine iff_of_false (fun right => right.settles ?_) fun good => (good full).1 beat inside failed
    have stopped := receiveAll_undefined now
      (List.mem_map.mpr ⟨beat, inside, undefined⟩) (.start registry)
    rw [redisCollect, if_neg (by cases beats <;> simp_all)]
    dsimp only
    rw [stopped]
    rfl

theorem etcd_right_iff (reachable : registry.Reachable) (now : Nat) :
    Right registry beats (Usable platform discoverer) (etcdPacket platform discoverer)
        (etcdCollect platform discoverer registry beats now) ↔
      (discoverer.check.1 = true →
        Genuine registry beats (Usable platform discoverer) (etcdPacket platform discoverer)) := by
  have done := receiveAll_packets reachable.identified now
    (beats.filterMap (etcdPacket platform discoverer)) (.start registry) ⟨rfl, fun _ => rfl⟩
  have outcome : etcdCollect platform discoverer registry beats now =
      ⟨.fulfilled (), (receiveAll now (.start registry) ((beats.filterMap
        (etcdPacket platform discoverer)).map some)).1.disconnectRest now,
        (receiveAll now (.start registry) ((beats.filterMap
          (etcdPacket platform discoverer)).map some)).1.heartbeats, discoverer.check.2⟩ := by
    rw [etcdCollect]
    dsimp only
    rw [if_pos done.1]
  rw [outcome, right_iff_genuine reachable now _ _ rfl done.2.2.2 rfl]
  cases check : discoverer.check.1 with
  | true => simp
  | false =>
    refine iff_of_true (genuine_of_keys _ fun beat => ?_) (by simp)
    refine ⟨_, by rw [etcdPacket, check]; rfl, sender_parseKey beat _ beat.plain.2⟩

end Laws

/-- In every lazy check both discoverers are right. In a full check the values have to say what the
keys say, and for Redis all of them have to be decoded. -/
theorem collect_right_iff {registry : Registry} (reachable : registry.Reachable)
    (platform : Platform ρ) (discoverer : Discoverer) (beats : List (StoredBeat ρ)) (now : Nat) :
    (Right registry beats (Usable platform discoverer) (redisPacket platform discoverer)
        (redisCollect platform discoverer registry beats now) ↔
      (discoverer.check.1 = true → (∀ beat ∈ beats, platform.deserialize beat.value ≠ none) ∧
        Genuine registry beats (Usable platform discoverer) (redisPacket platform discoverer))) ∧
    (Right registry beats (Usable platform discoverer) (etcdPacket platform discoverer)
        (etcdCollect platform discoverer registry beats now) ↔
      (discoverer.check.1 = true →
        Genuine registry beats (Usable platform discoverer) (etcdPacket platform discoverer))) :=
  ⟨redis_right_iff reachable now, etcd_right_iff reachable now⟩

/-- A serializer whose values are packets that name a node, and one that it cannot decode. -/
def naming : Platform (Option String) where
  deserialize value := value.map fun sender =>
    .value ⟨some (some sender), none, some (.number 1), none, none⟩
  number _ := .number 1

/-- A beat of a node, with what its value names. -/
def beatOf (nodeID : String) (value : Option String)
    (plain : '|' ∉ nodeID.toList ∧ '/' ∉ nodeID.toList) : StoredBeat (Option String) :=
  ⟨nodeID, "12345678", "1", value, plain⟩

/-- Two beats in a registry that knows the own node only. -/
theorem collect_right_iff_two :
    (Right (Registry.create "node-1" "instance" 0)
        [beatOf "node-2" (some "node-2") (by decide), beatOf "node-3" none (by decide)]
        (Usable naming ⟨[], some 1, 0⟩) (redisPacket naming ⟨[], some 1, 0⟩)
        (redisCollect naming ⟨[], some 1, 0⟩ (Registry.create "node-1" "instance" 0)
          [beatOf "node-2" (some "node-2") (by decide), beatOf "node-3" none (by decide)] 1) ↔
      ((Discoverer.mk [] (some 1) 0).check.1 = true →
        (∀ beat ∈ [beatOf "node-2" (some "node-2") (by decide), beatOf "node-3" none (by decide)],
          naming.deserialize beat.value ≠ none) ∧
        Genuine (Registry.create "node-1" "instance" 0)
          [beatOf "node-2" (some "node-2") (by decide), beatOf "node-3" none (by decide)]
          (Usable naming ⟨[], some 1, 0⟩) (redisPacket naming ⟨[], some 1, 0⟩))) :=
  (collect_right_iff ⟨"node-1", "instance", 0, [], by simp, rfl⟩ naming ⟨[], some 1, 0⟩ _ 1).1

/-- A value that cannot be decoded: the promise of the Redis discoverer never settles, and a later
beat is not handled. -/
theorem corrupt_value_never_settles :
    ¬ Right (Registry.create "node-1" "instance" 0)
        [beatOf "node-2" none (by decide), beatOf "node-3" (some "node-3") (by decide)]
        (Usable naming ⟨[], some 1, 0⟩) (redisPacket naming ⟨[], some 1, 0⟩)
        (redisCollect naming ⟨[], some 1, 0⟩ (Registry.create "node-1" "instance" 0)
          [beatOf "node-2" none (by decide), beatOf "node-3" (some "node-3") (by decide)] 1) ∧
      (redisCollect naming ⟨[], some 1, 0⟩ (Registry.create "node-1" "instance" 0)
        [beatOf "node-2" none (by decide), beatOf "node-3" (some "node-3") (by decide)]
        1).heartbeats = [] := by
  refine ⟨fun right => right.settles ?_, ?_⟩
  · decide +kernel
  · decide +kernel

/-- With etcd, a beat whose value is `null` does not keep its node: it is disconnected. -/
example :
    let registry := (Registry.create "node-1" "instance" 0).processNodeInfo
      (Registry.postsInfo (some "node-2")) 1
    let platform : Platform Unit := ⟨fun _ => some .falsy, fun _ => .number 1⟩
    online registry (some "node-2") = true ∧
      online (etcdCollect platform ⟨[], some 1, 0⟩ registry
        [⟨"node-2", "instance", "1", (), by decide⟩] 2).registry (some "node-2") = false := by
  decide +kernel

end Moleculer.Discoverers
