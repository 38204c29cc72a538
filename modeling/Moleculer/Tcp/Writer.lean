import Moleculer.Base.OrderedMap
import Moleculer.Base.Run
import Mathlib

/-! The connections that the TCP writer keeps (`transporters/tcp/tcp-writer.js`). -/

namespace Moleculer.Tcp

open Base

variable {ι : Type} [DecidableEq ι]

/-- How far a socket is. -/
inductive SocketPhase where
  | connecting
  | opened
  | closed
  deriving DecidableEq, Repr

/-- A socket that the writer has created. `completed` notes that its connection was made. -/
structure WriterSocket (ι : Type) where
  nodeID : ι
  phase : SocketPhase
  completed : Bool
  lastUsed : ℚ
  deriving DecidableEq

/-- The writer: its map of sockets, and the sockets it has created, by number. -/
structure Writer (ι : Type) where
  maxConnections : Int
  sockets : OrderedMap ι Nat
  socket : Nat → Option (WriterSocket ι)
  created : Nat

/-- What happens to the writer. -/
inductive WriterInput (ι : Type) where
  /-- A call of `connect`. -/
  | connect (nodeID : ι)
  /-- A call of `send`; gossip does not count as use. -/
  | send (nodeID : ι) (gossip : Bool) (now : ℚ)
  /-- A message is sent over the socket that a call of `connect` was resolved with. -/
  | used (ref : Nat) (now : ℚ)
  /-- The connection of a socket is made. -/
  | connected (ref : Nat) (now : ℚ)
  /-- An `error` or `end` event of a socket. -/
  | ended (ref : Nat)
  | manageConnections

namespace Writer

/-- A writer without connections. -/
def new (maxConnections : Int) : Writer ι := ⟨maxConnections, .empty, fun _ => none, 0⟩

/-- Change a socket. -/
def modify (writer : Writer ι) (ref : Nat) (change : WriterSocket ι → WriterSocket ι) : Writer ι :=
  { writer with
    socket := fun other =>
      if other = ref then (writer.socket ref).map change else writer.socket other }

/-- Close a socket: `destroy`, or what the socket does by itself after an error or the end. -/
def destroy (writer : Writer ι) (ref : Nat) : Writer ι :=
  writer.modify ref ({ · with phase := .closed })

/-- `removeSocket`: close the socket under a node and drop it. -/
def removeSocket (writer : Writer ι) (nodeID : ι) : Writer ι :=
  match writer.sockets.get nodeID with
  | some ref => { writer.destroy ref with sockets := writer.sockets.delete nodeID }
  | none => writer

/-- The time of the last use of the socket under a node. -/
def lastUsed (writer : Writer ι) (ref : Nat) : ℚ := ((writer.socket ref).map (·.lastUsed)).getD 0

/-- The nodes in the order of the last use of their sockets. -/
def byUse (writer : Writer ι) : List (ι × Nat) :=
  writer.sockets.entries.mergeSort fun left right =>
    writer.lastUsed left.2 ≤ writer.lastUsed right.2

/-- `manageConnections`. -/
def manageConnections (writer : Writer ι) : Writer ι :=
  let count : Int := writer.sockets.size - writer.maxConnections
  if count ≤ 0 then writer
  else
    let list := writer.byUse
    let count := min count (list.length - 1)
    let removable := list.take count.toNat
    removable.foldl (fun writer entry => writer.removeSocket entry.1) writer

/-- `connect`: create a socket. -/
def connect (writer : Writer ι) (nodeID : ι) : Writer ι :=
  { writer with
    socket := fun other => if other = writer.created then some ⟨nodeID, .connecting, false, 0⟩
      else writer.socket other
    created := writer.created + 1 }

/-- The socket under a node, if it is not destroyed. -/
def current (writer : Writer ι) (nodeID : ι) : Option Nat :=
  (writer.sockets.get nodeID).filter fun ref =>
    (writer.socket ref).any (·.phase ≠ .closed)

/-- One step. -/
def step (writer : Writer ι) : WriterInput ι → Writer ι
  | .connect nodeID => writer.connect nodeID
  | .send nodeID gossip now =>
    match writer.current nodeID with
    | some ref => if gossip then writer else writer.modify ref ({ · with lastUsed := now })
    | none => writer.connect nodeID
  | .used ref now => writer.modify ref ({ · with lastUsed := now })
  | .connected ref now =>
    match writer.socket ref with
    | some ⟨nodeID, .connecting, _, _⟩ =>
      let writer := { writer.modify ref (fun _ => ⟨nodeID, .opened, true, now⟩) with
        sockets := writer.sockets.set nodeID ref }
      if (writer.sockets.size : Int) > writer.maxConnections then writer.manageConnections
      else writer
    | _ => writer
  | .ended ref =>
    match writer.socket ref with
    | some socket => (writer.destroy ref).removeSocket socket.nodeID
    | none => writer
  | .manageConnections => writer.manageConnections

/-- Every open socket is the one under its node. -/
def Single (writer : Writer ι) : Prop :=
  ∀ ref socket, writer.socket ref = some socket → socket.phase = .opened →
    writer.sockets.get socket.nodeID = some ref

/-- A socket has been replaced by another one. -/
def Replaced (writer : Writer ι) (ref : Nat) (socket : WriterSocket ι) (other : Nat) : Prop :=
  writer.socket ref = some socket ∧ socket.completed = true ∧
    writer.sockets.get socket.nodeID = some other ∧ other ≠ ref

/-- An event of a socket that has been replaced leaves the current one. -/
def Spares (writer : Writer ι) : WriterInput ι → Prop
  | .ended ref => ∀ socket other, writer.Replaced ref socket other →
      (writer.step (.ended ref)).sockets.get socket.nodeID = some other ∧
        (writer.step (.ended ref)).socket other = writer.socket other
  | _ => True

/-- The right behaviour of a step. -/
def Keeps (writer : Writer ι) (input : WriterInput ι) : Prop :=
  (writer.step input).Single ∧ writer.Spares input

/-- No connection is made to a node that has one, and no socket that has been replaced has an
event. -/
def Orderly (writer : Writer ι) : WriterInput ι → Prop
  | .connected ref _ => ∀ socket, writer.socket ref = some socket → socket.phase = .connecting →
      writer.sockets.get socket.nodeID = none
  | .ended ref => ∀ socket other, ¬ writer.Replaced ref socket other
  | _ => True

/-- What `manageConnections` leaves: not too many sockets, and those that were used last. -/
structure Managed (before after : Writer ι) : Prop where
  size : (after.sockets.size : Int) ≤ max before.maxConnections 1
  kept : ∀ nodeID ref, after.sockets.get nodeID = some ref → before.sockets.get nodeID = some ref
  oldest : ∀ gone ref left other, before.sockets.get gone = some ref →
    after.sockets.get gone = none → after.sockets.get left = some other →
    before.lastUsed ref ≤ before.lastUsed other

section Laws

variable {writer : Writer ι}

/-- The sockets in the map are open and under their nodes, and only created ones exist. -/
structure Placed (writer : Writer ι) : Prop where
  opened : ∀ nodeID ref, writer.sockets.get nodeID = some ref →
    ∃ socket, writer.socket ref = some socket ∧ socket.nodeID = nodeID ∧ socket.phase = .opened
  fresh : ∀ ref, writer.created ≤ ref → writer.socket ref = none

omit [DecidableEq ι] in
theorem socket_modify (writer : Writer ι) (ref other : Nat)
    (change : WriterSocket ι → WriterSocket ι) :
    (writer.modify ref change).socket other =
      if other = ref then (writer.socket ref).map change else writer.socket other := rfl

variable {socket : WriterSocket ι} {ref : Nat}

omit [DecidableEq ι] in
theorem opened_destroy {other : Nat} (found : (writer.destroy ref).socket other = some socket)
    (opened : socket.phase = .opened) :
    other ≠ ref ∧ writer.socket other = some socket := by
  rw [destroy, socket_modify] at found
  split at found
  · obtain ⟨old, _, rfl⟩ := Option.map_eq_some_iff.mp found
    cases opened
  · rename_i differs
    exact ⟨differs, found⟩

theorem sockets_removeSocket (writer : Writer ι) (nodeID : ι) :
    (writer.removeSocket nodeID).sockets = writer.sockets.delete nodeID := by
  unfold removeSocket
  split
  · rfl
  · rename_i absent
    rw [OrderedMap.delete_of_get_none absent]

theorem get_removeSocket (writer : Writer ι) (nodeID other : ι) :
    (writer.removeSocket nodeID).sockets.get other =
      if other = nodeID then none else writer.sockets.get other := by
  rw [sockets_removeSocket, OrderedMap.get_delete]

theorem socket_removeSocket (writer : Writer ι) (nodeID : ι) (ref : Nat) :
    (writer.removeSocket nodeID).socket ref =
      if writer.sockets.get nodeID = some ref then
        (writer.socket ref).map ({ · with phase := .closed })
      else writer.socket ref := by
  unfold removeSocket
  cases found : writer.sockets.get nodeID with
  | none => simp
  | some current =>
    show (if ref = current then _ else _) = _
    by_cases same : ref = current
    · subst same
      simp
    · rw [if_neg same, if_neg fun equal => same (Option.some.inj equal).symm]

theorem created_removeSocket (writer : Writer ι) (nodeID : ι) :
    (writer.removeSocket nodeID).created = writer.created := by
  unfold removeSocket
  split <;> rfl

theorem Placed.removeSocket (placed : writer.Placed) (nodeID : ι) :
    (writer.removeSocket nodeID).Placed := by
  refine ⟨fun other ref found => ?_, fun ref above => ?_⟩
  · rw [get_removeSocket] at found
    split at found
    · cases found
    rename_i differs
    obtain ⟨socket, there, own, opened⟩ := placed.opened other ref found
    refine ⟨socket, ?_, own, opened⟩
    -- The dropped socket belongs to another node.
    rw [socket_removeSocket, if_neg]
    · exact there
    · intro dropped
      obtain ⟨same, here, named, _⟩ := placed.opened nodeID ref dropped
      rw [there] at here
      cases here
      exact differs (own.symm.trans named)
  · rw [created_removeSocket] at above
    rw [socket_removeSocket, placed.fresh ref above]
    split <;> rfl

theorem Single.removeSocket (single : writer.Single) (nodeID : ι) :
    (writer.removeSocket nodeID).Single := by
  intro ref socket found opened
  rw [socket_removeSocket] at found
  split at found
  · obtain ⟨old, _, rfl⟩ := Option.map_eq_some_iff.mp found
    cases opened
  · rename_i other
    have there := single ref socket found opened
    rw [get_removeSocket, if_neg]
    · exact there
    · exact fun same => other (same ▸ there)

/-- An open socket that is not in the map. -/
def Lost (writer : Writer ι) (ref : Nat) : Prop :=
  (∃ socket, writer.socket ref = some socket ∧ socket.phase = .opened) ∧
    ∀ nodeID, writer.sockets.get nodeID ≠ some ref

theorem Lost.removeSocket (lost : writer.Lost ref) (nodeID : ι) :
    (writer.removeSocket nodeID).Lost ref := by
  obtain ⟨⟨socket, found, opened⟩, nowhere⟩ := lost
  refine ⟨⟨socket, ?_, opened⟩, fun other there => ?_⟩
  · rw [socket_removeSocket, if_neg (nowhere nodeID)]
    exact found
  · rw [get_removeSocket] at there
    split at there
    · cases there
    · exact nowhere other there

theorem Lost.not_single (lost : writer.Lost ref) : ¬ writer.Single := by
  intro single
  obtain ⟨⟨socket, found, opened⟩, nowhere⟩ := lost
  exact nowhere _ (single ref socket found opened)

theorem manageConnections_induction {holds : Writer ι → Prop} (start : holds writer)
    (kept : ∀ writer nodeID, holds writer → holds (writer.removeSocket nodeID)) :
    holds writer.manageConnections := by
  unfold manageConnections
  dsimp only
  split
  · exact start
  · exact List.foldlRecOn _ _ start fun state before entry _ => kept state entry.1 before

theorem connect_kept (placed : writer.Placed) (single : writer.Single) (nodeID : ι) :
    (writer.connect nodeID).Placed ∧ (writer.connect nodeID).Single := by
  have old (ref : Nat) : (writer.connect nodeID).socket ref =
      if ref = writer.created then some ⟨nodeID, .connecting, false, 0⟩ else writer.socket ref :=
        rfl
  refine ⟨⟨fun other ref found => ?_, fun ref above => ?_⟩, fun ref socket found opened => ?_⟩
  · obtain ⟨socket, there, rest⟩ := placed.opened other ref found
    refine ⟨socket, ?_, rest⟩
    rw [old, if_neg]
    · exact there
    · intro same
      rw [same, placed.fresh _ le_rfl] at there
      cases there
  · have above : writer.created + 1 ≤ ref := above
    rw [old, if_neg (by omega)]
    exact placed.fresh ref (by omega)
  · rw [old] at found
    split at found
    · cases found
      cases opened
    · exact single ref socket found opened

theorem use_kept (placed : writer.Placed) (single : writer.Single) (ref : Nat) (now : ℚ) :
    (writer.modify ref ({ · with lastUsed := now })).Placed ∧
      (writer.modify ref ({ · with lastUsed := now })).Single := by
  have old (other : Nat) (socket : WriterSocket ι)
      (found : (writer.modify ref ({ · with lastUsed := now })).socket other = some socket) :
      ∃ before, writer.socket other = some before ∧ before.nodeID = socket.nodeID ∧
        before.phase = socket.phase := by
    rw [socket_modify] at found
    split at found
    · rename_i same
      obtain ⟨before, there, rfl⟩ := Option.map_eq_some_iff.mp found
      exact ⟨before, same ▸ there, rfl, rfl⟩
    · exact ⟨socket, found, rfl, rfl⟩
  refine ⟨⟨fun nodeID other there => ?_, fun other above => ?_⟩,
    fun other socket found opened => ?_⟩
  · obtain ⟨socket, found, own, opened⟩ := placed.opened nodeID other there
    rw [socket_modify]
    split
    · rename_i same
      rw [← same, found]
      exact ⟨_, rfl, own, opened⟩
    · exact ⟨socket, found, own, opened⟩
  · rw [socket_modify]
    split
    · rename_i same
      rw [← same, placed.fresh other above]
      rfl
    · exact placed.fresh other above
  · obtain ⟨before, there, own, phase⟩ := old other socket found
    rw [← own]
    exact single other before there (phase.trans opened)

/-- The writer right after the connection of a socket was made. -/
def added (writer : Writer ι) (ref : Nat) (nodeID : ι) (now : ℚ) : Writer ι :=
  { writer.modify ref (fun _ => ⟨nodeID, .opened, true, now⟩) with
    sockets := writer.sockets.set nodeID ref }

theorem added_kept (placed : writer.Placed) (single : writer.Single)
    (found : writer.socket ref = some socket) (connecting : socket.phase = .connecting) (now : ℚ)
    (absent : writer.sockets.get socket.nodeID = none) :
    (writer.added ref socket.nodeID now).Placed ∧ (writer.added ref socket.nodeID now).Single := by
  have sockets (other : ι) : (writer.added ref socket.nodeID now).sockets.get other =
      if other = socket.nodeID then some ref else writer.sockets.get other := OrderedMap.get_set ..
  have changed (other : Nat) : (writer.added ref socket.nodeID now).socket other =
      if other = ref then some ⟨socket.nodeID, .opened, true, now⟩ else writer.socket other := by
    show (if other = ref then (writer.socket ref).map _ else _) = _
    rw [found]
    rfl
  refine ⟨⟨fun nodeID other there => ?_, fun other above => ?_⟩, fun other open_ there opened => ?_⟩
  · rw [sockets] at there
    split at there
    · rename_i same
      obtain rfl : ref = other := Option.some.inj there
      exact ⟨⟨socket.nodeID, .opened, true, now⟩, (changed ref).trans (if_pos rfl), same.symm, rfl⟩
    · obtain ⟨old, here, own, opened⟩ := placed.opened nodeID other there
      refine ⟨old, ?_, own, opened⟩
      rw [changed, if_neg]
      · exact here
      · intro same
        rw [same, found] at here
        cases here
        rw [connecting] at opened
        cases opened
  · rw [changed, if_neg]
    · exact placed.fresh other above
    · intro same
      rw [← same, placed.fresh other above] at found
      cases found
  · rw [changed] at there
    rw [sockets]
    split at there
    · rename_i same
      cases there
      rw [if_pos rfl, same]
    · have here := single other open_ there opened
      rw [if_neg]
      · exact here
      · intro same
        rw [same, absent] at here
        cases here

theorem added_lost (placed : writer.Placed) (found : writer.socket ref = some socket)
    (connecting : socket.phase = .connecting) (now : ℚ) {other : Nat}
    (present : writer.sockets.get socket.nodeID = some other) :
    (writer.added ref socket.nodeID now).Lost other := by
  obtain ⟨old, there, own, opened⟩ := placed.opened _ other present
  have differs : other ≠ ref := by
    intro same
    rw [same, found] at there
    cases there
    rw [connecting] at opened
    cases opened
  refine ⟨⟨old, (if_neg differs).trans there, opened⟩, fun nodeID here => ?_⟩
  have sockets : (writer.added ref socket.nodeID now).sockets.get nodeID =
      if nodeID = socket.nodeID then some ref else writer.sockets.get nodeID :=
        OrderedMap.get_set ..
  rw [sockets] at here
  split at here
  · exact differs (Option.some.inj here).symm
  · rename_i elsewhere
    obtain ⟨again, same, named, _⟩ := placed.opened nodeID other here
    rw [there] at same
    cases same
    exact elsewhere (named.symm.trans own)

theorem step_connected (found : writer.socket ref = some socket)
    (connecting : socket.phase = .connecting) (now : ℚ) :
    writer.step (.connected ref now) =
      if ((writer.added ref socket.nodeID now).sockets.size : Int) > writer.maxConnections then
        (writer.added ref socket.nodeID now).manageConnections
      else writer.added ref socket.nodeID now := by
  obtain ⟨nodeID, phase, completed, lastUsed⟩ := socket
  cases connecting
  unfold step
  dsimp only
  rw [found]
  rfl

theorem connected_iff (placed : writer.Placed) (single : writer.Single) (ref : Nat) (now : ℚ) :
    ((writer.step (.connected ref now)).Single ↔ writer.Orderly (.connected ref now)) ∧
      (writer.Orderly (.connected ref now) → (writer.step (.connected ref now)).Placed) := by
  by_cases ready : ∃ socket, writer.socket ref = some socket ∧ socket.phase = .connecting
  · obtain ⟨socket, found, connecting⟩ := ready
    have orderly : writer.Orderly (.connected ref now) ↔
        writer.sockets.get socket.nodeID = none := by
      refine ⟨fun all => all socket found connecting, fun absent other same _ => ?_⟩
      rw [found] at same
      cases same
      exact absent
    rw [orderly, step_connected found connecting]
    cases present : writer.sockets.get socket.nodeID with
    | none =>
      obtain ⟨stillPlaced, stillSingle⟩ := added_kept placed single found connecting now present
      split
      · have managed := @manageConnections_induction ι _ _
          (fun writer => writer.Placed ∧ writer.Single) ⟨stillPlaced, stillSingle⟩
          fun writer nodeID both => ⟨both.1.removeSocket nodeID, both.2.removeSocket nodeID⟩
        exact ⟨iff_of_true managed.2 rfl, fun _ => managed.1⟩
      · exact ⟨iff_of_true stillSingle rfl, fun _ => stillPlaced⟩
    | some other =>
      have lost := added_lost placed found connecting now present
      refine ⟨iff_of_false ?_ (by simp), fun impossible => by cases impossible⟩
      split
      · have still := @manageConnections_induction ι _ _ (fun writer => writer.Lost other) lost
          fun writer nodeID lost => lost.removeSocket nodeID
        exact still.not_single
      · exact lost.not_single
  · have idle : writer.step (.connected ref now) = writer := by
      unfold step
      dsimp only
      split
      · rename_i nodeID _ _ found
        exact absurd ⟨_, found, rfl⟩ ready
      · rfl
    rw [idle]
    exact ⟨iff_of_true single fun socket found connecting =>
      absurd ⟨socket, found, connecting⟩ ready,
      fun _ => placed⟩

theorem ended_kept (placed : writer.Placed) (single : writer.Single)
    (found : writer.socket ref = some socket) :
    ((writer.destroy ref).removeSocket socket.nodeID).Placed ∧
      ((writer.destroy ref).removeSocket socket.nodeID).Single := by
  have sockets (other : ι) : ((writer.destroy ref).removeSocket socket.nodeID).sockets.get other =
      if other = socket.nodeID then none else writer.sockets.get other :=
    get_removeSocket (writer.destroy ref) socket.nodeID other
  refine ⟨⟨fun nodeID other there => ?_, fun other above => ?_⟩, fun other open_ there opened => ?_⟩
  · rw [sockets] at there
    split at there
    · cases there
    rename_i elsewhere
    obtain ⟨old, here, own, opened⟩ := placed.opened nodeID other there
    refine ⟨old, ?_, own, opened⟩
    -- The socket of another node is neither the one with the event nor the one that is dropped.
    have notRef : other ≠ ref := by
      intro same
      rw [same, found] at here
      cases here
      exact elsewhere own.symm
    rw [socket_removeSocket, if_neg, destroy, socket_modify, if_neg notRef]
    · exact here
    · intro dropped
      obtain ⟨again, same, named, _⟩ := placed.opened socket.nodeID other dropped
      rw [here] at same
      cases same
      exact elsewhere (own.symm.trans named)
  · rw [created_removeSocket] at above
    have none_ := placed.fresh other above
    have notRef : other ≠ ref := by
      intro same
      rw [same, found] at none_
      cases none_
    rw [socket_removeSocket, destroy, socket_modify, if_neg notRef, none_]
    split <;> rfl
  · rw [socket_removeSocket] at there
    split at there
    · obtain ⟨old, _, rfl⟩ := Option.map_eq_some_iff.mp there
      cases opened
    · rename_i notDropped
      obtain ⟨_, before⟩ := opened_destroy there opened
      have here := single other open_ before opened
      rw [sockets, if_neg]
      · exact here
      · intro same
        exact notDropped (same ▸ here)

/-- Each step keeps the connections right exactly if it is orderly. -/
theorem keeps_iff (placed : writer.Placed) (single : writer.Single) (input : WriterInput ι) :
    (writer.Keeps input ↔ writer.Orderly input) ∧
      (writer.Keeps input → (writer.step input).Placed) := by
  cases input with
  | connect nodeID =>
    obtain ⟨stillPlaced, stillSingle⟩ := connect_kept placed single nodeID
    exact ⟨iff_of_true ⟨stillSingle, trivial⟩ trivial, fun _ => stillPlaced⟩
  | send nodeID gossip now =>
    have kept : (writer.step (.send nodeID gossip now)).Placed ∧
        (writer.step (.send nodeID gossip now)).Single := by
      unfold step
      dsimp only
      split
      · split
        · exact ⟨placed, single⟩
        · exact use_kept placed single _ now
      · exact connect_kept placed single nodeID
    exact ⟨iff_of_true ⟨kept.2, trivial⟩ trivial, fun _ => kept.1⟩
  | used ref now =>
    obtain ⟨stillPlaced, stillSingle⟩ := use_kept placed single ref now
    exact ⟨iff_of_true ⟨stillSingle, trivial⟩ trivial, fun _ => stillPlaced⟩
  | connected ref now =>
    obtain ⟨agrees, stillPlaced⟩ := connected_iff placed single ref now
    have same : writer.Keeps (.connected ref now) ↔ (writer.step (.connected ref now)).Single :=
      and_iff_left trivial
    rw [same]
    exact ⟨agrees, fun kept => stillPlaced (agrees.mp kept)⟩
  | manageConnections =>
    have managed := @manageConnections_induction ι _ writer
      (fun writer => writer.Placed ∧ writer.Single) ⟨placed, single⟩
      fun writer nodeID both => ⟨both.1.removeSocket nodeID, both.2.removeSocket nodeID⟩
    exact ⟨iff_of_true ⟨managed.2, trivial⟩ trivial, fun _ => managed.1⟩
  | ended ref =>
    cases found : writer.socket ref with
    | none =>
      have idle : writer.step (.ended ref) = writer := by
        unfold step
        dsimp only
        rw [found]
      have nobody (socket : WriterSocket ι) (other : Nat) : ¬ writer.Replaced ref socket other := by
        intro replaced
        rw [replaced.1] at found
        cases found
      refine ⟨iff_of_true ⟨?_, fun socket other replaced => ?_⟩ nobody, fun _ => ?_⟩
      · rw [idle]
        exact single
      · exact absurd replaced (nobody socket other)
      · rw [idle]
        exact placed
    | some socket =>
      have effect : writer.step (.ended ref) = (writer.destroy ref).removeSocket socket.nodeID := by
        unfold step
        dsimp only
        rw [found]
      obtain ⟨stillPlaced, stillSingle⟩ := ended_kept placed single found
      refine ⟨⟨fun keeps other current replaced => ?_, fun orderly => ⟨?_, ?_⟩⟩, fun _ => ?_⟩
      · -- The current socket is dropped, whichever socket has the event.
        have still := (keeps.2 other current replaced).1
        have same : other = socket := Option.some.inj (replaced.1.symm.trans found)
        rw [effect, get_removeSocket, if_pos (by rw [same])] at still
        cases still
      · rw [effect]
        exact stillSingle
      · exact fun other current replaced => absurd replaced (orderly other current)
      · rw [effect]
        exact stillPlaced

theorem entries_foldl_removeSocket (entries : List (ι × Nat)) (writer : Writer ι) :
    (entries.foldl (fun writer entry => writer.removeSocket entry.1) writer).sockets.entries =
      writer.sockets.entries.filter fun entry => entry.1 ∉ entries.map Prod.fst := by
  induction entries generalizing writer with
  | nil => simp
  | cons first rest ih =>
    rw [List.foldl_cons, ih, sockets_removeSocket, OrderedMap.delete, List.filter_filter]
    apply List.filter_congr
    intro entry _
    by_cases same : entry.1 = first.1
    · simp [same]
    · simp only [same, List.map_cons, List.mem_cons, false_or, ne_eq, not_false_eq_true,
        decide_true, Bool.and_true]

omit [DecidableEq ι] in
theorem byUse_perm (writer : Writer ι) : writer.byUse.Perm writer.sockets.entries :=
  List.mergeSort_perm ..

omit [DecidableEq ι] in
theorem pairwise_byUse (writer : Writer ι) :
    writer.byUse.Pairwise fun left right => writer.lastUsed left.2 ≤ writer.lastUsed right.2 := by
  have sorted := @List.pairwise_mergeSort (ι × Nat)
    (fun left right => decide (writer.lastUsed left.2 ≤ writer.lastUsed right.2))
    (by
      intro first second third early late
      exact decide_eq_true ((of_decide_eq_true early).trans (of_decide_eq_true late)))
    (by
      intro first second
      simpa using le_total (writer.lastUsed first.2) (writer.lastUsed second.2))
    writer.sockets.entries
  exact sorted.imp fun early => of_decide_eq_true early

theorem filter_take_eq_drop {entries : List (ι × Nat)} (nodup : (entries.map Prod.fst).Nodup)
    (count : Nat) :
    (entries.filter fun entry => entry.1 ∉ (entries.take count).map Prod.fst) =
      entries.drop count := by
  -- The keys of the two parts are different.
  have apart := nodup
  rw [← List.take_append_drop count entries, List.map_append, List.nodup_append] at apart
  conv => lhs; arg 2; rw [← List.take_append_drop count entries]
  rw [List.filter_append, List.filter_eq_nil_iff.mpr, List.filter_eq_self.mpr, List.nil_append]
  · intro entry later
    refine decide_eq_true fun early => ?_
    exact apart.2.2 _ early _ (List.mem_map_of_mem later) rfl
  · intro entry early
    simpa using List.mem_map_of_mem (f := Prod.fst) early

theorem managed_manageConnections (writer : Writer ι) :
    writer.Managed writer.manageConnections := by
  unfold manageConnections
  dsimp only
  split
  · rename_i few
    refine ⟨le_trans (by omega) (le_max_left _ _), fun _ _ there => there, ?_⟩
    intro gone ref left other present absent
    rw [present] at absent
    cases absent
  rename_i many
  generalize counted : (min ((writer.sockets.size : Int) - writer.maxConnections)
    ((writer.byUse.length : Int) - 1)).toNat = count
  have length : writer.byUse.length = writer.sockets.size := writer.byUse_perm.length_eq
  have nodup : (writer.byUse.map Prod.fst).Nodup :=
    (writer.byUse_perm.map Prod.fst).nodup_iff.mpr writer.sockets.nodup
  have remaining :
      ((writer.byUse.take count).foldl (fun writer entry => writer.removeSocket entry.1)
      writer).sockets.entries.Perm (writer.byUse.drop count) := by
    rw [entries_foldl_removeSocket, ← filter_take_eq_drop nodup count]
    exact (writer.byUse_perm.filter _).symm
  refine ⟨?_, fun nodeID ref there => ?_, fun gone ref left other present absent there => ?_⟩
  · have size := remaining.length_eq
    rw [List.length_drop, length] at size
    show (((_ : OrderedMap ι Nat).entries.length : Nat) : Int) ≤ _
    rw [size]
    rw [length] at counted
    omega
  · have inside := remaining.subset (OrderedMap.mem_entries_iff.mpr there)
    exact OrderedMap.mem_entries_iff.mp (writer.byUse_perm.subset (List.mem_of_mem_drop inside))
  · -- One is among the first entries, the other one is not.
    have late := remaining.subset (OrderedMap.mem_entries_iff.mpr there)
    have either := writer.byUse_perm.symm.subset (OrderedMap.mem_entries_iff.mpr present)
    rw [← List.take_append_drop count writer.byUse, List.mem_append] at either
    have order := writer.pairwise_byUse
    rw [← List.take_append_drop count writer.byUse, List.pairwise_append] at order
    obtain early | alsoLate := either
    · exact order.2.2 _ early _ late
    · have still := OrderedMap.mem_entries_iff.mp (remaining.symm.subset alsoLate)
      rw [absent] at still
      cases still

end Laws

/-- In every run every open socket is the one under its node, and events of replaced sockets leave
the current one, exactly if no connection is made to a node that has one and no replaced socket has
an event. Managing the connections leaves at most `max maxConnections 1` of them, those that were
used last. -/
theorem one_connection_iff (maxConnections : Int) (inputs : List (WriterInput ι)) :
    (Meets step Keeps (new maxConnections : Writer ι) inputs ↔
      Meets step Orderly (new maxConnections) inputs) ∧
      ∀ writer : Writer ι, writer.Managed (writer.step .manageConnections) := by
  refine ⟨?_, managed_manageConnections⟩
  have start : (new maxConnections : Writer ι).Placed ∧ (new maxConnections : Writer ι).Single := by
    refine ⟨⟨fun nodeID ref there => ?_, fun ref _ => rfl⟩, fun ref socket found => ?_⟩
    · cases there
    · cases found
  exact @meets_iff _ _ _ _ _ (fun writer : Writer ι => writer.Placed ∧ writer.Single) _ _
    (fun writer input _ both => (keeps_iff both.1 both.2 input).1)
    (fun writer input _ both keeps => ⟨(keeps_iff both.1 both.2 input).2 keeps, keeps.1⟩) start

/-- Two connections that are made at the same time: the first one is lost. -/
theorem overlapping_connects_lose_socket :
    ¬ Meets step Keeps (new 32 : Writer String)
      [.send "node-2" false 0, .send "node-2" false 0, .connected 0 1, .connected 1 2] := by
  intro keeps
  have single := keeps.2.2.2.1.1
  have current := single 0 ⟨"node-2", .opened, true, 1⟩ (by decide +kernel) rfl
  exact absurd current (by decide +kernel)

end Writer

end Moleculer.Tcp
