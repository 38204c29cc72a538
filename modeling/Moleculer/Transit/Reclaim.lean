import Moleculer.Transit.Host

/-! What is left of a request stream once its packets have arrived and its handler has settled. -/

namespace Moleculer.Streams

open Base

section Behind

variable {ι α : Type} {packets : List (Packet ι α)}

/-- All that comes of the stream are packets behind the first one. -/
def Behind (packets : List (Packet ι α)) (schedule : List (Option (Packet ι α))) : Prop :=
  ∀ packet ∈ schedule.reduceOption, ∃ seq, packets[seq + 1]? = some packet

theorem Behind.tail {event : Option (Packet ι α)} {rest : List (Option (Packet ι α))}
    (behind : Behind packets (event :: rest)) : Behind packets rest := by
  intro packet inside
  apply behind packet
  cases event with
  | none => simpa using inside
  | some => simp [inside]

theorem reduceOption_turns (after : List (Option (Packet ι α))) (turns : Nat) :
    (after ++ List.replicate turns none).reduceOption = after.reduceOption := by
  rw [List.reduceOption_append, List.reduceOption_replicate_none, List.append_nil]

end Behind

variable {ι α : Type} [DecidableEq ι] {listens : ι → Bool}

variable {id : ι} {parts : List (Chunk α)} {packets : List (Packet ι α)} {start : Transit ι α}

/-- The entry of a stream was removed too early: what still comes of it are packets behind the
first one, which wait in a new stream for ever. -/
structure Stranded (id : ι) (packets : List (Packet ι α)) (transit : Transit ι α) : Prop where
  queued : ∀ entry ∈ transit.immediates,
    entry.1 = .request ∧ ∃ seq, packets[seq + 1]? = some entry.2
  stuck : ∀ ref, transit.pendingStream .request id = some ref →
    ref < transit.streams.length ∧ (transit.streams.getD ref .new).prevSeq = some (-1)

variable {transit : Transit ι α} {packet : Packet ι α} {seq : Nat}

theorem handle_stuck {ref : Nat} {sender : String} (numbered : packet.seq = some (seq + 1))
    (typed : packet.stream.isSome = true)
    (known : transit.pendingReqStreams.get packet.id = some (sender, ref))
    (prevSeq : (transit.streams.getD ref .new).prevSeq = some (-1)) :
    ∃ stored : Stream ι α, stored.prevSeq = some (-1) ∧
      transit.handle .request packet =
        { transit with streams := transit.streams.set ref stored } := by
  have early : (transit.streams.getD ref .new).tooEarly packet = true := by
    simp only [Stream.tooEarly, numbered, prevSeq, decide_eq_true_eq]
    omega
  have got : (transit.streams.getD ref .new).receive packet =
      ⟨{ transit.streams.getD ref .new with
        pool := (transit.streams.getD ref .new).pool.set (seq + 1) packet },
        none, false, false⟩ := by
    rw [Stream.receive, if_pos early]
    simp only [numbered]
  refine ⟨((transit.streams.getD ref .new).receive packet).stream, by rw [got]; exact prevSeq, ?_⟩
  simp only [Transit.handle, Transit.requestHandler, typed, if_true,
    Transit.handleIncomingRequestStream, known, Transit.continueRequestStream, Transit.accept, got,
    Option.toList_none, List.map_nil, List.append_nil, Bool.false_eq_true, if_false]

theorem Stranded.handle (framed : Framed id parts packets) (stranded : Stranded id packets transit)
    (found : packets[seq + 1]? = some packet) :
    Stranded id packets (transit.handle .request packet) ∧
      (transit.handle .request packet).immediates = transit.immediates ∧
      (transit.handle .request packet).pendingStream .request id ≠ none := by
  obtain ⟨named, numbered⟩ := framed.named _ packet found
  obtain ⟨typed, part⟩ := framed.typed found
  subst named
  -- Both with an old and with a new entry the packet is stored.
  have stored {transit : Transit ι α} {sender : String} {ref : Nat}
      (stranded : Stranded packet.id packets transit)
      (known : transit.pendingReqStreams.get packet.id = some (sender, ref)) :
      Stranded packet.id packets (transit.handle .request packet) ∧
        (transit.handle .request packet).immediates = transit.immediates ∧
        (transit.handle .request packet).pendingStream .request packet.id ≠ none := by
    have pending : transit.pendingStream .request packet.id = some ref := by
      simp [Transit.pendingStream, known]
    obtain ⟨inside, prevSeq⟩ := stranded.stuck ref pending
    obtain ⟨stored, stored_prevSeq, handled⟩ := handle_stuck numbered typed known prevSeq
    have still_pending : (transit.handle .request packet).pendingStream .request packet.id =
        some ref := by
      rw [handled, ← pending]
      rfl
    refine ⟨⟨by rw [handled]; exact stranded.queued, fun other other_pending => ?_⟩,
      by rw [handled], by rw [still_pending]; simp⟩
    obtain rfl := Option.some.inj (still_pending.symm.trans other_pending)
    rw [handled]
    simp [inside, stored_prevSeq]
  cases known : transit.pendingReqStreams.get packet.id with
  | some entry => exact stored stranded known
  | none =>
    have unknown : transit.pendingStream .request packet.id = none := by
      simp [Transit.pendingStream, known]
    have awaits : transit.Awaits .request packet.id := fun response => by cases response
    rw [handle_unknown awaits typed part unknown]
    have opened : Stranded packet.id packets (transit.opened .request packet) := by
      refine ⟨stranded.queued, fun ref pending => ?_⟩
      obtain rfl : transit.streams.length = ref := by
        simpa [Transit.opened, Transit.pendingStream, OrderedMap.get_set] using pending
      simp [Transit.opened, Stream.new]
    have listed : (transit.opened .request packet).pendingReqStreams.get packet.id =
        some (packet.sender, transit.streams.length) := by
      simp [Transit.opened, OrderedMap.get_set]
    exact stored opened listed

theorem Stranded.silent (framed : Framed id parts packets) (stranded : Stranded id packets transit)
    (found : packets[seq + 1]? = some packet) : transit.emitsError .request packet = false := by
  obtain ⟨named, numbered⟩ := framed.named _ packet found
  cases pending : transit.pendingStream .request packet.id with
  | none => simp only [Transit.emitsError, pending]
  | some ref =>
    -- All packets behind the first one are too early.
    obtain ⟨_, prevSeq⟩ := stranded.stuck ref (named ▸ pending)
    have early : (transit.streams.getD ref .new).tooEarly packet = true := by
      simp only [Stream.tooEarly, numbered, prevSeq, decide_eq_true_eq]
      omega
    simp only [Transit.emitsError, pending, early, Bool.not_true, Bool.and_false]

theorem Stranded.immediate (framed : Framed id parts packets)
    (stranded : Stranded id packets transit) :
    (transit.immediates = [] ∧ transit.stepHeard listens .immediate = transit) ∨
      Stranded id packets (transit.stepHeard listens .immediate) ∧
        (transit.stepHeard listens .immediate).immediates = transit.immediates.tail ∧
        (transit.stepHeard listens .immediate).pendingStream .request id ≠ none := by
  cases queue : transit.immediates with
  | nil => exact .inl ⟨rfl, by simp only [Transit.stepHeard, queue]⟩
  | cons entry others =>
    obtain ⟨of_side, seq, found⟩ := stranded.queued entry (queue ▸ List.mem_cons_self)
    obtain ⟨entry_side, packet⟩ := entry
    subst of_side
    have popped : Stranded id packets { transit with immediates := others } :=
      ⟨fun entry inside => stranded.queued entry (queue ▸ List.mem_cons_of_mem _ inside),
        stranded.stuck⟩
    simp only [Transit.stepHeard, queue, handleHeard_of_silent (.inr (popped.silent framed found))]
    exact .inr (popped.handle framed found)

theorem Stranded.event (framed : Framed id parts packets) {event : Option (Packet ι α)}
    {rest : List (Option (Packet ι α))} (behind : Behind packets (event :: rest))
    (stranded : Stranded id packets transit) :
    ∃ after, Base.run (Transit.stepHeard listens) transit (Side.request.inputs (event :: rest)) =
        Base.run (Transit.stepHeard listens) after (Side.request.inputs rest) ∧
      Stranded id packets after ∧
      after.immediates.length ≤ transit.immediates.length ∧
      (event = none → after.immediates = transit.immediates.tail) ∧
      (event = none ∧ transit.immediates = [] ∧ after = transit ∨
        after.pendingStream .request id ≠ none) := by
  cases event with
  | some packet =>
    obtain ⟨seq, found⟩ := behind packet (by simp)
    obtain ⟨after, queue, pending⟩ := stranded.handle framed found
    have handled : transit.stepHeard listens (.deliver .request packet) =
        transit.handle .request packet :=
      handleHeard_of_silent (.inr (stranded.silent framed found))
    exact ⟨transit.handle .request packet,
      congrArg (Base.run _ · (Side.request.inputs rest)) handled, after,
      (congrArg List.length queue).le, nofun, .inr pending⟩
  | none =>
    rcases stranded.immediate framed with ⟨queue, unchanged⟩ | ⟨after, queue, pending⟩
    · exact ⟨transit, congrArg (Base.run _ · (Side.request.inputs rest)) unchanged,
        stranded, le_rfl, fun _ => by rw [queue]; rfl, .inl ⟨rfl, queue, rfl⟩⟩
    · exact ⟨transit.stepHeard listens .immediate, rfl, after, by simp [queue], fun _ => queue,
        .inr pending⟩

theorem Stranded.run (framed : Framed id parts packets) (schedule : List (Option (Packet ι α)))
    (behind : Behind packets schedule) (stranded : Stranded id packets transit)
    (finished : (Base.run (Transit.stepHeard listens) transit
      (Side.request.inputs schedule)).immediates = [])
    (gone : (Base.run (Transit.stepHeard listens) transit
      (Side.request.inputs schedule)).pendingStream .request id = none) :
    schedule.reduceOption = [] ∧ transit.immediates = [] := by
  -- An event that is not idle leaves an entry, which contradicts the rest of the run.
  suffices transit.pendingStream .request id = none ∧ schedule.reduceOption = [] ∧
      transit.immediates = [] from this.2
  induction schedule generalizing transit with
  | nil => exact ⟨gone, rfl, finished⟩
  | cons event rest ih =>
    obtain ⟨after, runs, stranded', _, _, outcome⟩ := stranded.event framed behind
    rw [runs] at finished gone
    obtain ⟨absent, nothing, queue⟩ := ih behind.tail stranded' finished gone
    rcases outcome with ⟨rfl, idle, rfl⟩ | pending
    · exact ⟨absent, by simpa using nothing, idle⟩
    · exact absurd absent pending

theorem Stranded.drain (framed : Framed id parts packets) (schedule : List (Option (Packet ι α)))
    (behind : Behind packets schedule) (stranded : Stranded id packets transit)
    (one : transit.immediates.length ≤ 1) (turn : transit.immediates ≠ [] → none ∈ schedule) :
    (Base.run (Transit.stepHeard listens) transit
      (Side.request.inputs schedule)).immediates = [] := by
  induction schedule generalizing transit with
  | nil =>
    by_contra some_left
    cases turn some_left
  | cons event rest ih =>
    obtain ⟨after, runs, stranded', shorter, popped, _⟩ := stranded.event framed behind
    rw [runs]
    refine ih behind.tail stranded' (shorter.trans one) fun some_left => ?_
    cases event with
    | none =>
      have empty : transit.immediates.tail = [] := by
        cases queue : transit.immediates with
        | nil => rfl
        | cons entry others => simpa [queue] using one
      exact absurd ((popped rfl).trans empty) some_left
    | some packet =>
      have before : transit.immediates ≠ [] := by
        intro empty
        rw [empty] at shorter
        exact some_left (List.length_eq_zero_iff.mp (Nat.le_zero.mp shorter))
      simpa using turn before

theorem Progress.strand {delivered : List Nat} {next : Nat}
    (progress : Progress .request id parts packets start delivered next transit) (called : 0 < next)
    : Stranded id packets (transit.removePendingRequest id) := by
  refine ⟨fun entry inside => ?_, fun ref pending => ?_⟩
  · -- A callback is left for the packet that follows at most.
    obtain ⟨earlier, rfl⟩ : ∃ earlier, next = earlier + 1 := ⟨next - 1, by omega⟩
    have queue : entry ∈ transit.immediates := inside
    rw [progress.immediates] at queue
    split at queue
    · rename_i present
      have located := List.getElem?_eq_getElem (progress.bound _ present)
      rw [located] at queue
      obtain rfl := List.mem_singleton.mp queue
      exact ⟨rfl, earlier, located⟩
    · cases queue
  · have gone : (transit.removePendingRequest id).pendingStream .request id = none := by
      simp [Transit.pendingStream, Transit.removePendingRequest, OrderedMap.get_delete]
    cases gone.symm.trans pending

theorem Progress.one_callback {delivered : List Nat} {next : Nat}
    (progress : Progress .request id parts packets start delivered next transit) :
    transit.immediates.length ≤ 1 := by
  rw [progress.immediates]
  split
  · cases packets[next]? <;> simp
  · exact Nat.zero_le 1

/-- The node after more packets and some more turns of callbacks. -/
def Transit.resume (listens : ι → Bool) (transit : Transit ι α)
    (after : List (Option (Packet ι α))) (turns : Nat) : Transit ι α :=
  run (Transit.stepHeard listens) transit
    (Side.request.inputs (after ++ List.replicate turns none))

section Rest

variable {transit : Transit ι α} {delivered late : List Nat} {next : Nat}
  {after : List (Option (Packet ι α))} (framed : Framed id parts packets)
  (numbered : after.reduceOption.map some = late.map (packets[·]?))
  (distinct : (late ++ delivered).Nodup)

include framed numbered distinct

theorem Listened.finish (listened : Listened listens id parts packets start delivered next transit)
    (all : ∀ seq < packets.length, seq ∈ late.reverse ++ delivered) :
    (∀ turns, (transit.resume listens after turns).immediates = [] →
      ((transit.resume listens after turns).pendingStream .request id = none ↔
        ¬ Unheard listens id packets)) ∧
      (transit.resume listens after packets.length).immediates = [] := by
  constructor
  · intro turns finished
    obtain ⟨last, ended⟩ := listened.run framed (after ++ List.replicate turns none) late
      (by rw [reduceOption_turns]; exact numbered) distinct
    cases ended with
    | going progress more =>
      obtain ⟨_, _, closed, _⟩ := progress.complete framed all finished
      have beyond := progress.beyond all finished
      rw [framed.length] at beyond
      exact iff_of_true closed fun unheard => by have := more unheard; omega
    | abandoned unheard idle kept _ => exact iff_of_false kept (not_not_intro unheard)
  · obtain ⟨last, arrived⟩ := listened.run framed after late numbered distinct
    have turns : Side.request.inputs (after ++ List.replicate packets.length none) =
        Side.request.inputs after ++ List.replicate packets.length .immediate := by
      simp [Side.inputs]
    rw [Transit.resume, turns, Base.run_append]
    exact arrived.drain framed packets.length (Nat.le_add_left _ _)

theorem Listened.cut (listened : Listened listens id parts packets start delivered next transit)
    (called : transit.calls ≠ start.calls) :
    (∀ turns, ((transit.removePendingRequest id).resume listens after turns).immediates = [] →
      (((transit.removePendingRequest id).resume listens after turns).pendingStream .request id =
        none ↔ after.reduceOption = [] ∧ transit.immediates = [])) ∧
      ((transit.removePendingRequest id).resume listens after packets.length).immediates = [] := by
  have gone : (transit.removePendingRequest id).pendingStream .request id = none := by
    simp [Transit.pendingStream, Transit.removePendingRequest, OrderedMap.get_delete]
  -- A number to come is that of a packet that has not been delivered.
  have coming (packet : Packet ι α) (inside : packet ∈ after.reduceOption) :
      ∃ seq, seq ∉ delivered ∧ packets[seq]? = some packet := by
    have listed := numbered ▸ List.mem_map_of_mem inside
    obtain ⟨seq, member, found⟩ := List.mem_map.mp listed
    exact ⟨seq, fun old => (List.nodup_append.mp distinct).2.2 seq member seq old rfl, found⟩
  by_cases ended : after.reduceOption = [] ∧ transit.immediates = []
  · have idle : (transit.removePendingRequest id).immediates = [] := ended.2
    have still (turns : Nat) : (transit.removePendingRequest id).resume listens after turns =
        transit.removePendingRequest id :=
      run_idle listens idle _ (by rw [reduceOption_turns]; exact ended.1)
    exact ⟨fun turns _ => iff_of_true (by rw [still]; exact gone) ended,
      by rw [still]; exact ended.2⟩
  · cases listened with
    | abandoned _ idle _ all =>
      -- Everything had been delivered.
      refine absurd ⟨List.eq_nil_iff_forall_not_mem.mpr fun packet inside => ?_, idle⟩ ended
      obtain ⟨seq, new, found⟩ := coming packet inside
      exact new (all seq (List.getElem?_eq_some_iff.mp found).1)
    | going progress _ =>
      have positive : 0 < next := by
        by_contra none_yet
        have handed := progress.handouts
        rw [if_neg none_yet, List.append_nil] at handed
        exact called handed
      have behind (turns : Nat) : Behind packets (after ++ List.replicate turns none) := by
        intro packet inside
        rw [reduceOption_turns] at inside
        obtain ⟨seq, new, found⟩ := coming packet inside
        cases seq with
        | zero => exact absurd (progress.below 0 positive) new
        | succ seq => exact ⟨seq, found⟩
      have stranded := progress.strand positive
      constructor
      · intro turns finished
        refine iff_of_false (fun lost => ended ?_) ended
        obtain ⟨nothing, empty⟩ := stranded.run framed _ (behind turns) finished lost
        rw [reduceOption_turns] at nothing
        exact ⟨nothing, empty⟩
      · have some_packets : packets.length ≠ 0 := by
          rw [framed.length]
          omega
        exact stranded.drain framed _ (behind _) progress.one_callback fun _ => by
          simp [some_packets]

end Rest

section Schedules

variable (nodeID : String) (listens : ι → Bool) (serializer : Serializer) (maxChunkSize : Nat)
  (id : ι) (sender : String) (params : Wire α) (source : List (Chunk α))
  (failure : Option String) (start : Transit ι α)

/-- The node after packets have come before and after the handler has settled, and some more turns
of callbacks. -/
def settledRun (before after : List (Option (Packet ι α))) (rejected : Bool) (turns : Nat) :
    Transit ι α :=
  run (hostStep nodeID listens) start ((Side.request.inputs before).map .packet ++
    .settled id sender rejected ::
      (Side.request.inputs (after ++ List.replicate turns none)).map .packet)

theorem settledRun_eq (before after : List (Option (Packet ι α))) (rejected : Bool)
    (turns : Nat) : settledRun nodeID listens id sender start before after rejected turns =
      run (Transit.stepHeard listens)
        ((run (Transit.stepHeard listens) start (Side.request.inputs before)).settle nodeID id
          sender rejected) (Side.request.inputs (after ++ List.replicate turns none)) := by
  rw [settledRun, run_append, run_packets]
  exact run_packets _ _ _ _

end Schedules

/-- A transit that has nothing to do. -/
def idleTransit : Transit Nat String :=
  ⟨[], .empty, .empty, .empty, [], [], []⟩

/-- A packet of a request from another node with one chunk, whose source ends with a failure or
without. -/
def requestPacket (failure : Option String) (seq : Nat) : Option (Packet Nat String) :=
  ((requestPackets .binary 8 7 "node-2" .null [.other "a"]).map (Packet.closedBy failure))[seq]?

end Moleculer.Streams
