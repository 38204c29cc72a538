import Moleculer.Transit.StreamsLaws

/-! What packets of a stream that arrive more than once do to it. -/

namespace Moleculer.Streams

open Base

variable {ι α : Type}

/-- The chunks up to the current number have been written once each and in order, and behind the
end there is nothing. -/
def Orderly (parts : List (Chunk α)) (stream : Stream ι α) : Prop :=
  ∃ processed : Nat, stream.prevSeq = some ((processed : Int) - 1) ∧
    (processed ≤ parts.length + 1 ∧
        stream.events = (parts.take (processed - 1)).map (fun part => .write part) ∨
      processed = parts.length + 2 ∧
        stream.events = (parts.map fun part => .write part) ++ [.finish])

theorem takeNext_kept (stream : Stream ι α) :
    stream.takeNext.1.prevSeq = stream.prevSeq ∧ stream.takeNext.1.events = stream.events := by
  unfold Stream.takeNext
  split
  · split <;> exact ⟨rfl, rfl⟩
  · exact ⟨rfl, rfl⟩

theorem receive_prevSeq {stream : Stream ι α} {packet : Packet ι α} {seq : Nat}
    (onTime : stream.tooEarly packet = false) (numbered : packet.seq = some seq) :
    (stream.receive packet).stream.prevSeq = some (seq : Int) := by
  rw [Stream.receive, if_neg (by simp [onTime])]
  simp only [numbered]
  split
  · split
    · rfl
    · split
      · rfl
      · exact (takeNext_kept _).1
  · exact (takeNext_kept _).1

theorem receive_events {stream : Stream ι α} {packet : Packet ι α} {seq : Nat}
    (onTime : stream.tooEarly packet = false) (numbered : packet.seq = some (seq + 1))
    (continues : packet.stream = some true) {chunk : Chunk α}
    (readable : packet.data.toChunk = some chunk) :
    (stream.receive packet).stream.events = stream.events ++ [.write chunk] := by
  rw [Stream.receive, if_neg (by simp [onTime]), if_pos (by simp [numbered]),
    if_neg (by simp [continues]), readable]
  exact (takeNext_kept _).2

theorem receive_exclusive (stream : Stream ι α) (packet : Packet ι α)
    (closed : (stream.receive packet).closed = true) : (stream.receive packet).first = false := by
  unfold Stream.receive at closed ⊢
  grind

section Receiver

variable [DecidableEq ι]

variable (side : Side) (id : ι) (parts : List (Chunk α)) (packets : List (Packet ι α))
  (start : Transit ι α)

/-- What one step may do to the stream that was created after the start. -/
structure Undisturbed (before after : Transit ι α) : Prop where
  single : after.streams.length ≤ start.streams.length + 1
  orderly : ∀ stream, after.streams[start.streams.length]? = some stream → Orderly parts stream
  monotone : ∀ stream later, before.streams[start.streams.length]? = some stream →
    after.streams[start.streams.length]? = some later →
    ∀ prevSeq ∈ stream.prevSeq, ∀ seq ∈ later.prevSeq, prevSeq ≤ seq
  removed : ∀ stream, after.streams[start.streams.length]? = some stream →
    .finish ∈ stream.events → after.pendingStream side id = none

/-- A packet is new to the receiver: it has not been processed (but for a first packet without
successor), no callback is going to process it, and its stream has not been closed. A response that
was closed needs no protection. -/
def Fresh (transit : Transit ι α) : Transit.Input ι α → Prop
  | .immediate => True
  | .deliver _ packet =>
    match transit.pendingStream side packet.id with
    | some ref =>
      (∀ prevSeq ∈ (transit.streams.getD ref .new).prevSeq, ∀ seq ∈ packet.seq,
        prevSeq < seq ∨ prevSeq = 0 ∧ seq = 0) ∧
      ((side, packet) ∈ transit.immediates → side = .response ∧ packet.stream ≠ some true)
    | none => side = .response ∨ transit.streams.length = start.streams.length

/-- The states that a stream can be in, with the number of packets that were processed. -/
inductive Course : Nat → Transit ι α → Prop
  | opened {begun transit : Transit ι α} {delivered : List Nat} {next : Nat}
      (same : begun.streams = start.streams) (started : 0 ∈ delivered → 0 < next)
      (more : next ≤ parts.length + 1)
      (progress : Progress side id parts packets begun delivered next transit) :
      Course next transit
  | closed {transit : Transit ι α} {stream : Stream ι α}
      (streams : transit.streams = start.streams ++ [stream])
      (pending : transit.pendingStream side id = none)
      (orphan : side = .response → transit.pendingRequests.get id = none)
      (idle : side = .request → transit.immediates = [])
      (queued : ∀ entry ∈ transit.immediates, entry.1 = side ∧ entry.2.id = id)
      (prevSeq : stream.prevSeq = some ((parts.length : Int) + 1))
      (events : stream.events = (parts.map fun part => .write part) ++ ending packets) :
      Course (parts.length + 2) transit

variable {side id parts packets start}

variable {transit : Transit ι α} {packet : Packet ι α} {delivered : List Nat} {begun : Transit ι α}
  {processed seq next : Nat}

theorem Course.stream (ends : ending packets = [.finish])
    (course : Course side id parts packets start processed transit) :
    transit.streams = start.streams ∨
      ∃ stream, transit.streams = start.streams ++ [stream] ∧
        stream.prevSeq = some ((processed : Int) - 1) ∧ Orderly parts stream ∧
        (.finish ∈ stream.events → transit.pendingStream side id = none) := by
  cases course with
  | closed streams pending _ _ _ prevSeq events =>
    rw [ends] at events
    refine .inr ⟨_, streams, ?_, ⟨parts.length + 2, ?_, .inr ⟨rfl, events⟩⟩, fun _ => pending⟩ <;>
      rw [prevSeq] <;> congr 1 <;> push_cast <;> ring
  | opened same _ more progress =>
    cases progress.phase with
    | waiting _ _ streams => exact .inl (streams.trans same)
    | done _ last => omega
    | running stream _ streams pending _ sorted =>
      refine .inr ⟨stream, by rw [streams, same], sorted.prevSeq,
        ⟨processed, sorted.prevSeq, .inl ⟨more, sorted.events⟩⟩, fun finished => ?_⟩
      -- Only chunks have been written.
      rw [sorted.events] at finished
      obtain ⟨part, _, written⟩ := List.mem_map.mp finished
      cases written

theorem Course.undisturbed (ends : ending packets = [.finish]) {further : Nat} {after : Transit ι α}
    (course : Course side id parts packets start processed transit)
    (course' : Course side id parts packets start further after) (le : processed ≤ further) :
    Undisturbed side id parts start transit after := by
  have located {transit : Transit ι α} {stream found : Stream ι α}
      (streams : transit.streams = start.streams ++ [stream])
      (at_start : transit.streams[start.streams.length]? = some found) : found = stream := by
    simpa [streams, eq_comm] using at_start
  have absent {transit : Transit ι α} (streams : transit.streams = start.streams) :
      transit.streams[start.streams.length]? = none := by simp [streams]
  rcases course'.stream ends with none_yet | ⟨later, streams', prevSeq', orderly, removed⟩
  · exact ⟨by simp [none_yet], by simp [absent none_yet], by simp [absent none_yet],
      by simp [absent none_yet]⟩
  · refine ⟨by simp [streams'], ?_, ?_, ?_⟩
    · intro stream at_start
      rw [located streams' at_start]
      exact orderly
    · intro stream found at_start at_start' prevSeq some_prevSeq seq some_seq
      rw [located streams' at_start', prevSeq'] at some_seq
      rcases course.stream ends with none_yet | ⟨old, streams, old_prevSeq, _⟩
      · rw [absent none_yet] at at_start
        cases at_start
      · rw [located streams at_start, old_prevSeq] at some_prevSeq
        obtain rfl := Option.some.inj some_seq
        obtain rfl := Option.some.inj some_prevSeq
        omega
    · intro stream at_start
      rw [located streams' at_start]
      exact removed

theorem handle_closed {ref : Nat} (known : transit.pendingResStreams.get packet.id = some ref)
    (typed : packet.stream.isSome = true)
    (closed : ((transit.streams.getD ref .new).receive packet).closed = true)
    (awaited : (transit.pendingRequests.get packet.id).isSome = true) :
    (transit.handle .response packet).pendingRequests.get packet.id = none := by
  obtain ⟨node, waiting⟩ := Option.isSome_iff_exists.mp awaited
  simp only [Transit.handle, Transit.responseHandler, waiting, typed, if_true,
    Transit.handleIncomingResponseStream, known, Transit.continueResponseStream, Transit.accept,
    closed, Option.getD_some, Transit.removePendingRequest, OrderedMap.get_delete]

theorem handle_orphan (orphan : transit.pendingRequests.get packet.id = none) :
    transit.handle .response packet = transit := by
  simp only [Transit.handle, Transit.responseHandler, orphan]

theorem Course.close (framed : Framed id parts packets) {stream : Stream ι α}
    (same : begun.streams = start.streams) (streams : transit.streams = begun.streams ++ [stream])
    (pending : transit.pendingStream side id = some begun.streams.length)
    (awaits : transit.Awaits side id)
    (sorted : Sorted parts packets delivered (parts.length + 1) stream)
    (bound : ∀ seq ∈ delivered, seq < packets.length)
    (idle : side = .request → transit.immediates = [])
    (queued : ∀ entry ∈ transit.immediates, entry.1 = side ∧ entry.2.id = id)
    (found : packets[parts.length + 1]? = some packet) :
    Course side id parts packets start (parts.length + 2) (transit.handle side packet) := by
  obtain ⟨named, _⟩ := framed.named _ packet found
  have typed := (framed.typed found).1
  subst named
  obtain ⟨done, got, _, events, prevSeq⟩ := receive_closing framed sorted bound found
  obtain ⟨streams', immediates', pending', _, _⟩ :=
    handle_known awaits typed pending streams got (by simp)
  have queue : (transit.handle side packet).immediates = transit.immediates := by
    simpa using immediates'
  refine .closed (by rw [streams', same]) pending' ?_ (by rwa [queue]) (by rwa [queue]) prevSeq
    events
  intro response
  subst response
  refine handle_closed pending typed ?_ (awaits rfl)
  have located : transit.streams.getD begun.streams.length .new = stream := by simp [streams]
  rw [located, got]

theorem Course.again (framed : Framed id parts packets) {stream : Stream ι α}
    (same : begun.streams = start.streams) (more : 1 ≤ parts.length + 1)
    (progress : Progress side id parts packets begun delivered 1 transit)
    (streams : transit.streams = begun.streams ++ [stream])
    (pending : transit.pendingStream side id = some begun.streams.length)
    (awaits : transit.Awaits side id) (sorted : Sorted parts packets delivered 1 stream)
    (found : packets[0]? = some packet) :
    Course side id parts packets start 1 (transit.handle side packet) := by
  obtain ⟨named, numbered⟩ := framed.named 0 packet found
  have typed := (framed.typed found).1
  have continues := framed.opened 0 packet found (by omega)
  subst named
  have onTime : stream.tooEarly packet = false := by
    simp [Stream.tooEarly, numbered, sorted.prevSeq]
  -- The second packet is not in the pool, and nothing changes in the stream.
  have empty : stream.pool.get 1 = none := by simp [sorted.pool]
  have got : stream.receive packet = ⟨stream, none, true, false⟩ := by
    have current : stream.prevSeq = some 0 := sorted.prevSeq
    have unchanged : ({ stream with prevSeq := some 0 } : Stream ι α) = stream := by
      rw [← current]
    simp only [Stream.receive, onTime, numbered]
    simp [Stream.takeNext, empty, unchanged]
  obtain ⟨streams', immediates', pending', handouts', awaits'⟩ :=
    handle_known awaits typed pending streams got (by simp)
  -- The receiver looks as if it had been handed out before the start.
  obtain ⟨begun', begun_streams, begun_handouts⟩ : ∃ begun' : Transit ι α,
      begun'.streams = begun.streams ∧ begun'.handouts side = transit.handouts side := by
    cases side with
    | request => exact ⟨{ begun with calls := transit.calls }, rfl, rfl⟩
    | response => exact ⟨{ begun with answers := transit.answers }, rfl, rfl⟩
  have progress' : Progress side packet.id parts packets begun' delivered 1
      (transit.handle side packet) := by
    refine ⟨progress.below, progress.bound, ?_, ?_, .running stream more
      (by rw [streams', begun_streams]) (by rw [pending', begun_streams]; rfl) (awaits' rfl) sorted⟩
    · rw [immediates', ← progress.immediates]
      simp
    · rw [handouts', begun_handouts, begun_streams]
      simp
  exact .opened (begun_streams.trans same) (fun _ => by omega) more progress'

theorem Progress.scheduled_iff (framed : Framed id parts packets)
    (progress : Progress side id parts packets start delivered next transit)
    (found : packets[seq]? = some packet) :
    (side, packet) ∈ transit.immediates ↔ seq = next ∧ next ∈ delivered := by
  rw [progress.immediates]
  split
  · rename_i present
    have inside := progress.bound next present
    rw [List.getElem?_eq_getElem inside]
    have located := List.getElem?_eq_getElem inside
    simp only [Option.toList_some, List.map_cons, List.map_nil, List.mem_singleton, Prod.mk.injEq,
      true_and, present, and_true]
    constructor
    · rintro rfl
      have numbers := (framed.named seq _ found).2.symm.trans (framed.named next _ located).2
      exact Option.some.inj numbers
    · rintro rfl
      exact Option.some.inj (found.symm.trans located)
  · rename_i missing
    simp [missing]

theorem Progress.fresh_iff (framed : Framed id parts packets) {stream : Stream ι α}
    (progress : Progress side id parts packets begun delivered next transit)
    (streams : transit.streams = begun.streams ++ [stream])
    (pending : transit.pendingStream side id = some begun.streams.length)
    (sorted : Sorted parts packets delivered next stream) (found : packets[seq]? = some packet) :
    Fresh side start transit (.deliver side packet) ↔
      (next ≤ seq ∨ next = 1 ∧ seq = 0) ∧
        (seq = next ∧ next ∈ delivered → side = .response ∧ parts.length < seq) := by
  obtain ⟨named, numbered⟩ := framed.named seq packet found
  subst named
  have located : transit.streams.getD begun.streams.length .new = stream := by simp [streams]
  have closing : packet.stream ≠ some true ↔ parts.length < seq := by
    constructor
    · intro closes
      by_contra inside
      exact closes (framed.opened seq packet found (by omega))
    · intro past
      have bound := (List.getElem?_eq_some_iff.mp found).1
      rw [framed.length] at bound
      obtain rfl : seq = parts.length + 1 := by omega
      simp [framed.closing packet found]
  simp only [Fresh, pending, located, sorted.prevSeq, numbered, progress.scheduled_iff framed found,
    closing, Option.mem_some, forall_eq']
  have order : ((next : Int) - 1 < seq ∨ (next : Int) - 1 = 0 ∧ seq = 0) ↔
      next ≤ seq ∨ next = 1 ∧ seq = 0 := by omega
  rw [order]

theorem Course.deliver_running (framed : Framed id parts packets) {stream : Stream ι α}
    (same : begun.streams = start.streams) (started : 0 ∈ delivered → 0 < next)
    (more : next ≤ parts.length + 1)
    (progress : Progress side id parts packets begun delivered next transit)
    (streams : transit.streams = begun.streams ++ [stream])
    (pending : transit.pendingStream side id = some begun.streams.length)
    (awaits : transit.Awaits side id) (sorted : Sorted parts packets delivered next stream)
    (found : packets[seq]? = some packet)
    (fresh : Fresh side start transit (.deliver side packet)) :
    ∃ further, next ≤ further ∧
      Course side id parts packets start further (transit.handle side packet) := by
  rw [progress.fresh_iff framed streams pending sorted found] at fresh
  obtain ⟨unprocessed, unscheduled⟩ := fresh
  obtain ⟨below, bound⟩ := progress.delivered found
  rcases Nat.lt_trichotomy seq next with behind | rfl | early
  · -- Only the first packet may come again, as long as it is the last one.
    obtain ⟨rfl, rfl⟩ : next = 1 ∧ seq = 0 := by omega
    exact ⟨1, le_rfl, .again framed same more progress streams pending awaits sorted found⟩
  · rcases Nat.lt_or_ge parts.length seq with closing | inside
    · obtain rfl : seq = parts.length + 1 := by omega
      refine ⟨_, Nat.le_succ _, .close framed same streams pending awaits sorted.arrived bound
        (fun request => ?_) (fun entry queued => ?_) found⟩
      · have missing : parts.length + 1 ∉ delivered := fun present => by
          have response := (unscheduled ⟨rfl, present⟩).1
          rw [request] at response
          cases response
        rw [progress.immediates, if_neg missing]
      · rw [progress.immediates] at queued
        split at queued
        · simp only [found, Option.toList_some, List.map_cons, List.map_nil,
            List.mem_singleton] at queued
          rw [queued]
          exact ⟨rfl, (framed.named _ packet found).1⟩
        · cases queued
    · have missing : seq ∉ delivered := fun present =>
        absurd (unscheduled ⟨rfl, present⟩).2 (by omega)
      have idle : transit.immediates = [] := by rw [progress.immediates, if_neg missing]
      exact ⟨seq + 1, Nat.le_succ _, .opened same (fun _ => Nat.succ_pos _) (by omega)
        (.process framed below List.mem_cons_self bound idle progress.handouts streams pending
          awaits sorted.arrived found)⟩
  · refine ⟨next, le_rfl, .opened same (fun member => ?_) more
      (progress.deliver_early framed more streams pending awaits sorted found early)⟩
    rcases List.mem_cons.mp member with zero | present
    · omega
    · exact started present

theorem Course.deliver (framed : Framed id parts packets)
    (course : Course side id parts packets start processed transit)
    (found : packets[seq]? = some packet)
    (fresh : Fresh side start transit (.deliver side packet)) :
    ∃ further, processed ≤ further ∧
      Course side id parts packets start further (transit.handle side packet) := by
  obtain ⟨named, _⟩ := framed.named seq packet found
  cases course with
  | closed streams pending orphan idle queued prevSeq events =>
    cases side with
    | request =>
      subst named
      simp [Fresh, pending, streams] at fresh
    | response =>
      rw [handle_orphan (named ▸ orphan rfl)]
      exact ⟨_, le_rfl, .closed streams pending orphan idle queued prevSeq events⟩
  | opened same started more progress =>
    cases progress.phase with
    | done _ last => omega
    | running stream _ streams pending awaits sorted =>
      exact Course.deliver_running framed same started more progress streams pending awaits sorted
        found
        fresh
    | waiting nothing first streams pending awaits =>
      subst nothing first named
      obtain ⟨typed, part⟩ := framed.typed found
      rw [handle_unknown awaits typed part pending]
      obtain ⟨opened, streams, pending, awaits, sorted⟩ := progress.opened streams awaits
      refine Course.deliver_running framed same (by simp) more opened streams pending awaits sorted
        found ?_
      rw [opened.fresh_iff framed streams pending sorted found]
      exact ⟨.inl (Nat.zero_le _), by simp⟩

theorem Course.immediate (framed : Framed id parts packets)
    (course : Course side id parts packets start processed transit) :
    ∃ further, processed ≤ further ∧
      Course side id parts packets start further (transit.step .immediate) := by
  cases course with
  | closed streams pending orphan idle queued prevSeq events =>
    cases queue : transit.immediates with
    | nil =>
      simp only [Transit.step, queue]
      exact ⟨_, le_rfl, .closed streams pending orphan idle queued prevSeq events⟩
    | cons entry rest =>
      obtain ⟨of_side, of_id⟩ := queued entry (queue ▸ List.mem_cons_self)
      obtain ⟨entry_side, packet⟩ := entry
      simp only at of_side of_id
      subst of_side of_id
      cases entry_side with
      | request => cases queue.symm.trans (idle rfl)
      | response =>
        simp only [Transit.step, queue]
        have no_request : ({ transit with immediates := rest } : Transit ι α).pendingRequests.get
            packet.id = none := orphan rfl
        rw [handle_orphan no_request]
        exact ⟨_, le_rfl, .closed streams pending orphan (fun request => by cases request)
          (fun entry inside => queued entry (queue ▸ List.mem_cons_of_mem _ inside)) prevSeq events⟩
  | @opened _ _ delivered _ same started more progress =>
    rcases Nat.lt_or_ge parts.length processed with closing | inside
    · obtain rfl : processed = parts.length + 1 := by omega
      by_cases present : parts.length + 1 ∈ delivered
      · have found := List.getElem?_eq_getElem (progress.bound _ present)
        have queue := progress.immediates
        rw [if_pos present, found] at queue
        cases progress.phase with
        | waiting nothing => simp [nothing] at present
        | done _ last => omega
        | running stream _ streams pending awaits sorted =>
          refine ⟨_, Nat.le_succ _, ?_⟩
          simp only [Transit.step, queue, Option.toList_some, List.map_cons, List.map_nil]
          exact .close framed same streams (by rw [← pending]; cases side <;> rfl) awaits sorted
            progress.bound (fun _ => rfl) (List.forall_mem_nil _) found
      · have queue := progress.immediates
        rw [if_neg present] at queue
        simp only [Transit.step, queue]
        exact ⟨_, le_rfl, .opened same started more progress⟩
    · rcases progress.immediate framed with ⟨_, unchanged⟩ | moved
      · rw [unchanged]
        exact ⟨_, le_rfl, .opened same started more progress⟩
      · exact ⟨_, Nat.le_succ _, .opened same (fun _ => Nat.succ_pos _) (by omega) moved⟩

theorem disturbed_of_late (framed : Framed id parts packets) {old : List (Stream ι α)}
    {stream : Stream ι α} (same : old.length = start.streams.length)
    (more : next ≤ parts.length + 1) (streams : transit.streams = old ++ [stream])
    (pending : transit.pendingStream side id = some old.length) (awaits : transit.Awaits side id)
    (prevSeq : stream.prevSeq = some ((next : Int) - 1))
    (events : stream.events = (parts.take (next - 1)).map fun part => .write part)
    (found : packets[seq]? = some packet) (late : seq < next) (second : 1 < next) :
    ¬ Undisturbed side id parts start transit (transit.handle side packet) := by
  obtain ⟨named, numbered⟩ := framed.named seq packet found
  have typed := (framed.typed found).1
  subst named
  have onTime : stream.tooEarly packet = false := by
    simp only [Stream.tooEarly, numbered, prevSeq, decide_eq_false_iff_not]
    omega
  obtain ⟨streams', _⟩ :=
    handle_known awaits typed pending streams rfl (receive_exclusive stream packet)
  have number := receive_prevSeq onTime numbered
  intro undisturbed
  have before : transit.streams[start.streams.length]? = some stream := by simp [streams, ← same]
  have after : (transit.handle side packet).streams[start.streams.length]? =
      some (stream.receive packet).stream := by simp [streams', ← same]
  -- The number goes back, or it stays and the chunk is written again.
  have monotone := undisturbed.monotone stream _ before after _ prevSeq _ number
  obtain rfl : seq + 1 = next := by omega
  obtain ⟨earlier, rfl⟩ : ∃ earlier, seq = earlier + 1 := ⟨seq - 1, by omega⟩
  have part := framed.part earlier packet found (by omega)
  rw [List.getElem?_eq_getElem (by omega)] at part
  have written := receive_events onTime numbered (framed.opened _ packet found (by omega)) part
  obtain ⟨processed, current, states⟩ := undisturbed.orderly _ after
  obtain rfl : processed = earlier + 2 := by
    have := Option.some.inj (number.symm.trans current)
    omega
  have length : (stream.receive packet).stream.events.length = earlier + 2 := by
    rw [written, events]
    simp
    omega
  rcases states with ⟨_, events'⟩ | ⟨last, _⟩
  · have length' := congrArg List.length events'
    simp only [List.length_map, List.length_take] at length'
    omega
  · omega

theorem disturbed_of_closed (framed : Framed id parts packets)
    (created : transit.streams.length = start.streams.length + 1)
    (pending : transit.pendingStream .request id = none) (found : packets[seq]? = some packet) :
    ¬ Undisturbed .request id parts start transit (transit.handle .request packet) := by
  obtain ⟨named, _⟩ := framed.named seq packet found
  obtain ⟨typed, part⟩ := framed.typed found
  subst named
  intro undisturbed
  have single := undisturbed.single
  have awaits : transit.Awaits .request packet.id := nofun
  have still_awaits : (transit.opened .request packet).Awaits .request packet.id := nofun
  rw [handle_unknown awaits typed part pending] at single
  have known : (transit.opened .request packet).pendingStream .request packet.id =
      some transit.streams.length := by
    simp [Transit.opened, Transit.pendingStream, OrderedMap.get_set]
  have opened : (transit.opened .request packet).streams = transit.streams ++ [.new] := rfl
  obtain ⟨streams', _⟩ := handle_known still_awaits typed known opened rfl
    (receive_exclusive _ packet)
  rw [streams', List.length_append, created] at single
  simp at single

theorem Undisturbed.before {before after : Transit ι α}
    (undisturbed : Undisturbed side id parts start transit after)
    (streams : transit.streams = before.streams) :
    Undisturbed side id parts start before after :=
  ⟨undisturbed.single, undisturbed.orderly, streams ▸ undisturbed.monotone, undisturbed.removed⟩

/-- A packet that a callback is going to process disturbs the stream once the callback runs. -/
theorem disturbed_of_scheduled (framed : Framed id parts packets) {stream : Stream ι α}
    (same : begun.streams = start.streams) (started : 0 ∈ delivered → 0 < next)
    (more : next ≤ parts.length + 1)
    (progress : Progress side id parts packets begun delivered next transit)
    (streams : transit.streams = begun.streams ++ [stream])
    (pending : transit.pendingStream side id = some begun.streams.length)
    (awaits : transit.Awaits side id) (sorted : Sorted parts packets delivered next stream)
    (found : packets[next]? = some packet) (present : next ∈ delivered)
    (unprotected : side = .response → next ≤ parts.length) :
    ¬ Undisturbed side id parts start (transit.handle side packet)
      ((transit.handle side packet).step .immediate) := by
  obtain ⟨named, _⟩ := framed.named next packet found
  have typed := (framed.typed found).1
  have queue : transit.immediates = [(side, packet)] := by
    rw [progress.immediates, if_pos present, found]
    rfl
  subst named
  rcases Nat.lt_or_ge parts.length next with closing | inside
  · -- The stream is closed, and the callback comes too late.
    obtain rfl : next = parts.length + 1 := by omega
    obtain rfl : side = .request := by
      cases side with
      | request => rfl
      | response => exact absurd (unprotected rfl) (by omega)
    obtain ⟨done, got, _, _, _⟩ := receive_closing framed sorted progress.bound found
    obtain ⟨streams', immediates', pending', _, _⟩ :=
      handle_known awaits typed pending streams got (by simp)
    rw [queue] at immediates'
    have unknown : (transit.handle .request packet).pendingStream .request packet.id = none :=
      pending'
    simp only [Transit.step, immediates', Option.toList_none, List.map_nil, List.append_nil]
    intro undisturbed
    refine disturbed_of_closed framed ?_ ?_ found (undisturbed.before rfl)
    · rw [streams', same, List.length_append, List.length_singleton]
    · exact unknown
  · -- The chunk is written, and once more by the callback.
    obtain ⟨rest, got, sorted'⟩ := receive_turn framed sorted found inside
    obtain ⟨streams', immediates', pending', _, awaits'⟩ :=
      handle_known awaits typed pending streams got (by simp)
    have positive : 0 < next := by
      rcases Nat.eq_zero_or_pos next with rfl | positive
      · exact started present
      · exact positive
    rw [queue, List.singleton_append] at immediates'
    simp only [Transit.step, immediates']
    -- The callback sees the stream as the packet has left it.
    have known : (transit.handle side packet).pendingStream side packet.id =
        some begun.streams.length := pending'
    intro undisturbed
    refine disturbed_of_late framed (congrArg List.length same) ?_ ?_ ?_ ?_ sorted'.prevSeq
      sorted'.events found (Nat.lt_succ_self _) (by omega) (undisturbed.before rfl)
    · omega
    · exact streams'
    · rw [← known]
      cases side <;> rfl
    · exact awaits' rfl

theorem Course.disturbed (framed : Framed id parts packets)
    (course : Course side id parts packets start processed transit)
    (found : packets[seq]? = some packet)
    (stale : ¬ Fresh side start transit (.deliver side packet)) :
    ¬ (Undisturbed side id parts start transit (transit.handle side packet) ∧
      Undisturbed side id parts start (transit.handle side packet)
        ((transit.handle side packet).step .immediate)) := by
  obtain ⟨named, _⟩ := framed.named seq packet found
  intro ⟨first, second⟩
  cases course with
  | closed streams pending orphan idle queued prevSeq events =>
    cases side with
    | request => exact disturbed_of_closed framed (by simp [streams]) pending found first
    | response =>
      subst named
      exact stale (by simp [Fresh, pending])
  | opened same started more progress =>
    cases progress.phase with
    | done _ last => omega
    | waiting nothing _ streams pending =>
      subst named
      exact stale (by simp [Fresh, pending, streams, same])
    | running stream _ streams pending awaits sorted =>
      rw [progress.fresh_iff framed streams pending sorted found] at stale
      by_cases unprocessed : processed ≤ seq ∨ processed = 1 ∧ seq = 0
      · have scheduled : ¬ (seq = processed ∧ _ → side = .response ∧ parts.length < seq) :=
          fun unscheduled => stale ⟨unprocessed, unscheduled⟩
        obtain ⟨⟨rfl, present⟩, unprotected⟩ := Classical.not_imp.mp scheduled
        refine disturbed_of_scheduled framed same started more progress streams pending awaits
          sorted found present (fun response => ?_) second
        by_contra past
        exact unprotected ⟨response, by omega⟩
      · have bound : processed ≤ parts.length + 1 := more
        exact disturbed_of_late framed (congrArg List.length same) more streams pending awaits
          sorted.prevSeq sorted.events found (by omega) (by omega) first

/-- Along the course, packets are new exactly if they do not disturb the stream. -/
theorem Course.fresh_iff (framed : Framed id parts packets) (ends : ending packets = [.finish])
    (schedule : List (Option (Packet ι α)))
    (of_stream : ∀ packet ∈ schedule.reduceOption, packet ∈ packets)
    (course : Course side id parts packets start processed transit) :
    Meets Transit.step (Fresh side start) transit (side.inputs schedule) ↔
      ∀ front, front <+: schedule →
        Meets Transit.step (fun before input => Undisturbed side id parts start before
          (before.step input)) transit (side.inputs front ++ [.immediate]) := by
  induction schedule generalizing processed transit with
  | nil =>
    refine ⟨fun _ front starts => ?_, fun _ => trivial⟩
    obtain ⟨further, le, course'⟩ := course.immediate framed
    rw [List.prefix_nil.mp starts]
    exact ⟨course.undisturbed ends course' le, trivial⟩
  | cons event rest ih =>
    have rest_of_stream : ∀ packet ∈ rest.reduceOption, packet ∈ packets := by
      intro packet inside
      refine of_stream packet ?_
      cases event with
      | none => simpa using inside
      | some => simp [inside]
    have here : Meets Transit.step (fun before input => Undisturbed side id parts start before
        (before.step input)) transit [.immediate] := by
      obtain ⟨further, le, course'⟩ := course.immediate framed
      exact ⟨course.undisturbed ends course' le, trivial⟩
    -- Fronts are empty or start with the first event.
    have fronts (input : Transit.Input ι α) (shown : side.inputs [event] = [input]) :
        (∀ front, front <+: event :: rest → Meets Transit.step (fun before input =>
            Undisturbed side id parts start before (before.step input)) transit
            (side.inputs front ++ [.immediate])) ↔
          ∀ front, front <+: rest → Meets Transit.step (fun before input =>
            Undisturbed side id parts start before (before.step input)) transit
            (input :: (side.inputs front ++ [.immediate])) := by
      have split (front : List (Option (Packet ι α))) :
          side.inputs (event :: front) = input :: side.inputs front := by
        rw [← List.singleton_append, Side.inputs, List.map_append, ← Side.inputs, shown]
        rfl
      constructor
      · intro all front starts
        have := all (event :: front) (List.cons_prefix_cons.mpr ⟨rfl, starts⟩)
        rwa [split] at this
      · intro all front starts
        cases front with
        | nil => exact here
        | cons other front =>
          obtain ⟨rfl, behind⟩ := List.cons_prefix_cons.mp starts
          rw [split]
          exact all front behind
    cases event with
    | none =>
      obtain ⟨further, le, course'⟩ := course.immediate framed
      rw [fronts .immediate rfl]
      have step := course.undisturbed ends course' le
      have rest_iff := ih rest_of_stream course'
      exact ⟨fun fresh front starts => ⟨step, rest_iff.mp fresh.2 front starts⟩,
        fun all => ⟨trivial, rest_iff.mpr fun front starts => (all front starts).2⟩⟩
    | some packet =>
      rw [fronts (.deliver side packet) rfl]
      obtain ⟨seq, found⟩ := List.mem_iff_getElem?.mp (of_stream packet (by simp))
      by_cases fresh : Fresh side start transit (.deliver side packet)
      · obtain ⟨further, le, course'⟩ := course.deliver framed found fresh
        have step := course.undisturbed ends course' le
        have rest_iff := ih rest_of_stream course'
        exact ⟨fun all front starts => ⟨step, rest_iff.mp all.2 front starts⟩,
          fun all => ⟨fresh, rest_iff.mpr fun front starts => (all front starts).2⟩⟩
      · refine ⟨fun all => absurd all.1 fresh, fun all => ?_⟩
        obtain ⟨first, second, _⟩ := all [] (List.nil_prefix)
        exact absurd ⟨first, second⟩ (course.disturbed framed found fresh)

/-- Whether a packet is new can be decided. -/
instance Fresh.decidable (side : Side) (start : Transit ι α) [DecidableEq α] :
    ∀ (transit : Transit ι α) (input : Transit.Input ι α),
      Decidable (Fresh side start transit input)
  | _, .immediate => .isTrue trivial
  | transit, .deliver _ packet =>
    match known : transit.pendingStream side packet.id with
    | some ref =>
      decidable_of_iff
        ((∀ prevSeq ∈ (transit.streams.getD ref .new).prevSeq, ∀ seq ∈ packet.seq,
          prevSeq < seq ∨ prevSeq = 0 ∧ seq = 0) ∧
        ((side, packet) ∈ transit.immediates → side = .response ∧ packet.stream ≠ some true))
        (by simp only [Fresh, known])
    | none =>
      decidable_of_iff (side = .response ∨ transit.streams.length = start.streams.length)
        (by simp only [Fresh, known])

end Receiver

/-- The packets of a response with a single chunk. -/
def onePacket (side : Side) (seq : Nat) : Packet Nat String :=
  (side.packets .binary 8 7 "node-2" .null [.other "a"]).getD seq
    ⟨7, "node-2", none, none, .null, none⟩

end Moleculer.Streams
