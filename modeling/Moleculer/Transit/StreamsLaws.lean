import Moleculer.Base.Run
import Moleculer.Transit.Streams

/-! A stream arrives complete and in order, whatever the order in which its packets arrive. -/

namespace Moleculer.Streams

open Base

variable {ι α : Type}

section Sender

theorem subarrays_flatten (bytes : List UInt8) {maxChunkSize : Nat} (positive : 0 < maxChunkSize)
    (i : Nat) : (subarrays bytes maxChunkSize i).flatten = bytes.drop i := by
  fun_induction subarrays bytes maxChunkSize i with
  | case1 i more ih =>
    rw [List.flatten_cons, ih, ← List.drop_drop, List.take_append_drop]
  | case2 i done =>
    have past : bytes.length ≤ i := by
      by_contra inside
      exact done ⟨by omega, positive⟩
    rw [List.flatten_nil, List.drop_eq_nil_of_le past]

theorem splitChunk_content (maxChunkSize : Nat) (chunk : Chunk α) :
    (splitChunk maxChunkSize chunk).flatMap Chunk.content = chunk.content := by
  cases chunk with
  | other value => simp [splitChunk]
  | typed value data => simp [splitChunk]
  | buffer bytes =>
    simp only [splitChunk]
    split
    · rename_i large
      have whole := congrArg (List.map (Sum.inl : UInt8 → UInt8 ⊕ α))
        (subarrays_flatten bytes large.1 0)
      rw [List.drop_zero, List.map_flatten] at whole
      rw [List.flatMap_map]
      exact whole
    · simp

/-- The pieces in which a whole source is sent. -/
def pieces (maxChunkSize : Nat) (source : List (Chunk α)) : List (Chunk α) :=
  source.flatMap (splitChunk maxChunkSize)

theorem pieces_content (maxChunkSize : Nat) (source : List (Chunk α)) :
    (pieces maxChunkSize source).flatMap Chunk.content = source.flatMap Chunk.content := by
  rw [pieces, List.flatMap_assoc]
  simp only [splitChunk_content]

theorem sendPieces_eq (serializer : Serializer) (id : ι) (sender : String) (seq : Nat)
    (parts : List (Chunk α)) :
    sendPieces serializer id sender seq parts =
      (parts.mapIdx fun i part => piecePacket serializer id sender (seq + 1 + i) part,
        seq + parts.length) := by
  induction parts generalizing seq with
  | nil => rfl
  | cons part rest ih =>
    simp only [sendPieces, ih, List.mapIdx_cons, List.length_cons, Nat.add_zero, Prod.mk.injEq,
      List.cons.injEq, true_and]
    constructor
    · congr 1
      funext i piece
      congr 1
      omega
    · omega

theorem sendChunks_eq (serializer : Serializer) (maxChunkSize : Nat) (id : ι) (sender : String)
    (seq : Nat) (source : List (Chunk α)) :
    sendChunks serializer maxChunkSize id sender seq source =
      ((pieces maxChunkSize source).mapIdx fun i part =>
        piecePacket serializer id sender (seq + 1 + i) part) ++
      [⟨id, sender, some (seq + (pieces maxChunkSize source).length + 1), some false, .null,
        none⟩] := by
  induction source generalizing seq with
  | nil => rfl
  | cons chunk rest ih =>
    have together : pieces maxChunkSize (chunk :: rest)
        = splitChunk maxChunkSize chunk ++ pieces maxChunkSize rest := rfl
    simp only [sendChunks, sendPieces_eq, ih, together, List.mapIdx_append, List.length_append,
      List.append_assoc]
    congr 2
    · congr 1
      funext i piece
      congr 1
      omega
    · congr 3
      omega

end Sender

/-- The packets that the sender of a side publishes for a source. -/
def Side.packets (side : Side) (serializer : Serializer) (maxChunkSize : Nat) (id : ι)
    (sender : String) (params : Wire α) (source : List (Chunk α)) : List (Packet ι α) :=
  match side with
  | .request => requestPackets serializer maxChunkSize id sender params source
  | .response => responsePackets serializer maxChunkSize id sender source

/-- The packets of one stream: numbered from zero, the pieces in between, the closing one last. -/
structure Framed (id : ι) (parts : List (Chunk α)) (packets : List (Packet ι α)) : Prop where
  length : packets.length = parts.length + 2
  named : ∀ (seq : Nat) (packet : Packet ι α), packets[seq]? = some packet →
    packet.id = id ∧ packet.seq = some seq
  opened : ∀ (seq : Nat) (packet : Packet ι α), packets[seq]? = some packet → seq ≤ parts.length →
    packet.stream = some true
  part : ∀ (seq : Nat) (packet : Packet ι α), packets[seq + 1]? = some packet → seq < parts.length →
    packet.data.toChunk = parts[seq]?
  closing : ∀ packet : Packet ι α, packets[parts.length + 1]? = some packet →
    packet.stream = some false

/-- How a stream ends: with the error of its closing packet, if there is one. -/
def ending (packets : List (Packet ι α)) : List (StreamEvent α) :=
  (packets.getLast?.bind Packet.error).toList.map .error ++ [.finish]

variable (serializer : Serializer)

/-- A chunk that does not pass for the JSON form of a `Buffer`. -/
def Chunk.Plain : Chunk α → Prop
  | .typed _ _ => False
  | _ => True

theorem toChunk_transfer {chunk : Chunk α} (plain : chunk.Plain) :
    (serializer.transfer chunk).toChunk = some chunk := by
  cases chunk with
  | typed value data => exact plain.elim
  | _ => cases serializer <;> rfl

theorem plain_pieces {source : List (Chunk α)} (plain : ∀ chunk ∈ source, chunk.Plain)
    (maxChunkSize : Nat) : ∀ part ∈ pieces maxChunkSize source, part.Plain := by
  intro part inside
  obtain ⟨chunk, sent, among⟩ := List.mem_flatMap.mp inside
  cases chunk with
  | buffer bytes =>
    simp only [splitChunk] at among
    split at among
    · obtain ⟨piece, _, rfl⟩ := List.mem_map.mp among
      trivial
    · rw [List.mem_singleton.mp among]
      trivial
  | _ =>
    rw [List.mem_singleton.mp among]
    exact plain _ sent

/-- A first packet followed by the packets of the chunks is a framed stream. -/
theorem framed_sendChunks (maxChunkSize : Nat) (id : ι) (sender : String) (params : Wire α)
    {source : List (Chunk α)} (plain : ∀ chunk ∈ source, chunk.Plain) :
    Framed id (pieces maxChunkSize source)
      (⟨id, sender, some 0, some true, params, none⟩ ::
        sendChunks serializer maxChunkSize id sender 0 source) := by
  rw [sendChunks_eq]
  have plain := plain_pieces plain maxChunkSize
  generalize pieces maxChunkSize source = parts at *
  -- Behind the first packet an index falls on a piece or on the closing packet.
  have cases (seq : Nat) (packet : Packet ι α)
      (found : ((parts.mapIdx fun i part => piecePacket serializer id sender (0 + 1 + i) part) ++
        [⟨id, sender, some (0 + parts.length + 1), some false, .null, none⟩])[seq]?
          = some packet) :
      (∃ part, parts[seq]? = some part ∧
        packet = piecePacket serializer id sender (seq + 1) part) ∨
      (seq = parts.length ∧
        packet = ⟨id, sender, some (seq + 1), some false, .null, none⟩) := by
    rcases Nat.lt_or_ge seq parts.length with inside | past
    · left
      rw [List.getElem?_append_left (by simpa using inside), List.getElem?_mapIdx] at found
      rw [List.getElem?_eq_getElem inside] at found ⊢
      simp only [Option.map_some, Option.some.injEq] at found
      exact ⟨_, rfl, by rw [← found]; congr 1; omega⟩
    · right
      rw [List.getElem?_append_right (by simpa using past)] at found
      have last : seq - parts.length = 0 := by
        have bound := (List.getElem?_eq_some_iff.mp found).1
        simp only [List.length_mapIdx, List.length_singleton] at bound
        omega
      simp only [List.length_mapIdx, last, List.getElem?_cons_zero, Option.some.injEq] at found
      have same : seq = parts.length := by omega
      exact ⟨same, by rw [← found, same, Nat.zero_add]⟩
  refine ⟨by simp, ?_, ?_, ?_, ?_⟩
  · intro seq packet found
    cases seq with
    | zero =>
      cases found
      exact ⟨rfl, rfl⟩
    | succ seq =>
      rcases cases seq packet found with ⟨part, _, rfl⟩ | ⟨_, rfl⟩ <;> exact ⟨rfl, rfl⟩
  · intro seq packet found inside
    cases seq with
    | zero =>
      cases found
      rfl
    | succ seq =>
      rcases cases seq packet found with ⟨part, _, rfl⟩ | ⟨same, rfl⟩
      · rfl
      · omega
  · intro seq packet found inside
    rcases cases seq packet found with ⟨part, located, rfl⟩ | ⟨same, rfl⟩
    · rw [located]
      exact toChunk_transfer serializer (plain part (List.mem_of_getElem? located))
    · omega
  · intro packet found
    rcases cases parts.length packet found with ⟨part, located, _⟩ | ⟨_, rfl⟩
    · have bound := (List.getElem?_eq_some_iff.mp located).1
      omega
    · rfl

theorem ending_sendChunks (maxChunkSize : Nat) (id : ι) (sender : String) (first : Packet ι α)
    (source : List (Chunk α)) :
    ending (first :: sendChunks serializer maxChunkSize id sender 0 source) = [.finish] := by
  rw [sendChunks_eq, ← List.cons_append]
  simp only [ending, List.getLast?_append, List.getLast?_singleton]
  rfl

section Sorting

variable {id : ι} {parts : List (Chunk α)} {packets : List (Packet ι α)}

variable {packet : Packet ι α} {stream : Stream ι α} {next : Nat}

theorem Framed.typed (framed : Framed id parts packets) {seq : Nat}
    (found : packets[seq]? = some packet) :
    packet.stream.isSome = true ∧ Transit.isPlain packet = false := by
  have bound := (List.getElem?_eq_some_iff.mp found).1
  rw [framed.length] at bound
  rcases Nat.lt_or_ge parts.length seq with closing | inside
  · obtain rfl : seq = parts.length + 1 := by omega
    have numbered := (framed.named _ _ found).2
    simp [framed.closing _ found, Transit.isPlain, numbered]
  · simp [framed.opened _ _ found inside, Transit.isPlain]

theorem Framed.numbers (framed : Framed id parts packets) :
    packets.map (fun packet => packet.seq.getD 0) = List.range packets.length := by
  apply List.ext_getElem?
  intro seq
  rw [List.getElem?_map]
  rcases Nat.lt_or_ge seq packets.length with inside | past
  · rw [List.getElem?_eq_getElem inside, List.getElem?_range inside, Option.map_some,
      (framed.named _ _ (List.getElem?_eq_getElem inside)).2, Option.getD_some]
  · rw [List.getElem?_eq_none past, List.getElem?_eq_none (by simpa using past), Option.map_none]

theorem Framed.numbered (framed : Framed id parts packets) {arrivals : List (Packet ι α)}
    (of_stream : ∀ packet ∈ arrivals, packet ∈ packets) :
    arrivals.map some = (arrivals.map fun packet => packet.seq.getD 0).map (packets[·]?) := by
  rw [List.map_map]
  apply List.map_congr_left
  intro packet member
  obtain ⟨seq, found⟩ := List.mem_iff_getElem?.mp (of_stream packet member)
  simp [(framed.named seq packet found).2, found]

theorem Framed.arrival (framed : Framed id parts packets) {arrivals : List (Packet ι α)}
    (delivers : arrivals.Perm packets) :
    arrivals.map some = (arrivals.map fun packet => packet.seq.getD 0).map (packets[·]?) ∧
      (arrivals.map fun packet => packet.seq.getD 0).Perm (List.range packets.length) :=
  ⟨framed.numbered fun _ member => delivers.mem_iff.mp member, framed.numbers ▸ delivers.map _⟩

/-- A stream that has processed the packets before `next` and stores those behind it. -/
structure Sorted (parts : List (Chunk α)) (packets : List (Packet ι α)) (delivered : List Nat)
    (next : Nat) (stream : Stream ι α) : Prop where
  prevSeq : stream.prevSeq = some ((next : Int) - 1)
  events : stream.events = (parts.take (next - 1)).map fun part => .write part
  pool : ∀ seq, stream.pool.get seq =
    if seq ∈ delivered ∧ next < seq then packets[seq]? else none

theorem receive_early (framed : Framed id parts packets) {delivered : List Nat} {seq : Nat}
    (sorted : Sorted parts packets delivered next stream) (found : packets[seq]? = some packet)
    (early : next < seq) :
    ∃ stored, stream.receive packet = ⟨stored, none, false, false⟩ ∧
      Sorted parts packets (seq :: delivered) next stored := by
  have numbered := (framed.named seq packet found).2
  have late : stream.tooEarly packet = true := by
    simp only [Stream.tooEarly, numbered, sorted.prevSeq, decide_eq_true_eq]
    omega
  refine ⟨{ stream with pool := stream.pool.set seq packet },
    by simp [Stream.receive, late, numbered], sorted.prevSeq, sorted.events, fun other => ?_⟩
  rw [OrderedMap.get_set]
  by_cases same : other = seq
  · subst same
    simp [early, found]
  · simp [same, sorted.pool]

theorem Sorted.arrived {delivered : List Nat}
    (sorted : Sorted parts packets delivered next stream) :
    Sorted parts packets (next :: delivered) next stream := by
  refine ⟨sorted.prevSeq, sorted.events, fun other => ?_⟩
  rw [sorted.pool]
  by_cases later : next < other
  · simp [later, Nat.ne_of_gt later]
  · simp [later]

theorem takeNext_sorted {delivered : List Nat} (next : Nat) (stream : Stream ι α)
    (current : stream.prevSeq = some (next : Int))
    (pool : ∀ seq, stream.pool.get seq =
      if seq ∈ delivered ∧ next < seq then packets[seq]? else none) :
    ∃ rest, stream.takeNext =
        ({ stream with pool := rest }, if next + 1 ∈ delivered then packets[next + 1]? else none) ∧
      ∀ seq, rest.get seq = if seq ∈ delivered ∧ next + 1 < seq then packets[seq]? else none := by
  have following : ((next : Int) + 1).toNat = next + 1 := by omega
  have looked := pool (next + 1)
  simp only [Nat.lt_succ_self, and_true] at looked
  simp only [Stream.takeNext, current, following]
  cases stored : stream.pool.get (next + 1) with
  | some packet =>
    rw [stored] at looked
    refine ⟨_, by rw [← looked], fun seq => ?_⟩
    rw [OrderedMap.get_delete, pool]
    by_cases same : seq = next + 1
    · simp [same]
    · have further : next < seq ↔ next + 1 < seq := by omega
      simp [same, further]
  | none =>
    rw [stored] at looked
    refine ⟨stream.pool, by rw [← looked, ← current], fun seq => ?_⟩
    rw [pool]
    by_cases same : seq = next + 1
    · subst same
      simpa using looked.symm
    · have further : next < seq ↔ next + 1 < seq := by omega
      simp [further]

theorem receive_turn (framed : Framed id parts packets) {delivered : List Nat}
    (sorted : Sorted parts packets delivered next stream) (found : packets[next]? = some packet)
    (more : next ≤ parts.length) :
    ∃ rest, stream.receive packet =
        ⟨rest, if next + 1 ∈ delivered then packets[next + 1]? else none, next == 0, false⟩ ∧
      Sorted parts packets delivered (next + 1) rest := by
  have numbered := (framed.named next packet found).2
  have continues := framed.opened next packet found more
  have onTime : stream.tooEarly packet = false := by
    simp [Stream.tooEarly, numbered, sorted.prevSeq]
  cases next with
  | zero =>
    -- The first packet only opens the stream.
    obtain ⟨pool, taken, stored⟩ := takeNext_sorted 0
      { stream with prevSeq := some 0 } rfl sorted.pool
    refine ⟨_, by simp [Stream.receive, onTime, numbered, taken]; rfl, rfl, ?_, stored⟩
    simpa using sorted.events
  | succ next =>
    have part := framed.part next packet found (by omega)
    have inside : next < parts.length := by omega
    rw [List.getElem?_eq_getElem inside] at part
    obtain ⟨pool, taken, stored⟩ := takeNext_sorted (next + 1)
      { stream with
        prevSeq := some ((next : Int) + 1)
        events := stream.events ++ [.write parts[next]] } rfl sorted.pool
    refine ⟨_, by simp [Stream.receive, onTime, numbered, continues, part, taken]; rfl, by simp, ?_,
      stored⟩
    have grown : parts.take (next + 1) = parts.take next ++ [parts[next]] := by
      rw [List.take_add_one, List.getElem?_eq_getElem inside]
      rfl
    simp only [sorted.events, Nat.add_sub_cancel, grown, List.map_append, List.map_cons,
      List.map_nil]

theorem receive_closing (framed : Framed id parts packets) {delivered : List Nat}
    (sorted : Sorted parts packets delivered (parts.length + 1) stream)
    (bound : ∀ seq ∈ delivered, seq < packets.length)
    (found : packets[parts.length + 1]? = some packet) :
    ∃ done, stream.receive packet = ⟨done, none, false, true⟩ ∧
      (∀ seq, done.pool.get seq = none) ∧
      done.events = (parts.map fun part => .write part) ++ ending packets ∧
      done.prevSeq = some ((parts.length : Int) + 1) := by
  have numbered := (framed.named _ packet found).2
  have closes := framed.closing packet found
  have last : packets.getLast? = some packet := by
    rw [List.getLast?_eq_getElem?, framed.length]
    exact found
  have onTime : stream.tooEarly packet = false := by
    simp [Stream.tooEarly, numbered, sorted.prevSeq]
  refine ⟨_, by simp [Stream.receive, onTime, numbered, closes]; rfl, ?_, ?_, rfl⟩
  · intro seq
    -- Nothing is behind the closing packet.
    have last (member : seq ∈ delivered) : ¬ parts.length + 1 < seq := by
      have inside := bound seq member
      rw [framed.length] at inside
      omega
    rw [sorted.pool, if_neg fun both => last both.1 both.2]
  · simp [sorted.events, ending, last]

end Sorting

section Schedules

variable {side : Side} {packets : List (Packet ι α)}

/-- A schedule at the receiver: packets arrive, and in between callbacks run. -/
def Side.inputs (side : Side) (schedule : List (Option (Packet ι α))) :
    List (Transit.Input ι α) :=
  schedule.map fun
    | some packet => .deliver side packet
    | none => .immediate

theorem schedule_run {step : Transit ι α → Transit.Input ι α → Transit ι α}
    {invariant : List Nat → Nat → Transit ι α → Prop}
    (deliver : ∀ {delivered next transit seq packet}, invariant delivered next transit →
      packets[seq]? = some packet → seq ∉ delivered →
      ∃ next', invariant (seq :: delivered) next' (step transit (.deliver side packet)))
    (immediate : ∀ {delivered next transit}, invariant delivered next transit →
      (transit.immediates = [] ∧ step transit .immediate = transit) ∨
        invariant delivered (next + 1) (step transit .immediate))
    (schedule : List (Option (Packet ι α))) {delivered : List Nat} {next : Nat}
    {transit : Transit ι α} (held : invariant delivered next transit) (numbers : List Nat)
    (numbered : schedule.reduceOption.map some = numbers.map (packets[·]?))
    (distinct : (numbers ++ delivered).Nodup) :
    ∃ next', invariant (numbers.reverse ++ delivered) next'
      (Base.run step transit (side.inputs schedule)) := by
  -- The numbers of the packets to come are consumed along with them.
  induction schedule generalizing delivered next transit numbers with
  | nil =>
    obtain rfl : numbers = [] := by
      cases numbers with
      | nil => rfl
      | cons => simp at numbered
    exact ⟨next, held⟩
  | cons event rest ih =>
    cases event with
    | none =>
      rcases immediate held with ⟨_, unchanged⟩ | moved
      · have same := ih held numbers (by simpa using numbered) distinct
        simpa only [Side.inputs, List.map_cons, Base.run, unchanged] using same
      · exact ih moved numbers (by simpa using numbered) distinct
    | some packet =>
      cases numbers with
      | nil => simp at numbered
      | cons seq others =>
        simp only [List.reduceOption_cons_of_some, List.map_cons, List.cons.injEq] at numbered
        simp only [List.cons_append, List.nodup_cons, List.mem_append, not_or] at distinct
        obtain ⟨_, after⟩ := deliver held numbered.1.symm distinct.1.2
        obtain ⟨final, done⟩ := ih after others numbered.2 (by
          rw [List.nodup_middle, List.nodup_cons, List.mem_append, not_or]
          exact distinct)
        exact ⟨final, by simpa [Side.inputs, Base.run] using done⟩

theorem schedule_drain {step : Transit ι α → Transit.Input ι α → Transit ι α}
    {invariant : Nat → Transit ι α → Prop} {length : Nat}
    (past : ∀ {next transit}, invariant next transit → length ≤ next → transit.immediates = [])
    (immediate : ∀ {next transit}, invariant next transit →
      (transit.immediates = [] ∧ step transit .immediate = transit) ∨
        invariant (next + 1) (step transit .immediate))
    (turns : Nat) {next : Nat} {transit : Transit ι α} (held : invariant next transit)
    (enough : length ≤ next + turns) :
    (Base.run step transit (List.replicate turns .immediate)).immediates = [] := by
  induction turns generalizing next transit with
  | zero => exact past held enough
  | succ turns ih =>
    rw [List.replicate_succ, Base.run]
    rcases immediate held with ⟨idle, unchanged⟩ | moved
    · -- Without a callback nothing changes any more.
      have still (count : Nat) :
          Base.run step transit (List.replicate count .immediate) = transit := by
        induction count with
        | zero => rfl
        | succ count stays => rw [List.replicate_succ, Base.run, unchanged, stays]
      rw [unchanged, still, idle]
    · exact ih moved (by omega)

end Schedules

section Receiver

variable [DecidableEq ι]

/-- The stream that is pending for an id at a side. -/
def Transit.pendingStream (transit : Transit ι α) (side : Side) (id : ι) : Option Nat :=
  match side with
  | .request => (transit.pendingReqStreams.get id).map Prod.snd
  | .response => transit.pendingResStreams.get id

/-- The stream among the answers, if it is one. -/
def Answer.ref : Answer α → Option Nat
  | .stream ref => some ref
  | _ => none

/-- What was handed out at a side: to action handlers, or to the callers of pending requests. -/
def Transit.handouts (transit : Transit ι α) : Side → List (ι × Option Nat)
  | .request => transit.calls
  | .response => transit.answers.map fun answer => (answer.1, answer.2.ref)

/-- A response is only looked at while its request is pending. -/
def Transit.Awaits (transit : Transit ι α) (side : Side) (id : ι) : Prop :=
  side = .response → (transit.pendingRequests.get id).isSome = true

/-- The transit after a stream was created for a packet. -/
def Transit.opened (transit : Transit ι α) (side : Side) (packet : Packet ι α) : Transit ι α :=
  match side with
  | .request => { transit with
      streams := transit.streams ++ [.new]
      pendingReqStreams :=
        transit.pendingReqStreams.set packet.id (packet.sender, transit.streams.length) }
  | .response => { transit with
      streams := transit.streams ++ [.new]
      pendingResStreams := transit.pendingResStreams.set packet.id transit.streams.length }

variable {transit : Transit ι α} {packet : Packet ι α} {next : Nat} {stream : Stream ι α}
  {seq : Nat}

theorem handle_unknown {side : Side} (awaited : transit.Awaits side packet.id)
    (typed : packet.stream.isSome = true) (part : Transit.isPlain packet = false)
    (unknown : transit.pendingStream side packet.id = none) :
    transit.handle side packet = (transit.opened side packet).handle side packet := by
  cases side with
  | request =>
    have absent : transit.pendingReqStreams.get packet.id = none := by
      simpa [Transit.pendingStream] using unknown
    simp [Transit.handle, Transit.requestHandler, Transit.handleIncomingRequestStream, typed, part,
      absent, Transit.opened, OrderedMap.get_set]
  | response =>
    have absent : transit.pendingResStreams.get packet.id = none := unknown
    obtain ⟨node, waiting⟩ := Option.isSome_iff_exists.mp (awaited rfl)
    simp [Transit.handle, Transit.responseHandler, Transit.handleIncomingResponseStream, typed,
      part, absent, Transit.opened, OrderedMap.get_set, waiting]

/-- The effect of a packet whose stream is pending. -/
structure Handled (side : Side) (id : ι) (old : List (Stream ι α)) (received : Received ι α)
    (before after : Transit ι α) : Prop where
  streams : after.streams = old ++ [received.stream]
  immediates : after.immediates = before.immediates ++ received.next.toList.map (side, ·)
  pending : after.pendingStream side id = if received.closed then none else some old.length
  handouts : after.handouts side =
    before.handouts side ++ if received.first then [(id, some old.length)] else []
  awaits : received.closed = false → after.Awaits side id

/-- Both handlers treat a packet of a pending stream alike. -/
theorem handle_known {side : Side} {old : List (Stream ι α)} {received : Received ι α}
    (awaited : transit.Awaits side packet.id) (typed : packet.stream.isSome = true)
    (known : transit.pendingStream side packet.id = some old.length)
    (heap : transit.streams = old ++ [stream]) (got : stream.receive packet = received)
    (exclusive : received.closed = true → received.first = false) :
    Handled side packet.id old received transit (transit.handle side packet) := by
  have located : transit.streams.getD old.length .new = stream := by simp [heap]
  have replaced : transit.streams.set old.length received.stream = old ++ [received.stream] := by
    simp [heap]
  cases side with
  | request =>
    obtain ⟨⟨sender, ref⟩, entry, same⟩ := Option.map_eq_some_iff.mp known
    simp only at same
    subst same
    have accepted : transit.accept .request old.length packet =
        ({ transit with
            streams := old ++ [received.stream]
            immediates := transit.immediates ++ received.next.toList.map (.request, ·) },
          received) := by
      simp only [Transit.accept, located, got, replaced]
    simp only [Transit.handle, Transit.requestHandler, typed, if_true,
      Transit.handleIncomingRequestStream, entry, Transit.continueRequestStream, accepted]
    cases closed : received.closed with
    | true =>
      simp only [if_true]
      refine ⟨rfl, rfl, ?_, ?_, by simp [closed]⟩
      · simp [Transit.pendingStream, OrderedMap.get_delete, closed]
      · simp [Transit.handouts, exclusive closed]
    | false =>
      cases first : received.first with
      | true =>
        refine ⟨rfl, rfl, ?_, ?_, fun _ side => by cases side⟩
        · simp [Transit.pendingStream, entry, closed]
        · simp [Transit.handouts, first]
      | false =>
        refine ⟨rfl, rfl, ?_, ?_, fun _ side => by cases side⟩
        · simp [Transit.pendingStream, entry, closed]
        · simp [Transit.handouts, first]
  | response =>
    obtain ⟨node, waiting⟩ := Option.isSome_iff_exists.mp (awaited rfl)
    have entry : transit.pendingResStreams.get packet.id = some old.length := known
    have accepted : transit.accept .response old.length packet =
        ({ transit with
            streams := old ++ [received.stream]
            immediates := transit.immediates ++ received.next.toList.map (.response, ·) },
          received) := by
      simp only [Transit.accept, located, got, replaced]
    simp only [Transit.handle, Transit.responseHandler, waiting, typed, if_true,
      Transit.handleIncomingResponseStream, entry, Transit.continueResponseStream, accepted,
      Option.getD_some]
    cases closed : received.closed with
    | true =>
      refine ⟨?_, ?_, ?_, ?_, by simp [closed]⟩ <;>
        simp [exclusive closed, Transit.removePendingRequest, Transit.pendingStream,
          OrderedMap.get_delete, closed, Transit.handouts]
    | false =>
      cases first : received.first <;>
        refine ⟨?_, ?_, ?_, ?_, fun _ _ => ?_⟩ <;>
        simp [Transit.pendingStream, entry, closed, Transit.handouts, first, Answer.ref, waiting]

/-- How far a stream has come: not begun, under way, or done. -/
inductive Phase (side : Side) (id : ι) (parts : List (Chunk α)) (packets : List (Packet ι α))
    (start : Transit ι α) (delivered : List Nat) (next : Nat) (transit : Transit ι α) : Prop where
  | waiting (nothing : delivered = []) (first : next = 0)
    (streams : transit.streams = start.streams)
      (pending : transit.pendingStream side id = none) (awaits : transit.Awaits side id)
  | running (stream : Stream ι α) (more : next ≤ parts.length + 1)
      (streams : transit.streams = start.streams ++ [stream])
      (pending : transit.pendingStream side id = some start.streams.length)
      (awaits : transit.Awaits side id)
      (sorted : Sorted parts packets delivered next stream)
  | done (stream : Stream ι α) (last : next = parts.length + 2)
      (streams : transit.streams = start.streams ++ [stream])
      (pending : transit.pendingStream side id = none)
      (events : stream.events = (parts.map fun part => .write part) ++ ending packets)
      (pool : ∀ seq, stream.pool.get seq = none)

/-- The state of a receiver that got some packets of a stream and has processed those before
`next`: when the packet `next` is there, a callback for it is scheduled. -/
structure Progress (side : Side) (id : ι) (parts : List (Chunk α)) (packets : List (Packet ι α))
    (start : Transit ι α) (delivered : List Nat) (next : Nat) (transit : Transit ι α) : Prop where
  below : ∀ seq < next, seq ∈ delivered
  bound : ∀ seq ∈ delivered, seq < packets.length
  immediates : transit.immediates =
    if next ∈ delivered then packets[next]?.toList.map (side, ·) else []
  handouts : transit.handouts side =
    start.handouts side ++ if 0 < next then [(id, some start.streams.length)] else []
  phase : Phase side id parts packets start delivered next transit

variable {side : Side} {id : ι} {parts : List (Chunk α)} {packets : List (Packet ι α)}
  {start : Transit ι α}

theorem Progress.process (framed : Framed id parts packets) {delivered : List Nat}
    (below : ∀ seq < next, seq ∈ delivered) (present : next ∈ delivered)
    (bound : ∀ seq ∈ delivered, seq < packets.length) (idle : transit.immediates = [])
    (handouts : transit.handouts side =
      start.handouts side ++ if 0 < next then [(id, some start.streams.length)] else [])
    (streams : transit.streams = start.streams ++ [stream])
    (pending : transit.pendingStream side id = some start.streams.length)
    (awaits : transit.Awaits side id) (sorted : Sorted parts packets delivered next stream)
    (found : packets[next]? = some packet) :
    Progress side id parts packets start delivered (next + 1) (transit.handle side packet) := by
  have named := (framed.named next packet found).1
  have typed := (framed.typed found).1
  have inside := bound next present
  rw [framed.length] at inside
  have below' : ∀ seq < next + 1, seq ∈ delivered := by
    intro seq lower
    rcases Nat.lt_succ_iff_lt_or_eq.mp lower with less | rfl
    · exact below seq less
    · exact present
  subst named
  rcases Nat.lt_or_ge parts.length next with closing | more
  · -- The closing packet is the last one.
    obtain rfl : next = parts.length + 1 := by omega
    obtain ⟨finished, got, empty, events, _⟩ := receive_closing framed sorted bound found
    obtain ⟨streams', immediates', pending', handouts', _⟩ :=
      handle_known awaits typed pending streams got (by simp)
    refine ⟨below', bound, ?_, ?_, .done finished rfl streams' pending' events empty⟩
    · have behind : parts.length + 1 + 1 ∉ delivered := by
        intro member
        have := bound _ member
        rw [framed.length] at this
        omega
      simpa [idle, behind] using immediates'
    · simpa [handouts] using handouts'
  · obtain ⟨rest, got, sorted'⟩ := receive_turn framed sorted found more
    obtain ⟨streams', immediates', pending', handouts', awaits'⟩ :=
      handle_known awaits typed pending streams got (by simp)
    refine ⟨below', bound, ?_, ?_,
      .running rest (by omega) streams' pending' (awaits' rfl) sorted'⟩
    · rw [immediates', idle]
      split <;> simp
    · rw [handouts', handouts]
      cases next <;> simp

theorem Progress.delivered {delivered : List Nat}
    (progress : Progress side id parts packets start delivered next transit)
    (found : packets[seq]? = some packet) :
    (∀ other < next, other ∈ seq :: delivered) ∧
      ∀ other ∈ seq :: delivered, other < packets.length := by
  refine ⟨fun other lower => List.mem_cons_of_mem _ (progress.below other lower), ?_⟩
  intro other member
  rcases List.mem_cons.mp member with rfl | old
  · exact (List.getElem?_eq_some_iff.mp found).1
  · exact progress.bound other old

theorem Progress.deliver_early (framed : Framed id parts packets) {delivered : List Nat}
    (progress : Progress side id parts packets start delivered next transit)
    (more : next ≤ parts.length + 1) (streams : transit.streams = start.streams ++ [stream])
    (pending : transit.pendingStream side id = some start.streams.length)
    (awaits : transit.Awaits side id) (sorted : Sorted parts packets delivered next stream)
    (found : packets[seq]? = some packet) (early : next < seq) :
    Progress side id parts packets start (seq :: delivered) next (transit.handle side packet) := by
  obtain ⟨below, bound⟩ := progress.delivered found
  obtain ⟨stored, got, sorted'⟩ := receive_early framed sorted found early
  obtain ⟨named, _⟩ := framed.named seq packet found
  subst named
  obtain ⟨streams', immediates', pending', handouts', awaits'⟩ :=
    handle_known awaits (framed.typed found).1 pending streams got (by simp)
  refine ⟨below, bound, ?_, ?_, .running stored more streams' pending' (awaits' rfl) sorted'⟩
  · rw [immediates', progress.immediates]
    simp [Nat.ne_of_lt early]
  · rw [handouts', progress.handouts]
    simp

theorem Progress.deliver_running (framed : Framed id parts packets) {delivered : List Nat}
    (progress : Progress side id parts packets start delivered next transit)
    (more : next ≤ parts.length + 1) (streams : transit.streams = start.streams ++ [stream])
    (pending : transit.pendingStream side id = some start.streams.length)
    (awaits : transit.Awaits side id) (sorted : Sorted parts packets delivered next stream)
    (found : packets[seq]? = some packet) (new : seq ∉ delivered) :
    Progress side id parts packets start (seq :: delivered)
      (if seq = next then next + 1 else next) (transit.handle side packet) := by
  rcases Nat.lt_trichotomy seq next with behind | rfl | early
  · exact absurd (progress.below seq behind) new
  · -- It is the turn of this packet, so nothing was scheduled.
    obtain ⟨below, bound⟩ := progress.delivered found
    have idle : transit.immediates = [] := by rw [progress.immediates, if_neg new]
    rw [if_pos rfl]
    exact .process framed below List.mem_cons_self bound idle progress.handouts streams pending
      awaits sorted.arrived found
  · rw [if_neg (Nat.ne_of_gt early)]
    exact progress.deliver_early framed more streams pending awaits sorted found early

theorem Progress.opened {transit : Transit ι α} {packet : Packet ι α}
    (progress : Progress side packet.id parts packets start [] 0 transit)
    (streams : transit.streams = start.streams) (awaits : transit.Awaits side packet.id) :
    Progress side packet.id parts packets start [] 0 (transit.opened side packet) ∧
      (transit.opened side packet).streams = start.streams ++ [.new] ∧
      (transit.opened side packet).pendingStream side packet.id = some start.streams.length ∧
      (transit.opened side packet).Awaits side packet.id ∧ Sorted parts packets [] 0 .new := by
  have pending' : (transit.opened side packet).pendingStream side packet.id
      = some start.streams.length := by
    cases side <;> simp [Transit.opened, Transit.pendingStream, OrderedMap.get_set, streams]
  have streams' : (transit.opened side packet).streams = start.streams ++ [.new] := by
    cases side <;> simp [Transit.opened, streams]
  have awaits' : (transit.opened side packet).Awaits side packet.id := by
    cases side <;> exact awaits
  have sorted : Sorted parts packets [] 0 .new := ⟨rfl, by simp [Stream.new], by simp [Stream.new]⟩
  refine ⟨⟨progress.below, progress.bound, ?_, ?_,
    .running .new (by omega) streams' pending' awaits' sorted⟩, streams', pending', awaits', sorted⟩
  · rw [← progress.immediates]
    cases side <;> rfl
  · rw [← progress.handouts]
    cases side <;> rfl

theorem Progress.deliver (framed : Framed id parts packets) {delivered : List Nat}
    (progress : Progress side id parts packets start delivered next transit)
    (found : packets[seq]? = some packet) (new : seq ∉ delivered) :
    Progress side id parts packets start (seq :: delivered)
      (if seq = next then next + 1 else next) (transit.handle side packet) := by
  cases progress.phase with
  | running stream more streams pending awaits sorted =>
    exact progress.deliver_running framed more streams pending awaits sorted found new
  | done stream last =>
    -- All packets have been delivered.
    have bound := (List.getElem?_eq_some_iff.mp found).1
    rw [framed.length] at bound
    exact absurd (progress.below seq (by omega)) new
  | waiting nothing first streams pending awaits =>
    subst nothing first
    obtain ⟨typed, part⟩ := framed.typed found
    obtain ⟨named, _⟩ := framed.named seq packet found
    subst named
    rw [handle_unknown awaits typed part pending]
    obtain ⟨opened, streams, pending, awaits, sorted⟩ := progress.opened streams awaits
    exact opened.deliver_running framed (by omega) streams pending awaits sorted found new

theorem Progress.immediate (framed : Framed id parts packets) {delivered : List Nat}
    (progress : Progress side id parts packets start delivered next transit) :
    (transit.immediates = [] ∧ transit.step .immediate = transit) ∨
      Progress side id parts packets start delivered (next + 1) (transit.step .immediate) := by
  by_cases scheduled : next ∈ delivered
  · right
    have inside := progress.bound next scheduled
    have found := List.getElem?_eq_getElem inside
    have queue : transit.immediates = [(side, packets[next])] := by
      rw [progress.immediates, if_pos scheduled, found]
      rfl
    simp only [Transit.step, queue]
    cases progress.phase with
    | waiting nothing => simp [nothing] at scheduled
    | done stream last => rw [framed.length] at inside; omega
    | running stream more streams pending awaits sorted =>
      exact .process framed progress.below scheduled progress.bound rfl
        (by rw [← progress.handouts]; cases side <;> rfl) streams
        (by rw [← pending]; cases side <;> rfl) awaits sorted found
  · left
    have idle : transit.immediates = [] := by rw [progress.immediates, if_neg scheduled]
    exact ⟨idle, by simp [Transit.step, idle]⟩

theorem Progress.run (framed : Framed id parts packets) (schedule : List (Option (Packet ι α)))
    {delivered : List Nat} (progress : Progress side id parts packets start delivered next transit)
    (numbers : List Nat) (numbered : schedule.reduceOption.map some = numbers.map (packets[·]?))
    (distinct : (numbers ++ delivered).Nodup) :
    ∃ next', Progress side id parts packets start (numbers.reverse ++ delivered) next'
      (Base.run Transit.step transit (side.inputs schedule)) :=
  schedule_run (fun progress found new => ⟨_, progress.deliver framed found new⟩)
    (fun progress => progress.immediate framed) schedule progress numbers numbered distinct

theorem Progress.past {delivered : List Nat}
    (progress : Progress side id parts packets start delivered next transit)
    (past : packets.length ≤ next) : transit.immediates = [] := by
  have absent : next ∉ delivered := fun member => by
    have := progress.bound next member
    omega
  rw [progress.immediates, if_neg absent]

theorem Progress.drain (framed : Framed id parts packets) (turns : Nat) {delivered : List Nat}
    (progress : Progress side id parts packets start delivered next transit)
    (enough : packets.length ≤ next + turns) :
    (Base.run Transit.step transit (List.replicate turns .immediate)).immediates = [] :=
  schedule_drain (fun progress => progress.past) (fun progress => progress.immediate framed) turns
    progress enough

theorem Progress.beyond {delivered : List Nat}
    (progress : Progress side id parts packets start delivered next transit)
    (all : ∀ seq < packets.length, seq ∈ delivered) (finished : transit.immediates = []) :
    packets.length ≤ next := by
  by_contra inside
  rw [Nat.not_le] at inside
  rw [progress.immediates, if_pos (all next inside), List.getElem?_eq_getElem inside] at finished
  cases finished

theorem Progress.complete (framed : Framed id parts packets) {delivered : List Nat}
    (progress : Progress side id parts packets start delivered next transit)
    (all : ∀ seq < packets.length, seq ∈ delivered) (finished : transit.immediates = []) :
    ∃ stream, transit.streams = start.streams ++ [stream] ∧
      transit.pendingStream side id = none ∧
      stream.events = (parts.map fun part => .write part) ++ ending packets ∧
      (∀ seq, stream.pool.get seq = none) ∧
      transit.handouts side = start.handouts side ++ [(id, some start.streams.length)] := by
  have beyond := progress.beyond all finished
  rw [framed.length] at beyond
  have handed := progress.handouts
  cases progress.phase with
  | waiting nothing first => omega
  | running stream more => omega
  | done stream last streams pending events pool =>
    rw [if_pos (by omega)] at handed
    exact ⟨stream, streams, pending, events, pool, handed⟩

/-- A stream without objects that pass for a `Buffer` and whose packets arrive once each, in any
order and with callbacks in between, is handed out once, gets the content of its source in order, is
ended once at the end, and leaves neither stored packets nor a pending entry, as soon as no callback
is left. -/
theorem stream_transfer (side : Side) (serializer : Serializer) (maxChunkSize : Nat) (id : ι)
    (sender : String) (params : Wire α) (source : List (Chunk α))
    (plain : ∀ chunk ∈ source, chunk.Plain) (start : Transit ι α)
    (unknown : start.pendingStream side id = none) (awaited : start.Awaits side id)
    (idle : start.immediates = []) (schedule : List (Option (Packet ι α)))
    (delivers : schedule.reduceOption.Perm
      (side.packets serializer maxChunkSize id sender params source)) :
    ((run Transit.step start (side.inputs schedule)).immediates = [] →
      ∃ (stream : Stream ι α) (written : List (Chunk α)),
        (run Transit.step start (side.inputs schedule)).streams = start.streams ++ [stream] ∧
        (run Transit.step start (side.inputs schedule)).handouts side =
          start.handouts side ++ [(id, some start.streams.length)] ∧
        stream.events = (written.map fun chunk => .write chunk) ++ [.finish] ∧
        written.flatMap Chunk.content = source.flatMap Chunk.content ∧
        stream.pool.entries = [] ∧
        (run Transit.step start (side.inputs schedule)).pendingStream side id = none) ∧
    (run Transit.step (run Transit.step start (side.inputs schedule))
      (List.replicate (side.packets serializer maxChunkSize id sender params source).length
        .immediate)).immediates = [] := by
  have framed : Framed id (pieces maxChunkSize source)
      (side.packets serializer maxChunkSize id sender params source) := by
    cases side <;> exact framed_sendChunks serializer maxChunkSize id sender _ plain
  have ends : ending (side.packets serializer maxChunkSize id sender params source) =
      [.finish] := by
    cases side <;> exact ending_sendChunks serializer maxChunkSize id sender _ source
  generalize side.packets serializer maxChunkSize id sender params source = packets at *
  obtain ⟨numbered, order⟩ := framed.arrival delivers
  have begin : Progress side id (pieces maxChunkSize source) packets start [] 0 start :=
    ⟨by simp, by simp, by simpa using idle, by simp, .waiting rfl rfl rfl unknown awaited⟩
  obtain ⟨next, progress⟩ := begin.run framed schedule _ numbered (by
    rw [List.append_nil]
    exact order.nodup_iff.mpr List.nodup_range)
  refine ⟨fun finished => ?_, progress.drain framed _ (Nat.le_add_left _ _)⟩
  have all : ∀ seq < packets.length, seq ∈ (schedule.reduceOption.map fun packet =>
      packet.seq.getD 0).reverse ++ [] := by
    intro seq inside
    rw [List.append_nil, List.mem_reverse]
    exact order.mem_iff.mpr (List.mem_range.mpr inside)
  obtain ⟨stream, streams, pending, events, pool, handed⟩ :=
    progress.complete framed all finished
  rw [ends] at events
  exact ⟨stream, _, streams, handed, events, pieces_content maxChunkSize source,
    OrderedMap.entries_eq_nil_of_get pool, pending⟩

end Receiver

/-- A transit that waits for the response to one request. -/
def awaitingOne : Transit Nat String :=
  ⟨[], OrderedMap.empty.set 7 "node-2", .empty, .empty, [], [], []⟩

theorem stream_transfer_reversed :
    ∃ (stream : Stream Nat String) (written : List (Chunk String)),
      stream.events = (written.map fun chunk => .write chunk) ++ [.finish] ∧
      written.flatMap Chunk.content = [.inl 1, .inl 2, .inr "end"] ∧ stream.pool.entries = [] := by
  have transferred := stream_transfer .response .text 8 7 "node-2" .null
    [.buffer [1, 2], .other "end"] (by simp [Chunk.Plain]) awaitingOne rfl (fun _ => rfl) rfl
    ((responsePackets .text 8 7 "node-2" [.buffer [1, 2], .other "end"]).reverse.map some ++
      List.replicate 4 none) (by decide)
  obtain ⟨stream, written, _, _, events, content, empty, _⟩ := transferred.1 (by decide)
  exact ⟨stream, written, events, content, empty⟩

/-- What was written to the streams of the two handlers, and whether an entry is left, when the
packets of a source of one chunk arrive in some order. -/
def arrivals (chunk : Chunk String) (order : List Nat) :
    List (List (List (StreamEvent String)) × Bool) :=
  [Side.request, .response].map fun side =>
    let after := run Transit.step awaitingOne (side.inputs (order.map fun seq =>
      (side.packets .binary 8 7 "node-2" .null [chunk])[seq]?))
    (after.streams.map Stream.events, (after.pendingStream side 7).isSome)

/-- An object that passes for a `Buffer` arrives as one. An object without data is lost, and if the
closing packet comes before it, the stream is not ended and its entry stays. -/
theorem typed_object_not_transferred :
    arrivals (.typed "object" (some [1, 2])) [0, 1, 2] =
      List.replicate 2 ([[.write (.buffer [1, 2]), .finish]], false) ∧
    arrivals (.typed "object" none) [0, 2, 1] = List.replicate 2 ([[]], true) := by
  decide

end Moleculer.Streams
