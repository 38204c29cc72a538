import Moleculer.Transit.StreamsLaws

/-! A node that handles streams whose source may fail and to whose errors nobody may listen. -/

namespace Moleculer.Streams

open Base

section Sources

variable {ι α : Type}

/-- A source that fails sends its error along with the packet that closes the stream. -/
def Packet.closedBy (failure : Option String) (packet : Packet ι α) : Packet ι α :=
  if packet.stream = some true then packet else { packet with error := failure }

variable (failure : Option String) (packet : Packet ι α)

@[simp] theorem Packet.closedBy_id : (packet.closedBy failure).id = packet.id := by
  unfold closedBy
  split <;> rfl

@[simp] theorem Packet.closedBy_seq : (packet.closedBy failure).seq = packet.seq := by
  unfold closedBy
  split <;> rfl

@[simp] theorem Packet.closedBy_stream : (packet.closedBy failure).stream = packet.stream := by
  unfold closedBy
  split <;> rfl

@[simp] theorem Packet.closedBy_data : (packet.closedBy failure).data = packet.data := by
  unfold closedBy
  split <;> rfl

variable {id : ι} {parts : List (Chunk α)} {packets : List (Packet ι α)}

theorem Framed.closedBy (framed : Framed id parts packets) :
    Framed id parts (packets.map (Packet.closedBy failure)) := by
  -- The error is in none of the fields that number and frame the packets.
  have origin {seq : Nat} {packet : Packet ι α}
      (found : (packets.map (Packet.closedBy failure))[seq]? = some packet) :
      ∃ sent, packets[seq]? = some sent ∧ sent.closedBy failure = packet := by
    rwa [List.getElem?_map, Option.map_eq_some_iff] at found
  refine ⟨by rw [List.length_map, framed.length], ?_, ?_, ?_, ?_⟩
  · intro seq packet found
    obtain ⟨sent, located, rfl⟩ := origin found
    simpa using framed.named seq sent located
  · intro seq packet found inside
    obtain ⟨sent, located, rfl⟩ := origin found
    simpa using framed.opened seq sent located inside
  · intro seq packet found inside
    obtain ⟨sent, located, rfl⟩ := origin found
    simpa using framed.part seq sent located inside
  · intro packet found
    obtain ⟨sent, located, rfl⟩ := origin found
    simpa using framed.closing sent located

theorem Framed.closedBy_error (framed : Framed id parts packets) {closing : Packet ι α}
    (found : (packets.map (Packet.closedBy failure))[parts.length + 1]? = some closing) :
    closing.error = failure := by
  rw [List.getElem?_map, Option.map_eq_some_iff] at found
  obtain ⟨sent, located, rfl⟩ := found
  rw [Packet.closedBy, framed.closing sent located, if_neg (by decide)]

/-- Nobody listens when the stream fails. -/
def Unheard (listens : ι → Bool) (id : ι) (packets : List (Packet ι α)) : Prop :=
  listens id = false ∧ ∃ closing, packets.getLast? = some closing ∧ closing.error.isSome = true

theorem Framed.unheard_iff (framed : Framed id parts packets) (failure : Option String)
    (listens : ι → Bool) : Unheard listens id (packets.map (Packet.closedBy failure)) ↔
      ¬ (failure = none ∨ listens id = true) := by
  obtain ⟨closing, found⟩ : ∃ closing,
      (packets.map (Packet.closedBy failure))[parts.length + 1]? = some closing := by
    refine ⟨_, List.getElem?_eq_getElem ?_⟩
    rw [List.length_map, framed.length]
    omega
  have last : (packets.map (Packet.closedBy failure)).getLast? = some closing := by
    rw [List.getLast?_eq_getElem?, List.length_map, framed.length]
    exact found
  have error := framed.closedBy_error failure found
  simp [Unheard, last, error, Option.isSome_iff_ne_none, and_comm]

end Sources

variable {ι α : Type} [DecidableEq ι]

/-- Whether a packet makes its stream emit an error. A new stream waits for its first packet, so
only a pending one does. -/
def Transit.emitsError (transit : Transit ι α) (side : Side) (packet : Packet ι α) : Bool :=
  match transit.pendingStream side packet.id with
  | some ref =>
    (side == .request || transit.pendingRequests.has packet.id) && packet.stream == some false &&
      packet.seq.any (0 < ·) && packet.error.isSome &&
      !(transit.streams.getD ref .new).tooEarly packet
  | none => false

/-- A packet is handled up to `stream.emit("error")`, which throws if nobody listens. -/
def Transit.abandon (transit : Transit ι α) (side : Side) (packet : Packet ι α) : Transit ι α :=
  match transit.pendingStream side packet.id with
  | some ref => { transit with
      streams := transit.streams.set ref
        { transit.streams.getD ref .new with prevSeq := packet.seq.map (↑·) } }
  | none => transit

/-- A handler, given whether somebody listens to the errors of the stream. -/
def Transit.handleHeard (transit : Transit ι α) (heard : Bool) (side : Side)
    (packet : Packet ι α) : Transit ι α :=
  if !heard && transit.emitsError side packet then transit.abandon side packet
  else transit.handle side packet

/-- One step of a receiver at which somebody listens to the errors of certain streams. -/
def Transit.stepHeard (listens : ι → Bool) (transit : Transit ι α) :
    Transit.Input ι α → Transit ι α
  | .deliver side packet => transit.handleHeard (listens packet.id) side packet
  | .immediate =>
    match transit.immediates with
    | [] => transit
    | (side, packet) :: rest =>
      handleHeard { transit with immediates := rest } (listens packet.id) side packet

/-- A handler has settled. `wrapActionErrorHandler` removes the pending request of its context if
it has failed and the context came from another node. -/
def Transit.settle (transit : Transit ι α) (nodeID : String) (id : ι) (sender : String)
    (rejected : Bool) : Transit ι α :=
  if rejected ∧ sender ≠ nodeID then transit.removePendingRequest id else transit

/-- What can happen at a node that handles requests. -/
inductive HostInput (ι α : Type) where
  | packet (input : Transit.Input ι α)
  | settled (id : ι) (sender : String) (rejected : Bool)

/-- One step of the node. -/
def hostStep (nodeID : String) (listens : ι → Bool) (transit : Transit ι α) :
    HostInput ι α → Transit ι α
  | .packet input => transit.stepHeard listens input
  | .settled id sender rejected => transit.settle nodeID id sender rejected

theorem run_packets (nodeID : String) (listens : ι → Bool) (transit : Transit ι α)
    (inputs : List (Transit.Input ι α)) :
    run (hostStep nodeID listens) transit (inputs.map .packet) =
      run (Transit.stepHeard listens) transit inputs := by
  induction inputs generalizing transit with
  | nil => rfl
  | cons input rest ih => exact ih (transit.stepHeard listens input)

theorem handleHeard_of_silent {transit : Transit ι α} {heard : Bool} {side : Side}
    {packet : Packet ι α} (silent : heard = true ∨ transit.emitsError side packet = false) :
    transit.handleHeard heard side packet = transit.handle side packet := by
  refine if_neg fun throws => ?_
  rcases silent with listening | silent <;> simp_all

theorem run_idle (listens : ι → Bool) {transit : Transit ι α} (idle : transit.immediates = [])
    (schedule : List (Option (Packet ι α))) (nothing : schedule.reduceOption = []) :
    run (Transit.stepHeard listens) transit (Side.request.inputs schedule) = transit := by
  induction schedule with
  | nil => rfl
  | cons event rest ih =>
    cases event with
    | some packet => simp at nothing
    | none =>
      have unchanged : transit.stepHeard listens .immediate = transit := by
        simp only [Transit.stepHeard, idle]
      show run (Transit.stepHeard listens) (transit.stepHeard listens .immediate)
        (Side.request.inputs rest) = transit
      rw [unchanged]
      exact ih (by simpa using nothing)

section Listeners

variable {id : ι} {parts : List (Chunk α)} {packets : List (Packet ι α)} {start : Transit ι α}

variable {transit : Transit ι α} {delivered : List Nat} {packet : Packet ι α} {next seq : Nat}

theorem Progress.emitsError_iff (framed : Framed id parts packets)
    (progress : Progress .request id parts packets start delivered next transit)
    (found : packets[seq]? = some packet) :
    transit.emitsError .request packet = true ↔
      next = parts.length + 1 ∧ seq = parts.length + 1 ∧ packet.error.isSome = true := by
  obtain ⟨named, numbered⟩ := framed.named seq packet found
  have bound := (List.getElem?_eq_some_iff.mp found).1
  rw [framed.length] at bound
  cases progress.phase with
  | waiting nothing first streams pending =>
    simp [Transit.emitsError, named, pending, first]
  | done stream last streams pending =>
    simp [Transit.emitsError, named, pending, last]
  | running stream more streams pending awaits sorted =>
    -- The packet is the closing one, and its turn has come.
    have closing : packet.stream = some false ↔ seq = parts.length + 1 := by
      constructor
      · intro closes
        by_contra other
        have := framed.opened seq packet found (by omega)
        rw [closes] at this
        cases this
      · rintro rfl
        exact framed.closing packet found
    have turn : stream.tooEarly packet = false ↔ seq ≤ next := by
      simp only [Stream.tooEarly, numbered, sorted.prevSeq, decide_eq_false_iff_not]
      omega
    simp only [Transit.emitsError, named, pending, streams, List.getD_eq_getElem?_getD,
      List.getElem?_concat_length, Option.getD_some, numbered, Option.any_some, Bool.and_eq_true,
      beq_iff_eq, closing, Bool.not_eq_true', turn, decide_eq_true_eq]
    simp only [beq_self_eq_true, Bool.true_or, true_and]
    constructor
    · rintro ⟨⟨⟨last, _⟩, failed⟩, reached⟩
      exact ⟨by omega, last, failed⟩
    · rintro ⟨current, last, failed⟩
      exact ⟨⟨⟨last, by omega⟩, failed⟩, by omega⟩

/-- A stream makes progress until nobody listens to its error, which leaves its entry. -/
inductive Listened (listens : ι → Bool) (id : ι) (parts : List (Chunk α))
    (packets : List (Packet ι α)) (start : Transit ι α) (delivered : List Nat) (next : Nat)
    (transit : Transit ι α) : Prop where
  | going (progress : Progress .request id parts packets start delivered next transit)
      (more : Unheard listens id packets → next ≤ parts.length + 1)
  | abandoned (unheard : Unheard listens id packets) (idle : transit.immediates = [])
      (kept : transit.pendingStream .request id ≠ none)
      (all : ∀ seq < packets.length, seq ∈ delivered)

variable {listens : ι → Bool}

/-- A packet that the stream handles with progress is abandoned if nobody listens to its error. -/
theorem Progress.listened (framed : Framed id parts packets) {reached : List Nat}
    (progress : Progress .request id parts packets start delivered next transit)
    (more : Unheard listens id packets → next ≤ parts.length + 1)
    (found : packets[seq]? = some packet) {queue : List (Side × Packet ι α)}
    (idle : seq = next → queue = []) (included : ∀ other ∈ seq :: delivered, other ∈ reached)
    (after : Progress .request id parts packets start reached
      (if seq = next then next + 1 else next)
      (Transit.handle { transit with immediates := queue } .request packet)) :
    Listened listens id parts packets start reached (if seq = next then next + 1 else next)
      (Transit.handleHeard { transit with immediates := queue } (listens packet.id) .request
        packet) := by
  obtain ⟨named, _⟩ := framed.named seq packet found
  have emits := progress.emitsError_iff framed found
  by_cases throws : listens id = false ∧ transit.emitsError .request packet = true
  · -- The closing packet is the last one to be processed.
    obtain ⟨rfl, rfl, failed⟩ := emits.mp throws.2
    have last : packets.getLast? = some packet := by
      rw [List.getLast?_eq_getElem?, framed.length]
      exact found
    have abandons : Transit.handleHeard { transit with immediates := queue } (listens packet.id)
        .request packet = Transit.abandon { transit with immediates := queue } .request packet := by
      refine if_pos ?_
      rw [named, throws.1]
      exact throws.2
    rw [abandons]
    cases progress.phase with
    | waiting _ first => omega
    | done _ last => omega
    | running stream _ _ pending =>
      have pending : Transit.pendingStream { transit with immediates := queue } .request packet.id =
          some start.streams.length := named ▸ pending
      refine .abandoned ⟨throws.1, packet, last, failed⟩ ?_ ?_ fun other inside => included _ ?_
      · simp only [Transit.abandon, pending]
        exact idle rfl
      · rw [← named]
        simp only [Transit.abandon, pending]
        exact fun gone => by cases gone.symm.trans pending
      · rw [framed.length] at inside
        rcases Nat.lt_or_ge other (parts.length + 1) with below | past
        · exact List.mem_cons_of_mem _ (progress.below other below)
        · obtain rfl : other = parts.length + 1 := by omega
          exact List.mem_cons_self
  · have silent : listens packet.id = true ∨
        Transit.emitsError { transit with immediates := queue } .request packet = false := by
      rw [named]
      by_cases listening : listens id = true
      · exact .inl listening
      · exact .inr (Bool.eq_false_iff.mpr fun emitted =>
          throws ⟨Bool.eq_false_iff.mpr listening, emitted⟩)
    rw [handleHeard_of_silent silent]
    refine .going after fun unheard => ?_
    have still := more unheard
    split
    · -- The closing packet would have thrown.
      rename_i turn
      by_contra beyond
      obtain ⟨closing, last, failed⟩ := unheard.2
      rw [List.getLast?_eq_getElem?, framed.length] at last
      obtain rfl : seq = parts.length + 1 := by omega
      obtain rfl : closing = packet := Option.some.inj (last.symm.trans found)
      exact throws ⟨unheard.1, emits.mpr ⟨by omega, rfl, failed⟩⟩
    · exact still

theorem Listened.deliver (framed : Framed id parts packets)
    (listened : Listened listens id parts packets start delivered next transit)
    (found : packets[seq]? = some packet) (new : seq ∉ delivered) :
    ∃ next', Listened listens id parts packets start (seq :: delivered) next'
      (transit.stepHeard listens (.deliver .request packet)) := by
  cases listened with
  | abandoned _ _ _ all => exact absurd (all seq (List.getElem?_eq_some_iff.mp found).1) new
  | going progress more =>
    have idle (turn : seq = next) : transit.immediates = [] := by
      rw [progress.immediates, if_neg (turn ▸ new)]
    exact ⟨_, progress.listened framed more found idle (fun _ inside => inside)
      (progress.deliver framed found new)⟩

theorem Listened.immediate (framed : Framed id parts packets)
    (listened : Listened listens id parts packets start delivered next transit) :
    (transit.immediates = [] ∧ transit.stepHeard listens .immediate = transit) ∨
      Listened listens id parts packets start delivered (next + 1)
        (transit.stepHeard listens .immediate) := by
  cases listened with
  | abandoned _ idle => exact .inl ⟨idle, by simp only [Transit.stepHeard, idle]⟩
  | going progress more =>
    rcases progress.immediate framed with ⟨idle, _⟩ | moved
    · exact .inl ⟨idle, by simp only [Transit.stepHeard, idle]⟩
    · by_cases scheduled : next ∈ delivered
      · right
        obtain ⟨packet, found⟩ : ∃ packet, packets[next]? = some packet :=
          ⟨_, List.getElem?_eq_getElem (progress.bound next scheduled)⟩
        have queue : transit.immediates = [(.request, packet)] := by
          rw [progress.immediates, if_pos scheduled, found]
          rfl
        have handled : Progress .request id parts packets start delivered
            (if next = next then next + 1 else next)
            (Transit.handle { transit with immediates := [] } .request packet) := by
          simpa only [if_pos, Transit.step, queue] using moved
        have included (other : Nat) (inside : other ∈ next :: delivered) : other ∈ delivered := by
          rcases List.mem_cons.mp inside with rfl | old
          · exact scheduled
          · exact old
        simpa only [if_pos, Transit.stepHeard, queue] using
          progress.listened framed more found (fun _ => rfl) included handled
      · have idle : transit.immediates = [] := by rw [progress.immediates, if_neg scheduled]
        exact .inl ⟨idle, by simp only [Transit.stepHeard, idle]⟩

theorem Listened.run (framed : Framed id parts packets) (schedule : List (Option (Packet ι α)))
    (listened : Listened listens id parts packets start delivered next transit) (numbers : List Nat)
    (numbered : schedule.reduceOption.map some = numbers.map (packets[·]?))
    (distinct : (numbers ++ delivered).Nodup) :
    ∃ next', Listened listens id parts packets start (numbers.reverse ++ delivered) next'
      (Base.run (Transit.stepHeard listens) transit (Side.request.inputs schedule)) :=
  schedule_run (fun listened found new => listened.deliver framed found new)
    (fun listened => listened.immediate framed) schedule listened numbers numbered distinct

theorem Listened.drain (framed : Framed id parts packets) (turns : Nat)
    (listened : Listened listens id parts packets start delivered next transit)
    (enough : packets.length ≤ next + turns) :
    (Base.run (Transit.stepHeard listens) transit
      (List.replicate turns .immediate)).immediates = [] := by
  refine schedule_drain ?_ (fun listened => listened.immediate framed) turns listened enough
  intro next transit listened past
  cases listened with
  | going progress => exact progress.past past
  | abandoned _ idle => exact idle

end Listeners

end Moleculer.Streams
