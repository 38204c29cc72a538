import Moleculer.Tcp.Parser

/-! Framed messages are read back from the byte stream, wherever the stream is cut into chunks. -/

namespace Moleculer.Tcp

theorem readInt32BE_writeInt32BE (first : UInt8) (value : Nat) (back : Bytes)
    (fits : value < 2147483648) :
    readInt32BE (first :: (writeInt32BE value ++ back)) 1 = value := by
  -- Each octet is one base-256 digit of the value, and the sign bit stays clear.
  simp only [readInt32BE, writeInt32BE, List.cons_append, List.nil_append, Nat.add_zero,
    List.getD_cons_succ, List.getD_cons_zero, Nat.reduceAdd, UInt8.toNat_ofNat', Nat.reducePow]
  rw [if_pos (by omega)]
  congr 1
  omega

variable {messages : List (PacketType × Bytes)} {id : UInt8} {maxPacketSize : Option Nat}
  {type : PacketType} {data bytes : Bytes} {frames : List Bytes} {later : Bytes}

theorem resolvePacketType_resolvePacketID (numbered : resolvePacketID type = .ok id) :
    resolvePacketType id = .ok type := by
  -- Only eight types have a number, and the two tables list them in the same order.
  cases type <;> simp only [resolvePacketID, Except.ok.injEq, reduceCtorEq] at numbered <;>
    subst numbered <;> rfl

theorem frame_eq (framed : frame id data = .ok bytes) :
    data.length + HEADER_SIZE < 2147483648 ∧ ∃ crc,
      bytes = crc :: (writeInt32BE (data.length + HEADER_SIZE) ++ (id :: data)) ∧
        ∀ back, headerCrc (bytes ++ back) = crc := by
  unfold frame at framed
  split at framed
  · rename_i fits
    simp only [List.cons_append, List.tail_cons, Except.ok.injEq] at framed
    refine ⟨fits, _, by simpa using framed.symm, fun back => ?_⟩
    -- The checksum covers header positions one to five, which hold the same bytes in both.
    rw [← framed]
    simp [headerCrc, writeInt32BE]
  · simp at framed

theorem frame_length (framed : frame id data = .ok bytes) :
    bytes.length = data.length + HEADER_SIZE := by
  obtain ⟨_, crc, shape, _⟩ := frame_eq framed
  simp [shape, writeInt32BE, HEADER_SIZE]

theorem readInt32BE_frame (framed : frame id data = .ok bytes) (back : Bytes) :
    readInt32BE (bytes ++ back) 1 = bytes.length := by
  obtain ⟨fits, crc, shape, _⟩ := frame_eq framed
  rw [frame_length framed, shape, List.cons_append, List.append_assoc,
    readInt32BE_writeInt32BE _ _ _ fits]

theorem headerCrc_frame (framed : frame id data = .ok bytes) (back : Bytes) :
    headerCrc (bytes ++ back) = (bytes ++ back).getD 0 0 := by
  obtain ⟨_, crc, shape, checked⟩ := frame_eq framed
  rw [checked, shape]
  simp

theorem getD_frame_type (framed : frame id data = .ok bytes) (back : Bytes) :
    (bytes ++ back).getD 5 0 = id := by
  obtain ⟨_, crc, shape, _⟩ := frame_eq framed
  simp [shape, writeInt32BE]

theorem frame_payload (framed : frame id data = .ok bytes) (back : Bytes) :
    ((bytes ++ back).take bytes.length).drop HEADER_SIZE = data := by
  obtain ⟨_, crc, shape, _⟩ := frame_eq framed
  rw [List.take_left]
  simp [shape, writeInt32BE, HEADER_SIZE]

theorem send_eq (sent : send type data = .ok bytes) :
    ∃ id, resolvePacketID type = .ok id ∧ frame id data = .ok bytes := by
  unfold send at sent
  cases numbered : resolvePacketID type with
  | error message => simp [numbered, Bind.bind, Except.bind] at sent
  | ok id => exact ⟨id, rfl, by simpa [numbered, Bind.bind, Except.bind] using sent⟩

theorem sendAll_cons {rest : List (PacketType × Bytes)}
    (sent : sendAll ((type, data) :: rest) = .ok frames) :
    ∃ head tail, send type data = .ok head ∧ sendAll rest = .ok tail ∧ frames = head :: tail := by
  unfold sendAll at sent
  cases first : send type data with
  | error message => simp [first, Bind.bind, Except.bind] at sent
  | ok head =>
    cases others : sendAll rest with
    | error message => simp [first, others, Bind.bind, Except.bind] at sent
    | ok tail =>
      simp [first, others, Bind.bind, Except.bind, Pure.pure, Except.pure] at sent
      exact ⟨head, tail, rfl, rfl, sent.symm⟩

theorem getD_append_left (front back : Bytes) {i : Nat} (within : i < front.length) :
    (front ++ back).getD i 0 = front.getD i 0 := by
  simp [List.getD_eq_getElem?_getD, List.getElem?_append_left within]

theorem readInt32BE_append (packet later : Bytes) (header : HEADER_SIZE ≤ packet.length) :
    readInt32BE (packet ++ later) 1 = readInt32BE packet 1 := by
  simp only [HEADER_SIZE] at header
  simp only [readInt32BE]
  rw [getD_append_left packet later (by omega : 1 + 0 < packet.length),
    getD_append_left packet later (by omega : 1 + 1 < packet.length),
    getD_append_left packet later (by omega : 1 + 2 < packet.length),
    getD_append_left packet later (by omega : 1 + 3 < packet.length)]

theorem headerCrc_append (packet later : Bytes) (header : HEADER_SIZE ≤ packet.length) :
    headerCrc (packet ++ later) = headerCrc packet := by
  simp only [HEADER_SIZE] at header
  simp only [headerCrc]
  rw [getD_append_left packet later (by omega : 1 < packet.length),
    getD_append_left packet later (by omega : 2 < packet.length),
    getD_append_left packet later (by omega : 3 < packet.length),
    getD_append_left packet later (by omega : 4 < packet.length),
    getD_append_left packet later (by omega : 5 < packet.length)]

/-- No buffer up to the given length is refused for its size. -/
def Roomy (maxPacketSize : Option Nat) (length : Nat) : Prop :=
  -- A limit that is absent or zero is never in force.
  ∀ limit, maxPacketSize = some limit → limit = 0 ∨ length ≤ limit

theorem Roomy.not_exceeds {length part : Nat} (room : Roomy maxPacketSize length)
    (within : part ≤ length) :
    exceeds maxPacketSize part = false := by
  cases maxPacketSize with
  | none => rfl
  | some limit =>
    rcases room limit rfl with zero | large
    · simp [exceeds, zero]
    · simp only [exceeds, Bool.and_eq_false_imp, decide_eq_true_eq, decide_eq_false_iff_not]
      intro _
      omega

theorem parseLoop_unfinished {packet : Bytes} {head back : Bytes}
    (framed : frame id data = .ok head) (cut : packet ++ later = head ++ back)
    (partial_ : packet.length < head.length) (room : exceeds maxPacketSize packet.length = false) :
    (parseLoop maxPacketSize packet).emitted = [] ∧
      (parseLoop maxPacketSize packet).outcome = .done ∧
      (parseLoop maxPacketSize packet).retained = packet ∧ ¬ StartsWithFrame packet := by
  rw [parseLoop]
  split
  · rename_i empty
    have none_left : packet = [] := List.length_eq_zero_iff.mp empty
    subst none_left
    simp [Written.retained, StartsWithFrame, HEADER_SIZE]
  split
  · rename_i short
    simp [Written.retained, StartsWithFrame, Nat.not_le.mpr short]
  · rename_i long
    -- The header is complete, so it reads as the header of the frame it was cut from.
    have header : HEADER_SIZE ≤ packet.length := Nat.not_lt.mp long
    have length_eq : readInt32BE packet 1 = head.length := by
      rw [← readInt32BE_append packet later header, cut, readInt32BE_frame framed]
    have crc_eq : headerCrc packet = packet.getD 0 0 := by
      rw [← headerCrc_append packet later header, cut, headerCrc_frame framed, ← cut]
      exact getD_append_left packet later (by simp only [HEADER_SIZE] at header; omega)
    have size := frame_length framed
    rw [if_neg (by simp [room]), if_neg (by simp [crc_eq])]
    simp only [length_eq, if_neg (by omega : ¬ (head.length : Int) < HEADER_SIZE),
      if_neg (by omega : ¬ (head.length : Int) ≤ packet.length)]
    simp only [Written.retained, Option.getD_some, StartsWithFrame, length_eq, true_and]
    omega

theorem parseLoop_frame {head : Bytes} (sent : send type data = .ok head) (packet : Bytes)
    (room : exceeds maxPacketSize (head ++ packet).length = false) :
    parseLoop maxPacketSize (head ++ packet) =
      ⟨(parseLoop maxPacketSize packet).buf,
        (type, data) :: (parseLoop maxPacketSize packet).emitted,
        (parseLoop maxPacketSize packet).outcome⟩ := by
  obtain ⟨id, numbered, framed⟩ := send_eq sent
  have size := frame_length framed
  simp only [HEADER_SIZE] at size
  have total : (head ++ packet).length = head.length + packet.length := List.length_append
  rw [parseLoop, if_neg (by omega), if_neg (by simp only [HEADER_SIZE]; omega),
    if_neg (by rw [room]; exact Bool.false_ne_true),
    if_neg (not_not_intro (headerCrc_frame framed packet))]
  -- The announced length is the frame's own, so exactly the frame is consumed.
  simp only [readInt32BE_frame framed packet, getD_frame_type framed packet,
    resolvePacketType_resolvePacketID numbered, Int.toNat_natCast, frame_payload framed packet,
    List.drop_left]
  rw [if_neg (by simp only [HEADER_SIZE]; omega), if_pos (by omega)]

/-- The messages of a stream cut at any point: those emitted, and the rest that is retained. -/
structure SplitAt (messages : List (PacketType × Bytes)) (later : Bytes) (written : Written) :
    Prop where
  /-- The emitted messages are the first ones and the retained bytes start the next one. -/
  split : ∃ rest frames, messages = written.emitted ++ rest ∧ sendAll rest = .ok frames ∧
    written.retained ++ later = frames.flatten
  regular : written.outcome = .done
  unfinished : ¬ StartsWithFrame written.retained

theorem parseLoop_split {packet : Bytes} (sent : sendAll messages = .ok frames)
    (cut : packet ++ later = frames.flatten) (room : Roomy maxPacketSize packet.length) :
    SplitAt messages later (parseLoop maxPacketSize packet) := by
  -- Each message is either completed by the packet or is the one the packet ends in.
  induction messages generalizing frames packet with
  | nil =>
    simp only [sendAll, Except.ok.injEq] at sent
    subst sent
    simp only [List.flatten_nil, List.append_eq_nil_iff] at cut
    obtain ⟨rfl, rfl⟩ := cut
    rw [parseLoop, if_pos List.length_nil]
    exact ⟨⟨[], [], rfl, rfl, rfl⟩, rfl, by simp [StartsWithFrame, Written.retained, HEADER_SIZE]⟩
  | cons message rest ih =>
    obtain ⟨type, data⟩ := message
    obtain ⟨head, tail, first, others, rfl⟩ := sendAll_cons sent
    simp only [List.flatten_cons] at cut
    by_cases complete : head.length ≤ packet.length
    · -- The packet starts with the whole frame.
      obtain ⟨behind, rfl⟩ : head <+: packet :=
        List.prefix_of_prefix_length_le (List.prefix_append head _)
          (cut ▸ List.prefix_append packet later) complete
      rw [List.append_assoc, List.append_cancel_left_eq] at cut
      have smaller : Roomy maxPacketSize behind.length := by
        intro limit given
        have := room limit given
        simp only [List.length_append] at this
        omega
      have parsed := ih others cut smaller
      obtain ⟨left, frames, messages_eq, sentLeft, kept⟩ := parsed.split
      rw [parseLoop_frame first behind (room.not_exceeds (Nat.le_refl _))]
      exact ⟨⟨left, frames, by simpa using messages_eq, sentLeft, kept⟩,
        parsed.regular, parsed.unfinished⟩
    · obtain ⟨id, _, framed⟩ := send_eq first
      obtain ⟨emitted, outcome, retained, unfinished⟩ := parseLoop_unfinished framed cut
        (by omega) (room.not_exceeds (Nat.le_refl _))
      exact ⟨⟨_, _, by rw [emitted, List.nil_append], sent, by simpa [retained] using cut⟩,
        outcome, by rwa [retained]⟩

theorem parseLoop_retained_le (maxPacketSize : Option Nat) (packet : Bytes) :
    (parseLoop maxPacketSize packet).retained.length ≤ packet.length := by
  -- Only a complete message goes on, with a shorter packet.
  fun_induction parseLoop maxPacketSize packet with
  | case7 packet _ _ _ _ length _ _ _ _ _ rest ih =>
    rw [List.length_drop] at ih
    change rest.retained.length ≤ _
    exact Nat.le_trans ih (Nat.sub_le _ _)
  | _ => simp [Written.retained]

theorem Parser.write_eq (parser : Parser) (chunk : Bytes) :
    parser.write chunk = parseLoop parser.maxPacketSize (parser.buf.getD [] ++ chunk) := by
  unfold Parser.write
  cases parser.buf with
  | none => rfl
  | some kept =>
    by_cases empty : kept.length > 0
    · simp [empty]
    · have : kept = [] := List.length_eq_zero_iff.mp (by omega)
      simp [this]

theorem Parser.feed_split {chunks : List Bytes} (parser : Parser)
    (sent : sendAll messages = .ok frames)
    (cut : parser.buf.getD [] ++ (chunks.flatten ++ later) = frames.flatten)
    (room : Roomy parser.maxPacketSize frames.flatten.length)
    (unfinished : ¬ StartsWithFrame (parser.buf.getD [])) :
    SplitAt messages later (parser.feed chunks) := by
  -- After each chunk the kept bytes start the first message that was not emitted.
  induction chunks generalizing parser messages frames with
  | nil =>
    exact ⟨⟨messages, frames, rfl, sent, by simpa [feed, Written.retained] using cut⟩, rfl,
      unfinished⟩
  | cons chunk rest ih =>
    have cutHere : (parser.buf.getD [] ++ chunk) ++ (rest.flatten ++ later) = frames.flatten := by
      simpa [List.append_assoc] using cut
    have roomHere : Roomy parser.maxPacketSize (parser.buf.getD [] ++ chunk).length := by
      intro limit given
      have lengths := congrArg List.length cutHere
      have := room limit given
      simp only [List.length_append] at lengths ⊢
      omega
    have first := parseLoop_split sent cutHere roomHere
    rw [← Parser.write_eq] at first
    obtain ⟨left, leftFrames, messages_eq, sentLeft, kept⟩ := first.split
    have smaller : Roomy parser.maxPacketSize leftFrames.flatten.length := by
      intro limit given
      have keptLength := congrArg List.length kept
      have wholeLength := congrArg List.length cutHere
      have shorter := parseLoop_retained_le parser.maxPacketSize (parser.buf.getD [] ++ chunk)
      rw [← Parser.write_eq] at shorter
      have := room limit given
      simp only [List.length_append] at keptLength wholeLength shorter
      omega
    have others := ih { parser with buf := (parser.write chunk).buf } sentLeft kept smaller
      first.unfinished
    obtain ⟨rest', restFrames, left_eq, sentRest, restKept⟩ := others.split
    have fed : parser.feed (chunk :: rest) =
        ⟨(Parser.feed { parser with buf := (parser.write chunk).buf } rest).buf,
          (parser.write chunk).emitted ++
            (Parser.feed { parser with buf := (parser.write chunk).buf } rest).emitted,
          (Parser.feed { parser with buf := (parser.write chunk).buf } rest).outcome⟩ := by
      rw [Parser.feed]
      simp only [first.regular]
    rw [fed]
    exact ⟨⟨rest', restFrames, by rw [messages_eq, left_eq, List.append_assoc], sentRest, restKept⟩,
      others.regular, others.unfinished⟩

theorem SplitAt.complete {written : Written} (split : SplitAt messages [] written) :
    written.emitted = messages ∧ written.retained = [] := by
  obtain ⟨rest, frames, messages_eq, sent, kept⟩ := split.split
  rw [List.append_nil] at kept
  cases rest with
  | nil =>
    simp only [sendAll, Except.ok.injEq] at sent
    subst sent
    exact ⟨by simpa using messages_eq.symm, kept⟩
  | cons message rest =>
    -- A retained rest of the stream would start with a complete frame.
    obtain ⟨head, tail, first, _, rfl⟩ := sendAll_cons sent
    obtain ⟨id, _, framed⟩ := send_eq first
    have size := frame_length framed
    refine absurd ⟨?_, ?_⟩ split.unfinished
    · rw [kept, List.flatten_cons, List.length_append]
      omega
    · rw [kept, List.flatten_cons, readInt32BE_frame framed, List.length_append]
      omega

theorem sendAll_ok (supported : ∀ message ∈ messages, (∃ id, resolvePacketID message.1 = .ok id) ∧
      message.2.length + HEADER_SIZE < 2147483648) : ∃ frames, sendAll messages = .ok frames := by
  induction messages with
  | nil => exact ⟨[], rfl⟩
  | cons message rest ih =>
    obtain ⟨type, data⟩ := message
    obtain ⟨tail, others⟩ := ih fun other member => supported other (List.mem_cons_of_mem _ member)
    obtain ⟨⟨id, numbered⟩, fits⟩ := supported (type, data) List.mem_cons_self
    exact ⟨_, by
      simp only [sendAll, send, numbered, others, frame, if_pos fits, Bind.bind, Except.bind,
        Pure.pure, Except.pure]
      rfl⟩

/--
Messages survive the TCP stream for every way of cutting it into chunks.

The parser emits exactly the messages that were sent, reports no error and ends with an empty
buffer.
After any number of chunks the buffer it retains does not start with a complete
frame. -/
theorem feed_sendAll {messages : List (PacketType × Bytes)}
    (supported : ∀ message ∈ messages, (∃ id, resolvePacketID message.1 = .ok id) ∧
      message.2.length + HEADER_SIZE < 2147483648) :
    ∃ frames, sendAll messages = .ok frames ∧
      ∀ maxPacketSize chunks, chunks.flatten = frames.flatten →
        Roomy maxPacketSize frames.flatten.length →
        (Parser.feed ⟨maxPacketSize, none⟩ chunks).emitted = messages ∧
        (Parser.feed ⟨maxPacketSize, none⟩ chunks).outcome = .done ∧
        (Parser.feed ⟨maxPacketSize, none⟩ chunks).retained = [] ∧
        ∀ count, (Parser.feed ⟨maxPacketSize, none⟩ (chunks.take count)).outcome = .done ∧
          ¬ StartsWithFrame (Parser.feed ⟨maxPacketSize, none⟩ (chunks.take count)).retained := by
  obtain ⟨frames, sent⟩ := sendAll_ok supported
  refine ⟨frames, sent, fun maxPacketSize chunks cut room => ?_⟩
  have fresh : ¬ StartsWithFrame ((⟨maxPacketSize, none⟩ : Parser).buf.getD []) := by
    simp [StartsWithFrame, HEADER_SIZE]
  have whole : SplitAt messages [] (Parser.feed ⟨maxPacketSize, none⟩ chunks) :=
    Parser.feed_split _ sent (by simpa using cut) room fresh
  obtain ⟨emitted, retained⟩ := whole.complete
  refine ⟨emitted, whole.regular, retained, fun count => ?_⟩
  -- The chunks that are still to come are the later part of the same stream.
  have part : SplitAt messages (chunks.drop count).flatten
      (Parser.feed ⟨maxPacketSize, none⟩ (chunks.take count)) :=
    Parser.feed_split _ sent (by
      simpa [← List.flatten_append, List.take_append_drop] using cut) room fresh
  exact ⟨part.regular, part.unfinished⟩

/-- A ping and an empty event: both types are numbered and both lengths fit. -/
theorem feed_sendAll_ping_event :
    ∃ frames, sendAll [(.ping, [104, 105]), (.event, [])] = .ok frames ∧
      ∀ maxPacketSize chunks, chunks.flatten = frames.flatten →
        Roomy maxPacketSize frames.flatten.length →
        (Parser.feed ⟨maxPacketSize, none⟩ chunks).emitted = [(.ping, [104, 105]), (.event, [])] ∧
        (Parser.feed ⟨maxPacketSize, none⟩ chunks).outcome = .done ∧
        (Parser.feed ⟨maxPacketSize, none⟩ chunks).retained = [] ∧
        ∀ count, (Parser.feed ⟨maxPacketSize, none⟩ (chunks.take count)).outcome = .done ∧
          ¬ StartsWithFrame (Parser.feed ⟨maxPacketSize, none⟩ (chunks.take count)).retained :=
  feed_sendAll (by
    intro message member
    simp only [List.mem_cons, List.not_mem_nil, or_false] at member
    rcases member with rfl | rfl
    · exact ⟨⟨4, rfl⟩, by decide⟩
    · exact ⟨⟨1, rfl⟩, by decide⟩)

end Moleculer.Tcp
