import Moleculer.Tcp.ParserLaws

/-! What `maxPacketSize` limits: the bytes that are buffered when a chunk arrives. -/

namespace Moleculer.Tcp

/-- The bytes of an unfinished frame that are kept when so many bytes of a stream have been read. -/
def carried : List Bytes → Nat → Nat
  | [], read => read
  | head :: rest, read => if read < head.length then read else carried rest (read - head.length)

/-- Each chunk, together with the unfinished frame carried over to it, stays within the limit. -/
def Fits (limit : Nat) (frames : List Bytes) : Nat → List Bytes → Prop
  | _, [] => True
  | read, chunk :: rest =>
    carried frames read + chunk.length ≤ limit ∧ Fits limit frames (read + chunk.length) rest

/-- The parser accepts the stream and emits every message when all frames are within the limit,
and it rejects the stream when one frame is not. -/
def LimitsPackets (limit : Nat) (messages : List (PacketType × Bytes))
    (frames chunks : List Bytes) :
    Prop :=
  ((∀ bytes ∈ frames, bytes.length ≤ limit) →
    (Parser.feed ⟨some limit, none⟩ chunks).outcome = .done ∧
      (Parser.feed ⟨some limit, none⟩ chunks).emitted = messages) ∧
  ((∃ bytes ∈ frames, limit < bytes.length) →
    ∃ message, (Parser.feed ⟨some limit, none⟩ chunks).outcome = .failed message)

theorem parseLoop_tooLarge {limit : Nat} (header : HEADER_SIZE ≤ limit) (packet : Bytes)
    (tooLarge : limit < packet.length) :
    ∃ message, (parseLoop (some limit) packet).outcome = .failed message := by
  have refused : exceeds (some limit) packet.length = true := by
    simp only [HEADER_SIZE] at header
    simp only [exceeds, Bool.and_eq_true, decide_eq_true_eq, ne_eq, decide_not, Bool.not_eq_true',
      decide_eq_false_iff_not]
    omega
  rw [parseLoop, if_neg (by omega), if_neg (by omega), if_pos refused]
  exact ⟨_, rfl⟩

theorem carried_append (front back : List Bytes) (read : Nat) :
    carried (front ++ back) (front.flatten.length + read) = carried back read := by
  -- Each complete frame is subtracted in turn.
  induction front with
  | nil => simp
  | cons head rest ih =>
    rw [List.flatten_cons, List.length_append, Nat.add_assoc, List.cons_append, carried,
      if_neg (by omega), Nat.add_sub_cancel_left, ih]

theorem fits_append (limit : Nat) (front back : List Bytes) (read : Nat) (chunks : List Bytes) :
    Fits limit (front ++ back) (front.flatten.length + read) chunks ↔
      Fits limit back read chunks := by
  induction chunks generalizing read with
  | nil => rfl
  | cons chunk rest ih =>
    rw [Fits, Fits, carried_append, Nat.add_assoc, ih]

theorem exists_split (frames : List Bytes) (read : Nat) :
    ∃ front back part, frames = front ++ back ∧ read = front.flatten.length + part ∧
      ∀ head rest, back = head :: rest → part < head.length := by
  induction frames generalizing read with
  | nil => exact ⟨[], [], read, rfl, by simp, by simp⟩
  | cons head rest ih =>
    by_cases within : read < head.length
    · -- The point lies in the first frame.
      refine ⟨[], head :: rest, read, rfl, by simp, ?_⟩
      rintro first others same
      cases same
      exact within
    · obtain ⟨front, back, part, split, counted, unfinished⟩ := ih (read - head.length)
      refine ⟨head :: front, back, part, by simp [split], ?_, unfinished⟩
      rw [List.flatten_cons, List.length_append]
      omega

theorem length_le_flatten {frames : List Bytes} {bytes : Bytes} (member : bytes ∈ frames) :
    bytes.length ≤ frames.flatten.length := by
  rw [List.length_flatten]
  exact List.le_sum_of_mem (List.mem_map_of_mem member)

theorem length_le_of_fits {limit : Nat} {frames chunks : List Bytes} {read : Nat}
    (unfinished : ∀ head rest, frames = head :: rest → read < head.length)
    (all : frames.flatten.length = read + chunks.flatten.length)
    (fits : Fits limit frames read chunks) : ∀ bytes ∈ frames, bytes.length ≤ limit := by
  induction chunks generalizing frames read with
  | nil =>
    -- Nothing is left to read, so no frame is left unfinished.
    intro bytes member
    cases frames with
    | nil => cases member
    | cons head rest =>
      have started := unfinished head rest rfl
      rw [List.flatten_cons, List.length_append] at all
      simp only [List.flatten_nil, List.length_nil] at all
      omega
  | cons chunk rest ih =>
    obtain ⟨here, later⟩ := fits
    have start : carried frames read = read := by
      cases frames with
      | nil => rfl
      | cons head others => rw [carried, if_pos (unfinished head others rfl)]
    obtain ⟨front, back, part, rfl, counted, open_⟩ := exists_split frames (read + chunk.length)
    rw [counted, fits_append] at later
    rw [List.flatten_append, List.length_append, List.flatten_cons, List.length_append] at all
    have behind := ih open_ (by omega) later
    -- The frames that end in this chunk were buffered together with it.
    intro bytes member
    rcases List.mem_append.mp member with complete | rest
    · have := length_le_flatten complete
      omega
    · exact behind bytes rest

theorem sendAll_append {first second : List (PacketType × Bytes)} {frames : List Bytes}
    (sent : sendAll (first ++ second) = .ok frames) :
    ∃ front back, sendAll first = .ok front ∧ sendAll second = .ok back ∧
      frames = front ++ back := by
  induction first generalizing frames with
  | nil => exact ⟨[], frames, rfl, sent, rfl⟩
  | cons message rest ih =>
    obtain ⟨type, data⟩ := message
    obtain ⟨head, tail, one, others, rfl⟩ := sendAll_cons sent
    obtain ⟨front, back, sentRest, sentSecond, rfl⟩ := ih others
    exact ⟨head :: front, back, by simp [sendAll, one, sentRest, Bind.bind, Except.bind, Pure.pure,
      Except.pure], sentSecond, rfl⟩

theorem length_lt_of_unfinished {messages : List (PacketType × Bytes)} {head : Bytes}
    {rest : List Bytes} {kept later : Bytes} (sent : sendAll messages = .ok (head :: rest))
    (cut : kept ++ later = (head :: rest).flatten) (unfinished : ¬ StartsWithFrame kept) :
    kept.length < head.length := by
  cases messages with
  | nil =>
    rw [sendAll] at sent
    cases sent
  | cons message others =>
    obtain ⟨type, data⟩ := message
    obtain ⟨first, tail, one, -, same⟩ := sendAll_cons sent
    obtain ⟨rfl, -⟩ := List.cons.inj same
    obtain ⟨id, -, framed⟩ := send_eq one
    by_contra long
    -- Otherwise the whole frame stands at the start of the kept bytes.
    obtain ⟨behind, rfl⟩ : head <+: kept :=
      List.prefix_of_prefix_length_le (List.flatten_cons ▸ List.prefix_append head _)
        (cut ▸ List.prefix_append kept later) (by omega)
    have size := frame_length framed
    apply unfinished
    rw [StartsWithFrame, readInt32BE_frame framed, List.length_append]
    omega

/-- Chunks that fit are accepted and give every message, and other chunks are refused. -/
theorem feed_limited {limit : Nat} (header : HEADER_SIZE ≤ limit)
    {messages : List (PacketType × Bytes)} {frames chunks : List Bytes} (buf : Option Bytes)
    (sent : sendAll messages = .ok frames)
    (cut : buf.getD [] ++ chunks.flatten = frames.flatten)
    (unfinished : ¬ StartsWithFrame (buf.getD [])) :
    (Fits limit frames (buf.getD []).length chunks →
      (Parser.feed ⟨some limit, buf⟩ chunks).outcome = .done ∧
        (Parser.feed ⟨some limit, buf⟩ chunks).emitted = messages) ∧
    (¬ Fits limit frames (buf.getD []).length chunks →
      ∃ message, (Parser.feed ⟨some limit, buf⟩ chunks).outcome = .failed message) := by
  -- The induction is on the chunks: each one finds an unfinished frame in the buffer.
  induction chunks generalizing buf messages frames with
  | nil =>
    have split : SplitAt messages [] (Parser.feed ⟨some limit, buf⟩ []) :=
      ⟨⟨messages, frames, rfl, sent, by simpa [Parser.feed, Written.retained] using cut⟩, rfl,
        unfinished⟩
    exact ⟨fun _ => ⟨split.regular, split.complete.1⟩, fun tight => absurd trivial tight⟩
  | cons chunk rest ih =>
    have start : carried frames (buf.getD []).length = (buf.getD []).length := by
      cases frames with
      | nil => rfl
      | cons head others => rw [carried, if_pos (length_lt_of_unfinished sent cut unfinished)]
    have cutHere : (buf.getD [] ++ chunk) ++ rest.flatten = frames.flatten := by
      simpa [List.append_assoc] using cut
    rw [Fits, start]
    by_cases room : (buf.getD []).length + chunk.length ≤ limit
    · have roomy : Roomy (some limit) (buf.getD [] ++ chunk).length := by
        rintro other same
        cases same
        rw [List.length_append]
        exact .inr room
      have first := parseLoop_split sent cutHere roomy
      rw [← Parser.write_eq ⟨some limit, buf⟩ chunk] at first
      obtain ⟨left, leftFrames, messages_eq, sentLeft, kept⟩ := first.split
      rw [messages_eq] at sent
      obtain ⟨front, back, -, sentBack, rfl⟩ := sendAll_append sent
      obtain rfl : leftFrames = back := Except.ok.inj (sentLeft.symm.trans sentBack)
      -- What is kept is what the completed frames leave of the bytes read so far.
      have read : buf.getD [] ++ chunk =
          front.flatten ++ (Parser.write ⟨some limit, buf⟩ chunk).retained := by
        rw [List.flatten_append, ← kept, ← List.append_assoc] at cutHere
        exact List.append_cancel_right cutHere
      have counted : (buf.getD []).length + chunk.length = front.flatten.length +
          (Parser.write ⟨some limit, buf⟩ chunk).retained.length := by
        simpa only [List.length_append] using congrArg List.length read
      have later := ih (Parser.write ⟨some limit, buf⟩ chunk).buf sentLeft kept first.unfinished
      have fed : Parser.feed ⟨some limit, buf⟩ (chunk :: rest) =
          ⟨(Parser.feed ⟨some limit, (Parser.write ⟨some limit, buf⟩ chunk).buf⟩ rest).buf,
            (Parser.write ⟨some limit, buf⟩ chunk).emitted ++
              (Parser.feed ⟨some limit, (Parser.write ⟨some limit, buf⟩ chunk).buf⟩ rest).emitted,
            (Parser.feed ⟨some limit, (Parser.write ⟨some limit, buf⟩ chunk).buf⟩
                rest).outcome⟩ := by
        rw [Parser.feed]
        simp only [first.regular]
      rw [fed, counted, fits_append]
      refine ⟨fun fits => ?_, fun tight => later.2 fun fits => tight ⟨by omega, fits⟩⟩
      obtain ⟨done, emitted⟩ := later.1 fits.2
      exact ⟨done, by rw [emitted, messages_eq]⟩
    · refine ⟨fun fits => absurd fits.1 room, fun _ => ?_⟩
      obtain ⟨message, failed⟩ := parseLoop_tooLarge header (buf.getD [] ++ chunk)
        (by rw [List.length_append]; omega)
      rw [← Parser.write_eq ⟨some limit, buf⟩ chunk] at failed
      refine ⟨message, ?_⟩
      rw [Parser.feed]
      simp only [failed]

/-- The limit treats a stream of frames as it should exactly when a frame is above it, or when no
chunk together with the unfinished frame before it is. -/
theorem limitsPackets_iff {limit : Nat} (header : HEADER_SIZE ≤ limit)
    {messages : List (PacketType × Bytes)} {frames chunks : List Bytes}
    (sent : sendAll messages = .ok frames) (cut : chunks.flatten = frames.flatten) :
    LimitsPackets limit messages frames chunks ↔
      (∃ bytes ∈ frames, limit < bytes.length) ∨ Fits limit frames 0 chunks := by
  have fresh : ¬ StartsWithFrame [] := by simp [StartsWithFrame, HEADER_SIZE]
  obtain ⟨accepts, refuses⟩ := feed_limited header none sent cut fresh
  have bounded (fits : Fits limit frames 0 chunks) : ∀ bytes ∈ frames, bytes.length ≤ limit := by
    apply length_le_of_fits ?_ (by rw [cut]; simp) fits
    intro head rest same
    subst same
    exact length_lt_of_unfinished sent cut fresh
  constructor
  · rintro ⟨accepted, -⟩
    by_contra neither
    push Not at neither
    obtain ⟨small, tight⟩ := neither
    -- A refused stream of small frames contradicts the acceptance.
    obtain ⟨message, failed⟩ := refuses tight
    rw [(accepted small).1] at failed
    cases failed
  · intro condition
    constructor
    · intro small
      rcases condition with ⟨bytes, member, large⟩ | fits
      · exact absurd (small bytes member) (by omega)
      · exact accepts fits
    · rintro ⟨bytes, member, large⟩
      apply refuses
      intro fits
      exact absurd (bounded fits bytes member) (by omega)

/-- A frame of eight bytes that arrives in two chunks is within a limit of eight. -/
theorem limitsPackets_iff_ping :
    LimitsPackets 8 [(.ping, [104, 105])] [[12, 0, 0, 0, 8, 4, 104, 105]]
      [[12, 0, 0], [0, 8, 4, 104, 105]] ↔
    (∃ bytes ∈ [[12, 0, 0, 0, 8, 4, 104, 105]], 8 < List.length (α := UInt8) bytes) ∨
      Fits 8 [[12, 0, 0, 0, 8, 4, 104, 105]] 0 [[12, 0, 0], [0, 8, 4, 104, 105]] :=
  limitsPackets_iff (by decide) rfl rfl

/-- Two frames of eight bytes that arrive in one chunk are refused under a limit of eight. -/
theorem coalesced_frames_refused :
    sendAll [(.ping, [104, 105]), (.ping, [104, 105])] =
      .ok [[12, 0, 0, 0, 8, 4, 104, 105], [12, 0, 0, 0, 8, 4, 104, 105]] ∧
    ¬ LimitsPackets 8 [(.ping, [104, 105]), (.ping, [104, 105])]
      [[12, 0, 0, 0, 8, 4, 104, 105], [12, 0, 0, 0, 8, 4, 104, 105]]
      [[12, 0, 0, 0, 8, 4, 104, 105, 12, 0, 0, 0, 8, 4, 104, 105]] := by
  refine ⟨rfl, fun limits => ?_⟩
  obtain ⟨message, failed⟩ := parseLoop_tooLarge (by decide : HEADER_SIZE ≤ 8)
    [12, 0, 0, 0, 8, 4, 104, 105, 12, 0, 0, 0, 8, 4, 104, 105] (by decide)
  have done := (limits.1 (by decide)).1
  rw [Parser.feed, Parser.write] at done
  simp only [failed] at done
  cases done

end Moleculer.Tcp
