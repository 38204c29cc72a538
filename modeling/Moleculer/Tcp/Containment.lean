import Moleculer.Tcp.ParserLaws

/-! Which byte streams the parser answers by its callback, and which make it throw. -/

namespace Moleculer.Tcp

/-- The parser reaches the header at the start of the packet and accepts its size, its checksum and
its length, and the packet holds the whole frame. -/
structure CompleteFrame (maxPacketSize : Option Nat) (packet : Bytes) : Prop where
  header : HEADER_SIZE ≤ packet.length
  room : exceeds maxPacketSize packet.length = false
  crc : headerCrc packet = packet.getD 0 0
  long : HEADER_SIZE ≤ readInt32BE packet 1
  whole : readInt32BE packet 1 ≤ packet.length

/-- The number of a frame stands for a packet type. -/
def KnownType (packet : Bytes) : Prop := ∃ type, resolvePacketType (packet.getD 5 0) = .ok type

/-- The bytes from which the parser continues after it has cut off complete frames. -/
inductive Continues (maxPacketSize : Option Nat) : Bytes → Bytes → Prop where
  | here (packet : Bytes) : Continues maxPacketSize packet packet
  | next {packet rest : Bytes} (complete : CompleteFrame maxPacketSize packet)
      (known : KnownType packet)
      (later : Continues maxPacketSize (packet.drop (readInt32BE packet 1).toNat) rest) :
      Continues maxPacketSize packet rest

/-- The bytes at which a stream cannot be parsed: too many, a wrong checksum, a bad length or an
unknown packet type. -/
def Malformed (maxPacketSize : Option Nat) (packet : Bytes) : Prop :=
  HEADER_SIZE ≤ packet.length ∧
    (exceeds maxPacketSize packet.length = true ∨ headerCrc packet ≠ packet.getD 0 0 ∨
      readInt32BE packet 1 < HEADER_SIZE ∨
      CompleteFrame maxPacketSize packet ∧ ¬ KnownType packet)

/-- The callback is called once: with an error if the stream cannot be parsed, else without. -/
def Contained (maxPacketSize : Option Nat) (packet : Bytes) (written : Written) : Prop :=
  ((∃ rest, Continues maxPacketSize packet rest ∧ Malformed maxPacketSize rest) →
    ∃ message, written.outcome = .failed message) ∧
  ((¬ ∃ rest, Continues maxPacketSize packet rest ∧ Malformed maxPacketSize rest) →
    written.outcome = .done)

variable {maxPacketSize : Option Nat} {packet : Bytes}

theorem continues_iff_of_not (stays : ¬ (CompleteFrame maxPacketSize packet ∧ KnownType packet))
    (rest : Bytes) : Continues maxPacketSize packet rest ↔ rest = packet := by
  constructor
  · intro continues
    cases continues with
    | here => rfl
    | next complete known later => exact absurd ⟨complete, known⟩ stays
  · rintro rfl
    exact .here rest

theorem continues_iff_of_frame (complete : CompleteFrame maxPacketSize packet)
    (known : KnownType packet) (rest : Bytes) :
    Continues maxPacketSize packet rest ↔ rest = packet ∨
      Continues maxPacketSize (packet.drop (readInt32BE packet 1).toNat) rest := by
  constructor
  · intro continues
    cases continues with
    | here => exact .inl rfl
    | next _ _ later => exact .inr later
  · rintro (rfl | later)
    · exact .here rest
    · exact .next complete known later

theorem not_malformed_of_frame (complete : CompleteFrame maxPacketSize packet)
    (known : KnownType packet) : ¬ Malformed maxPacketSize packet := by
  rintro ⟨-, tooLarge | wrongCrc | short | ⟨-, unknown⟩⟩
  · rw [complete.room] at tooLarge
    cases tooLarge
  · exact wrongCrc complete.crc
  · have := complete.long
    omega
  · exact unknown known

/-- How the loop ends is decided by the first place where it cannot go on. -/
inductive Ending (maxPacketSize : Option Nat) (packet : Bytes) : WriteOutcome → Prop where
  | done (regular : ∀ rest, Continues maxPacketSize packet rest → ¬ Malformed maxPacketSize rest) :
      Ending maxPacketSize packet .done
  | failed {rest : Bytes} (continues : Continues maxPacketSize packet rest)
      (malformed : Malformed maxPacketSize rest)
      (known : ∀ later, Continues maxPacketSize packet later →
        CompleteFrame maxPacketSize later → KnownType later) (message : String) :
      Ending maxPacketSize packet (.failed message)
  | threw {rest : Bytes} (continues : Continues maxPacketSize packet rest)
      (complete : CompleteFrame maxPacketSize rest) (unknown : ¬ KnownType rest)
      (message : String) : Ending maxPacketSize packet (.threw message)

theorem ending_wait (stays : ¬ CompleteFrame maxPacketSize packet)
    (regular : ¬ Malformed maxPacketSize packet) : Ending maxPacketSize packet .done := by
  refine .done fun rest continues => ?_
  rw [continues_iff_of_not fun both => stays both.1] at continues
  rwa [continues]

theorem ending_failed (stays : ¬ CompleteFrame maxPacketSize packet)
    (malformed : Malformed maxPacketSize packet) (message : String) :
    Ending maxPacketSize packet (.failed message) := by
  refine .failed (.here packet) malformed (fun later continues complete => ?_) message
  rw [continues_iff_of_not fun both => stays both.1] at continues
  rw [continues] at complete
  exact absurd complete stays

theorem Ending.behind {outcome : WriteOutcome} (complete : CompleteFrame maxPacketSize packet)
    (known : KnownType packet)
    (ending : Ending maxPacketSize (packet.drop (readInt32BE packet 1).toNat) outcome) :
    Ending maxPacketSize packet outcome := by
  -- The frame itself is well formed and of a known type, so only the rest decides.
  cases ending with
  | done regular =>
    refine .done fun rest continues => ?_
    rcases (continues_iff_of_frame complete known rest).mp continues with rfl | later
    · exact not_malformed_of_frame complete known
    · exact regular rest later
  | failed continues malformed others message =>
    refine .failed (.next complete known continues) malformed (fun later ahead whole => ?_) message
    rcases (continues_iff_of_frame complete known later).mp ahead with rfl | behind
    · exact known
    · exact others later behind whole
  | threw continues whole unknown message =>
    exact .threw (.next complete known continues) whole unknown message

theorem ending_parseLoop (maxPacketSize : Option Nat) (packet : Bytes) :
    Ending maxPacketSize packet (parseLoop maxPacketSize packet).outcome := by
  -- One case for each way out of the loop, and one for a frame that is cut off.
  fun_induction parseLoop maxPacketSize packet with
  | case1 packet empty =>
    apply ending_wait
    · intro complete
      have := complete.header
      simp only [HEADER_SIZE] at this
      omega
    · rintro ⟨header, -⟩
      simp only [HEADER_SIZE] at header
      omega
  | case2 packet nonempty short =>
    exact ending_wait (fun complete => absurd complete.header (by omega))
      fun malformed => absurd malformed.1 (by omega)
  | case3 packet nonempty header tooLarge =>
    apply ending_failed
    · intro complete
      rw [complete.room] at tooLarge
      cases tooLarge
    · exact ⟨by omega, .inl tooLarge⟩
  | case4 packet nonempty header room wrong =>
    exact ending_failed (fun complete => wrong complete.crc) ⟨by omega, .inr (.inl wrong)⟩ _
  | case5 packet nonempty header room crc length short =>
    apply ending_failed
    · intro complete
      have := complete.long
      omega
    · exact ⟨by omega, .inr (.inr (.inl short))⟩
  | case6 packet nonempty header room crc length long whole message unknown =>
    have complete : CompleteFrame maxPacketSize packet :=
      ⟨by omega, by simpa using room, by simpa using crc, by omega, whole⟩
    refine .threw (.here packet) complete ?_ message
    rintro ⟨type, known⟩
    rw [unknown] at known
    cases known
  | case7 packet nonempty header room crc length long whole type known msg rest ih =>
    have complete : CompleteFrame maxPacketSize packet :=
      ⟨by omega, by simpa using room, by simpa using crc, by omega, whole⟩
    exact ih.behind complete ⟨type, known⟩
  | case8 packet nonempty header room crc length long unfinished =>
    apply ending_wait
    · intro complete
      exact unfinished complete.whole
    · rintro ⟨-, tooLarge | wrong | short | ⟨complete, -⟩⟩
      · exact room tooLarge
      · exact crc wrong
      · omega
      · exact unfinished complete.whole

/-- A chunk is answered by the callback, with an error if the stream is malformed, exactly when
every complete frame that the parser comes to has the number of a packet type. -/
theorem write_contained_iff (parser : Parser) (chunk : Bytes) :
    Contained parser.maxPacketSize (parser.buf.getD [] ++ chunk) (parser.write chunk) ↔
      ∀ rest, Continues parser.maxPacketSize (parser.buf.getD [] ++ chunk) rest →
        CompleteFrame parser.maxPacketSize rest → KnownType rest := by
  rw [Parser.write_eq]
  generalize parser.buf.getD [] ++ chunk = packet
  have ending := ending_parseLoop parser.maxPacketSize packet
  unfold Contained
  generalize (parseLoop parser.maxPacketSize packet).outcome = outcome at ending
  cases ending with
  | done regular =>
    have none_ : ¬ ∃ rest, Continues parser.maxPacketSize packet rest ∧
        Malformed parser.maxPacketSize rest := fun ⟨rest, continues, malformed⟩ =>
      regular rest continues malformed
    refine iff_of_true ⟨fun malformed => absurd malformed none_, fun _ => rfl⟩ ?_
    intro rest continues complete
    by_contra unknown
    exact regular rest continues ⟨complete.header, .inr (.inr (.inr ⟨complete, unknown⟩))⟩
  | failed continues malformed known message =>
    exact iff_of_true ⟨fun _ => ⟨message, rfl⟩, fun none_ => absurd ⟨_, continues, malformed⟩ none_⟩
      known
  | threw continues complete unknown message =>
    refine iff_of_false (fun contained => ?_) fun known => unknown (known _ continues complete)
    obtain ⟨_, impossible⟩ := contained.1
      ⟨_, continues, complete.header, .inr (.inr (.inr ⟨complete, unknown⟩))⟩
    cases impossible

/-- A frame with a right checksum, a right length and the number nine makes the parser throw. -/
theorem unknown_type_not_contained :
    ¬ Contained none [15, 0, 0, 0, 6, 9] (Parser.write ⟨none, none⟩ [15, 0, 0, 0, 6, 9]) := by
  intro contained
  have complete : CompleteFrame none [15, 0, 0, 0, 6, 9] :=
    ⟨by decide, rfl, by decide, by decide, by decide⟩
  have unknown : ¬ KnownType [15, 0, 0, 0, 6, 9] := by
    rintro ⟨type, known⟩
    cases known
  -- The callback would have to report an error, but the loop has left by an exception.
  obtain ⟨message, failed⟩ := contained.1
    ⟨_, .here _, complete.header, .inr (.inr (.inr ⟨complete, unknown⟩))⟩
  have thrown : (parseLoop none [15, 0, 0, 0, 6, 9]).outcome =
      .threw "Unsupported packet ID (9)!" := by
    rw [parseLoop]
    decide
  rw [Parser.write, thrown] at failed
  cases failed

end Moleculer.Tcp
