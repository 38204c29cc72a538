import Moleculer.Base.Run
import Mathlib

/-! The sockets that the TCP reader keeps (`transporters/tcp/tcp-reader.js`). -/

namespace Moleculer.Tcp

open Base

variable {ι : Type} [DecidableEq ι]

/-- `list.splice(index, 1)`: a negative index counts from the end. -/
def spliceOne (list : List ι) (index : Int) : List ι :=
  list.eraseIdx (if index < 0 then (list.length + index).toNat else index.toNat)

/-- `list.indexOf(item)`, which is minus one if there is no such item. -/
def indexOf (list : List ι) (item : ι) : Int :=
  if item ∈ list then list.idxOf item else -1

/-- What a socket reports when its connection is over. -/
inductive SocketEvent where
  | parserError
  | error
  | close
  deriving DecidableEq, Repr

/-- The reader: its `sockets`, those that have ever connected, and those that have reported
something. -/
structure Reader (ι : Type) where
  sockets : List ι
  connected : List ι
  reported : List ι

/-- What happens to the reader. Sockets are objects, so each one connects once. -/
inductive ReaderInput (ι : Type) where
  | connect (socket : ι)
  | event (socket : ι) (event : SocketEvent)

namespace Reader

/-- A reader before the first connection. -/
def new : Reader ι := ⟨[], [], []⟩

/-- `closeSocket`. -/
def closeSocket (sockets : List ι) (socket : ι) : List ι :=
  spliceOne sockets (indexOf sockets socket)

/-- `close` destroys the sockets in the list. -/
def close (reader : Reader ι) : List ι := reader.sockets

/-- One step: `onTcpClientConnected`, or one of the handlers that it installs. -/
def step (reader : Reader ι) : ReaderInput ι → Reader ι
  | .connect socket =>
    if socket ∈ reader.connected then reader
    else { reader with
      sockets := reader.sockets ++ [socket]
      connected := reader.connected ++ [socket] }
  | .event socket event =>
    if socket ∈ reader.connected then
      match event with
      | .parserError | .error | .close => { reader with
          sockets := closeSocket reader.sockets socket
          reported := socket :: reader.reported }
    else reader

/-- A socket is alive: it has connected and reported nothing. -/
def Live (reader : Reader ι) (socket : ι) : Prop :=
  socket ∈ reader.connected ∧ socket ∉ reader.reported

/-- The list has every live socket once and no others, so `close` destroys them all. -/
structure Exact (reader : Reader ι) : Prop where
  mem_iff : ∀ socket, socket ∈ reader.sockets ↔ reader.Live socket
  nodup : reader.sockets.Nodup

/-- A socket that has reported something reports nothing more while another one is alive. -/
def Quiet (reader : Reader ι) : ReaderInput ι → Prop
  | .connect _ => True
  | .event socket _ => socket ∈ reader.reported → ∀ other, ¬ reader.Live other

section Laws

variable {sockets : List ι} {socket : ι}

theorem closeSocket_of_mem (inside : socket ∈ sockets) :
    closeSocket sockets socket = sockets.erase socket := by
  have index : indexOf sockets socket = sockets.idxOf socket := if_pos inside
  rw [closeSocket, index, spliceOne, if_neg (by omega), Int.toNat_natCast,
    List.eraseIdx_idxOf_eq_erase]

theorem closeSocket_of_not_mem (outside : socket ∉ sockets) :
    closeSocket sockets socket = sockets.dropLast := by
  have index : indexOf sockets socket = -1 := if_neg outside
  have place : ((sockets.length : Int) + -1).toNat = sockets.length - 1 := by omega
  rw [closeSocket, index, spliceOne, if_pos (by decide), place, List.eraseIdx_length_sub_one]

variable {reader : Reader ι}

/-- Every reported socket has connected. -/
def Known (reader : Reader ι) : Prop := ∀ socket ∈ reader.reported, socket ∈ reader.connected

theorem Exact.connect (exact_ : reader.Exact) (known : reader.Known) (socket : ι) :
    (reader.step (.connect socket)).Exact := by
  unfold step
  dsimp only
  split
  · exact exact_
  rename_i new
  have fresh : socket ∉ reader.sockets := fun inside => new ((exact_.mem_iff socket).mp inside).1
  refine ⟨fun other => ?_, ?_⟩
  · show other ∈ reader.sockets ++ [socket] ↔
      other ∈ reader.connected ++ [socket] ∧ other ∉ reader.reported
    rw [List.mem_append, List.mem_append, List.mem_singleton, exact_.mem_iff, Live]
    -- The new socket has reported nothing, since it has just connected.
    refine ⟨fun either => ?_, fun ⟨either, silent⟩ => ?_⟩
    · obtain ⟨here, silent⟩ | rfl := either
      · exact ⟨.inl here, silent⟩
      · exact ⟨.inr rfl, fun told => new (known other told)⟩
    · exact either.imp_left fun here => ⟨here, silent⟩
  · rw [List.nodup_append]
    refine ⟨exact_.nodup, List.nodup_singleton socket, fun other inside last same => ?_⟩
    rw [List.mem_singleton.mp same]
    exact fun equal => fresh (equal ▸ inside)

theorem Exact.report (exact_ : reader.Exact) {socket : ι} (inside : socket ∈ reader.sockets) :
    Exact { reader with
      sockets := closeSocket reader.sockets socket
      reported := socket :: reader.reported } := by
  rw [closeSocket_of_mem inside]
  refine ⟨fun other => ?_, exact_.nodup.erase socket⟩
  show other ∈ reader.sockets.erase socket ↔
    other ∈ reader.connected ∧ other ∉ socket :: reader.reported
  rw [exact_.nodup.mem_erase_iff, exact_.mem_iff, Live, List.mem_cons, not_or]
  tauto

theorem Exact.report_again_iff (exact_ : reader.Exact) {socket : ι}
    (told : socket ∈ reader.reported) :
    Exact { reader with
        sockets := closeSocket reader.sockets socket
        reported := socket :: reader.reported } ↔
      ∀ other, ¬ reader.Live other := by
  have outside : socket ∉ reader.sockets := fun inside => ((exact_.mem_iff socket).mp inside).2 told
  have same (other : ι) : other ∈ socket :: reader.reported ↔ other ∈ reader.reported := by
    rw [List.mem_cons]
    exact ⟨fun either => either.elim (fun equal => equal ▸ told) id, .inr⟩
  rw [closeSocket_of_not_mem outside]
  refine ⟨fun after other live => ?_, fun nobody => ?_⟩
  · -- The last socket of the list is still alive, but no longer in the list.
    have some_ : reader.sockets ≠ [] := List.ne_nil_of_mem ((exact_.mem_iff other).mpr live)
    have last : reader.sockets.getLast some_ ∈ reader.sockets.dropLast := by
      refine (after.mem_iff _).mpr ?_
      have alive := (exact_.mem_iff _).mp (List.getLast_mem some_)
      exact ⟨alive.1, fun reported => alive.2 ((same _).mp reported)⟩
    have once := exact_.nodup
    rw [← List.dropLast_concat_getLast some_, List.nodup_append] at once
    exact once.2.2 _ last _ (List.mem_singleton.mpr rfl) rfl
  · have empty : reader.sockets = [] :=
      List.eq_nil_iff_forall_not_mem.mpr fun other inside =>
        nobody other ((exact_.mem_iff other).mp inside)
    rw [empty]
    refine ⟨fun other => ?_, List.nodup_nil⟩
    refine iff_of_false (List.not_mem_nil) fun live => nobody other ?_
    exact ⟨live.1, fun reported => live.2 ((same other).mpr reported)⟩

theorem step_event {socket : ι} (connected : socket ∈ reader.connected) (event : SocketEvent) :
    reader.step (.event socket event) = { reader with
      sockets := closeSocket reader.sockets socket
      reported := socket :: reader.reported } := by
  cases event <;> exact if_pos connected

theorem step_stranger {socket : ι} (stranger : socket ∉ reader.connected) (event : SocketEvent) :
    reader.step (.event socket event) = reader := if_neg stranger

theorem Exact.step_iff (exact_ : reader.Exact) (known : reader.Known) (input : ReaderInput ι) :
    (reader.step input).Exact ↔ reader.Quiet input := by
  cases input with
  | connect socket => exact iff_of_true (exact_.connect known socket) trivial
  | event socket event =>
    by_cases connected : socket ∈ reader.connected
    · rw [step_event connected]
      by_cases told : socket ∈ reader.reported
      · rw [exact_.report_again_iff told]
        exact ⟨fun nobody _ => nobody, fun quiet => quiet told⟩
      · have inside := (exact_.mem_iff socket).mpr ⟨connected, told⟩
        exact iff_of_true (exact_.report inside) fun reported => absurd reported told
    · rw [step_stranger connected]
      exact iff_of_true exact_ fun told => absurd (known socket told) connected

theorem Known.step (known : reader.Known) (input : ReaderInput ι) : (reader.step input).Known := by
  cases input with
  | connect socket =>
    unfold Reader.step
    dsimp only
    split
    · exact known
    · exact fun other told => List.mem_append_left _ (known other told)
  | event socket event =>
    by_cases connected : socket ∈ reader.connected
    · rw [step_event connected]
      intro other told
      obtain rfl | old := List.mem_cons.mp told
      · exact connected
      · exact known other old
    · rw [step_stranger connected]
      exact known

end Laws

/-- After every step of a run the list has exactly the live sockets exactly if no socket reports
anything again while another one is alive; and whenever the list is exact, `close` destroys every
live socket. -/
theorem reader_exact_iff (inputs : List (ReaderInput ι)) :
    (Meets step (fun reader input => (reader.step input).Exact) (new : Reader ι) inputs ↔
      Meets step Quiet new inputs) ∧
      ∀ reader : Reader ι, reader.Exact → ∀ socket, reader.Live socket → socket ∈ reader.close := by
  refine ⟨?_, fun reader exact_ socket live => (exact_.mem_iff socket).mpr live⟩
  have start : (new : Reader ι).Exact ∧ (new : Reader ι).Known := by
    refine ⟨⟨fun socket => ?_, List.nodup_nil⟩, fun socket none_ => ?_⟩
    · exact iff_of_false List.not_mem_nil fun live => List.not_mem_nil live.1
    · cases none_
  exact @meets_iff _ _ _ _ _ (fun reader : Reader ι => reader.Exact ∧ reader.Known) _ _
    (fun reader input _ both => both.1.step_iff both.2 input)
    (fun reader input _ both exact_ => ⟨exact_, both.2.step input⟩) start

/-- A socket that reports an error and then its end takes another one out of the list. -/
theorem second_report_removes_other :
    ¬ Meets step (fun reader input => (reader.step input).Exact) (new : Reader Nat)
      [.connect 1, .connect 2, .event 1 .error, .event 1 .close] := by
  intro exact_
  have missing := (exact_.2.2.2.1.mem_iff 2).mpr (by unfold Live; decide)
  exact absurd missing (by decide)

end Reader

end Moleculer.Tcp
