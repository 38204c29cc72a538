import Mathlib

/-! The TCP wire format: how a packet is framed and how a byte stream is cut back into packets. -/

namespace Moleculer.Tcp

/-- Octets as they travel over a socket. -/
abbrev Bytes := List UInt8

/-- The packet types of the protocol. -/
inductive PacketType where
  | unknown | event | request | response | discover | info | disconnect | heartbeat
  | ping | pong | gossipReq | gossipRes | gossipHello
  deriving DecidableEq, Repr

/-- The text a packet type is written as. -/
def PacketType.text : PacketType → String
  | .unknown => "???"
  | .event => "EVENT"
  | .request => "REQ"
  | .response => "RES"
  | .discover => "DISCOVER"
  | .info => "INFO"
  | .disconnect => "DISCONNECT"
  | .heartbeat => "HEARTBEAT"
  | .ping => "PING"
  | .pong => "PONG"
  | .gossipReq => "GOSSIP_REQ"
  | .gossipRes => "GOSSIP_RES"
  | .gossipHello => "GOSSIP_HELLO"

/-- Only eight packet types have a number on the wire. -/
def resolvePacketID : PacketType → Except String UInt8
  | .event => .ok 1
  | .request => .ok 2
  | .response => .ok 3
  | .ping => .ok 4
  | .pong => .ok 5
  | .gossipReq => .ok 6
  | .gossipRes => .ok 7
  | .gossipHello => .ok 8
  | other => .error ("Unsupported packet type (" ++ other.text ++ ")!")

/-- The packet type a wire number stands for. -/
def resolvePacketType (id : UInt8) : Except String PacketType :=
  if id = 1 then .ok .event
  else if id = 2 then .ok .request
  else if id = 3 then .ok .response
  else if id = 4 then .ok .ping
  else if id = 5 then .ok .pong
  else if id = 6 then .ok .gossipReq
  else if id = 7 then .ok .gossipRes
  else if id = 8 then .ok .gossipHello
  else .error ("Unsupported packet ID (" ++ toString id.toNat ++ ")!")

/-- One byte of checksum, four of length and one of type. -/
def HEADER_SIZE : Nat := 6

/-- The four big-endian octets of a 32-bit length. -/
def writeInt32BE (value : Nat) : Bytes :=
  [UInt8.ofNat (value / 16777216), UInt8.ofNat (value / 65536),
    UInt8.ofNat (value / 256), UInt8.ofNat value]

/-- A big-endian 32-bit integer in two's complement, bytes past the end reading as zero. -/
def readInt32BE (packet : Bytes) (offset : Nat) : Int :=
  let byte i := (packet.getD (offset + i) 0).toNat
  let unsigned : Nat := 16777216 * byte 0 + 65536 * byte 1 + 256 * byte 2 + byte 3
  if unsigned < 2147483648 then unsigned else (unsigned : Int) - 4294967296

/-- The checksum over the length and the type of a header. -/
def headerCrc (packet : Bytes) : UInt8 :=
  packet.getD 1 0 ^^^ packet.getD 2 0 ^^^ packet.getD 3 0 ^^^ packet.getD 4 0 ^^^ packet.getD 5 0

/-- The bytes `TcpWriter.send` puts on the socket for one packet. -/
def frame (id : UInt8) (data : Bytes) : Except String Bytes :=
  -- The buffer refuses to write a length outside of the signed 32-bit range.
  if data.length + HEADER_SIZE < 2147483648 then
    let header := 0 :: writeInt32BE (data.length + HEADER_SIZE) ++ [id]
    .ok (headerCrc header :: header.tail ++ data)
  else .error "ERR_OUT_OF_RANGE"

/-- A packet as the transporter hands it to the writer: its type is numbered first. -/
def send (type : PacketType) (data : Bytes) : Except String Bytes := do
  let id ← resolvePacketID type
  frame id data

example : send .ping [104, 105] = .ok [12, 0, 0, 0, 8, 4, 104, 105] := rfl

/-- The frames of a list of messages in sending order. -/
def sendAll : List (PacketType × Bytes) → Except String (List Bytes)
  | [] => .ok []
  | (type, data) :: rest => do
    let head ← send type data
    let tail ← sendAll rest
    return head :: tail

/-- How one call of `_write` ends. -/
inductive WriteOutcome where
  /-- The callback is called without an error. -/
  | done
  /-- The callback is called with an error. -/
  | failed (message : String)
  /-- An exception leaves `_write` and the callback is never called. -/
  | threw (message : String)
  deriving DecidableEq, Repr

/-- The parser keeps the unfinished tail of the stream between two chunks. -/
structure Parser where
  /-- A missing or zero limit means that packets may have any size. -/
  maxPacketSize : Option Nat
  buf : Option Bytes
  deriving DecidableEq, Repr

/-- What one run of the parser leaves behind: its buffer, the emitted messages and the outcome. -/
structure Written where
  buf : Option Bytes
  emitted : List (PacketType × Bytes)
  outcome : WriteOutcome
  deriving DecidableEq, Repr

/-- A limit is in force only when it is present and not zero. -/
def exceeds (maxPacketSize : Option Nat) (length : Nat) : Bool :=
  match maxPacketSize with
  | none => false
  | some limit => limit ≠ 0 && length > limit

theorem length_drop_lt {packet : Bytes} {length : Int} (nonempty : ¬ packet.length = 0)
    (long : ¬ length < HEADER_SIZE) : (packet.drop length.toNat).length < packet.length := by
  simp only [HEADER_SIZE, List.length_drop] at *
  omega

/-- The loop of `_write`: cut complete messages off the packet and keep what is left. -/
def parseLoop (maxPacketSize : Option Nat) (packet : Bytes) : Written :=
  if packet.length = 0 then ⟨none, [], .done⟩
  else if packet.length < HEADER_SIZE then
    -- Too short, waiting for the next chunk.
    ⟨some packet, [], .done⟩
  else if exceeds maxPacketSize packet.length then
    ⟨none, [], .failed ("Incoming packet is larger than the 'maxPacketSize' limit (" ++
      toString packet.length ++ " > " ++ toString (maxPacketSize.getD 0) ++ ")!")⟩
  else if headerCrc packet ≠ packet.getD 0 0 then
    ⟨none, [], .failed ("Invalid packet CRC! " ++ toString (headerCrc packet).toNat)⟩
  else
    let length := readInt32BE packet 1
    -- A length below the header would never be consumed and the loop would not end.
    if length < HEADER_SIZE then
      ⟨none, [], .failed ("Invalid packet length! " ++ toString length)⟩
    else if length ≤ packet.length then
      match resolvePacketType (packet.getD 5 0) with
      | .error message => ⟨none, [], .threw message⟩
      | .ok type =>
        let msg := (packet.take length.toNat).drop HEADER_SIZE
        let rest := parseLoop maxPacketSize (packet.drop length.toNat)
        ⟨rest.buf, (type, msg) :: rest.emitted, rest.outcome⟩
    else ⟨some packet, [], .done⟩
termination_by packet.length
decreasing_by exact length_drop_lt ‹_› ‹_›

/-- `Parser._write`: prepend the retained bytes to the chunk and parse what can be parsed. -/
def Parser.write (parser : Parser) (chunk : Bytes) : Written :=
  match parser.buf with
  | some kept => parseLoop parser.maxPacketSize (if kept.length > 0 then kept ++ chunk else chunk)
  | none => parseLoop parser.maxPacketSize chunk

/-- Chunks are written one after the other until one of them does not end regularly. -/
def Parser.feed (parser : Parser) : List Bytes → Written
  | [] => ⟨parser.buf, [], .done⟩
  | chunk :: rest =>
    let first := parser.write chunk
    match first.outcome with
    | .done =>
      let later := Parser.feed { parser with buf := first.buf } rest
      ⟨later.buf, first.emitted ++ later.emitted, later.outcome⟩
    | _ => first

/-- The bytes the parser still holds. -/
def Written.retained (written : Written) : Bytes := written.buf.getD []

/-- A buffer starts with a complete frame when it reaches the length its own header announces. -/
def StartsWithFrame (packet : Bytes) : Prop :=
  HEADER_SIZE ≤ packet.length ∧ readInt32BE packet 1 ≤ packet.length

end Moleculer.Tcp
