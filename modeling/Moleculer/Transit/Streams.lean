import Moleculer.Base.OrderedMap

/-! Streamed requests and responses: how the sender numbers packets and the receiver sorts them. -/

namespace Moleculer.Streams

open Base

variable {ι α : Type} [DecidableEq ι]

/-- A chunk of a stream: a `Buffer`, or any other value of an object stream. -/
inductive Chunk (α : Type) where
  | buffer (bytes : List UInt8)
  | other (value : α)
  /-- An object whose `type` is `"Buffer"`, with what `Buffer.from` makes of its `data`, unless it
  throws. -/
  | typed (value : α) (data : Option (List UInt8))
  deriving DecidableEq, Repr

/-- The bytes and values that a chunk contributes to its stream. -/
def Chunk.content : Chunk α → List (UInt8 ⊕ α)
  | .buffer bytes => bytes.map .inl
  | .other value => [.inr value]
  | .typed value _ => [.inr value]

/-- A chunk as a field of a deserialized packet. -/
inductive Wire (α : Type) where
  | null
  | buffer (bytes : List UInt8)
  /-- An object whose `type` is `"Buffer"`, such as a text serializer makes of a `Buffer`. -/
  | bufferObject (data : Option (List UInt8))
  | other (value : α)
  deriving DecidableEq, Repr

/-- Whether the serializer keeps buffers or goes through their JSON form. -/
inductive Serializer where
  | binary
  | text
  deriving DecidableEq, Repr

/-- Serialize a chunk at the sender and deserialize it at the receiver. -/
def Serializer.transfer (serializer : Serializer) : Chunk α → Wire α
  | .other value => .other value
  | .typed _ data => .bufferObject data
  | .buffer bytes =>
    match serializer with
    | .binary => .buffer bytes
    | .text => .bufferObject (some bytes)

/-- The argument of `stream.write`, where the JSON form becomes a `Buffer` again, unless
`Buffer.from` throws, or `stream.write` of `null`. -/
def Wire.toChunk : Wire α → Option (Chunk α)
  | .null => none
  | .buffer bytes => some (.buffer bytes)
  | .bufferObject data => data.map .buffer
  | .other value => some (.other value)

/-- The fields of request and response packets that concern streams. -/
structure Packet (ι α : Type) where
  id : ι
  sender : String
  seq : Option Nat
  stream : Option Bool
  /-- The `params` of a request or the `data` of a response. -/
  data : Wire α
  /-- The error that comes with the packet, if there is one. -/
  error : Option String
  deriving DecidableEq, Repr

section Sender

/-- The loop that pushes `chunk.subarray(i, (i += maxChunkSize))` while `i < len`. -/
def subarrays (bytes : List UInt8) (maxChunkSize i : Nat) : List (List UInt8) :=
  if i < bytes.length ∧ 0 < maxChunkSize then
    (bytes.drop i).take maxChunkSize :: subarrays bytes maxChunkSize (i + maxChunkSize)
  else []
termination_by bytes.length - i

/-- The pieces in which a chunk is sent. -/
def splitChunk (maxChunkSize : Nat) : Chunk α → List (Chunk α)
  | .buffer bytes =>
    if 0 < maxChunkSize ∧ maxChunkSize < bytes.length then
      (subarrays bytes maxChunkSize 0).map .buffer
    else [.buffer bytes]
  | chunk => [chunk]

/-- The packet for one piece, whose number is `++payload.seq`. -/
def piecePacket (serializer : Serializer) (id : ι) (sender : String) (seq : Nat)
    (piece : Chunk α) : Packet ι α :=
  ⟨id, sender, some seq, some true, serializer.transfer piece, none⟩

/-- The packets of the pieces of one chunk, with the last number used. -/
def sendPieces (serializer : Serializer) (id : ι) (sender : String) :
    Nat → List (Chunk α) → List (Packet ι α) × Nat
  | seq, [] => ([], seq)
  | seq, piece :: rest =>
    let (packets, last) := sendPieces serializer id sender (seq + 1) rest
    (piecePacket serializer id sender (seq + 1) piece :: packets, last)

/-- The listeners on `data` and `end`: every chunk in its pieces, then the closing packet. -/
def sendChunks (serializer : Serializer) (maxChunkSize : Nat) (id : ι) (sender : String) :
    Nat → List (Chunk α) → List (Packet ι α)
  | seq, [] => [⟨id, sender, some (seq + 1), some false, .null, none⟩]
  | seq, chunk :: rest =>
    let (packets, last) := sendPieces serializer id sender seq (splitChunk maxChunkSize chunk)
    packets ++ sendChunks serializer maxChunkSize id sender last rest

/-- All packets of a streamed request, where the first one carries the params. -/
def requestPackets (serializer : Serializer) (maxChunkSize : Nat) (id : ι) (sender : String)
    (params : Wire α) (source : List (Chunk α)) : List (Packet ι α) :=
  ⟨id, sender, some 0, some true, params, none⟩ ::
    sendChunks serializer maxChunkSize id sender 0 source

/-- All packets of a streamed response. -/
def responsePackets (serializer : Serializer) (maxChunkSize : Nat) (id : ι) (sender : String)
    (source : List (Chunk α)) : List (Packet ι α) :=
  ⟨id, sender, some 0, some true, .null, none⟩ ::
    sendChunks serializer maxChunkSize id sender 0 source

end Sender

/-- What the receiver does to the stream that it hands out. -/
inductive StreamEvent (α : Type) where
  | write (chunk : Chunk α)
  | error (message : String)
  | finish
  deriving DecidableEq, Repr

/-- A stream under construction, with its `$prevSeq` and `$pool`. -/
structure Stream (ι α : Type) where
  prevSeq : Option Int
  pool : OrderedMap Nat (Packet ι α)
  events : List (StreamEvent α)

/-- A stream that has received nothing. -/
def Stream.new : Stream ι α := ⟨some (-1), .empty, []⟩

instance : Inhabited (Stream ι α) := ⟨.new⟩

/-- What becomes of a packet that belongs to a stream. -/
structure Received (ι α : Type) where
  stream : Stream ι α
  /-- The stored packet whose turn it is next. -/
  next : Option (Packet ι α)
  /-- The first packet of the stream was processed. -/
  first : Bool
  /-- The closing packet was processed. -/
  closed : Bool

/-- The test `packet.seq > stream.$prevSeq + 1`, which is false for a missing number. -/
def Stream.tooEarly (stream : Stream ι α) (packet : Packet ι α) : Bool :=
  match packet.seq, stream.prevSeq with
  | some seq, some prevSeq => (seq : Int) > prevSeq + 1
  | _, _ => false

/-- Take the packet that follows from the pool. -/
def Stream.takeNext (stream : Stream ι α) : Stream ι α × Option (Packet ι α) :=
  match stream.prevSeq with
  | some prevSeq =>
    match stream.pool.get (prevSeq + 1).toNat with
    | some packet => ({ stream with pool := stream.pool.delete (prevSeq + 1).toNat }, some packet)
    | none => (stream, none)
  | none => (stream, none)

/-- The sorting of packets, which the handlers of request and response streams have in common. -/
def Stream.receive (stream : Stream ι α) (packet : Packet ι α) : Received ι α :=
  if stream.tooEarly packet then
    -- Some chunks are late. Store these chunks.
    ⟨{ stream with pool := match packet.seq with
        | some seq => stream.pool.set seq packet
        | none => stream.pool }, none, false, false⟩
  else
    let stream := { stream with prevSeq := packet.seq.map (↑·) }
    let first := packet.seq == some 0
    if packet.seq.any (0 < ·) then
      if packet.stream ≠ some true then
        -- End of stream, after an error if the packet carries one.
        let failure := packet.error.toList.map StreamEvent.error
        ⟨{ stream with events := stream.events ++ failure ++ [.finish] }, none, first, true⟩
      else
        match packet.data.toChunk with
        -- Behind an exception nobody looks into the pool.
        | none => ⟨stream, none, first, false⟩
        | some chunk =>
          let written := { stream with events := stream.events ++ [StreamEvent.write chunk] }
          -- Check newer chunks in the pool.
          let (rest, next) := written.takeNext
          ⟨rest, next, first, false⟩
    else
      let (rest, next) := stream.takeNext
      ⟨rest, next, first, false⟩

/-- A packet goes through the handler for requests or through the one for responses. -/
inductive Side where
  | request
  | response
  deriving DecidableEq, Repr

/-- How a pending request of this node was answered. -/
inductive Answer (α : Type) where
  | data (data : Wire α)
  | error (message : String)
  | stream (ref : Nat)
  deriving DecidableEq, Repr

/-- The part of a transit that deals with requests, responses and their streams. -/
structure Transit (ι α : Type) where
  /-- All streams ever created, named by their position. -/
  streams : List (Stream ι α)
  pendingRequests : OrderedMap ι String
  /-- The sender and the stream of each pending request stream. -/
  pendingReqStreams : OrderedMap ι (String × Nat)
  pendingResStreams : OrderedMap ι Nat
  /-- The calls of local action handlers, each with the stream of its context. -/
  calls : List (ι × Option Nat)
  /-- The answers given to pending requests. -/
  answers : List (ι × Answer α)
  /-- The packets that `setImmediate` callbacks will process. -/
  immediates : List (Side × Packet ι α)

namespace Transit

/-- `removePendingRequest`. -/
def removePendingRequest (transit : Transit ι α) (id : ι) : Transit ι α :=
  { transit with
    pendingRequests := transit.pendingRequests.delete id
    pendingReqStreams := transit.pendingReqStreams.delete id
    pendingResStreams := transit.pendingResStreams.delete id }

/-- Give a packet to a stream and schedule the packet that follows. -/
def accept (transit : Transit ι α) (side : Side) (ref : Nat) (packet : Packet ι α) :
    Transit ι α × Received ι α :=
  let received := (transit.streams.getD ref .new).receive packet
  ({ transit with
      streams := transit.streams.set ref received.stream
      immediates := transit.immediates ++ received.next.toList.map (side, ·) }, received)

/-- Whether a packet without a pending stream is no part of a stream at all. -/
def isPlain (packet : Packet ι α) : Bool :=
  packet.stream ≠ some true && (packet.seq == none || packet.seq == some 0)

/-- What `_handleIncomingRequestStream` returns: `false`, `null` or the stream to hand out. -/
inductive StreamResult where
  | notStream
  | handled
  | handOut (ref : Nat)
  deriving DecidableEq, Repr

/-- The part of `_handleIncomingRequestStream` for a packet whose stream is known. -/
def continueRequestStream (transit : Transit ι α) (ref : Nat) (payload : Packet ι α) :
    Transit ι α × StreamResult :=
  let (after, received) := transit.accept .request ref payload
  if received.closed then
    ({ after with pendingReqStreams := after.pendingReqStreams.delete payload.id }, .handled)
  else (after, if received.first then .handOut ref else .handled)

/-- `_handleIncomingRequestStream`. -/
def handleIncomingRequestStream (transit : Transit ι α) (payload : Packet ι α) :
    Transit ι α × StreamResult :=
  match transit.pendingReqStreams.get payload.id with
  | some (_, ref) => transit.continueRequestStream ref payload
  | none =>
    if isPlain payload then (transit, .notStream)
    else
      let ref := transit.streams.length
      continueRequestStream { transit with
        streams := transit.streams ++ [.new]
        pendingReqStreams := transit.pendingReqStreams.set payload.id (payload.sender, ref) }
        ref payload

/-- `requestHandler` of a running broker that offers the action. -/
def requestHandler (transit : Transit ι α) (payload : Packet ι α) : Transit ι α :=
  if payload.stream.isSome then
    match transit.handleIncomingRequestStream payload with
    | (after, .handled) => after
    | (after, .handOut ref) => { after with calls := after.calls ++ [(payload.id, some ref)] }
    | (after, .notStream) => { after with calls := after.calls ++ [(payload.id, none)] }
  else { transit with calls := transit.calls ++ [(payload.id, none)] }

/-- The part of `_handleIncomingResponseStream` for a packet whose stream is known. -/
def continueResponseStream (transit : Transit ι α) (ref : Nat) (packet : Packet ι α) :
    Transit ι α :=
  let (after, received) := transit.accept .response ref packet
  let resolved := if received.first then
    { after with answers := after.answers ++ [(packet.id, .stream ref)] } else after
  if received.closed then resolved.removePendingRequest packet.id else resolved

/-- `_handleIncomingResponseStream`, without a result when the packet is no part of a stream. -/
def handleIncomingResponseStream (transit : Transit ι α) (packet : Packet ι α) :
    Option (Transit ι α) :=
  match transit.pendingResStreams.get packet.id with
  | some ref => some (transit.continueResponseStream ref packet)
  | none =>
    if isPlain packet then none
    else
      let ref := transit.streams.length
      some (continueResponseStream { transit with
        streams := transit.streams ++ [.new]
        pendingResStreams := transit.pendingResStreams.set packet.id ref } ref packet)

/-- Answer a pending request by a packet that is no part of a stream. -/
def answerPlain (transit : Transit ι α) (packet : Packet ι α) : Transit ι α :=
  let after := transit.removePendingRequest packet.id
  { after with answers := after.answers ++ [(packet.id, match packet.error with
      | some message => .error message
      | none => .data packet.data)] }

/-- `responseHandler`. -/
def responseHandler (transit : Transit ι α) (packet : Packet ι α) : Transit ι α :=
  match transit.pendingRequests.get packet.id with
  -- If not exists (timed out), we skip response processing.
  | none => transit
  | some _ =>
    if packet.stream.isSome then
      (transit.handleIncomingResponseStream packet).getD (transit.answerPlain packet)
    else transit.answerPlain packet

/-- The handler of a side. -/
def handle (transit : Transit ι α) : Side → Packet ι α → Transit ι α
  | .request => transit.requestHandler
  | .response => transit.responseHandler

/-- What can happen at a receiver: a packet arrives, or a `setImmediate` callback runs. -/
inductive Input (ι α : Type) where
  | deliver (side : Side) (packet : Packet ι α)
  | immediate

/-- One step of the receiver. -/
def step (transit : Transit ι α) : Input ι α → Transit ι α
  | .deliver side packet => transit.handle side packet
  | .immediate =>
    match transit.immediates with
    | [] => transit
    | (side, packet) :: rest => handle { transit with immediates := rest } side packet

end Transit

end Moleculer.Streams
