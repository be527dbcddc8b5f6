import Uplink.Packet.Basic
import Uplink.Wire.Varint
import Uplink.Wire.Writer

/-!
# Writing packets

The length of a packet is only known once its body is written, and the field that
holds it has one to four bytes. `Encoded.frame` therefore writes the body behind
`headerReserve` free bytes, puts the header in front and moves the body down to it.
-/

namespace Uplink

/-- An output buffer that begins with one encoded packet. -/
structure Encoded where
  buffer : Bytes
  /-- Number of bytes of the packet. -/
  length : Nat
deriving DecidableEq, Repr

namespace Encoded

/-- Bytes kept free in front of a body: the type byte and the longest length field. -/
def headerReserve : Nat := 5

/-- The bytes of the packet itself. -/
def bytes (encoded : Encoded) : Bytes := encoded.buffer.take encoded.length

/-- Write bytes over those at the front of a buffer. -/
def overwrite (buffer front : Bytes) : Bytes := front ++ buffer.drop front.length

/-- Copy `count` bytes of a buffer from `source` to `target`; the two places may overlap. -/
def copyWithin (buffer : Bytes) (source count target : Nat) : Bytes :=
  buffer.take target ++ (buffer.drop source).take count ++ buffer.drop (target + count)

/-- Write a body behind the reserved bytes, then its header in front of them, and move
the body down to the header. -/
def frame (buffer : Bytes) (header : UInt8) (body : Write Unit) :
    Except ProtocolError Encoded :=
  if buffer.length < headerReserve then .error .bufferTooSmall
  else match body (.startAt buffer headerReserve) with
    | .error fault _ => .error fault
    | .ok _ writer => do
      let remaining := writer.position - headerReserve
      let (lengthField, size) ← Varint.write [0, 0, 0, 0] remaining
      let headed := overwrite writer.buffer (header :: lengthField.take size)
      return ⟨copyWithin headed headerReserve remaining (1 + size), 1 + size + remaining⟩

/-- Write a packet that has no body. -/
def bare (buffer : Bytes) (header : UInt8) : Except ProtocolError Encoded :=
  match Writer.putBytes [header, 0] (.startAt buffer 0) with
  | .ok _ writer => .ok ⟨writer.buffer, 2⟩
  | .error fault _ => .error fault

end Encoded

/-- The protocol level of MQTT 3.1.1. -/
def Connect.protocolLevel : UInt8 := 4

/-- The body of a connection request: protocol name and level, flags, keep-alive
and client identifier. -/
def Connect.body (request : Connect) : Write Unit := do
  Writer.putText "MQTT"
  Writer.putU8 Connect.protocolLevel
  Writer.putU8 (if request.cleanSession then 2 else 0)
  Writer.putU16 request.keepAlive
  Writer.putText request.clientId

/-- The type and flags of a message. -/
def Publish.header (message : Publish) : UInt8 :=
  let retain : UInt8 := if message.retain then 1 else 0
  let dup : UInt8 := if message.dup then 8 else 0
  (0x30 : UInt8) ||| (message.qos.code <<< 1) ||| retain ||| dup

/-- The body of a message. A message that is to be acknowledged needs an
identifier; one that is not never shows it. -/
def Publish.body (message : Publish) : Write Unit := do
  Writer.putText message.topic
  if message.qos ≠ .atMostOnce then
    match message.packetId with
    | some packetId => Writer.putU16 packetId
    | none => throw .malformedPacket
  Writer.putBytes message.payload

/-- The body of a subscription: the identifier and each topic with its guarantee. -/
def Subscribe.body (request : Subscribe) : Write Unit := do
  Writer.putU16 request.packetId
  request.topics.forM fun (topic, qos) => do
    Writer.putText topic
    Writer.putU8 qos.code

/-- The type and flags of an acknowledgement. A release carries reserved flags. -/
def Acknowledgement.header : Acknowledgement → UInt8
  | pubAck => 0x40
  | pubRec => 0x50
  | pubRel => 0x62
  | pubComp => 0x70

namespace Outbound

/-- Encode a packet at the start of a buffer. -/
def encodeInto (packet : Outbound) (buffer : Bytes) : Except ProtocolError Encoded :=
  match packet with
  | connect request => Encoded.frame buffer 0x10 request.body
  | publish message => Encoded.frame buffer message.header message.body
  | acknowledge kind packetId => Encoded.frame buffer kind.header (Writer.putU16 packetId)
  | subscribe request => Encoded.frame buffer 0x82 request.body
  | pingReq => Encoded.bare buffer 0xC0
  | disconnect => Encoded.bare buffer 0xE0

/-- The frame of a packet, when a buffer of `capacity` bytes can hold it. -/
def encode (packet : Outbound) (capacity : Nat) : Except ProtocolError Bytes :=
  (packet.encodeInto (.replicate capacity 0)).map Encoded.bytes

end Outbound

end Uplink
