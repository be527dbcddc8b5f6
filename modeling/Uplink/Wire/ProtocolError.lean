/-!
# Protocol faults

`ProtocolError` names every way in which a packet can fail to be read, written or
framed. It carries causes; `ProtocolError.message` alone holds their wording.
-/

namespace Uplink

/-- Faults raised while encoding, decoding or framing control packets. -/
inductive ProtocolError where
  /-- The control type is unknown, or not one that a client may receive. -/
  | invalidPacketType (code : UInt8)
  /-- The broker ended the stream. -/
  | connectionClosed
  /-- The bytes do not have the form that the packet requires. -/
  | malformedPacket
  /-- A packet or a text exceeds what a buffer or the protocol can carry. -/
  | payloadTooLarge
  /-- A text field is not UTF-8. -/
  | invalidUtf8String
  /-- The output buffer cannot hold what is to be written. -/
  | bufferTooSmall
deriving DecidableEq, Repr

namespace ProtocolError

/-- The wording of each fault. -/
def message : ProtocolError → String
  | invalidPacketType code => "invalid packet type " ++ toString code.toNat
  | connectionClosed => "connection closed by broker"
  | malformedPacket => "malformed packet"
  | payloadTooLarge => "payload too large"
  | invalidUtf8String => "invalid UTF-8 string"
  | bufferTooSmall => "buffer too small"

end ProtocolError

end Uplink
