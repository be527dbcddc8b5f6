import Uplink.Packet.Basic
import Uplink.Wire.Reader

/-!
# Reading packets

`Inbound.decode` reads one packet from the front of some bytes; the type byte says
which. Bytes after the announced length are not looked at, and neither are bytes of
a body beyond the fields that its packet has.
-/

namespace Uplink

/-- Split a frame into the flags of its header and a reader over its body. -/
def Frame.split (frame : Bytes) : Except ProtocolError (UInt8 × Reader) :=
  let header : Read (UInt8 × Bytes) := do
    let first ← Reader.u8
    let remaining ← Reader.varint
    let body ← Reader.bytes remaining
    return (first &&& 0x0F, body)
  match header ⟨frame⟩ with
  | .ok (flags, body) _ => .ok (flags, ⟨body⟩)
  | .error fault _ => .error fault

/-- Read the body of a frame, given the flags of its header. -/
def Frame.read {α : Type} (frame : Bytes) (body : UInt8 → Read α) : Except ProtocolError α :=
  match Frame.split frame with
  | .error fault => .error fault
  | .ok (flags, reader) =>
    match body flags reader with
    | .ok packet _ => .ok packet
    | .error fault _ => .error fault

/-- The fields of the answer to a connection request. -/
def ConnAck.fields : Read ConnAck := do
  let flags ← Reader.u8
  let returnCode ← Reader.u8
  return ⟨flags &&& 1 != 0, returnCode⟩

/-- The fields of a message. The flags are judged before the body is read. -/
def Publish.fields (flags : UInt8) : Read Publish := do
  let qos ← match QoS.ofCode (flags >>> 1 &&& 3) with
    | .ok qos => pure qos
    | .error fault => throw fault
  let topic ← Reader.text
  let packetId ← if qos = .atMostOnce then pure none else some <$> Reader.u16
  let payload ← Reader.rest
  return { topic, payload, qos, packetId, retain := flags &&& 1 != 0, dup := flags &&& 8 != 0 }

/-- The fields of the answer to a subscription. -/
def SubAck.fields : Read SubAck := do
  let packetId ← Reader.u16
  let returnCodes ← Reader.rest
  if returnCodes.length > maxCodes then throw .payloadTooLarge
  return ⟨packetId, returnCodes⟩

namespace Inbound

/-- The packets that a client accepts. -/
inductive Kind where
  | connAck
  | publish
  | acknowledge (kind : Acknowledgement)
  | subAck
  | pingResp
deriving DecidableEq, Repr

/-- The packet that a control type stands for, if a client may receive it. -/
def Kind.ofCode? (code : UInt8) : Option Kind :=
  match code.toNat with
  | 2 => some .connAck
  | 3 => some .publish
  | 4 => some (.acknowledge .pubAck)
  | 5 => some (.acknowledge .pubRec)
  | 6 => some (.acknowledge .pubRel)
  | 7 => some (.acknowledge .pubComp)
  | 9 => some .subAck
  | 13 => some .pingResp
  | _ => none

/-- Read a frame as a packet of a given kind, whatever its type byte. The answer to
a ping is recognised by its type alone. -/
def decodeAs (kind : Kind) (frame : Bytes) : Except ProtocolError Inbound :=
  match kind with
  | .connAck => (Frame.read frame fun _ => ConnAck.fields).map connAck
  | .publish => (Frame.read frame Publish.fields).map publish
  | .acknowledge kind => (Frame.read frame fun _ => Reader.u16).map (acknowledge kind)
  | .subAck => (Frame.read frame fun _ => SubAck.fields).map subAck
  | .pingResp => .ok pingResp

/-- Read the packet at the front of some bytes. -/
def decode (frame : Bytes) : Except ProtocolError Inbound :=
  match frame with
  | [] => .error .malformedPacket
  | first :: _ =>
    match Kind.ofCode? (first >>> 4) with
    | some kind => decodeAs kind frame
    | none => .error (.invalidPacketType (first >>> 4))

end Inbound

end Uplink
