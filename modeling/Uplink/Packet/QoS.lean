import Uplink.Wire.ProtocolError

/-!
# Quality of service

The three delivery guarantees that a publish or a subscription can ask for, with
the two-bit codes that stand for them on the wire.
-/

namespace Uplink

/-- How hard the two sides try to deliver a message. -/
inductive QoS where
  | atMostOnce
  | atLeastOnce
  | exactlyOnce
deriving DecidableEq, Repr

namespace QoS

/-- The number that stands for a guarantee on the wire. -/
def code : QoS → UInt8
  | atMostOnce => 0
  | atLeastOnce => 1
  | exactlyOnce => 2

/-- The guarantee that a number stands for; there is none above two. -/
def ofCode (code : UInt8) : Except ProtocolError QoS :=
  if code = 0 then .ok atMostOnce
  else if code = 1 then .ok atLeastOnce
  else if code = 2 then .ok exactlyOnce
  else .error .malformedPacket

/-- A guarantee is read back from its number. -/
@[simp] theorem ofCode_code (qos : QoS) : ofCode qos.code = .ok qos := by
  cases qos <;> rfl

end QoS

end Uplink
