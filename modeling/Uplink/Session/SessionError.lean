import Uplink.Packet.ConnectReason
import Uplink.Wire.ProtocolError

/-!
# Session faults

What ends a session: the link below it, the protocol, or the broker's refusal. The
faults of a link are a parameter.
-/

namespace Uplink

/-- Faults of a session over a link with faults of type `ε`. -/
inductive SessionError (ε : Type) where
  /-- The link failed. -/
  | transport (fault : ε)
  /-- The broker violated the protocol, or a packet did not fit. -/
  | protocol (fault : ProtocolError)
  /-- The broker refused the session. -/
  | refused (reason : ConnectReason)
deriving DecidableEq, Repr

/-- The wording of each fault, given names for the faults of the link. -/
def SessionError.message {ε : Type} (name : ε → String) : SessionError ε → String
  | transport fault => "transport error: " ++ name fault
  | protocol fault => "protocol error: " ++ fault.message
  | refused reason => "connection refused: " ++ reason.name

end Uplink
