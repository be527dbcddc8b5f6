/-!
# Connection return codes

The broker answers a connection request with a one-byte code. Zero accepts the
session, the codes that the protocol defines have a name, and every other code is
kept as a number.
-/

namespace Uplink

/-- Why the broker accepted or refused a session. -/
inductive ConnectReason where
  | success
  | unacceptableProtocolVersion
  | identifierRejected
  | serverUnavailable
  | badUserNameOrPassword
  | notAuthorized
  | other (code : UInt8)
deriving DecidableEq, Repr

namespace ConnectReason

/-- The reason that a return code stands for. -/
def ofCode (code : UInt8) : ConnectReason :=
  if code = 0 then success
  else if code = 1 then unacceptableProtocolVersion
  else if code = 2 then identifierRejected
  else if code = 3 then serverUnavailable
  else if code = 4 then badUserNameOrPassword
  else if code = 5 then notAuthorized
  else other code

/-- The name under which a reason is reported. -/
def name : ConnectReason → String
  | success => "Success"
  | unacceptableProtocolVersion => "UnacceptableProtocolVersion"
  | identifierRejected => "IdentifierRejected"
  | serverUnavailable => "ServerUnavailable"
  | badUserNameOrPassword => "BadUserNameOrPassword"
  | notAuthorized => "NotAuthorized"
  | other code => "Other(" ++ toString code.toNat ++ ")"

/-- Only the code zero accepts a session. -/
theorem ofCode_eq_success_iff (code : UInt8) : ofCode code = success ↔ code = 0 := by
  unfold ofCode
  repeat' split
  all_goals simp_all

end ConnectReason

end Uplink
