import Uplink.Backend.BackendError

/-!
# Faults of the cloud wrapper

The wrapper passes on what the backend refuses and adds reasons of its own.
-/

namespace Uplink

/-- Reasons for which the wrapper refuses an operation. -/
inductive WrapError where
  /-- The backend refused the request. -/
  | backend (reason : BackendError)
  /-- The identifier is empty or holds a character that topics give a meaning to. -/
  | invalidClientId
  /-- The identifier is too long. -/
  | clientIdTooLong
  /-- A topic of the device is too long. -/
  | topicTooLong
  /-- The device does not tell its identity. -/
  | identity
  /-- The operation is not provided. -/
  | notSupported
deriving DecidableEq, Repr

/-- The wording of each reason. -/
def WrapError.message : WrapError → String
  | backend reason => reason.message
  | invalidClientId => "invalid client id"
  | clientIdTooLong => "client id too long"
  | topicTooLong => "topic too long"
  | identity => "device identity unavailable"
  | notSupported => "operation not supported"

end Uplink
