/-!
# Refused requests

Why the handle of the backend refuses a request. Faults of the connection are never
reported this way; they only show as events.
-/

namespace Uplink

/-- Reasons to refuse a request on the spot. -/
inductive BackendError where
  /-- An attempt or a session is active. -/
  | inProgress
  /-- There is no session that can carry requests. -/
  | notConnected
  /-- The queue of requests is full. -/
  | queueFull
  /-- The topic is longer than topics may be. -/
  | topicTooLong
  /-- The payload is larger than payloads may be. -/
  | payloadTooLarge
  /-- The client identifier is longer than it may be. -/
  | clientIdTooLong
deriving DecidableEq, Repr

/-- The wording of each reason. -/
def BackendError.message : BackendError → String
  | inProgress => "connection already in progress"
  | notConnected => "not connected"
  | queueFull => "request queue full"
  | topicTooLong => "topic too long"
  | payloadTooLarge => "payload too large"
  | clientIdTooLong => "client id too long"

end Uplink
