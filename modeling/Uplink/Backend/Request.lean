import Uplink.Backend.BackendError
import Uplink.Config
import Uplink.Packet.QoS
import Uplink.Text.Utf8

/-!
# Requests

What callers ask the polling task to send. A request holds copies of its topic and
payload, and their limits are part of its type: whatever is queued fits a session's
packet buffer.
-/

namespace Uplink

/-- A topic of at most `Limits.topic` bytes. -/
structure Topic where
  text : String
  fits : text.utf8ByteSize ≤ Limits.topic
deriving DecidableEq

/-- Take over a topic, if it is short enough. -/
def Topic.ofText (text : String) : Except BackendError Topic :=
  if fits : text.utf8ByteSize ≤ Limits.topic then .ok ⟨text, fits⟩ else .error .topicTooLong

/-- A message to publish, as a caller gives it. -/
structure Message where
  topic : String
  payload : Bytes
  qos : QoS
deriving DecidableEq, Repr

/-- A message that can be queued. -/
structure PublishRequest where
  topic : Topic
  payload : Bytes
  qos : QoS
  fits : payload.length ≤ Limits.payload
deriving DecidableEq

/-- Take over a message. The topic is judged before the payload. -/
def PublishRequest.ofMessage (message : Message) : Except BackendError PublishRequest := do
  let topic ← Topic.ofText message.topic
  if fits : message.payload.length ≤ Limits.payload then
    return ⟨topic, message.payload, message.qos, fits⟩
  else throw .payloadTooLarge

/-- Work for the polling task. -/
inductive Request where
  | publish (message : PublishRequest)
  /-- Subscribe to a topic at least once. -/
  | subscribe (topic : Topic)
deriving DecidableEq

end Uplink
