import Uplink.Backend.Request
import Uplink.Identity.ClientId

/-!
# The topics of a device

Three topics are derived from a client identifier: one for configuration from the
cloud and two for what the device sends.
-/

namespace Uplink

/-- The topics of one device. -/
structure TopicSet where
  /-- Configuration updates from the cloud, subscribed in every session. -/
  cfg : Topic
  batch : Topic
  messages : Topic
deriving DecidableEq

namespace TopicSet

/-- The topic of a device with a given last level. -/
def topic (clientId : ClientId) (leaf : String) : Except WrapError Topic :=
  match Topic.ofText (clientId.text ++ "/" ++ leaf) with
  | .ok topic => .ok topic
  | .error _ => .error .topicTooLong

/-- The topics of a device. -/
def ofClientId (clientId : ClientId) : Except WrapError TopicSet := do
  let cfg ← topic clientId "cfg"
  let batch ← topic clientId "batch"
  let messages ← topic clientId "messages"
  return { cfg, batch, messages }

end TopicSet

end Uplink
