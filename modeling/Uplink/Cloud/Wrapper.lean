import Uplink.Backend.Run
import Uplink.Cloud.Translator
import Uplink.Identity.TopicSet

/-!
# The cloud wrapper

The application's face of the connection: it knows the device's topics and turns the
application's sends into publishes at most once. Fetching the device state is not
provided; a policy says whether asking for it fails.
-/

namespace Uplink

/-- What a request for the device state does. -/
inductive StateGetPolicy where
  /-- It succeeds and does nothing. -/
  | noOp
  /-- It is refused. -/
  | unsupported
deriving DecidableEq, Repr

/-- The answer to a request for the device state. -/
def StateGetPolicy.answer : StateGetPolicy → Except WrapError Unit
  | noOp => .ok ()
  | unsupported => .error .notSupported

/-- What an application can ask of the wrapper. -/
inductive CloudCall where
  | connect
  | disconnect
  | stateGet
  | stateSend (payload : Bytes)
  | dataSend (payload : Bytes)
  | batchSend (payload : Bytes)
  | uiSend (payload : Bytes)
deriving DecidableEq, Repr

/-- The application's handle to the cloud. -/
structure Wrapper where
  clientId : ClientId
  topics : TopicSet
  stateGet : StateGetPolicy
deriving DecidableEq

namespace Wrapper

variable {σ ν : Type}

/-- Make a wrapper and the setup of its polling task. -/
def init (clientId : ClientId) (config : BackendConfig) (stateGet : StateGetPolicy)
    (application : CloudHandler σ ν) : Except WrapError (Wrapper × Setup σ ν) := do
  let topics ← TopicSet.ofClientId clientId
  match SessionId.compose config.clientIdPrefix clientId.text with
  | .error .clientIdTooLong => throw .clientIdTooLong
  | .error reason => throw (.backend reason)
  | .ok sessionId =>
    let handler := Translator.handler topics.cfg application
    return ({ clientId, topics, stateGet }, { sessionId, config, handler })

/-- The publish that carries a payload of the application. -/
def send (topic : Topic) (payload : Bytes) : Call :=
  .publish ⟨topic.text, payload, .atMostOnce⟩

/-- The call of the backend that an application's call amounts to, if any. -/
def call? (wrapper : Wrapper) : CloudCall → Option Call
  | .connect => some .connect
  | .disconnect => some .disconnect
  | .stateGet => none
  | .stateSend payload | .dataSend payload | .uiSend payload =>
    some (send wrapper.topics.messages payload)
  | .batchSend payload => some (send wrapper.topics.batch payload)

/-- Do what the application asks for. -/
def perform (wrapper : Wrapper) (world : World σ ν) (request : CloudCall) :
    Except WrapError Unit × World σ ν :=
  match wrapper.call? request with
  | some request =>
    let (answer, world) := world.call request
    (answer.mapError .backend, world)
  | none => (wrapper.stateGet.answer, world)

end Wrapper

end Uplink
