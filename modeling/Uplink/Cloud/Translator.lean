import Uplink.Backend.Handler

/-!
# Events for the application

The application sees fewer events than the backend raises. When the broker accepts a
session, the translator subscribes to the configuration topic in silence; the session
being ready is what the application calls connected. Everything else is forwarded.
-/

namespace Uplink

/-- What the application is told. -/
inductive CloudEvent where
  | connecting
  | connected
  | disconnected
  /-- A message from the cloud. -/
  | dataReceived (payload : Bytes)
deriving DecidableEq, Repr

/-- Receives the events of the application. -/
structure CloudHandler (σ ν : Type) where
  react : CloudEvent → σ → Reaction ν σ

namespace Translator

/-- What the application is told about an event of the backend. -/
def forward? : Event → Option CloudEvent
  | .connecting => some .connecting
  | .connected => none
  | .ready => some .connected
  | .disconnected => some .disconnected
  | .dataReceived _ payload => some (.dataReceived payload)

/-- The handler of backend events that serves an application. A refused subscription
goes unnoticed. -/
def handler {σ ν : Type} (cfg : Topic) (application : CloudHandler σ ν) : Handler σ ν where
  react event state :=
    match forward? event with
    | some forwarded => application.react forwarded state
    | none => .call (.subscribe cfg.text) fun _ => .done state

end Translator

end Uplink
