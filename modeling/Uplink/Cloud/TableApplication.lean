import Uplink.Cloud.Translator
import Uplink.Command.Codec

/-!
# Applications from tables

An application that notes every event it is told, may decode the messages it gets as
command documents, and then performs the calls that a table lists for the event.
-/

namespace Uplink

/-- The kinds of events that an application is told. -/
inductive CloudEventKind where
  | connecting
  | connected
  | disconnected
  | dataReceived
deriving DecidableEq, Repr

/-- The kind of an application's event. -/
def CloudEvent.kind : CloudEvent → CloudEventKind
  | connecting => .connecting
  | connected => .connected
  | disconnected => .disconnected
  | dataReceived _ => .dataReceived

/-- What an application notes. -/
inductive ApplicationNote where
  /-- It was told an event, in a phase of the backend. -/
  | told (event : CloudEvent) (phase : Phase)
  /-- A message held a command. -/
  | command (command : Command)
  /-- A message was decoded. -/
  | decoded (result : Except CodecError Nat)
  /-- It made a call. -/
  | called (request : Call) (answer : Except BackendError Unit)

namespace ApplicationNote

/-- The notes on a decoded message: its commands in order, then the result. -/
def ofDispatch (dispatch : Dispatch) : List ApplicationNote :=
  dispatch.commands.map command ++ [decoded dispatch.result]

/-- The notes on the payload of an event. -/
def ofPayload : CloudEvent → List ApplicationNote
  | .dataReceived payload => ofDispatch (Dispatch.ofBytes payload)
  | _ => []

end ApplicationNote

/-- The application that performs the calls of a table; its state counts events. -/
def CloudHandler.ofTable (decodes : Bool) (table : CloudEventKind → List Call) :
    CloudHandler Nat ApplicationNote where
  react event count := .observe fun phase _ =>
    let notes := .told event phase :: (if decodes then ApplicationNote.ofPayload event else [])
    notes.foldr .note
      (Reaction.performing ApplicationNote.called (count + 1) (table event.kind))

end Uplink
