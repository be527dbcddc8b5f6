import Uplink.Backend.Handler

/-!
# Handlers from tables

A handler that answers every kind of event with a fixed list of calls, counts the
events it receives and notes how each call was answered.
-/

namespace Uplink

/-- The kinds of events. -/
inductive EventKind where
  | connecting
  | connected
  | ready
  | disconnected
  | dataReceived
deriving DecidableEq, Repr

/-- The kind of an event. -/
def Event.kind : Event → EventKind
  | connecting => .connecting
  | connected => .connected
  | ready => .ready
  | disconnected => .disconnected
  | dataReceived _ _ => .dataReceived

/-- A call that a handler made, and its answer. -/
structure CallNote where
  request : Call
  answer : Except BackendError Unit

/-- The handler that performs the calls of a table; its state counts events. -/
def Handler.ofTable (table : EventKind → List Call) : Handler Nat CallNote where
  react event count := Reaction.performing CallNote.mk (count + 1) (table event.kind)

end Uplink
