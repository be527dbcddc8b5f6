import Uplink.Backend.Handle

/-!
# Events and their handlers

The polling task reports what happens as events. A handler may call the handle while
it runs, look at what callers can see, and leave notes; a `Reaction` lists what it
does, so that every handler is a function and can use nothing but the handle.
-/

namespace Uplink

/-- What the polling task reports, in the order in which it happens. -/
inductive Event where
  | connecting
  /-- The broker accepted the session. -/
  | connected
  /-- The session can carry requests. -/
  | ready
  | disconnected
  /-- A message arrived. -/
  | dataReceived (topic : String) (payload : Bytes)
deriving DecidableEq, Repr

/-- What a handler does on an event, with its result at the end. -/
inductive Reaction (ν α : Type) where
  | done (result : α)
  /-- Leave a note. -/
  | note (entry : ν) (rest : Reaction ν α)
  /-- Call the handle and go on with its answer. -/
  | call (call : Call) (next : Except BackendError Unit → Reaction ν α)
  /-- Look at the phase and at whether the slot is taken. -/
  | observe (next : Phase → Bool → Reaction ν α)

/-- What a handler's reaction leaves behind. -/
inductive ReactionEntry (ν : Type) where
  | called (call : Call) (answer : Except BackendError Unit)
  | noted (entry : ν)

namespace Reaction

variable {ν α β : Type}

/-- Go through a reaction: its result, the handle afterwards, and what it left. -/
def run : Reaction ν α → Handle → α × Handle × List (ReactionEntry ν)
  | done result, handle => (result, handle, [])
  | note entry rest, handle =>
    let (result, after, entries) := rest.run handle
    (result, after, .noted entry :: entries)
  | call request next, handle =>
    let (answer, after) := handle.perform request
    let (result, after, entries) := (next answer).run after
    (result, after, .called request answer :: entries)
  | observe next, handle => (next handle.phase handle.active).run handle

/-- Continue a reaction with its result. -/
def bind : Reaction ν α → (α → Reaction ν β) → Reaction ν β
  | done result, next => next result
  | note entry rest, next => note entry (rest.bind next)
  | call request answered, next => call request fun answer => (answered answer).bind next
  | observe seen, next => observe fun phase active => (seen phase active).bind next

/-- Perform calls one after the other and leave a note on each. -/
def performing (describe : Call → Except BackendError Unit → ν) (result : α) :
    List Call → Reaction ν α
  | [] => done result
  | request :: rest => call request fun answer =>
    note (describe request answer) (performing describe result rest)

end Reaction

/-- Receives events; `σ` is its state and `ν` the type of its notes. -/
structure Handler (σ ν : Type) where
  react : Event → σ → Reaction ν σ

end Uplink
