import Uplink.Cloud.Wrapper

/-!
# Applications with a wrapper

An application can ask its wrapper from outside the polling task, by `Wrapper.perform`, and
while it is told an event. A `Routine` is what it does on an event when the wrapper is all
that it has, and `Routine.through` is what this comes to for the backend. Its notes are a
diary: each request is noted with the answer that it got.
-/

namespace Uplink

/-- A request of an application, with the answer that it got. -/
structure Asked where
  request : CloudCall
  answer : Except WrapError Unit

/-- What an application does on an event, with its result at the end. -/
inductive Routine (ν α : Type) where
  | done (result : α)
  /-- Leave a note. -/
  | note (entry : ν) (rest : Routine ν α)
  /-- Ask the wrapper and go on with its answer. -/
  | ask (request : CloudCall) (next : Except WrapError Unit → Routine ν α)
  /-- Look at the phase and at whether the slot is taken. -/
  | observe (next : Phase → Bool → Routine ν α)

/-- What the wrapper does about a request while an event is handled. -/
def Wrapper.serve {ν : Type} (wrapper : Wrapper) (request : CloudCall) :
    Reaction ν (Except WrapError Unit) :=
  match wrapper.call? request with
  | some request => .call request fun answer => .done (answer.mapError .backend)
  | none => .done wrapper.stateGet.answer

/-- What a routine comes to for the backend. Every request is noted with its answer. -/
def Routine.through {ν α : Type} (wrapper : Wrapper) : Routine ν α → Reaction (Asked ⊕ ν) α
  | done result => .done result
  | note entry rest => .note (.inr entry) (rest.through wrapper)
  | ask request next => (wrapper.serve request).bind fun answer =>
    .note (.inl ⟨request, answer⟩) ((next answer).through wrapper)
  | observe next => .observe fun phase active => (next phase active).through wrapper

/-- An application that has nothing but its wrapper. -/
structure Application (σ ν : Type) where
  react : CloudEvent → σ → Routine ν σ

/-- The application as the translator knows it. -/
def Application.through {σ ν : Type} (application : Application σ ν) (wrapper : Wrapper) :
    CloudHandler σ (Asked ⊕ ν) where
  react event state := (application.react event state).through wrapper

end Uplink
