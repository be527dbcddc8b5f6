import Uplink.Backend.Task

/-!
# Runs of a backend

A run takes a world through stimuli: what the broker and the clock do, what callers
ask of the handle, and when the task is polled. Every order of stimuli is a run.
-/

namespace Uplink

/-- One thing that happens to a backend. -/
inductive Stimulus where
  | deliver (delivery : Delivery)
  | sendMode (mode : Outcome)
  /-- The outcome of the attempt that is under way, if one is. -/
  | openResult (outcome : Outcome)
  | advance (time : Micros)
  | call (request : Call)
  /-- Ask the task for something and poll it. The task gets to it once it is free, and
  a later wish replaces one that it has not got to. -/
  | start (job : Job)
  | poll
deriving DecidableEq, Repr

namespace World

variable {σ ν : Type}

/-- A world in which nothing has happened. -/
def initial (handlerState : σ) (opens : List Outcome) : World σ ν := { handlerState, opens }

/-- Call the handle from outside the task. -/
def call (world : World σ ν) (request : Call) : Except BackendError Unit × World σ ν :=
  let (answer, handle) := world.handle.perform request
  (answer, { world with handle }.record (.called request answer))

/-- Tell the attempt under way its outcome. It is lost on any other stage. -/
def answerOpen (world : World σ ν) (outcome : Outcome) : World σ ν :=
  match world.stage with
  | .opening => { world with openAnswer := outcome }
  | _ => world

/-- What has happened since an earlier state of the world, in order. -/
def since (world earlier : World σ ν) : List (Entry ν) :=
  (world.trace.take (world.trace.length - earlier.trace.length)).reverse

end World

namespace Setup

variable {σ ν : Type} (setup : Setup σ ν)

/-- What a stimulus does; only calls have an answer of their own. -/
def respond (world : World σ ν) : Stimulus → Except BackendError Unit × World σ ν
  | .deliver delivery => (.ok (), { world with link := world.link.deliver delivery })
  | .sendMode sendMode => (.ok (), { world with link := { world.link with sendMode } })
  | .openResult outcome => (.ok (), world.answerOpen outcome)
  | .advance time => (.ok (), { world with now := world.now + time })
  | .call request => world.call request
  | .start job => (.ok (), setup.poll { world with next := some job })
  | .poll => (.ok (), setup.poll world)

/-- The world after a run. -/
def run (world : World σ ν) (stimuli : List Stimulus) : World σ ν :=
  stimuli.foldl (fun world stimulus => (setup.respond world stimulus).2) world

end Setup

end Uplink
