import Uplink.Backend.Run

/-!
# Interleavings

A poll of `Setup.run` takes the task as far as it gets, with the link and the clock
standing still meanwhile. `Setup.play` is finer: between any two steps of the task the
broker may act, time may pass and callers may call. `Setup.run_eq_play` says that every
run is such an interleaving, so what holds of all interleavings holds of all runs.
-/

namespace Uplink

/-- The least that can happen to a world. -/
inductive Move where
  | deliver (delivery : Delivery)
  | sendMode (mode : Outcome)
  /-- The outcome of the attempt that is under way, if one is. -/
  | openResult (outcome : Outcome)
  | advance (time : Micros)
  | call (request : Call)
  /-- The task is asked for something and not yet polled. -/
  | ask (job : Job)
  /-- The task takes one step, unless it has to wait. -/
  | step
  /-- The task is left waiting until it is polled again. -/
  | wait
deriving DecidableEq, Repr

/-- The moves that a stimulus consists of, when a poll takes a number of steps. -/
def Stimulus.moves (polled : Nat) : Stimulus → List Move
  | .deliver delivery => [.deliver delivery]
  | .sendMode mode => [.sendMode mode]
  | .openResult outcome => [.openResult outcome]
  | .advance time => [.advance time]
  | .call request => [.call request]
  | .start job => .ask job :: (.replicate polled .step ++ [.wait])
  | .poll => .replicate polled .step ++ [.wait]

namespace Setup

variable {σ ν : Type} (setup : Setup σ ν)

/-- What a move does. -/
def move (world : World σ ν) : Move → World σ ν
  | .deliver delivery => { world with link := world.link.deliver delivery }
  | .sendMode sendMode => { world with link := { world.link with sendMode } }
  | .openResult outcome => world.answerOpen outcome
  | .advance time => { world with now := world.now + time }
  | .call request => (world.call request).2
  | .ask job => { world with next := some job }
  | .step => (setup.step world).getD world
  | .wait => world.moveTo world.stage.waiting

/-- The world after moves. -/
def play (world : World σ ν) (moves : List Move) : World σ ν := moves.foldl setup.move world

@[simp] theorem play_nil (world : World σ ν) : setup.play world [] = world := rfl

@[simp] theorem play_cons (world : World σ ν) (move : Move) (moves : List Move) :
    setup.play world (move :: moves) = setup.play (setup.move world move) moves := rfl

@[simp] theorem play_append (world : World σ ν) (first second : List Move) :
    setup.play world (first ++ second) = setup.play (setup.play world first) second :=
  List.foldl_append

/-- What every move preserves holds after every interleaving. -/
theorem play_induction {motive : World σ ν → Prop}
    (preserved : ∀ world move, motive world → motive (setup.move world move))
    {world : World σ ν} (start : motive world) (moves : List Move) :
    motive (setup.play world moves) := by
  induction moves generalizing world with
  | nil => exact start
  | cons move moves ih => exact ih (preserved world move start)

/-- What every move keeps between two worlds holds after the same moves of both. -/
theorem play_related {motive : World σ ν → World σ ν → Prop}
    (preserved : ∀ {old new} move, motive old new →
      motive (setup.move old move) (setup.move new move))
    {old new : World σ ν} (start : motive old new) (moves : List Move) :
    motive (setup.play old moves) (setup.play new moves) := by
  induction moves generalizing old new with
  | nil => exact start
  | cons move moves ih => exact ih (preserved move start)

/-- A task that has to wait does so until something else happens. -/
theorem play_steps_of_waiting {world : World σ ν} (waits : setup.step world = none) (count : Nat) :
    setup.play world (.replicate count .step) = world := by
  induction count with
  | zero => rfl
  | succ count ih =>
    rw [List.replicate_succ, play_cons, move, waits]
    exact ih

/-- Steps with fuel are steps. -/
theorem advance_eq_play (fuel : Nat) (world : World σ ν) :
    setup.advance fuel world = setup.play world (.replicate fuel .step) := by
  induction fuel generalizing world with
  | zero => rfl
  | succ fuel ih =>
    match taken : setup.step world with
    | none =>
      rw [play_steps_of_waiting setup taken]
      simp [advance, taken]
    | some after =>
      rw [List.replicate_succ, play_cons, move, taken, Option.getD_some, ← ih]
      simp [advance, taken]

/-- A poll is as many steps as its budget has, and then waiting. -/
theorem poll_eq_play (world : World σ ν) :
    setup.poll world = setup.play world (.replicate world.budget .step ++ [.wait]) := by
  simp only [poll, advance_eq_play, play_append, play_cons, play_nil, move]

/-- A stimulus is its moves. -/
theorem respond_eq_play (world : World σ ν) (stimulus : Stimulus) :
    (setup.respond world stimulus).2 = setup.play world (stimulus.moves world.budget) := by
  cases stimulus with
  | start job =>
    have sameBudget : { world with next := some job }.budget = world.budget := by
      simp only [World.budget, World.backlog]
    simp only [respond, poll_eq_play, sameBudget, Stimulus.moves, play_cons, move]
  | poll => exact setup.poll_eq_play world
  | deliver | sendMode | openResult | advance | call => rfl

/-- What every move keeps between two worlds holds after the same runs of both, if polls take
the same number of steps. -/
theorem run_related {motive : World σ ν → World σ ν → Prop}
    (preserved : ∀ {old new} move, motive old new →
      motive (setup.move old move) (setup.move new move))
    (budget : ∀ {old new}, motive old new → old.budget = new.budget)
    {old new : World σ ν} (start : motive old new) (stimuli : List Stimulus) :
    motive (setup.run old stimuli) (setup.run new stimuli) := by
  induction stimuli generalizing old new with
  | nil => exact start
  | cons stimulus stimuli ih =>
    have responded : motive (setup.respond old stimulus).2 (setup.respond new stimulus).2 := by
      rw [respond_eq_play, respond_eq_play, budget start]
      exact setup.play_related preserved start _
    exact ih responded

/-- Every run is an interleaving. -/
theorem run_eq_play (world : World σ ν) (stimuli : List Stimulus) :
    ∃ moves, setup.run world stimuli = setup.play world moves := by
  induction stimuli generalizing world with
  | nil => exact ⟨[], rfl⟩
  | cons stimulus stimuli ih =>
    obtain ⟨moves, rest⟩ := ih (setup.respond world stimulus).2
    refine ⟨stimulus.moves world.budget ++ moves, ?_⟩
    rw [play_append, ← respond_eq_play]
    exact rest

end Setup

end Uplink
