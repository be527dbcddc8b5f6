import Uplink.Proofs.Backend.Script

/-!
# Polls that change nothing

A task that was polled until nothing changes any more has to wait.
`Setup.step_eq_none_of_poll_eq` says so of a session with keep-alive that is in a turn:
a task that did not have to wait would record something within two steps.
-/

namespace Uplink

namespace Setup

variable {σ ν : Type} {setup : Setup σ ν} {world : World σ ν} {client : Client}

/-- Nothing that was recorded is lost. -/
theorem length_trace_le {before after : World σ ν} {moves : List Move}
    (reached : after = setup.play before moves) : before.trace.length ≤ after.trace.length := by
  rw [reached, (setup.play_evolves before moves).grows, List.length_append]
  exact Nat.le_add_left _ _

theorem length_trace_close (world : World σ ν) :
    world.trace.length < (setup.close world).trace.length := by
  obtain ⟨marks, ends⟩ := setup.exists_ends_close world
  rw [ends.grows, farewell, voice]
  simp
  omega

/-- A step of a session's turn records something, or a packet is in hand behind it. -/
theorem progress_of_selecting {after : World σ ν} {due : Micros} {armed : Bool}
    (stage : world.stage = .selecting client due armed) (on : client.options.keepAlive ≠ 0)
    (follows : setup.StepCase world after) :
    world.trace.length < after.trace.length ∨ after.stage.inHand ≠ [] := by
  have transmits {sender : Client} {packet : Outbound} {next : Continuation} {other : World σ ν}
      (same : other.trace = world.trace) :
      world.trace.length < (setup.transmit sender packet next other).trace.length ∨
        (setup.transmit sender packet next other).stage.inHand ≠ [] := by
    unfold transmit
    split
    · exact .inr nofun
    · rw [← same]
      exact .inl (length_trace_close other)
  cases follows with
  | served isStage | begunOnce isStage | begunServing isStage | linked isStage
  | unreachable isStage | sendFailed isStage | sentForTurn isStage | sentForDrain isStage
  | sentForClose isStage | unreadable isStage | drained isStage | handled isStage =>
    cases stage.symm.trans isStage
  | crowded => exact .inl (length_trace_close world)
  | @hungUp _ _ _ link | @linkFailed _ _ _ _ link =>
    exact .inl (length_trace_close { world with link })
  | received => exact .inl (Nat.lt_succ_self _)
  | idled isStage _ _ _ off =>
    cases stage.symm.trans isStage
    exact absurd off on
  | pinging | requested | disconnecting => exact transmits rfl

/-- The packet in hand is recorded when it is given to the link. -/
theorem progress_of_inHand {after : World σ ν} (occupied : world.stage.inHand ≠ [])
    (follows : setup.StepCase world after) : world.trace.length < after.trace.length := by
  cases follows with
  | served isStage | begunOnce isStage | begunServing isStage | linked isStage
  | unreachable isStage | unreadable isStage | drained isStage | handled isStage
  | crowded isStage | hungUp isStage | linkFailed isStage | received isStage | idled isStage
  | pinging isStage | requested isStage | disconnecting isStage =>
    rw [isStage] at occupied
    exact absurd rfl occupied
  | @sendFailed _ packet frame =>
    exact (Nat.lt_succ_self _).trans (length_trace_close (world.record (.handed packet frame false)))
  | @sentForClose _ packet frame =>
    exact (Nat.lt_succ_self _).trans (length_trace_close (world.record (.handed packet frame true)))
  | sentForTurn | sentForDrain => exact Nat.lt_succ_self _

/-- When a poll changes nothing, the timer of the turn is running. -/
theorem armed_of_poll_eq {due : Micros} {armed : Bool}
    (stage : world.stage = .selecting client due armed) (settled : setup.poll world = world) :
    armed = true := by
  have waits : world.stage.waiting = world.stage := by
    rw [← settled]
    simp only [poll, World.moveTo_stage]
    cases (setup.advance world.budget world).stage <;> rfl
  rw [stage] at waits
  cases waits
  rfl

/-- When a poll changes nothing, the task has to wait. Within two steps of a turn, it would
have recorded something or would be left with a packet in hand. -/
theorem step_eq_none_of_poll_eq {due : Micros} {armed : Bool}
    (stage : world.stage = .selecting client due armed) (on : client.options.keepAlive ≠ 0)
    (settled : setup.poll world = world) : setup.step world = none := by
  cases taken : setup.step world with
  | none => rfl
  | some after =>
    exfalso
    -- The poll begins with two steps. The first one records something, or else the second.
    obtain ⟨fuel, budget⟩ : ∃ fuel, world.budget = fuel + 2 :=
      ⟨world.budget - 2, by unfold World.budget; omega⟩
    have polled : world = setup.play after (.step :: (.replicate fuel .step ++ [.wait])) := by
      rw [← settled, poll_eq_play, budget, List.replicate_succ, List.replicate_succ]
      simp only [List.cons_append, play_cons, move, taken, Option.getD_some]
    have begun : after = setup.play world [.step] := by
      simp only [play_cons, play_nil, move, taken, Option.getD_some]
    have grown := length_trace_le begun
    have kept := length_trace_le polled
    rcases progress_of_selecting stage on (step_cases taken) with longer | occupied
    · omega
    · cases given : setup.step after with
      | some last =>
        have longer := progress_of_inHand occupied (step_cases given)
        rw [play_cons, move, given, Option.getD_some] at polled
        have keptLast := length_trace_le polled
        omega
      | none =>
        rw [play_cons, move, given, Option.getD_none, play_append,
          play_steps_of_waiting setup given] at polled
        have same : world.stage = after.stage.waiting := congrArg World.stage polled
        rw [← Stage.inHand_waiting, ← same, stage] at occupied
        exact occupied rfl

/-- A turn whose timer is running waits no longer than its deadline. -/
theorem early_of_step_eq_none {due : Micros} (stage : world.stage = .selecting client due true)
    (waits : setup.step world = none) : world.now < due := by
  refine Nat.lt_of_not_le fun late => ?_
  simp only [step, stage, select] at waits
  split at waits
  · cases waits
  · split at waits
    · cases waits
    · cases waits
    · cases waits
    · simp only [selectIdle, decide_eq_true late, Bool.and_true, if_true] at waits
      cases waits

end Setup

end Uplink
