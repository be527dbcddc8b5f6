import Uplink.Proofs.Backend.Script

/-!
# Links

A link is opened when a session begins and dropped when its attempt ends.
`Setup.linksOpened_play` accounts for all links of a run: those that were opened are those
that were dropped and the one that may be open.
-/

namespace Uplink

namespace World

variable {σ ν : Type} {world after : World σ ν} {deeds : List (Entry ν)}

/-- The number of links that were dropped. -/
def linksDropped (world : World σ ν) : Nat :=
  (world.history.filterMap Entry.showing?).count .dropped

theorem Grows.linksDropped_eq {entries : List (Entry ν)} (grows : world.Grows entries after) :
    after.linksDropped =
      world.linksDropped + (entries.filterMap Entry.showing?).count .dropped := by
  rw [linksDropped, grows.history_eq, List.filterMap_append, List.count_append, linksDropped]

theorem Does.linksDropped_eq (does : world.Does deeds after) :
    after.linksDropped =
      world.linksDropped + (deeds.filterMap Entry.showing?).count .dropped := by
  obtain ⟨entries, grows, rfl, -⟩ := does
  rw [grows.linksDropped_eq, Entry.filterMap_deeds fun _ => Entry.showing?_of_not_isDeed]

end World

namespace Setup

open Entry

variable {σ ν : Type} (setup : Setup σ ν)

/-- The number of links that are opened during some moves. -/
def linksOpened (world : World σ ν) : List Move → Nat
  | [] => 0
  | move :: moves =>
    (!world.stage.isLinked && (setup.move world move).stage.isLinked).toNat +
      linksOpened (setup.move world move) moves

theorem linksOpened_append (world : World σ ν) (first second : List Move) :
    setup.linksOpened world (first ++ second) =
      setup.linksOpened world first + setup.linksOpened (setup.play world first) second := by
  induction first generalizing world with
  | nil => simp [linksOpened]
  | cons move first ih =>
    rw [List.cons_append, linksOpened, ih, linksOpened, play_cons, Nat.add_assoc]

variable {setup} {before world after : World σ ν} {deeds : List (Entry ν)} {stage : Stage}

/-- A due attempt finds no link open. -/
theorem isLinked_of_due (due : before.AttemptDue) : before.stage.isLinked = false := by
  rcases due with ⟨stage, -⟩ | ⟨stage, -⟩ <;> rw [stage] <;> rfl

/-- An attempt that begins has no link to drop. -/
theorem FirstAct.dropped {now : Micros} (acts : setup.FirstAct now deeds stage) :
    (deeds.filterMap showing?).count .dropped = 0 := by
  cases acts <;> rfl

/-- A link is dropped in the step that ends its attempt. -/
theorem Act.dropped (acts : setup.Act world deeds stage) :
    (deeds.filterMap showing?).count .dropped + stage.isLinked.toNat =
      world.stage.isLinked.toNat + (!world.stage.isLinked && stage.isLinked).toNat := by
  cases acts with
  | unreachable isStage isOver | sendFailed isStage isOver | sentForClose isStage isOver
  | unreadable isStage _ isOver | refused isStage _ _ isOver | broken isStage isOver =>
    rw [isStage, Stage.isLinked_of_rested isOver]
    rfl
  | settled isStage | answered isStage =>
    rw [isStage, filterMap_showing?_tidings]
    rfl
  | linked isStage | sentForTurn isStage | sentForDrain isStage | drained isStage
  | received isStage | idled isStage | pinging isStage | requested isStage
  | disconnecting isStage =>
    rw [isStage]
    rfl

variable (setup)

/-- A move drops a link, opens one, or leaves things as they are. -/
theorem links_move (sound : world.Sound) (fit : world.stage.isBusy = true → world.stage.Fit)
    {move : Move} (moved : setup.move world move = after) :
    after.linksDropped + after.stage.isLinked.toNat =
      world.linksDropped + world.stage.isLinked.toNat +
        (!world.stage.isLinked && after.stage.isLinked).toNat := by
  have same (dropped : after.linksDropped = world.linksDropped)
      (stage : after.stage.isLinked = world.stage.isLinked) :
      after.linksDropped + after.stage.isLinked.toNat =
        world.linksDropped + world.stage.isLinked.toNat +
          (!world.stage.isLinked && after.stage.isLinked).toNat := by
    rw [dropped, stage, Bool.not_and_self]
    rfl
  cases setup.move_cases moved with
  | idled => exact same rfl rfl
  | stepped follows =>
    cases busy : world.stage.isBusy with
    | true =>
      obtain ⟨deeds, does, acts⟩ :=
        setup.acts_of_stepCase busy (sound.taken busy) (fit busy) follows
      have dropped := acts.dropped
      rw [does.linksDropped_eq]
      omega
    | false =>
      have unlinked := Stage.isLinked_of_rested busy
      obtain ⟨-, begins⟩ | ⟨trace, -, stage⟩ := follows.begin_or_same busy
      · obtain ⟨deeds, does, acts⟩ := setup.acts_of_beginCase begins
        rw [does.linksDropped_eq, acts.dropped, unlinked]
        rfl
      · refine same (World.Does.of_trace trace).linksDropped_eq ?_
        rw [stage, unlinked]
        rfl
  | called request =>
    exact same (world.grows_call request).linksDropped_eq rfl
  | beside left =>
    refine same (World.Does.of_trace left.trace).linksDropped_eq ?_
    rcases left.stage with stage | waits
    · rw [stage]
    · rw [waits, Stage.isLinked_waiting]

/-- In every run, the links that were opened are those that were dropped and the one that
may be open. -/
theorem linksOpened_play (handlerState : σ) (opens : List Outcome) (moves : List Move) :
    setup.linksOpened (.initial handlerState opens) moves =
      (setup.play (.initial handlerState opens) moves).linksDropped +
        (setup.play (.initial handlerState opens) moves).stage.isLinked.toNat := by
  induction moves using List.reverseRecOn with
  | nil => rfl
  | append_singleton moves move ih =>
    have sound := setup.sound_play handlerState opens moves
    have fit := setup.fit_play handlerState opens moves
    rw [linksOpened_append, ih, play_append, play_cons, play_nil, setup.links_move sound fit rfl]
    rfl

/-- The links that were opened since a world without one are found in what was recorded. -/
theorem linksOpened_since {handlerState : σ} {opens : List Outcome} {history : List Move}
    (reached : before = setup.play (.initial handlerState opens) history)
    (unlinked : before.stage.isLinked = false) (moves : List Move) :
    setup.linksOpened before moves =
      (((setup.play before moves).since before).filterMap showing?).count .dropped +
        (setup.play before moves).stage.isLinked.toNat := by
  have earlier := setup.linksOpened_play handlerState opens history
  have total := setup.linksOpened_play handlerState opens (history ++ moves)
  rw [← reached, unlinked, Bool.toNat_false] at earlier
  rw [linksOpened_append, play_append, ← reached, earlier,
    (setup.play_evolves before moves).grows.linksDropped_eq] at total
  omega

end Setup

end Uplink
