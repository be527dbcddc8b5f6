import Uplink.Proofs.Backend.Parting
import Uplink.Proofs.Backend.Tenure

/-!
# Disconnect requests are not lost

A disconnect request is remembered as long as the slot is kept, and it stays signalled until
the session takes its leave. `Handle.Retains` lists the changes of the handle that lose no
request. Every move consists of them, but for the two that `Setup.Recalls` names beside them:
the session heeds the signal and takes its leave, or the slot is given back.
-/

namespace Uplink

/-- Whether the session is giving its leave to the link. -/
def Stage.isParting : Stage → Bool
  | sending _ .disconnect _ .close => true
  | _ => false

@[simp] theorem Stage.isParting_waiting (stage : Stage) :
    stage.waiting.isParting = stage.isParting := by
  cases stage <;> rfl

theorem Stage.exists_of_isParting {stage : Stage} (parts : stage.isParting = true) :
    ∃ client frame, stage = .sending client .disconnect frame .close := by
  unfold isParting at parts
  split at parts
  · exact ⟨_, _, rfl⟩
  · cases parts

namespace Handle

variable {ν : Type} {start handle after : Handle} {entries more : List (Entry ν)}

/-- The changes of the handle that lose no disconnect request, with what is recorded. -/
inductive Retains (start : Handle) : List (Entry ν) → Handle → Prop where
  | refl : Retains start [] start
  | called {entries : List (Entry ν)} {handle : Handle}
      (earlier : Retains start entries handle) (call : Call) :
      Retains start (entries ++ [.called call (handle.perform call).1]) (handle.perform call).2
  | recorded {entries : List (Entry ν)} {handle : Handle} {entry : Entry ν}
      (earlier : Retains start entries handle) (silent : entry.isCall = false) :
      Retains start (entries ++ [entry]) handle
  | claimed {entries : List (Entry ν)} {handle : Handle}
      (earlier : Retains start entries handle) (free : handle.active = false) :
      Retains start entries handle.taken
  | other {entries : List (Entry ν)} {handle after : Handle}
      (earlier : Retains start entries handle) (active : after.active = handle.active)
      (requested : after.disconnectRequested = handle.disconnectRequested)
      (signalled : after.disconnectSignal = handle.disconnectSignal) :
      Retains start entries after

theorem Retains.trans (first : start.Retains entries handle)
    (second : handle.Retains more after) : start.Retains (entries ++ more) after := by
  induction second with
  | refl =>
    rw [List.append_nil]
    exact first
  | called _ call ih =>
    rw [← List.append_assoc]
    exact ih.called call
  | recorded _ silent ih =>
    rw [← List.append_assoc]
    exact ih.recorded silent
  | claimed _ free ih => exact ih.claimed free
  | other _ active requested signalled ih => exact ih.other active requested signalled

theorem retains_run {α : Type} (reaction : Reaction ν α) (handle : Handle) :
    handle.Retains ((reaction.run handle).2.2.map ReactionEntry.entry)
      (reaction.run handle).2.1 := by
  induction reaction generalizing handle with
  | done result => exact .refl
  | note entry rest ih => exact (Retains.refl.recorded rfl).trans (ih handle)
  | call request next ih => exact (Retains.refl.called request).trans (ih _ _)
  | observe next ih => exact ih _ _ handle

/-- On a taken slot, a disconnect request is signalled. -/
def Alert (handle : Handle) : Prop :=
  handle.active = true → handle.disconnectRequested = true → handle.disconnectSignal = true

theorem Retains.alert (retains : start.Retains entries handle) (alert : start.Alert) :
    handle.Alert := by
  induction retains with
  | refl => exact alert
  | @called entries handle earlier call ih =>
    match performed : handle.perform call with
    | (answer, after) =>
      cases perform_cases performed with
      | refused | alone | queued => exact ih
      | connected => exact fun _ => nofun
      | disconnected => exact fun _ _ => rfl
  | recorded _ _ ih => exact ih
  | claimed => exact fun _ => nofun
  | other _ active requested signalled ih =>
    rw [Alert, active, requested, signalled]
    exact ih

/-- What was recorded meanwhile is remembered with the rest. -/
theorem Retains.remembers (retains : start.Retains more handle)
    (remembers : start.Remembers entries) : handle.Remembers (entries ++ more) := by
  induction retains with
  | refl =>
    rw [List.append_nil]
    exact remembers
  | called _ call ih =>
    rw [← List.append_assoc]
    exact ih.perform call
  | @recorded _ _ entry _ silent ih =>
    refine ⟨ih.1, fun unasked asked => ?_⟩
    rw [← List.append_assoc, List.mem_append, List.mem_singleton] at asked
    rcases asked with earlier | rfl
    · exact ih.2 unasked earlier
    · cases silent
  | claimed _ free ih => exact absurd (ih.1.symm.trans free) nofun
  | other _ active requested _ ih =>
    rw [Remembers, active, requested]
    exact ih

end Handle

namespace World

variable {σ ν : Type} {before world after : World σ ν}

/-- No disconnect request was lost between two worlds. -/
def Retains (world after : World σ ν) : Prop :=
  ∃ entries, world.Grows entries after ∧ world.handle.Retains entries after.handle

theorem Retains.trans (first : before.Retains world) (second : world.Retains after) :
    before.Retains after := by
  obtain ⟨entries, grows, retains⟩ := first
  obtain ⟨more, growsMore, retainsMore⟩ := second
  exact ⟨entries ++ more, grows.append growsMore, retains.trans retainsMore⟩

/-- Where nothing is recorded, only the slot and the two marks count. -/
theorem Retains.of_same (trace : after.trace = world.trace)
    (active : after.handle.active = world.handle.active)
    (requested : after.handle.disconnectRequested = world.handle.disconnectRequested)
    (signalled : after.handle.disconnectSignal = world.handle.disconnectSignal) :
    world.Retains after :=
  ⟨[], trace, Handle.Retains.refl.other active requested signalled⟩

theorem retains_record {entry : Entry ν} (world : World σ ν) (silent : entry.isCall = false) :
    world.Retains (world.record entry) :=
  ⟨[entry], world.grows_record entry, Handle.Retains.refl.recorded silent⟩

theorem retains_claimed (world : World σ ν) : world.Retains world.claimed := by
  unfold claimed Handle.claim?
  split
  · exact .of_same rfl rfl rfl rfl
  · next free => exact ⟨[], rfl, Handle.Retains.refl.claimed (by simpa using free)⟩

end World

namespace Setup

open World

variable {σ ν : Type} (setup : Setup σ ν) {world after : World σ ν}

/-- What becomes of disconnect requests in a move: they are retained, or the session heeds
them and takes its leave, or the slot is given back. -/
inductive Recalls (world after : World σ ν) : Prop where
  | retained (retains : world.Retains after)
  | heeded (parts : after.stage.isParting = true) (trace : after.trace = world.trace)
      (active : after.handle.active = world.handle.active)
      (requested : after.handle.disconnectRequested = world.handle.disconnectRequested)
  | freed (free : after.handle.active = false)

section

variable {setup} {before : World σ ν} {client : Client} {packet : Outbound} {next : Continuation}

variable (setup) in
theorem retains_raise (event : Event) (world : World σ ν) :
    world.Retains (setup.raise event world) := by
  refine ⟨_, setup.grows_raise event world, ?_⟩
  rw [raise_eq]
  exact (Handle.Retains.refl.recorded rfl).trans (Handle.retains_run _ _)

variable (setup) in
theorem retains_enter (phase : Phase) (event : Event) (world : World σ ν) :
    world.Retains (setup.enter phase event world) := by
  have enters : world.Retains (world.inPhase phase) := .of_same rfl rfl rfl rfl
  exact enters.trans (setup.retains_raise event _)

variable (setup) in
theorem retains_greet (world : World σ ν) : world.Retains (setup.greet world) :=
  world.retains_claimed.trans (setup.retains_enter .connecting .connecting world.claimed)

variable (setup) in
theorem retains_dial (world : World σ ν) : world.Retains (setup.dial world) :=
  (world.retains_record (rfl : (Entry.opened setup.config.broker).isCall = false)).trans
    (.of_same rfl rfl rfl rfl)

theorem Recalls.close : Recalls before (setup.close world) := by
  obtain ⟨marks, ends⟩ := setup.exists_ends_close world
  exact .freed (ends.yielded ends.ended)

theorem Recalls.giveUp : Recalls before (setup.giveUp world) := by
  obtain ⟨marks, ends⟩ := setup.exists_ends_giveUp world
  exact .freed (ends.yielded ends.ended)

theorem Recalls.moveTo (retains : before.Retains world) (stage : Stage) :
    Recalls before (world.moveTo stage) :=
  .retained (retains.trans (.of_same rfl rfl rfl rfl))

theorem Recalls.transmit (retains : before.Retains world) :
    Recalls before (setup.transmit client packet next world) := by
  unfold Setup.transmit
  split
  · exact .moveTo retains _
  · exact .close

theorem Recalls.beginSession (retains : before.Retains world) :
    Recalls before (setup.beginSession world) := by
  unfold Setup.beginSession
  exact .transmit (retains.trans (.of_same rfl rfl rfl rfl))

theorem Recalls.of_beginCase (retains : before.Retains world)
    (begins : setup.BeginCase world after) : Recalls before after := by
  have greeted := retains.trans (setup.retains_greet world)
  have dialled := greeted.trans (setup.retains_dial _)
  cases begins with
  | cancelled | unreachable => exact .giveUp
  | linked => exact .beginSession dialled
  | pending => exact .retained (dialled.trans (.of_same rfl rfl rfl rfl))

theorem Recalls.of_packetCase {packet : Inbound} (retains : before.Retains world)
    (follows : setup.PacketCase client world packet after) : Recalls before after := by
  cases follows with
  | accepted =>
    have tells := (setup.retains_enter .connected .connected world).trans
      (setup.retains_enter .ready .ready _)
    exact .moveTo (retains.trans tells) _
  | refused => exact .close
  | acknowledged => exact .transmit (retains.trans (setup.retains_raise _ world))
  | delivered => exact .moveTo (retains.trans (setup.retains_raise _ world)) _
  | released => exact .transmit retains
  | repeated | dropped | settled | subscribed | pinged => exact .moveTo retains _

/-- Only the session's leave heeds a disconnect request, and only the end of an attempt gives
the slot back. -/
theorem Recalls.of_stepCase (follows : setup.StepCase world after) : Recalls world after := by
  have same {other : World σ ν} (trace : other.trace = world.trace)
      (active : other.handle.active = world.handle.active)
      (requested : other.handle.disconnectRequested = world.handle.disconnectRequested)
      (signalled : other.handle.disconnectSignal = world.handle.disconnectSignal) :
      world.Retains other := .of_same trace active requested signalled
  cases follows with
  | served => exact .retained (same rfl rfl rfl rfl)
  | begunOnce =>
    have asked : world.Retains { world with next := none, serving := false } :=
      same rfl rfl rfl rfl
    exact .of_beginCase asked (setup.beginAttempt_cases _)
  | begunServing =>
    have picks : world.Retains
        { world with handle := { world.handle with connectSignal := false } } :=
      same rfl rfl rfl rfl
    exact .of_beginCase picks (setup.beginAttempt_cases _)
  | linked => exact .beginSession (same rfl rfl rfl rfl)
  | unreachable => exact .giveUp
  | sendFailed | sentForClose | unreadable | crowded | hungUp | linkFailed => exact .close
  | sentForTurn | sentForDrain => exact .moveTo (world.retains_record rfl) _
  | drained | idled => exact .moveTo (same rfl rfl rfl rfl) _
  | handled _ _ packetFollows => exact .of_packetCase (world.retains_record rfl) packetFollows
  | @received _ _ _ bytes link =>
    have taken : world.Retains ({ world with link } : World σ ν) := same rfl rfl rfl rfl
    have received : (Entry.received bytes : Entry ν).isCall = false := rfl
    exact .moveTo (taken.trans (World.retains_record _ received)) _
  | pinging | requested => exact .transmit (same rfl rfl rfl rfl)
  | disconnecting =>
    unfold Setup.transmit
    split
    · exact .heeded rfl rfl rfl rfl
    · exact .close

end

theorem recalls_move (world : World σ ν) (move : Move) : Recalls world (setup.move world move) := by
  generalize moved : setup.move world move = after
  cases setup.move_cases moved with
  | idled => exact .retained (.of_same rfl rfl rfl rfl)
  | stepped follows => exact .of_stepCase follows
  | called request =>
    exact .retained ⟨_, world.grows_call request, Handle.Retains.refl.called request⟩
  | beside left =>
    refine .retained (.of_same left.trace ?_ ?_ ?_) <;> rw [left.handle]

/-- As long as the slot is kept, it is remembered whether the end was asked for. -/
theorem remembers_play {start : World σ ν} {moves : List Move}
    (kept : ∀ earlier, earlier <+: moves → (setup.play start earlier).handle.active = true) :
    (setup.play start moves).handle.Remembers ((setup.play start moves).since start) := by
  induction moves using List.reverseRecOn with
  | nil =>
    have active := kept [] List.nil_prefix
    refine ⟨active, fun _ => ?_⟩
    rw [play_nil, (World.Grows.refl start).since_eq]
    exact nofun
  | append_singleton moves move ih =>
    have remembers := ih fun earlier isPrefix =>
      kept earlier (isPrefix.trans (List.prefix_append _ _))
    have active := kept _ List.prefix_rfl
    have earlier := (setup.play_evolves start moves).grows
    rw [play_append, play_cons, play_nil] at active ⊢
    cases setup.recalls_move (setup.play start moves) move with
    | retained retains =>
      obtain ⟨more, grows, retains⟩ := retains
      rw [(earlier.append grows).since_eq]
      exact retains.remembers remembers
    | heeded parts trace stillActive requested =>
      have grows : (setup.play start moves).Grows [] (setup.move (setup.play start moves) move) :=
        trace
      rw [(earlier.append grows).since_eq, List.append_nil]
      exact ⟨active, fun unasked => remembers.2 (requested.symm.trans unasked)⟩
    | freed free => exact absurd (active.symm.trans free) nofun

/-- A disconnect request on a taken slot is signalled until the session takes its leave. -/
theorem alert_or_parting (handlerState : σ) (opens : List Outcome) (moves : List Move) :
    (setup.play (.initial handlerState opens) moves).handle.Alert ∨
      (setup.play (.initial handlerState opens) moves).stage.isParting = true := by
  have unasked : (World.initial handlerState opens : World σ ν).handle.Alert := by
    intro active
    cases active
  refine setup.play_induction
    (motive := fun world => world.handle.Alert ∨ world.stage.isParting = true) ?_ (.inl unasked)
    moves
  intro world move holds
  rcases holds with alert | parts
  · cases setup.recalls_move world move with
    | retained retains =>
      obtain ⟨_, _, retains⟩ := retains
      exact .inl (retains.alert alert)
    | heeded parts => exact .inr parts
    | freed free => exact .inl fun active => absurd (active.symm.trans free) nofun
  · generalize moved : setup.move world move = after
    cases setup.move_cases moved with
    | idled | called => exact .inr parts
    | stepped follows =>
      -- The step behind the leave closes the session, which frees the slot.
      obtain ⟨client, frame, stage⟩ := Stage.exists_of_isParting parts
      have busy : world.stage.isBusy = true := by rw [stage]; rfl
      have isOver := yielded_stepCase busy follows (follows.ends_of_parting stage).1
      exact .inl fun active => absurd (active.symm.trans isOver) nofun
    | beside left =>
      right
      rcases left.stage with stage | waits
      · rwa [stage]
      · rwa [waits, Stage.isParting_waiting]

end Setup

end Uplink
