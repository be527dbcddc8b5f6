import Uplink.Proofs.Backend.Links
import Uplink.Proofs.Backend.Tenure

/-!
# The connection slot

A backend has one slot for a connection. `Setup.SlotKept` says what this comes to when
the task serves connect requests forever: requests and attempts take turns, refusals
change nothing, and there is never a second link. `Setup.Steady` is what every move keeps
for that.
-/

namespace Uplink

/-- The marks since the slot was free, by what it is taken for. -/
def World.slotInUse {σ ν : Type} (world : World σ ν) : List SlotMark :=
  if world.stage.isBusy then [.accepted, .begun, .dialled]
  else if world.handle.connectSignal then [.accepted]
  else []

/-- How the connection slot was used up to a world, after a number of links was opened. -/
structure Setup.SlotKept {σ ν : Type} (setup : Setup σ ν) (links : Nat) (world : World σ ν) :
    Prop where
  /-- A caller gets the slot exactly when no accepted request is waiting and no attempt is
  under way. -/
  accepts : (world.call .connect).1 = .ok () ↔
    world.handle.connectSignal = false ∧ world.stage.isBusy = false
  /-- Otherwise the caller learns so, and nothing changes but for the record of it. -/
  refuses : (world.call .connect).1 ≠ .ok () → world.call .connect =
    (.error .inProgress, world.record (.called .connect (.error .inProgress)))
  /-- A handler that is told of something never gets the slot either, and leaves the handle
  that gave the answer as it was. -/
  refusesHandlers : ∀ answer, .called .connect answer ∈ (setup.move world .step).since world →
    answer = .error .inProgress ∧
      ∀ handle : Handle, (handle.perform .connect).1 = answer → (handle.perform .connect).2 = handle
  /-- One after the other, requests were accepted and brought about one attempt each. -/
  taken : ∃ tenures : List Bool,
    world.slotMarks = (tenures.map SlotMark.tenure).flatten ++ world.slotInUse
  /-- Every accepted request began one attempt, but for the one that is waiting. -/
  counted : world.slotMarks.count .accepted =
    world.slotMarks.count .begun + world.handle.connectSignal.toNat
  /-- The task picks a waiting request up in the next step. -/
  picked : world.stage = .awaitingRequest → world.handle.connectSignal = true →
    ∃ rest, (setup.move world .step).since world = .raised .connecting .connecting :: rest
  /-- Every try of the broker has a request of its own, and no `disconnect` came before it. -/
  commissioned : Entry.Commissioned world.history
  /-- Every link was dropped, but for the one that is open. -/
  links : links = world.linksDropped + world.stage.isLinked.toNat

namespace Setup

open Entry

variable {σ ν : Type} {setup : Setup σ ν} {world after : World σ ν}

/-- What holds of the slot as long as nothing but connect requests is served. -/
structure Steady (world : World σ ν) : Prop where
  free : world.stage.isBusy = false → world.handle.connectSignal = false →
    world.handle.active = false
  /-- During an attempt no request is waiting. -/
  alone : world.stage.isBusy = true → world.handle.connectSignal = false
  /-- Since the waiting request was accepted, the slot was left alone. -/
  waiting : world.handle.connectSignal = true → ∃ before middle,
    world.history = before ++ .called .connect (.ok ()) :: middle ∧
      middle.filterMap slotMark? = [] ∧ world.handle.Remembers middle
  taken : ∃ tenures : List Bool,
    world.slotMarks = (tenures.map SlotMark.tenure).flatten ++ world.slotInUse
  commissioned : Commissioned world.history

theorem Steady.of_same (steady : Steady world) (trace : after.trace = world.trace)
    (handle : after.handle = world.handle) (busy : after.stage.isBusy = world.stage.isBusy) :
    Steady after := by
  have history : after.history = world.history := congrArg List.reverse trace
  have marks : after.slotMarks = world.slotMarks := by
    rw [World.slotMarks, history, World.slotMarks]
  have use : after.slotInUse = world.slotInUse := by rw [World.slotInUse, busy, handle]; rfl
  constructor
  · rw [busy, handle]
    exact steady.free
  · rw [busy, handle]
    exact steady.alone
  · rw [handle, history]
    exact steady.waiting
  · rw [marks, use]
    exact steady.taken
  · rw [history]
    exact steady.commissioned

/-- The slot is free when no request is waiting and no attempt is under way. -/
theorem Steady.free_iff (steady : Steady world) (sound : world.Sound) :
    world.handle.active = false ↔
      world.handle.connectSignal = false ∧ world.stage.isBusy = false := by
  constructor
  · intro free
    constructor
    · exact Bool.eq_false_iff.mpr fun signalled =>
        absurd (free.symm.trans (sound.orderly.2 signalled)) nofun
    · exact Bool.eq_false_iff.mpr fun busy => absurd (free.symm.trans (sound.taken busy)) nofun
  · rintro ⟨unsignalled, rested⟩
    exact steady.free rested unsignalled

/-- A step of an attempt keeps the slot for it, or gives it back. -/
theorem Steady.act (steady : Steady world) (sound : world.Sound)
    (busy : world.stage.isBusy = true) (fit : world.stage.Fit)
    (follows : setup.StepCase world after) : Steady after := by
  obtain ⟨deeds, does, acts⟩ := setup.acts_of_stepCase busy (sound.taken busy) fit follows
  have unsignalled := does.unsignalled (setup.evolves_stepCase follows) (steady.alone busy)
  constructor
  · exact fun isOver _ => yielded_stepCase busy follows isOver
  · exact fun _ => unsignalled
  · exact fun signalled => absurd (unsignalled.symm.trans signalled) nofun
  · obtain ⟨tenures, marks⟩ := steady.taken
    rw [World.slotInUse, if_pos busy] at marks
    rw [does.slotMarks_eq, marks, acts.slotMarks, World.slotInUse, unsignalled]
    cases after.stage.isBusy with
    | true => exact ⟨tenures, by simp⟩
    | false => exact ⟨tenures ++ [true], by simp [SlotMark.tenure]⟩
  · refine does.commissioned ?_ steady.commissioned
    rw [acts.slotMarks]
    split <;> simp

variable (setup) in
/-- What an attempt tells before it tries the broker leaves the request in sight. -/
theorem Steady.greeted (steady : Steady world) (stage : world.stage = .awaitingRequest)
    (signalled : world.handle.connectSignal = true) : ∃ before middle,
    (setup.greet world.prepared).history = before ++ .called .connect (.ok ()) :: middle ∧
      middle.filterMap slotMark? = [.begun] ∧
        (setup.greet world.prepared).handle.Remembers middle := by
  obtain ⟨before, middle, accepted, untouched, active, recalls⟩ := steady.waiting signalled
  obtain ⟨entries, grows, isDeed, onDuty⟩ := setup.does_greet world
  have told : entries = _ := grows.unique (setup.grows_greet_prepared world)
  refine ⟨before, middle ++ entries, ?_, ?_, ?_⟩
  · rw [grows.history_eq, accepted, List.append_assoc, List.cons_append]
  · rw [List.filterMap_append, untouched, slotMarks_of_onDuty onDuty, isDeed]
    rfl
  · have prepared : world.prepared.claimed.handle =
        { world.handle with connectSignal := false } := by
      simp [World.prepared, stage, World.claimed, Handle.claim?, active]
    have ready : ((world.prepared.claimed.inPhase .connecting).handle).Remembers
        (middle ++ [.raised .connecting .connecting]) := by
      rw [World.inPhase, prepared]
      exact ⟨active, fun unasked => by simpa using recalls unasked⟩
    rw [told, voice, List.append_cons, greet, enter, raise_eq]
    exact ready.run _

/-- The broker is only tried for the request that was picked up. -/
theorem Steady.commissioned_begin (steady : Steady world) (stage : world.stage = .awaitingRequest)
    (signalled : world.handle.connectSignal = true)
    (begins : setup.BeginCase world.prepared after) : Commissioned after.history := by
  obtain ⟨before, middle, accepted, begun, active, recalls⟩ :=
    steady.greeted setup stage signalled
  have told : Commissioned (setup.greet world.prepared).history :=
    (setup.does_greet world).commissioned (by simp [slotMark?]) steady.commissioned
  have tried (proceeds : (setup.greet world.prepared).handle.disconnectRequested = false) :
      Commissioned (setup.dial (setup.greet world.prepared)).history := by
    have dials := (setup.greet world.prepared).grows_record (.opened setup.config.broker)
    have dialled := told.dial setup.config.broker accepted begun (recalls proceeds)
    rwa [← dials.history_eq] at dialled
  cases begins with
  | cancelled =>
    obtain ⟨ends, -⟩ := setup.does_giveUp _ active
    exact ends.commissioned (by simp [slotMark?]) told
  | unreachable proceeds =>
    obtain ⟨ends, -⟩ := setup.does_giveUp (setup.dial (setup.greet world.prepared)) active
    exact ends.commissioned (by simp [slotMark?]) (tried proceeds)
  | linked proceeds =>
    obtain ⟨frame, begins⟩ := setup.beginSession_eq (setup.dial (setup.greet world.prepared))
    rw [begins]
    exact tried proceeds
  | pending proceeds => exact tried proceeds

/-- The step that picks a request up uses it for one attempt. -/
theorem Steady.begin (steady : Steady world) (stage : world.stage = .awaitingRequest)
    (signalled : world.handle.connectSignal = true)
    (begins : setup.BeginCase world.prepared after) : Steady after := by
  obtain ⟨deeds, does, acts⟩ := setup.acts_of_beginCase begins
  have rested : world.stage.isBusy = false := by rw [stage]; rfl
  have unsignalled : after.handle.connectSignal = false := by
    have prepared : world.prepared.Does [] world := .of_trace world.prepared_trace.symm
    have evolves := (setup.evolves_greet world.prepared).trans (setup.evolves_beginCase begins)
    have picked : world.prepared.handle.connectSignal = false := by simp [World.prepared, stage]
    exact (prepared.append does).unsignalled evolves picked
  constructor
  · exact fun isOver _ => yielded_beginCase begins isOver
  · exact fun _ => unsignalled
  · intro pending
    cases unsignalled.symm.trans pending
  · obtain ⟨tenures, marks⟩ := steady.taken
    rw [World.slotInUse, rested, signalled] at marks
    rw [does.slotMarks_eq, marks, World.slotInUse, unsignalled]
    -- An attempt that is over in its first step leaves a whole tenure behind.
    obtain ⟨busy, isBegun⟩ | ⟨isOver, dialled, isTenure⟩ := acts.slotMarks
    · rw [busy, isBegun]
      exact ⟨tenures, by simp⟩
    · rw [isOver]
      refine ⟨tenures ++ [dialled], ?_⟩
      simp [← isTenure]
  · exact steady.commissioned_begin stage signalled begins

/-- A connect request that finds the slot free waits for the task. -/
theorem Steady.accept (steady : Steady world) (sound : world.Sound)
    (free : world.handle.active = false) : Steady (world.call .connect).2 := by
  obtain ⟨unsignalled, rested⟩ := (steady.free_iff sound).mp free
  have performed := Handle.perform_connect_of_free free
  have accepted : (world.call .connect).2.handle =
      { world.handle.taken with connectSignal := true } :=
    congrArg Prod.snd performed
  have history := (world.grows_call .connect).history_eq
  rw [performed] at history
  constructor
  · rw [accepted]
    exact fun _ => nofun
  · exact fun busy => absurd (rested.symm.trans busy) nofun
  · intro _
    refine ⟨world.history, [], history, rfl, ?_⟩
    rw [accepted]
    exact ⟨rfl, fun _ => nofun⟩
  · obtain ⟨tenures, marks⟩ := steady.taken
    have stage : (world.call .connect).2.stage.isBusy = false := rested
    rw [World.slotInUse, rested, unsignalled] at marks
    refine ⟨tenures, ?_⟩
    rw [World.slotMarks, history, List.filterMap_append, ← World.slotMarks, marks,
      World.slotInUse, stage, accepted]
    simp [slotMark?]
  · rw [history]
    exact steady.commissioned.append (by simp [slotMark?])

/-- Every other call leaves the slot as it is. -/
theorem Steady.pass (steady : Steady world) {request : Call}
    (unmarked : (called request (world.call request).1 : Entry ν).slotMark? = none)
    (active : (world.call request).2.handle.active = world.handle.active)
    (signal : (world.call request).2.handle.connectSignal = world.handle.connectSignal) :
    Steady (world.call request).2 := by
  have history : (world.call request).2.history =
      world.history ++ [called request (world.call request).1] :=
    (world.grows_call request).history_eq
  have marks : (world.call request).2.slotMarks = world.slotMarks := by
    rw [World.slotMarks, history, List.filterMap_append, ← World.slotMarks]
    simp [unmarked]
  constructor
  · rw [active, signal]
    exact steady.free
  · rw [signal]
    exact steady.alone
  · rw [signal, history]
    intro signalled
    obtain ⟨before, middle, accepted, untouched, remembers⟩ := steady.waiting signalled
    refine ⟨before, _, ?_, ?_, remembers.perform request⟩
    · rw [accepted, List.append_assoc, List.cons_append]
      rfl
    · rw [List.filterMap_append, untouched]
      exact (List.filterMap_cons_none unmarked).trans rfl
  · rw [marks, World.slotInUse, signal]
    exact steady.taken
  · rw [history]
    exact steady.commissioned.append (by simp [unmarked])

theorem Steady.call (steady : Steady world) (sound : world.Sound) (request : Call) :
    Steady (world.call request).2 := by
  obtain ⟨rfl, free⟩ | ⟨unmarked, active, signal⟩ := world.call_slot request
  · exact steady.accept sound free
  · exact steady.pass unmarked active signal

theorem Steady.step (steady : Steady world) (sound : world.Sound)
    (patient : world.next ≠ some .once) (fit : world.stage.isBusy = true → world.stage.Fit)
    (follows : setup.StepCase world after) : Steady after := by
  cases busy : world.stage.isBusy with
  | true => exact steady.act sound busy (fit busy) follows
  | false =>
    obtain ⟨due, begins⟩ | ⟨trace, handle, stage⟩ := follows.begin_or_same busy
    · rcases due with ⟨-, asked⟩ | ⟨stage, signalled⟩
      · exact absurd asked patient
      · exact steady.begin stage signalled begins
    · refine steady.of_same trace handle ?_
      rw [stage, busy]
      rfl

variable (setup)

/-- Every run that serves connect requests only keeps the slot. -/
theorem steady_play (handlerState : σ) (opens : List Outcome) {moves : List Move}
    (driven : .ask .once ∉ moves) :
    Steady (setup.play (.initial handlerState opens) moves) ∧
      (setup.play (.initial handlerState opens) moves).next ≠ some .once := by
  induction moves using List.reverseRecOn with
  | nil =>
    refine ⟨?_, nofun⟩
    constructor
    · exact fun _ _ => rfl
    · exact fun _ => rfl
    · exact nofun
    · exact ⟨[], rfl⟩
    · intro earlier broker later split
      simp [World.history, World.initial] at split
  | append_singleton moves move ih =>
    rw [List.mem_append, not_or] at driven
    obtain ⟨steady, patient⟩ := ih driven.1
    have sound := setup.sound_play handlerState opens moves
    have fit := setup.fit_play handlerState opens moves
    rw [play_append, play_cons, play_nil]
    refine ⟨?_, setup.move_next patient (by simpa [eq_comm] using driven.2)⟩
    generalize moved : setup.move _ move = after
    cases setup.move_cases moved with
    | idled => exact steady
    | stepped follows => exact steady.step sound patient fit follows
    | called request => exact steady.call sound request
    | beside left => exact steady.of_same left.trace left.handle left.isBusy_eq

theorem count_tenures (tenures : List Bool) :
    ((tenures.map SlotMark.tenure).flatten).count .accepted =
      ((tenures.map SlotMark.tenure).flatten).count .begun := by
  induction tenures with
  | nil => rfl
  | cons dialled tenures ih => cases dialled <;> simp [SlotMark.tenure, ih]

theorem Steady.counted (steady : Steady world) : world.slotMarks.count .accepted =
    world.slotMarks.count .begun + world.handle.connectSignal.toNat := by
  obtain ⟨tenures, marks⟩ := steady.taken
  rw [marks, List.count_append, List.count_append, count_tenures, World.slotInUse]
  cases busy : world.stage.isBusy with
  | true =>
    rw [steady.alone busy]
    rfl
  | false => cases world.handle.connectSignal <;> rfl

/-- An attempt that is due begins with telling so. -/
theorem exists_since_of_due (due : world.AttemptDue) :
    ∃ rest, (setup.move world .step).since world = .raised .connecting .connecting :: rest := by
  rw [move, step_of_due setup due, Option.getD_some]
  have begins := setup.beginAttempt_cases world.prepared
  obtain ⟨later, grows, -⟩ := setup.evolves_beginCase begins
  rw [((setup.grows_greet_prepared world).append grows).since_eq]
  exact ⟨_, rfl⟩

/-- In every run that serves connect requests only, the slot is kept. -/
theorem slot_kept {handlerState : σ} {opens : List Outcome} {moves : List Move}
    (driven : .ask .once ∉ moves) :
    setup.SlotKept (setup.linksOpened (.initial handlerState opens) moves)
      (setup.play (.initial handlerState opens) moves) := by
  obtain ⟨steady, -⟩ := setup.steady_play handlerState opens driven
  have sound := setup.sound_play handlerState opens moves
  have fit := setup.fit_play handlerState opens moves
  have links := setup.linksOpened_play handlerState opens moves
  generalize setup.play (.initial handlerState opens) moves = world at *
  constructor
  · rw [← steady.free_iff sound]
    exact Handle.perform_connect_eq_ok_iff
  · intro refused
    rw [World.call, Handle.perform_connect_of_refused refused]
  · intro answer isCalled
    obtain ⟨deeds, does⟩ := setup.exists_does_step sound fit
    obtain rfl := does.refused isCalled
    refine ⟨rfl, fun handle refused => ?_⟩
    rw [Handle.perform_connect_of_refused (by rw [refused]; exact nofun)]
  · exact steady.taken
  · exact steady.counted
  · exact fun stage signalled => setup.exists_since_of_due (.inr ⟨stage, signalled⟩)
  · exact steady.commissioned
  · exact links

end Setup

/-- The task serves requests. The broker hangs up on the first session, the second one is
called off before it begins, and a third request is waiting. -/
def Move.threeRequests : List Move :=
  [.ask .forever, .step, .call .connect, .call .connect, .step, .step, .call .connect,
    .deliver .close, .step, .call .connect, .call .disconnect, .step, .call .connect]

theorem Setup.greeter_threeRequests :
    greeter.SlotKept (greeter.linksOpened (.initial 0 []) Move.threeRequests)
        (greeter.play (.initial 0 []) Move.threeRequests) ∧
      greeter.linksOpened (.initial 0 []) Move.threeRequests = 1 ∧
      (greeter.play (.initial 0 []) Move.threeRequests).slotMarks =
        [.accepted, .begun, .dialled, .ended, .accepted, .begun, .ended, .accepted] :=
  ⟨slot_kept greeter (by decide), by decide +kernel, by decide +kernel⟩

end Uplink
