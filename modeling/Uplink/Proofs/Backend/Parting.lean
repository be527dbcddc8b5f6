import Uplink.Proofs.Backend.Exchange
import Uplink.Proofs.Backend.Handling

/-!
# How a session takes its leave

A disconnect request has the lowest right of way in a turn, so a session takes its leave in
a turn that finds nothing else to do. `Setup.Exhausted` says what that comes to: requests,
received bytes and the broker's store are used up. `Setup.Departs` adds how the attempt goes
on behind such a turn: the leave succeeds or fails, and the end is told once.
-/

namespace Uplink

/-- A link has nothing to receive when the broker has nothing in store. -/
theorem Link.eq_nil_of_receive? {link : Link} {room : Nat} (quiet : link.receive? room = none) :
    link.chunk = [] ∧ link.inbound = [] := by
  unfold receive? at quiet
  split at quiet
  · cases quiet
  · cases quiet
  · cases quiet
  · cases quiet
  · next chunk inbound => exact ⟨chunk, inbound⟩

namespace Setup

open Entry

variable {σ ν : Type} (setup : Setup σ ν)

/-- A turn, in an attempt that began in `before`, that finds nothing else to do than what it
is asked for last. -/
structure Exhausted (before turn : World σ ν) : Prop where
  inTurn : ∃ client due armed, turn.stage = .selecting client due armed
  /-- No request waits. -/
  queue : turn.handle.requests = []
  /-- The broker has nothing in store. -/
  store : turn.link.chunk = [] ∧ turn.link.inbound = []
  /-- All requests that were accepted in the session were sent, in order. -/
  sent : (turn.since before).filterMap request? =
    numbered ((inSession (turn.since before)).filterMap owed?)
  /-- The link took every packet that it was given. -/
  taken : ∀ packet frame, .handed packet frame false ∉ turn.since before
  /-- All received bytes were handled, but for those behind the last complete frame. -/
  handled : (inbound (turn.since before)).frames.map Inbound.decode =
      ((turn.since before).filterMap handled?).map .ok ∧
    (inbound (turn.since before)).fault = none
  /-- What the handled packets call for was done. -/
  dealt : (turn.since before).filterMap dealing? =
    ((turn.since before).filterMap handled?).flatMap Inbound.dealings
  /-- The end was not told. -/
  untold : .disconnected ∉ (turn.since before).filterMap event?

/-- An exhausted turn had the session take its leave, and since then only calls were
recorded, and `last`. -/
def Leaves (before world : World σ ν) (last : List (Entry ν)) : Prop :=
  ∃ turn moves calls, setup.Attempt before turn ∧ Exhausted before turn ∧
    .disconnect ∈ (setup.move turn .step).stage.inHand ∧
    world = setup.play turn (.step :: moves) ∧
    world.since before = turn.since before ++ calls ++ last ∧
    ∀ entry ∈ calls, entry.isCall = true

/-- How an attempt that began in `before` has departed, if it has. -/
structure Departs (before world : World σ ν) : Prop where
  /-- A leave in hand is that of an exhausted turn. -/
  inHand : .disconnect ∈ world.stage.inHand → setup.Leaves before world []
  /-- Whether the link takes the leave or fails, the attempt is over once it has it, and
  behind it the end is told once. -/
  given : ∀ frame taken, .handed .disconnect frame taken ∈ world.since before →
    world.stage.isBusy = false ∧ ∃ last,
      setup.Leaves before world (.handed .disconnect frame taken :: last) ∧
        last.filterMap event? = [.disconnected]

section

variable {setup} {before world after : World σ ν} {client : Client} {packet : Outbound}
  {next : Continuation} {last : List (Entry ν)}

/-! ## The turn -/

/-- What is in hand after a packet is sent is that packet, and nothing was recorded. -/
theorem eq_of_mem_inHand_transmit {other : Outbound}
    (occupied : other ∈ (setup.transmit client packet next world).stage.inHand) :
    other = packet ∧ (setup.transmit client packet next world).trace = world.trace := by
  unfold transmit at occupied ⊢
  split
  · next framed =>
    rw [framed] at occupied
    exact ⟨List.mem_singleton.mp occupied, rfl⟩
  · next unframed =>
    rw [unframed] at occupied
    obtain ⟨marks, ends⟩ := setup.exists_ends_close world
    rw [Stage.inHand_of_rested ends.ended] at occupied
    cases occupied

/-- A turn that has the session take its leave found nothing else to do. -/
theorem StepCase.quiet_of_parting (follows : setup.StepCase world after) {due : Micros}
    {armed : Bool} (stage : world.stage = .selecting client due armed)
    (parts : .disconnect ∈ after.stage.inHand) :
    world.handle.requests = [] ∧ (world.link.chunk = [] ∧ world.link.inbound = []) ∧
      after.trace = world.trace := by
  have stays (last : World σ ν) : .disconnect ∉ (setup.close last).stage.inHand := by
    obtain ⟨marks, ends⟩ := setup.exists_ends_close last
    rw [Stage.inHand_of_rested ends.ended]
    exact nofun
  cases follows with
  | served isStage | begunOnce isStage | begunServing isStage | linked isStage
  | unreachable isStage | sendFailed isStage | sentForTurn isStage | sentForDrain isStage
  | sentForClose isStage | unreadable isStage | drained isStage | handled isStage =>
    cases stage.symm.trans isStage
  | crowded | hungUp | linkFailed => exact absurd parts (stays _)
  | received | idled => cases parts
  | pinging => cases (eq_of_mem_inHand_transmit parts).1
  | @requested _ _ _ request => cases request <;> cases (eq_of_mem_inHand_transmit parts).1
  | disconnecting _ _ quiet _ empty =>
    exact ⟨empty, Link.eq_nil_of_receive? quiet, (eq_of_mem_inHand_transmit parts).2⟩

/-- The session of every attempt is attentive. -/
theorem Attempt.attentive (attempt : setup.Attempt before world) (sound : before.Sound) :
    Attentive ((world.since before).filter isDeed) world.stage :=
  attempt.deeds_induction (motive := Attentive) .of_firstAct
    (fun earlier busy attentive acts => .of_act (attentive.1 busy) (earlier.fit sound busy) acts)
    .waiting sound

/-- With an empty queue, all accepted requests were sent. -/
theorem Attempt.sent_of_empty (attempt : setup.Attempt before world) (sound : before.Sound)
    (busy : world.stage.isBusy = true) (free : world.stage.inFlight = [])
    (empty : world.handle.requests = []) :
    (world.since before).filterMap request? =
      numbered ((inSession (world.since before)).filterMap owed?) := by
  obtain ⟨⟨entries, taken, grows, ledger⟩, -⟩ :=
    (attempt.kept setup (attempt.due.requests_eq_nil sound)).1 busy
  have owed : (inSession (entries ++ [])).filterMap owed? = entries.filterMap owed? :=
    ledger.staged.owed_inSession nofun rfl
  have accepted := ledger.owed
  have handed := ledger.handed
  rw [empty, List.map_nil, List.append_nil] at accepted
  rw [free, List.append_nil] at handed
  rw [List.append_nil, accepted] at owed
  rw [grows.since_eq, owed, handed]

/-- A turn without requests and without anything to receive is exhausted. -/
theorem Attempt.exhausted (attempt : setup.Attempt before world) (sound : before.Sound)
    {due : Micros} {armed : Bool} (stage : world.stage = .selecting client due armed)
    (queue : world.handle.requests = [])
    (store : world.link.chunk = [] ∧ world.link.inbound = []) : Exhausted before world := by
  have busy : world.stage.isBusy = true := by rw [stage]; rfl
  have free : world.stage.inFlight = [] := by rw [stage]; rfl
  have diligent := (((attempt.attentive sound).1 busy).diligent busy).of_deeds
  have dealt := diligent.dealt
  rw [stage, Stage.owed, List.append_nil] at dealt
  obtain ⟨given, shows, -⟩ := (attempt.shown sound).1 busy
  have unshown {entry : Entry ν} {showing : Showing} (isEntry : entry ∈ world.since before)
      (seen : entry.showing? = some showing) : ∃ packet, showing = .given packet true := by
    have isShown : showing ∈ (world.since before).filterMap showing? :=
      List.mem_filterMap.mpr ⟨entry, isEntry, seen⟩
    rw [shows] at isShown
    obtain ⟨packet, -, same⟩ := List.mem_map.mp isShown
    exact ⟨packet, same.symm⟩
  refine ⟨⟨_, _, _, stage⟩, queue, store, attempt.sent_of_empty sound busy free queue, ?_,
    diligent.up_to_date _ _ _ stage, dealt, ?_⟩
  · intro packet frame failed
    obtain ⟨_, same⟩ := unshown failed rfl
    cases same
  · intro told
    obtain ⟨entry, isEntry, isEnd⟩ := List.mem_filterMap.mp told
    cases entry with
    | raised event phase =>
      cases isEnd
      obtain ⟨_, same⟩ := unshown isEntry rfl
      cases same
    | _ => cases isEnd

/-! ## The way out -/

/-- The session closes behind its leave. -/
theorem Attempt.closing (attempt : setup.Attempt before world) (sound : before.Sound)
    (parts : .disconnect ∈ world.stage.inHand) :
    ∃ client frame, world.stage = .sending client .disconnect frame .close := by
  have busy : world.stage.isBusy = true := by
    cases busy : world.stage.isBusy with
    | true => rfl
    | false =>
      rw [Stage.inHand_of_rested busy] at parts
      cases parts
  obtain ⟨taken, -, speaking⟩ := (attempt.shown sound).1 busy
  generalize world.stage = stage at speaking parts
  cases speaking with
  | unlinked => cases parts
  | greeting => simp [Stage.inHand, SessionOptions.connect] at parts
  | speaking _ another =>
    rw [Stage.inHand, List.mem_singleton] at parts
    rw [← parts] at another
    cases another
  | parting => exact ⟨_, _, rfl⟩
  | listening _ _ free =>
    rw [free] at parts
    cases parts

theorem Leaves.append (leaves : setup.Leaves before world last) (move : Move)
    {more : List (Entry ν)}
    (since : (setup.move world move).since before = world.since before ++ more) :
    setup.Leaves before (setup.move world move) (last ++ more) := by
  obtain ⟨turn, moves, calls, attempt, exhausted, parts, rfl, recorded, areCalls⟩ := leaves
  refine ⟨turn, moves ++ [move], calls, attempt, exhausted, parts, ?_, ?_, areCalls⟩
  · rw [← List.cons_append, play_append]
    rfl
  · rw [since, recorded, List.append_assoc]

theorem Leaves.call (leaves : setup.Leaves before world []) (move : Move)
    {call : Call} {answer : Except BackendError Unit}
    (since : (setup.move world move).since before = world.since before ++ [.called call answer]) :
    setup.Leaves before (setup.move world move) [] := by
  obtain ⟨turn, moves, calls, attempt, exhausted, parts, rfl, recorded, areCalls⟩ := leaves
  refine ⟨turn, moves ++ [move], calls ++ [.called call answer], attempt, exhausted, parts,
    ?_, ?_, ?_⟩
  · rw [← List.cons_append, play_append]
    rfl
  · rw [since, recorded]
    simp
  · intro entry isEntry
    rcases List.mem_append.mp isEntry with earlier | last
    · exact areCalls entry earlier
    · rw [List.mem_singleton.mp last]
      rfl

/-- Closing tells the end once, and gives nothing more to the link. -/
theorem exists_grows_close (world : World σ ν) : ∃ rest, world.Grows rest (setup.close world) ∧
    (setup.close world).stage.isBusy = false ∧ rest.filterMap event? = [.disconnected] ∧
      ∀ packet frame taken, .handed packet frame taken ∉ rest := by
  obtain ⟨marks, ends⟩ := setup.exists_ends_close world
  refine ⟨_, ends.grows, ends.ended, ?_, ?_⟩
  · rw [List.filterMap_append, ends.filterMap_marks rfl rfl, farewell, filterMap_event?_voice,
      List.append_nil]
  · intro packet frame taken given
    rcases List.mem_append.mp given with told | mark
    · rcases List.mem_cons.mp told with same | left
      · cases same
      · obtain ⟨entry, -, same⟩ := List.mem_map.mp left
        cases entry <;> cases same
    · rcases ends.marksOnly _ mark with same | same <;> cases same

/-- The step that gives the leave to the link ends the attempt, whether the link takes it or
fails. -/
theorem StepCase.ends_of_parting (follows : setup.StepCase world after) {frame : Bytes}
    (stage : world.stage = .sending client .disconnect frame .close) :
    after.stage.isBusy = false ∧ ∃ rest,
      world.Grows (.handed .disconnect frame (decide (world.link.sendMode = .ok)) :: rest) after ∧
        rest.filterMap event? = [.disconnected] ∧
        ∀ packet bytes taken, .handed packet bytes taken ∉ rest := by
  have closes : after = setup.close
      (world.record (.handed .disconnect frame (decide (world.link.sendMode = .ok)))) := by
    cases follows with
    | sendFailed isStage mode | sentForClose isStage mode =>
      cases stage.symm.trans isStage
      rw [mode]
      rfl
    | served isStage | begunOnce isStage | begunServing isStage | linked isStage
    | unreachable isStage | sentForTurn isStage | sentForDrain isStage | unreadable isStage
    | drained isStage | handled isStage | crowded isStage | hungUp isStage | linkFailed isStage
    | received isStage | idled isStage | pinging isStage | requested isStage
    | disconnecting isStage => cases stage.symm.trans isStage
  rw [closes]
  obtain ⟨rest, grows, isOver, told, ungiven⟩ := setup.exists_grows_close _
  exact ⟨isOver, rest, (world.grows_record _).append grows, told, ungiven⟩

/-- An attempt that has begun has not departed. -/
theorem departs_begun (due : before.AttemptDue) :
    setup.Departs before (setup.move before .step) := by
  rw [move, step_of_due setup due, Option.getD_some]
  obtain ⟨deeds, does, acts⟩ := setup.acts_of_beginCase (setup.beginAttempt_cases before.prepared)
  refine ⟨fun parts => absurd parts acts.not_mem_inHand, fun frame taken given => ?_⟩
  exact absurd (does.mem_deeds given rfl) acts.not_mem_handed

/-- As long as the attempt is under way, the link was not given the leave. -/
theorem Departs.ungiven (departs : setup.Departs before world) (busy : world.stage.isBusy = true)
    {frame : Bytes} {taken : Bool} : .handed .disconnect frame taken ∉ world.since before :=
  fun given => absurd (busy.symm.trans (departs.given frame taken given).1) nofun

/-- Every step of an attempt departs as it should. -/
theorem Departs.step (departs : setup.Departs before world) (attempt : setup.Attempt before world)
    (sound : before.Sound) (busy : world.stage.isBusy = true)
    (moved : setup.move world .step = after) (follows : setup.StepCase world after) :
    setup.Departs before after := by
  obtain ⟨deeds, does, acts⟩ := attempt.acts sound busy follows
  obtain ⟨more, grows, -⟩ := setup.evolves_stepCase follows
  have since := attempt.since_grows setup grows
  constructor
  · intro parts
    obtain ⟨-, -, client, due, armed, stage⟩ := acts.parting parts
    obtain ⟨queue, store, trace⟩ := follows.quiet_of_parting stage parts
    have silent : world.Grows [] after := trace
    obtain rfl := silent.unique grows
    subst moved
    exact ⟨world, [], [], attempt, attempt.exhausted sound stage queue store, parts, rfl,
      by simpa using since, nofun⟩
  · intro frame taken given
    have isNew : .handed .disconnect frame taken ∈ more := by
      rw [since, List.mem_append] at given
      exact given.resolve_left (departs.ungiven busy)
    have parts : .disconnect ∈ world.stage.inHand := by
      rw [← grows.since_eq] at isNew
      exact acts.mem_inHand (does.mem_deeds isNew rfl)
    obtain ⟨client, sending, stage⟩ := attempt.closing sound parts
    obtain ⟨isOver, rest, growsLast, told, last⟩ := follows.ends_of_parting stage
    obtain rfl := growsLast.unique grows
    rcases List.mem_cons.mp isNew with same | later
    · cases same
      subst moved
      exact ⟨isOver, rest, (departs.inHand parts).append .step since, told⟩
    · exact absurd later (last _ _ _)

/-- Every attempt of a run departs from an exhausted turn. -/
theorem Attempt.departs (attempt : setup.Attempt before world) (sound : before.Sound) :
    setup.Departs before world := by
  induction attempt with
  | begun due => exact departs_begun due
  | @continued world earlier busy move ih =>
    obtain ⟨more, grows, -⟩ := setup.move_evolves world move
    have since := earlier.since_grows setup grows
    generalize moved : setup.move world move = after at grows since ⊢
    cases setup.move_cases moved with
    | idled => exact ih
    | stepped follows => exact ih.step earlier sound busy moved follows
    | called request =>
      obtain rfl := (world.grows_call request).unique grows
      refine ⟨fun parts => ?_, fun frame taken given => ?_⟩
      · exact (ih.inHand parts).call (.call request) since
      · rw [since] at given
        exact absurd (by simpa using given) (ih.ungiven busy)
    | beside left =>
      have silent : world.Grows [] after := left.trace
      obtain rfl := silent.unique grows
      rw [List.append_nil] at since
      refine ⟨fun parts => ?_, fun frame taken given => ?_⟩
      · have still : .disconnect ∈ world.stage.inHand := by
          rcases left.stage with stage | waits
          · rwa [stage] at parts
          · rwa [waits, Stage.inHand_waiting] at parts
        subst moved
        have unchanged : (setup.move world move).since before = world.since before ++ [] := by
          rw [since, List.append_nil]
        exact (ih.inHand still).append move unchanged
      · rw [since] at given
        exact absurd given (ih.ungiven busy)

/-- Unless the link makes it wait, the leave in hand is given to it in the next step. -/
theorem Attempt.gives (attempt : setup.Attempt before world) (sound : before.Sound)
    (parts : .disconnect ∈ world.stage.inHand) (mode : world.link.sendMode ≠ .pend) :
    ∃ frame, .handed .disconnect frame (decide (world.link.sendMode = .ok)) ∈
      (setup.move world .step).since before := by
  obtain ⟨client, frame, stage⟩ := attempt.closing sound parts
  have taken : setup.step world ≠ none := by
    simp only [step, stage, send, Link.send?]
    cases sendMode : world.link.sendMode with
    | pend => exact absurd sendMode mode
    | ok | fail => exact Option.some_ne_none _
  obtain ⟨after, steps⟩ := Option.ne_none_iff_exists'.mp taken
  obtain ⟨-, rest, grows, -⟩ := (step_cases steps).ends_of_parting stage
  rw [move, steps, Option.getD_some, attempt.since_grows setup grows]
  exact ⟨frame, by simp⟩

end

end Setup

end Uplink
