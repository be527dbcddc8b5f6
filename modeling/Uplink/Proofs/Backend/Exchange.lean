import Uplink.Proofs.Backend.Links
import Uplink.Session.SessionError

/-!
# What an attempt gives to its link

An attempt opens at most one link. What it shows on it follows the script of a session,
and the session only takes its leave when it was asked to. A failed send and every other
fault of the session end the attempt at once. `Entry.Conduct` is what an attempt shows on
its link as a whole.
-/

namespace Uplink

namespace Entry

variable {ν : Type}

/-- The conduct of an attempt that opened a number of links, up to a stage. -/
structure Conduct (opening : Outbound) (links : Nat) (entries : List (Entry ν)) (stage : Stage) :
    Prop where
  /-- The packets are given to the one link as the script has them, with the packet in hand
  as the last. One that failed is the last of an attempt that is over. The end is told
  after all packets, and then the link is dropped, if one was opened. -/
  shown : ∃ taken : List Outbound, ∃ failed : Option Outbound,
    entries.filterMap showing? =
        taken.map (.given · true) ++ failed.toList.map (.given · false) ++
          (if stage.isBusy then [] else .ended :: .replicate links .dropped) ∧
      (failed ≠ none → stage.isBusy = false) ∧
      (links = 0 ∧ taken ++ failed.toList ++ stage.inHand = [] ∨
        links = 1 ∧ Scripted opening (taken ++ failed.toList ++ stage.inHand))
  /-- The session only takes its leave after it was asked to in the attempt. -/
  asked : ∀ earlier frame taken later,
    entries = earlier ++ .handed .disconnect frame taken :: later →
      .called .disconnect (.ok ()) ∈ earlier
  asked_inHand : .disconnect ∈ stage.inHand → .called .disconnect (.ok ()) ∈ entries

end Entry

namespace World

variable {σ ν : Type}

/-- The fault of the session that the next step of the task meets. -/
def fault? (world : World σ ν) : Option (SessionError LinkFault) :=
  match world.stage with
  | .sending _ _ _ _ =>
    match world.link.send? with
    | some (.error fault) => some (.transport fault)
    | _ => none
  | .draining client =>
    match client.next.1 with
    | .error fault => some (.protocol fault)
    | .ok (some (.connAck answer)) =>
      if answer.returnCode = 0 then none else some (.refused (.ofCode answer.returnCode))
    | .ok _ => none
  | .selecting client _ _ =>
    if client.release.room = 0 then some (.protocol .payloadTooLarge)
    else match world.link.receive? client.release.room with
      | some (.ok [], _) => some (.protocol .connectionClosed)
      | some (.error fault, _) => some (.transport fault)
      | _ => none
  | .resting | .awaitingRequest | .opening => none

end World

namespace Setup

open Entry

variable {σ ν : Type} (setup : Setup σ ν)

/-- The packet that opens the sessions of a device. -/
def introduction (id : String) : Outbound :=
  .connect {
    clientId := setup.config.clientIdPrefix ++ id
    keepAlive := (min (setup.config.keepAlive / microsPerSecond) 65535).toUInt16
    cleanSession := true }

variable {setup}

/-- A session introduces itself as the device that it was made for. -/
theorem connect_eq_introduction {id : String}
    (named : SessionId.compose setup.config.clientIdPrefix id = .ok setup.sessionId) :
    setup.options.connect = setup.introduction id := by
  unfold SessionId.compose at named
  split at named
  · have text : setup.sessionId.text = setup.config.clientIdPrefix ++ id := by
      rw [← Except.ok.inj named]
    rw [introduction, ← text]
    rfl
  · cases named

section

variable {deeds more entries : List (Entry ν)} {stage : Stage} {before world after : World σ ν}
  {packet : Outbound} {frame : Bytes} {taken : Bool}

theorem FirstAct.not_mem_inHand {now : Micros} (acts : setup.FirstAct now deeds stage) :
    .disconnect ∉ stage.inHand := by
  cases acts with
  | cancelled isOver | unreachable isOver =>
    rw [Stage.inHand_of_rested isOver]
    exact nofun
  | linked | pending => simp [Stage.inHand, SessionOptions.connect]

theorem FirstAct.not_mem_handed {now : Micros} (acts : setup.FirstAct now deeds stage) :
    .handed packet frame taken ∉ deeds := by
  cases acts <;> simp

/-- A step that has the session take its leave is one of a turn, finds that it was asked to,
and does nothing else. -/
theorem Act.parting (acts : setup.Act world more stage) (parts : .disconnect ∈ stage.inHand) :
    world.handle.disconnectSignal = true ∧ more = [] ∧
      ∃ client due armed, world.stage = .selecting client due armed := by
  cases acts with
  | unreachable _ isOver | unreadable _ _ isOver | refused _ _ _ isOver | broken _ isOver
  | sendFailed _ isOver | sentForClose _ isOver =>
    rw [Stage.inHand_of_rested isOver] at parts
    cases parts
  | linked | pinging => simp [Stage.inHand, SessionOptions.connect] at parts
  | sentForTurn | sentForDrain | drained | settled | received | idled => cases parts
  | answered isStage reads welcome owed frame =>
    rw [Stage.inHand, List.mem_singleton] at parts
    rw [← parts] at owed
    cases isRoutine_of_answer? owed
  | @requested client deadline armed request =>
    cases request <;> simp [Stage.inHand, requestPacket] at parts
  | disconnecting isStage asked => exact ⟨asked, rfl, _, _, _, isStage⟩

/-- A step only gives the packet in hand to the link. -/
theorem Act.mem_inHand (acts : setup.Act world more stage)
    (given : .handed packet frame taken ∈ more) : packet ∈ world.stage.inHand := by
  cases acts with
  | sendFailed isStage | sentForClose isStage | sentForTurn isStage | sentForDrain isStage =>
    rw [isStage]
    simp_all [Stage.inHand]
  | settled | answered =>
    rcases List.mem_cons.mp given with same | told
    · cases same
    · obtain ⟨event, phase, same, -, -⟩ := exists_raised_of_mem_tidings told
      cases same
  | refused | unreachable | unreadable | broken | received => simp at given
  | linked | drained | idled | pinging | requested | disconnecting => cases given

/-- A session that takes its leave was asked to in its attempt. -/
structure Bidden (entries : List (Entry ν)) (handle : Handle) (stage : Stage) : Prop where
  signalled : stage.isBusy = true → handle.disconnectSignal = true →
    .called .disconnect (.ok ()) ∈ entries
  inHand : .disconnect ∈ stage.inHand → .called .disconnect (.ok ()) ∈ entries
  placed : ∀ earlier frame taken later,
    entries = earlier ++ .handed .disconnect frame taken :: later →
      .called .disconnect (.ok ()) ∈ earlier

/-- What gives nothing to the link keeps who was asked. -/
theorem Bidden.append {handle : Handle} (bidden : Bidden entries world.handle world.stage)
    (busy : world.stage.isBusy = true) (evolves : world.handle.Evolves more handle)
    (parts : .disconnect ∈ stage.inHand →
      .disconnect ∈ world.stage.inHand ∨ world.handle.disconnectSignal = true)
    (given : ∀ frame taken, .handed .disconnect frame taken ∈ more →
      .disconnect ∈ world.stage.inHand) :
    Bidden (entries ++ more) handle stage := by
  constructor
  · intro _ signalled
    rw [List.mem_append]
    exact (evolves.asked signalled).imp_left (bidden.signalled busy)
  · intro isInHand
    apply List.mem_append_left
    rcases parts isInHand with still | signalled
    · exact bidden.inHand still
    · exact bidden.signalled busy signalled
  · intro earlier frame taken later split
    obtain ⟨between, rfl, isMore⟩ | ⟨rest, isEntries, -⟩ := split_append split
    · apply List.mem_append_left
      exact bidden.inHand (given frame taken (by simp [isMore]))
    · exact bidden.placed earlier frame taken rest isEntries

/-- An attempt only goes on after its beginning was told if its end was not asked for. -/
theorem BeginCase.proceeds (begins : setup.BeginCase world after)
    (busy : after.stage.isBusy = true) : (setup.greet world).handle.disconnectRequested = false := by
  cases begins with
  | cancelled =>
    obtain ⟨marks, ends⟩ := setup.exists_ends_giveUp (setup.greet world)
    exact absurd (busy.symm.trans ends.ended) nofun
  | unreachable proceeds | linked proceeds | pending proceeds => exact proceeds

/-- The handler that asks for the end before the broker is tried gets it at once, so a
session begins without being asked to end. -/
theorem bidden_begun (due : before.AttemptDue) (mindful : before.handle.Mindful) :
    Bidden ((setup.move before .step).since before) (setup.move before .step).handle
      (setup.move before .step).stage := by
  rw [move, step_of_due setup due, Option.getD_some]
  have begins := setup.beginAttempt_cases before.prepared
  generalize setup.beginAttempt before.prepared = after at begins ⊢
  obtain ⟨deeds, does, acts⟩ := setup.acts_of_beginCase begins
  obtain ⟨first, greets, greeted⟩ := before.evolves_prepared.trans (setup.evolves_greet _)
  obtain ⟨later, grows, evolves⟩ := setup.evolves_beginCase begins
  constructor
  · intro busy signalled
    -- A signal from before the broker was tried would have ended the attempt there.
    have unasked : (setup.greet before.prepared).handle.disconnectSignal ≠ true := by
      intro asked
      have requested := greeted.mindful mindful asked
      rw [begins.proceeds busy] at requested
      cases requested
    rw [(greets.append grows).since_eq, List.mem_append]
    right
    exact (evolves.asked signalled).resolve_left unasked
  · exact fun isInHand => absurd isInHand acts.not_mem_inHand
  · intro earlier frame taken later split
    have recorded : .handed .disconnect frame taken ∈ after.since before := by simp [split]
    exact absurd (does.mem_deeds recorded rfl) acts.not_mem_handed

theorem Attempt.bidden (attempt : setup.Attempt before world) (sound : before.Sound)
    (mindful : before.handle.Mindful) :
    Bidden (world.since before) world.handle world.stage := by
  -- Deeds alone do not carry this: the calls between them have to stay in sight.
  induction attempt with
  | begun due => exact bidden_begun due mindful
  | @continued world earlier busy move ih =>
    obtain ⟨more, grows, evolves⟩ := setup.move_evolves world move
    generalize moved : setup.move world move = after at grows evolves ⊢
    rw [earlier.since_grows setup grows]
    cases setup.move_cases moved with
    | idled =>
      obtain rfl := (World.Grows.refl world).unique grows
      exact ih.append busy evolves .inl nofun
    | stepped follows =>
      obtain ⟨deeds, does, acts⟩ := earlier.acts sound busy follows
      refine ih.append busy evolves (fun parts => .inr (acts.parting parts).1) ?_
      intro frame taken given
      rw [← grows.since_eq] at given
      exact acts.mem_inHand (does.mem_deeds given rfl)
    | called request =>
      obtain rfl := (world.grows_call request).unique grows
      exact ih.append busy evolves .inl (by simp)
    | beside left =>
      have silent : world.Grows [] after := left.trace
      obtain rfl := silent.unique grows
      refine ih.append busy evolves (fun parts => .inl ?_) nofun
      rcases left.stage with stage | waits
      · rwa [stage] at parts
      · rwa [waits, Stage.inHand_waiting] at parts

/-- What an attempt shows on its link is as the script of a session has it. -/
theorem Attempt.conduct (attempt : setup.Attempt before world) (sound : before.Sound)
    (mindful : before.handle.Mindful) {links : Nat}
    (opened : links = ((world.since before).filterMap showing?).count .dropped +
      world.stage.isLinked.toNat) :
    Conduct setup.options.connect links (world.since before) world.stage := by
  have shown := attempt.shown sound
  have bidden := attempt.bidden sound mindful
  refine ⟨?_, bidden.placed, bidden.inHand⟩
  cases busy : world.stage.isBusy with
  | true =>
    obtain ⟨taken, shows, speaking⟩ := shown.1 busy
    rw [shows, Showing.count_dropped_given, Nat.zero_add] at opened
    refine ⟨taken, none, by simp [shows], by simp, ?_⟩
    rw [Option.toList_none, List.append_nil]
    cases linked : world.stage.isLinked with
    | true =>
      rw [linked] at opened
      exact .inr ⟨opened, speaking.scripted linked⟩
    | false =>
      rw [linked] at opened
      exact .inl ⟨opened, speaking.nil_of_unlinked linked⟩
  | false =>
    have concluded := shown.2 busy
    rw [Stage.isLinked_of_rested busy] at opened
    rw [Stage.inHand_of_rested busy]
    generalize (world.since before).filterMap showing? = all at concluded opened ⊢
    cases concluded with
    | unlinked => exact ⟨[], none, by rw [opened]; rfl, nofun, .inl ⟨opened, rfl⟩⟩
    | @closed taken failed scripted =>
      rw [List.count_append, List.count_append, Showing.count_dropped_given,
        Showing.count_dropped_given] at opened
      refine ⟨taken, failed, ?_, fun _ => rfl, .inr ⟨opened, ?_⟩⟩
      · rw [opened]
        rfl
      · rwa [List.append_nil]

end

/-! ## Faults -/

variable (setup)

/-- A fault has the session closed, when at most a packet failed and another was read. -/
theorem step_of_fault {world : World σ ν} {fault : SessionError LinkFault}
    (meets : world.fault? = some fault) :
    ∃ last deeds, setup.step world = some (setup.close last) ∧ world.Does deeds last ∧
      last.handle = world.handle ∧
      deeds.filterMap Entry.showing? = world.stage.inHand.map (.given · false) := by
  have nothing : world.Does [] world := .of_trace rfl
  unfold World.fault? at meets
  cases stage : world.stage with
  | resting | awaitingRequest | opening => simp [stage] at meets
  | sending client packet frame next =>
    rw [stage] at meets
    cases mode : world.link.send? with
    | none => simp [mode] at meets
    | some outcome =>
      cases outcome with
      | ok _ => simp [mode] at meets
      | error fault =>
        refine ⟨world.record (.handed packet frame false), _, ?_, .record rfl trivial, rfl, rfl⟩
        simp only [step, stage, send, mode]
  | draining client =>
    rw [stage] at meets
    rcases reads : client.next with ⟨fault | packet?, rested⟩
    · refine ⟨world, _, ?_, nothing, rfl, rfl⟩
      simp only [step, stage, drain, reads]
    · cases packet? with
      | none => simp [reads] at meets
      | some packet =>
        cases packet with
        | publish | acknowledge | subAck | pingResp => simp [reads] at meets
        | connAck answer =>
          refine ⟨world.record (.handled (.connAck answer)), _, ?_, .record rfl trivial, rfl, rfl⟩
          have failure : answer.returnCode ≠ 0 := fun success => by simp [reads, success] at meets
          simp only [step, stage, drain, reads, handlePacket,
            ConnectReason.ofCode_eq_success_iff, if_neg failure]
  | selecting client deadline armed =>
    rw [stage] at meets
    by_cases full : client.release.room = 0
    · refine ⟨world, _, ?_, nothing, rfl, rfl⟩
      simp only [step, stage, select, full, if_true]
    · simp only [if_neg full] at meets
      cases arrives : world.link.receive? client.release.room with
      | none => simp [arrives] at meets
      | some arrived =>
        obtain ⟨fault | bytes, link⟩ := arrived
        · refine ⟨{ world with link }, _, ?_, nothing.to_trace rfl, rfl, rfl⟩
          simp only [step, stage, select, if_neg full, arrives]
        · cases bytes with
          | nil =>
            refine ⟨{ world with link }, _, ?_, nothing.to_trace rfl, rfl, rfl⟩
            simp only [step, stage, select, if_neg full, arrives]
          | cons byte bytes => simp [arrives] at meets

/-- A fault ends the attempt in the same step: nothing is given to the link behind it. -/
theorem fault_ends {world : World σ ν} {fault : SessionError LinkFault}
    (meets : world.fault? = some fault) (active : world.handle.active = true) :
    (setup.move world .step).stage.isBusy = false ∧
      ((setup.move world .step).since world).filterMap Entry.showing? =
        world.stage.inHand.map (.given · false) ++ [.ended, .dropped] := by
  obtain ⟨last, deeds, closes, does, handle, shows⟩ := setup.step_of_fault meets
  obtain ⟨ends, isOver⟩ := setup.does_close last (handle ▸ active)
  rw [move, closes, Option.getD_some]
  refine ⟨isOver, ?_⟩
  rw [← Entry.filterMap_deeds fun _ => Entry.showing?_of_not_isDeed, (does.append ends).since_eq,
    List.filterMap_append, shows]
  rfl

/-- In every attempt of a run, at most one link is opened. The first packet given to it
introduces the session, routine packets follow, and if the end was asked for in the attempt,
the last one is the leave. Nothing follows a packet that failed or another fault of the
session but the end, which is told before the link is dropped, once. Without a link nothing
is given and nothing is dropped. -/
theorem Attempt.exchange_conducted {handlerState : σ} {opens : List Outcome}
    {history moves : List Move} {id : String}
    (named : SessionId.compose setup.config.clientIdPrefix id = .ok setup.sessionId)
    (due : (setup.play (.initial handlerState opens) history).AttemptDue)
    (underway : setup.underwayThrough
      (setup.move (setup.play (.initial handlerState opens) history) .step) moves = true) :
    let before := setup.play (.initial handlerState opens) history
    let world := setup.play before (.step :: moves)
    Entry.Conduct (setup.introduction id) (setup.linksOpened before (.step :: moves))
        (world.since before) world.stage ∧
      ∀ fault, world.fault? = some fault →
        (setup.move world .step).stage.isBusy = false ∧
          ((setup.move world .step).since world).filterMap Entry.showing? =
            world.stage.inHand.map (.given · false) ++ [.ended, .dropped] := by
  intro before world
  have sound : before.Sound := setup.sound_play handlerState opens history
  have attempt : setup.Attempt before world := Attempt.play setup (.begun due) underway
  constructor
  · rw [← connect_eq_introduction named]
    exact attempt.conduct sound (setup.mindful_play handlerState opens history)
      (setup.linksOpened_since rfl (isLinked_of_due due) (.step :: moves))
  · intro fault meets
    have busy : world.stage.isBusy = true := by
      cases stage : world.stage with
      | resting | awaitingRequest => simp [World.fault?, stage] at meets
      | opening | sending | draining | selecting => rfl
    exact setup.fault_ends meets ((attempt.sound sound).taken busy)

end Setup

/-- The broker accepts a session, and a caller ends it after the message of the handler. -/
def Move.briefVisit : List Move :=
  .deliver (.data [0x20, 2, 0, 0]) :: .replicate 6 .step ++ [.call .disconnect, .step, .step]

/-- The message of the handler goes out between the introduction and the leave. -/
theorem Setup.Attempt.greeter_briefVisit :
    Entry.Conduct (greeter.introduction "1")
        (greeter.linksOpened .asked (.step :: Move.briefVisit))
        ((greeter.play .asked (.step :: Move.briefVisit)).since .asked)
        (greeter.play .asked (.step :: Move.briefVisit)).stage ∧
      ((greeter.play .asked (.step :: Move.briefVisit)).since .asked).filterMap Entry.showing? =
        [.given (.connect ⟨"nrf-1", 60, true⟩) true,
          .given (.publish ⟨"hello", [1], .atLeastOnce, some 1, false, false⟩) true,
          .given .disconnect true, .ended, .dropped] := by
  have named : SessionId.compose greeter.config.clientIdPrefix "1" = .ok greeter.sessionId := rfl
  have due : (greeter.play (.initial 0 []) [.ask .once]).AttemptDue := .inl ⟨rfl, rfl⟩
  have underway : greeter.underwayThrough
      (greeter.move (greeter.play (.initial 0 []) [.ask .once]) .step) Move.briefVisit = true := by
    decide +kernel
  have conducted := Attempt.exchange_conducted greeter named due underway
  exact ⟨conducted.1, by decide +kernel⟩

end Uplink
