import Uplink.Proofs.Backend.Acts

/-!
# The script of a session

A session introduces itself, then sends what its callers, its broker and its timer call
for, and takes its leave at most once, last. `Speaking` follows its packets from step to
step, and `Setup.Shown` adds what becomes of the packet in hand and of the link when the
attempt ends.
-/

namespace Uplink

/-- The packets that a session sends again and again. -/
def Outbound.isRoutine : Outbound → Bool
  | publish _ | subscribe _ | acknowledge .pubAck _ | acknowledge .pubRel _ | pingReq => true
  | connect _ | acknowledge .pubRec _ | acknowledge .pubComp _ | disconnect => false

/-- The packets of a session: it opens once, and at most once it takes its leave, last. -/
def Scripted (opening : Outbound) (packets : List Outbound) : Prop :=
  ∃ middle, (∀ packet ∈ middle, packet.isRoutine = true) ∧
    (packets = opening :: middle ∨ packets = opening :: middle ++ [.disconnect])

/-- What an attempt shows to the broker and to the handler of its link. -/
inductive Showing where
  /-- A packet is given to the link, which takes it or fails. -/
  | given (packet : Outbound) (taken : Bool)
  /-- The end of the attempt is told. -/
  | ended
  /-- The link is dropped. -/
  | dropped
deriving DecidableEq, Repr

theorem Showing.count_dropped_given (packets : List Outbound) (taken : Bool) :
    (packets.map (given · taken)).count dropped = 0 := by
  simp [List.count_eq_zero]

namespace Stage

/-- The packet that is being given to the link. -/
def inHand : Stage → List Outbound
  | sending _ packet _ _ => [packet]
  | resting | awaitingRequest | opening | draining _ | selecting _ _ _ => []

/-- Whether a link is open. -/
def isLinked : Stage → Bool
  | sending _ _ _ _ | draining _ | selecting _ _ _ => true
  | resting | awaitingRequest | opening => false

@[simp] theorem inHand_waiting (stage : Stage) : stage.waiting.inHand = stage.inHand := by
  cases stage <;> rfl

@[simp] theorem isLinked_waiting (stage : Stage) : stage.waiting.isLinked = stage.isLinked := by
  cases stage <;> rfl

/-- Without an attempt nothing is in hand. -/
theorem inHand_of_rested {stage : Stage} (isOver : stage.isBusy = false) : stage.inHand = [] := by
  cases stage with
  | sending => cases isOver
  | resting | awaitingRequest | opening | draining | selecting => rfl

/-- A link belongs to an attempt. -/
theorem isBusy_of_isLinked {stage : Stage} (linked : stage.isLinked = true) :
    stage.isBusy = true := by
  cases stage with
  | sending | draining | selecting => rfl
  | resting | awaitingRequest | opening => cases linked

/-- Without an attempt there is no link. -/
theorem isLinked_of_rested {stage : Stage} (isOver : stage.isBusy = false) :
    stage.isLinked = false :=
  Bool.eq_false_iff.mpr fun linked => absurd ((isBusy_of_isLinked linked).symm.trans isOver) nofun

end Stage

namespace Entry

variable {ν : Type}

/-- What is shown on the link. -/
def showing? : Entry ν → Option Showing
  | handed packet _ taken => some (.given packet taken)
  | raised .disconnected _ => some .ended
  | aborted => some .dropped
  | _ => none

/-- Only what the task does is shown on the link. -/
theorem showing?_of_not_isDeed {entry : Entry ν} (other : entry.isDeed = false) :
    entry.showing? = none := by
  cases entry with
  | called | noted | returned => rfl
  | raised | opened | received | handled | handed | aborted => cases other

/-- Nothing is shown on the link when a packet is handled. -/
theorem filterMap_showing?_tidings (packet : Inbound) (phase : Phase) :
    (.handled packet :: tidings phase packet : List (Entry ν)).filterMap showing? = [] := by
  rw [List.filterMap_cons_none rfl]
  refine filterMap_tidings (fun event phase _ ends => ?_) phase packet
  cases event with
  | disconnected => exact absurd rfl ends
  | connecting | connected | ready | dataReceived => rfl

end Entry

namespace Setup

open Entry

variable {σ ν : Type} {setup : Setup σ ν}

/-- How far a session has come with its packets, those in hand not counted. -/
inductive Speaking (opening : Outbound) : List Outbound → Stage → Prop where
  | unlinked : Speaking opening [] .opening
  | greeting {client : Client} {frame : Bytes} :
      Speaking opening [] (.sending client opening frame .turn)
  | speaking {middle : List Outbound} {client : Client} {packet : Outbound} {frame : Bytes}
      {next : Continuation} (routine : ∀ packet ∈ middle, packet.isRoutine = true)
      (another : packet.isRoutine = true) (stays : next ≠ .close) :
      Speaking opening (opening :: middle) (.sending client packet frame next)
  | parting {middle : List Outbound} {client : Client} {frame : Bytes}
      (routine : ∀ packet ∈ middle, packet.isRoutine = true) :
      Speaking opening (opening :: middle) (.sending client .disconnect frame .close)
  | listening {middle : List Outbound} {stage : Stage}
      (routine : ∀ packet ∈ middle, packet.isRoutine = true) (linked : stage.isLinked = true)
      (free : stage.inHand = []) : Speaking opening (opening :: middle) stage

/-- What an attempt that is over has shown. -/
inductive Concluded (opening : Outbound) : List Showing → Prop where
  | unlinked : Concluded opening [.ended]
  | closed {taken : List Outbound} {failed : Option Outbound}
      (scripted : Scripted opening (taken ++ failed.toList)) :
      Concluded opening
        (taken.map (.given · true) ++ failed.toList.map (.given · false) ++ [.ended, .dropped])

/-- What an attempt has shown up to a stage. -/
def Shown (opening : Outbound) (deeds : List (Entry ν)) (stage : Stage) : Prop :=
  (stage.isBusy = true → ∃ taken : List Outbound,
    deeds.filterMap showing? = taken.map (.given · true) ∧ Speaking opening taken stage) ∧
    (stage.isBusy = false → Concluded opening (deeds.filterMap showing?))

section

variable {opening : Outbound} {taken : List Outbound} {deeds more : List (Entry ν)}
  {stage : Stage} {world : World σ ν}

theorem Shown.of_speaking (shows : deeds.filterMap showing? = taken.map (.given · true))
    (speaking : Speaking opening taken stage) (busy : stage.isBusy = true) :
    Shown opening deeds stage :=
  ⟨fun _ => ⟨taken, shows, speaking⟩, fun isOver => absurd (busy.symm.trans isOver) nofun⟩

theorem Shown.of_concluded (concluded : Concluded opening (deeds.filterMap showing?))
    (isOver : stage.isBusy = false) : Shown opening deeds stage :=
  ⟨fun busy => absurd (busy.symm.trans isOver) nofun, fun _ => concluded⟩

theorem Shown.waiting (shown : Shown opening deeds stage) : Shown opening deeds stage.waiting := by
  rw [Shown, Stage.isBusy_waiting]
  refine ⟨fun busy => ?_, shown.2⟩
  obtain ⟨taken, shows, speaking⟩ := shown.1 busy
  refine ⟨taken, shows, ?_⟩
  cases speaking with
  | unlinked => exact .unlinked
  | greeting => exact .greeting
  | speaking routine another stays => exact .speaking routine another stays
  | parting routine => exact .parting routine
  | listening routine linked free => exact .listening routine (by simpa) (by simpa)

theorem Shown.of_firstAct {now : Micros} (acts : setup.FirstAct now deeds stage) :
    Shown setup.options.connect deeds stage := by
  cases acts with
  | cancelled isOver | unreachable isOver => exact .of_concluded .unlinked isOver
  | linked frame => exact .of_speaking rfl .greeting rfl
  | pending => exact .of_speaking rfl .unlinked rfl

/-- A packet that was taken joins those that were. -/
theorem Speaking.scripted (speaking : Speaking opening taken stage)
    (linked : stage.isLinked = true) : Scripted opening (taken ++ stage.inHand) := by
  cases speaking with
  | unlinked => cases linked
  | greeting => exact ⟨[], nofun, .inl rfl⟩
  | @speaking middle client packet frame next routine another stays =>
    have routines := List.forall_mem_append.mpr ⟨routine, List.forall_mem_singleton.mpr another⟩
    exact ⟨middle ++ [packet], routines, .inl rfl⟩
  | parting routine => exact ⟨_, routine, .inr rfl⟩
  | listening routine linked free =>
    rw [free, List.append_nil]
    exact ⟨_, routine, .inl rfl⟩

/-- Without a link, no packet was given to one or is in hand. -/
theorem Speaking.nil_of_unlinked (speaking : Speaking opening taken stage)
    (unlinked : stage.isLinked = false) : taken ++ stage.inHand = [] := by
  cases speaking with
  | unlinked => rfl
  | greeting | speaking | parting => cases unlinked
  | listening _ linked => exact absurd (linked.symm.trans unlinked) nofun

/-- The packet in hand is given to the link, and the session goes on without one. -/
theorem Speaking.sent {client : Client} {packet : Outbound} {frame : Bytes} {next : Continuation}
    (speaking : Speaking opening taken (.sending client packet frame next)) (stays : next ≠ .close)
    (linked : stage.isLinked = true) (free : stage.inHand = []) :
    Speaking opening (taken ++ [packet]) stage := by
  cases speaking with
  | greeting => exact .listening nofun linked free
  | @speaking middle _ _ _ _ routine another _ =>
    have routines := List.forall_mem_append.mpr ⟨routine, List.forall_mem_singleton.mpr another⟩
    exact .listening routines linked free
  | parting => exact absurd rfl stays
  | listening _ _ occupied => cases occupied

/-- A session without a packet in hand can send another one. -/
theorem Speaking.routine (speaking : Speaking opening taken stage) (linked : stage.isLinked = true)
    (free : stage.inHand = []) : ∃ middle, taken = opening :: middle ∧
      ∀ packet ∈ middle, packet.isRoutine = true := by
  cases speaking with
  | unlinked => cases linked
  | greeting | speaking | parting => cases free
  | listening routine => exact ⟨_, rfl, routine⟩

theorem isRoutine_requestPacket (packetId : UInt16) (request : Request) :
    (requestPacket packetId request).isRoutine = true := by
  cases request <;> rfl

/-- What owes an acknowledgement is answered by a routine packet. -/
theorem isRoutine_of_answer? {packet : Inbound} {answer : Outbound}
    (owed : packet.answer? = some answer) : answer.isRoutine = true := by
  obtain ⟨packetId, rfl | rfl⟩ := Inbound.exists_of_answer? owed <;> rfl

/-- A session that goes on shows the packet that it was giving to the link, if it was. -/
theorem Shown.of_silent (shows : deeds.filterMap showing? = taken.map (.given · true))
    (speaking : Speaking opening taken stage) (busy : stage.isBusy = true)
    (silent : more.filterMap showing? = []) : Shown opening (deeds ++ more) stage := by
  refine .of_speaking ?_ speaking busy
  rw [List.filterMap_append, shows, silent, List.append_nil]

theorem Shown.of_sent {packet : Outbound} {frame : Bytes}
    (shows : deeds.filterMap showing? = taken.map (.given · true))
    (speaking : Speaking opening (taken ++ [packet]) stage) (busy : stage.isBusy = true) :
    Shown opening (deeds ++ [.handed packet frame true]) stage := by
  refine .of_speaking ?_ speaking busy
  rw [List.filterMap_append, shows, List.map_append]
  rfl

/-- A session that ends shows the packet that failed, if one did, and then its end. -/
theorem Shown.of_closed (failed : Option Outbound)
    (shows : deeds.filterMap showing? = taken.map (.given · true))
    (scripted : Scripted opening (taken ++ failed.toList)) (isOver : stage.isBusy = false)
    (closes : more.filterMap showing? = failed.toList.map (.given · false) ++ [.ended, .dropped]) :
    Shown opening (deeds ++ more) stage := by
  refine .of_concluded ?_ isOver
  rw [List.filterMap_append, shows, closes, ← List.append_assoc]
  exact .closed scripted

/-- What is shown of a step is what it gives to the link and how it ends. -/
theorem Shown.of_act (shown : Shown setup.options.connect deeds world.stage)
    (busy : world.stage.isBusy = true) (acts : setup.Act world more stage) :
    Shown setup.options.connect (deeds ++ more) stage := by
  obtain ⟨taken, shows, speaking⟩ := shown.1 busy
  cases acts with
  | linked isStage frame =>
    rw [isStage] at speaking
    cases speaking with
    | unlinked => exact .of_silent shows .greeting rfl rfl
    | listening _ linked => cases linked
  | unreachable isStage isOver =>
    rw [isStage] at speaking
    cases speaking with
    | unlinked =>
      refine .of_concluded ?_ isOver
      rw [List.filterMap_append, shows]
      exact .unlinked
    | listening _ linked => cases linked
  | @sendFailed client packet frame next rested isStage isOver =>
    rw [isStage] at speaking
    exact .of_closed (some packet) shows (speaking.scripted rfl) isOver rfl
  | sentForTurn isStage | sentForDrain isStage =>
    rw [isStage] at speaking
    exact .of_sent shows (speaking.sent nofun rfl rfl) rfl
  | @sentForClose client packet frame rested isStage isOver =>
    rw [isStage] at speaking
    have sent : (deeds ++ [handed packet frame true]).filterMap showing? =
        (taken ++ [packet]).map (.given · true) := by
      rw [List.filterMap_append, shows, List.map_append]
      rfl
    have scripted := speaking.scripted rfl
    rw [← List.append_nil (taken ++ _)] at scripted
    rw [List.append_cons]
    exact .of_closed none sent scripted isOver rfl
  | unreadable isStage _ isOver | broken isStage isOver | refused isStage _ _ isOver =>
    rw [isStage] at speaking
    exact .of_closed none shows (speaking.scripted rfl) isOver rfl
  | drained isStage | received isStage | idled isStage =>
    rw [isStage] at speaking
    obtain ⟨middle, rfl, routine⟩ := speaking.routine rfl rfl
    exact .of_silent shows (.listening routine rfl rfl) rfl rfl
  | settled isStage =>
    rw [isStage] at speaking
    obtain ⟨middle, rfl, routine⟩ := speaking.routine rfl rfl
    exact .of_silent shows (.listening routine rfl rfl) rfl (filterMap_showing?_tidings _ _)
  | answered isStage reads welcome owed frame =>
    rw [isStage] at speaking
    obtain ⟨middle, rfl, routine⟩ := speaking.routine rfl rfl
    exact .of_silent shows (.speaking routine (isRoutine_of_answer? owed) nofun) rfl
      (filterMap_showing?_tidings _ _)
  | pinging isStage =>
    rw [isStage] at speaking
    obtain ⟨middle, rfl, routine⟩ := speaking.routine rfl rfl
    exact .of_silent shows (.speaking routine rfl nofun) rfl rfl
  | requested isStage frame =>
    rw [isStage] at speaking
    obtain ⟨middle, rfl, routine⟩ := speaking.routine rfl rfl
    exact .of_silent shows (.speaking routine (isRoutine_requestPacket _ _) nofun) rfl rfl
  | disconnecting isStage asked frame =>
    rw [isStage] at speaking
    obtain ⟨middle, rfl, routine⟩ := speaking.routine rfl rfl
    exact .of_silent shows (.parting routine) rfl rfl

end

/-- What an attempt shows on its link is what the task did in it. -/
theorem Attempt.shown {before world : World σ ν} (attempt : setup.Attempt before world)
    (sound : before.Sound) : Shown setup.options.connect (world.since before) world.stage := by
  have shown := attempt.deeds_induction (motive := Shown setup.options.connect) .of_firstAct
    (fun _ busy shown acts => shown.of_act busy acts) .waiting sound
  have deeds : ((world.since before).filter isDeed).filterMap showing? =
      (world.since before).filterMap showing? :=
    filterMap_deeds (fun _ => showing?_of_not_isDeed) _
  rwa [Shown, deeds] at shown

end Setup

end Uplink
