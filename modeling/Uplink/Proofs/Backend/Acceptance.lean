import Uplink.Proofs.Backend.Handling
import Uplink.Proofs.Backend.Notifications

/-!
# What comes before the acceptance

The acceptance of a session changes the phase, and nothing else about the handling of
packets: a broker that sends messages first has them told and acknowledged at once.
`Ungated` says so for the entries in front of the acceptance. It follows that nothing is
told or acknowledged there exactly when the broker sends nothing of the kind.
-/

namespace Uplink

namespace Entry

variable {ν : Type} {entries deeds more : List (Entry ν)} {stage after : Stage}

/-- The session was accepted, and this was told. -/
def Welcomed (entries : List (Entry ν)) : Prop := .connected ∈ entries.filterMap event?

instance (entries : List (Entry ν)) : Decidable (Welcomed entries) :=
  inferInstanceAs (Decidable (.connected ∈ entries.filterMap event?))

/-- What is recorded before the acceptance is told. -/
def prelude (entries : List (Entry ν)) : List (Entry ν) := entries.takeWhile (misses .connected)

/-- What is recorded from there on. -/
def sequel (entries : List (Entry ν)) : List (Entry ν) := entries.dropWhile (misses .connected)

/-- An acknowledgement that is on its way before the acceptance. -/
def owedEarly (entries : List (Entry ν)) (stage : Stage) : List Dealing :=
  if Welcomed entries then [] else stage.owed

/-- Before its acceptance too, a session tells messages and gives acknowledgements to the
link as the packets call for it. Only the phase in which messages are told shows which of
them came too early. -/
structure Ungated (entries : List (Entry ν)) (stage : Stage) : Prop where
  dealt : (prelude entries).filterMap dealing? ++ owedEarly entries stage =
    ((prelude entries).filterMap handled?).flatMap Inbound.dealings
  early : ∀ topic payload phase,
    .raised (.dataReceived topic payload) phase ∈ prelude entries → phase = .connecting
  late : ∀ topic payload phase,
    .raised (.dataReceived topic payload) phase ∈ sequel entries → phase = .ready

theorem welcomed_append : Welcomed (deeds ++ more) ↔ Welcomed deeds ∨ Welcomed more := by
  rw [Welcomed, List.filterMap_append, List.mem_append, Welcomed, Welcomed]

theorem welcomed_iff_kinds : Welcomed entries ↔ .connected ∈ kinds entries := by
  rw [Welcomed, kinds, List.mem_map]
  constructor
  · exact fun told => ⟨.connected, told, rfl⟩
  · rintro ⟨event, told, kind⟩
    cases event <;> cases kind
    exact told

/-- Without an acceptance everything comes before it. -/
theorem prelude_of_unwelcomed (unwelcomed : ¬ Welcomed entries) :
    prelude entries = entries ∧ sequel entries = [] := by
  have missed := misses_of_unraised unwelcomed
  exact ⟨List.takeWhile_eq_self_iff.mpr missed, List.dropWhile_eq_nil_iff.mpr missed⟩

/-- What follows an acceptance does not come before it. -/
theorem prelude_append_of_welcomed (welcomed : Welcomed deeds) (more : List (Entry ν)) :
    prelude (deeds ++ more) = prelude deeds ∧ sequel (deeds ++ more) = sequel deeds ++ more := by
  induction deeds with
  | nil => cases welcomed
  | cons entry deeds ih =>
    cases missed : entry.misses .connected with
    | false => simp [prelude, sequel, missed]
    | true =>
      have later : Welcomed deeds := by
        have unraised : entry.event? ≠ some .connected := of_decide_eq_true missed
        rcases List.mem_filterMap.mp welcomed with ⟨raised, among, told⟩
        rcases List.mem_cons.mp among with rfl | behind
        · exact absurd told unraised
        · exact List.mem_filterMap.mpr ⟨raised, behind, told⟩
      simpa [prelude, sequel, missed] using ih later

theorem prelude_append_of_unwelcomed (unwelcomed : ¬ Welcomed deeds) (more : List (Entry ν)) :
    prelude (deeds ++ more) = deeds ++ prelude more ∧ sequel (deeds ++ more) = sequel more := by
  have missed := misses_of_unraised unwelcomed
  exact ⟨List.takeWhile_append_of_pos missed, List.dropWhile_append_of_pos missed⟩

/-- Only the deeds decide what comes before the acceptance. -/
theorem prelude_filter_isDeed (entries : List (Entry ν)) :
    prelude (entries.filter isDeed) = (prelude entries).filter isDeed ∧
      sequel (entries.filter isDeed) = (sequel entries).filter isDeed := by
  induction entries with
  | nil => exact ⟨rfl, rfl⟩
  | cons entry entries ih =>
    cases deed : entry.isDeed with
    | true => cases missed : entry.misses .connected <;> simp_all [prelude, sequel]
    | false =>
      have missed : entry.misses .connected = true := by
        cases entry <;> simp_all [isDeed, misses, event?]
      simp_all [prelude, sequel]

theorem Ungated.of_deeds (ungated : Ungated (entries.filter isDeed) stage) :
    Ungated entries stage := by
  obtain ⟨dealt, early, late⟩ := ungated
  obtain ⟨before, behind⟩ := prelude_filter_isDeed entries
  have welcomed : Welcomed (entries.filter isDeed) ↔ Welcomed entries := by
    rw [Welcomed, filterMap_deeds (by rintro ⟨⟩ ⟨⟩ <;> rfl), Welcomed]
  rw [before] at dealt early
  rw [behind] at late
  refine ⟨?_, fun topic payload phase told => ?_, fun topic payload phase told => ?_⟩
  · rwa [filterMap_deeds (by rintro ⟨⟩ ⟨⟩ <;> rfl), filterMap_deeds (by rintro ⟨⟩ ⟨⟩ <;> rfl),
      owedEarly, if_congr welcomed rfl rfl] at dealt
  · exact early topic payload phase (List.mem_filter.mpr ⟨told, rfl⟩)
  · exact late topic payload phase (List.mem_filter.mpr ⟨told, rfl⟩)

/-- What is no acceptance keeps a session ungated when it deals with packets as they call
for it, and tells their messages in the phase of the session. -/
theorem Ungated.append (ungated : Ungated deeds stage) (unwelcoming : ¬ Welcomed more)
    (dealt : more.filterMap dealing? ++ after.owed =
      stage.owed ++ (more.filterMap handled?).flatMap Inbound.dealings)
    (told : ∀ topic payload phase, .raised (.dataReceived topic payload) phase ∈ more →
      phase = if Welcomed deeds then .ready else .connecting) :
    Ungated (deeds ++ more) after := by
  by_cases welcomed : Welcomed deeds
  · obtain ⟨before, behind⟩ := prelude_append_of_welcomed welcomed more
    have stays : Welcomed (deeds ++ more) := welcomed_append.mpr (.inl welcomed)
    have soFar := ungated.dealt
    rw [owedEarly, if_pos welcomed] at soFar
    refine ⟨?_, ?_, ?_⟩
    · rw [before, owedEarly, if_pos stays, soFar]
    · rw [before]
      exact ungated.early
    · rw [behind]
      intro topic payload phase isTold
      rcases List.mem_append.mp isTold with earlier | now
      · exact ungated.late topic payload phase earlier
      · exact (told topic payload phase now).trans (if_pos welcomed)
  · have still : ¬ Welcomed (deeds ++ more) := by simp [welcomed_append, welcomed, unwelcoming]
    obtain ⟨before, behind⟩ := prelude_of_unwelcomed still
    obtain ⟨allBefore, -⟩ := prelude_of_unwelcomed welcomed
    have soFar := ungated.dealt
    have early := ungated.early
    rw [owedEarly, if_neg welcomed, allBefore] at soFar
    rw [allBefore] at early
    refine ⟨?_, ?_, ?_⟩
    · rw [before, owedEarly, if_neg still, List.filterMap_append, List.append_assoc, dealt,
        ← List.append_assoc, soFar, List.filterMap_append, List.flatMap_append]
    · rw [before]
      intro topic payload phase isTold
      rcases List.mem_append.mp isTold with earlier | now
      · exact early topic payload phase earlier
      · exact (told topic payload phase now).trans (if_neg welcomed)
    · rw [behind]
      nofun

/-- What tells nothing but the beginning or the end, and handles nothing, keeps a session
ungated. -/
theorem Ungated.append_quiet (ungated : Ungated deeds stage)
    (quiet : ∀ event ∈ more.filterMap event?, event = .connecting ∨ event = .disconnected)
    (unhandled : more.filterMap handled? = [])
    (dealt : more.filterMap dealing? ++ after.owed = stage.owed) :
    Ungated (deeds ++ more) after := by
  refine ungated.append ?_ ?_ fun topic payload phase told => ?_
  · intro told
    rcases quiet _ told with begins | ends
    · cases begins
    · cases ends
  · rw [dealt, unhandled, List.flatMap_nil, List.append_nil]
  · rcases quiet _ (List.mem_filterMap.mpr ⟨_, told, rfl⟩) with begins | ends
    · cases begins
    · cases ends

theorem Ungated.waiting (ungated : Ungated deeds stage) : Ungated deeds stage.waiting := by
  refine ⟨?_, ungated.early, ungated.late⟩
  rw [owedEarly, Stage.owed_waiting]
  exact ungated.dealt

/-- The acceptance is the last that comes before the acceptance is told. -/
theorem Ungated.append_acceptance (ungated : Ungated deeds stage) (unwelcomed : ¬ Welcomed deeds)
    (answer : ConnAck) (settled : stage.owed = []) :
    Ungated (deeds ++ [.handled (.connAck answer), .raised .connected .connected,
      .raised .ready .ready]) after := by
  let acceptance : List (Entry ν) :=
    [.handled (.connAck answer), .raised .connected .connected, .raised .ready .ready]
  obtain ⟨before, behind⟩ := prelude_append_of_unwelcomed unwelcomed acceptance
  obtain ⟨allBefore, -⟩ := prelude_of_unwelcomed unwelcomed
  have welcomed : Welcomed (deeds ++ acceptance) :=
    welcomed_append.mpr (.inr (by simp [acceptance, Welcomed, event?]))
  have dealt := ungated.dealt
  have early := ungated.early
  rw [owedEarly, if_neg unwelcomed, allBefore, settled, List.append_nil] at dealt
  rw [allBefore] at early
  refine ⟨?_, ?_, ?_⟩
  · rw [before, owedEarly, if_pos welcomed, List.append_nil, List.filterMap_append, dealt,
      List.filterMap_append, List.flatMap_append]
    rfl
  · rw [before]
    intro topic payload phase isTold
    rcases List.mem_append.mp isTold with earlier | now
    · exact early topic payload phase earlier
    · simp [acceptance, prelude, misses, event?] at now
  · rw [behind]
    simp [acceptance, sequel, misses, event?]

/-- The message of a packet is told in the phase of the moment. -/
theorem phase_of_mem_tidings {phase told : Phase} {packet : Inbound} {topic : String}
    {payload : Bytes} (isTold : .raised (.dataReceived topic payload) told ∈
      (tidings phase packet : List (Entry ν))) : told = phase := by
  cases packet with
  | connAck answer =>
    simp only [tidings] at isTold
    split at isTold <;> simp at isTold
  | publish message =>
    simp only [tidings, Inbound.delivery?] at isTold
    split at isTold <;> simp_all
  | acknowledge | subAck | pingResp => cases isTold

/-- Handling a packet keeps a session ungated. -/
theorem Ungated.append_handled {packet : Inbound} {phase : Phase}
    (ungated : Ungated deeds stage) (settled : stage.owed = [])
    (isPhase : phase = if Welcomed deeds then .ready else .connecting)
    (owed : after.owed = packet.answer?.toList.map .answered) :
    Ungated (deeds ++ .handled packet :: tidings phase packet) after := by
  by_cases accepts : ∃ answer, packet = .connAck answer ∧ phase = .connecting
  · obtain ⟨answer, rfl, rfl⟩ := accepts
    have unwelcomed : ¬ Welcomed deeds := fun welcomed => by simp [welcomed] at isPhase
    exact ungated.append_acceptance unwelcomed answer settled
  · refine ungated.append ?_ ?_ ?_
    · intro welcomed
      refine accepts ?_
      cases packet with
      | connAck answer =>
        simp only [Welcomed, tidings] at welcomed
        split at welcomed
        · exact ⟨answer, rfl, ‹_›⟩
        · simp [event?] at welcomed
      | publish message =>
        simp only [Welcomed, tidings, Inbound.delivery?] at welcomed
        split at welcomed <;> simp [event?] at welcomed
      | acknowledge | subAck | pingResp =>
        simp [Welcomed, tidings, Inbound.delivery?, event?] at welcomed
    · have unhandled : (tidings phase packet : List (Entry ν)).filterMap handled? = [] :=
        filterMap_tidings (fun _ _ _ _ => rfl) phase packet
      simp [settled, owed, dealing?, handled?, unhandled, filterMap_dealing?_tidings,
        Inbound.dealings]
    · intro topic payload told isTold
      rcases List.mem_cons.mp isTold with isPacket | later
      · cases isPacket
      · exact (phase_of_mem_tidings later).trans isPhase

/-- Nothing is told or acknowledged before the acceptance exactly when no packet that came
before it calls for that. -/
theorem Ungated.gated_iff (ungated : Ungated entries stage) :
    (∀ dealing ∈ (prelude entries).filterMap dealing? ++ owedEarly entries stage,
        ∃ packet, dealing = .handled packet) ↔
      ∀ packet ∈ (prelude entries).filterMap handled?,
        packet.delivery? = none ∧ packet.answer? = none := by
  rw [ungated.dealt]
  constructor
  · intro gated packet isHandled
    constructor
    · cases delivery : packet.delivery? with
      | none => rfl
      | some event =>
        obtain ⟨_, same⟩ := gated (.delivered event)
          (List.mem_flatMap.mpr ⟨packet, isHandled, by simp [Inbound.dealings, delivery]⟩)
        cases same
    · cases owed : packet.answer? with
      | none => rfl
      | some answer =>
        obtain ⟨_, same⟩ := gated (.answered answer)
          (List.mem_flatMap.mpr ⟨packet, isHandled, by simp [Inbound.dealings, owed]⟩)
        cases same
  · intro modest dealing isDealt
    obtain ⟨packet, isHandled, isDealing⟩ := List.mem_flatMap.mp isDealt
    obtain ⟨undelivered, unanswered⟩ := modest packet isHandled
    rw [Inbound.dealings, undelivered, unanswered] at isDealing
    exact ⟨packet, List.mem_singleton.mp isDealing⟩

end Entry

namespace Setup

open Entry

variable {σ ν : Type} {setup : Setup σ ν} {before world : World σ ν} {deeds more : List (Entry ν)}
  {stage : Stage}

/-- The phase of an attempt under way tells whether the session was accepted. -/
theorem Attempt.phase_eq (attempt : setup.Attempt before world) (busy : world.stage.isBusy = true)
    (does : before.Does deeds world) :
    world.handle.phase = if Welcomed deeds then .ready else .connecting := by
  obtain ⟨entries, grows, -, heard⟩ := (attempt.recounted setup).1 busy
  obtain ⟨recorded, growsDeeds, rfl, -⟩ := does
  obtain rfl := grows.unique growsDeeds
  have same : Welcomed (entries.filter isDeed) ↔ .connected ∈ kinds entries := by
    rw [Welcomed, filterMap_deeds (by rintro ⟨⟩ ⟨⟩ <;> rfl)]
    exact welcomed_iff_kinds
  generalize world.handle.phase = phase at heard ⊢
  cases heard with
  | awaiting _ unaccepted => exact (if_neg fun welcomed => unaccepted (same.mp welcomed)).symm
  | inSession _ accepted => exact (if_pos (same.mpr accepted.connected_mem)).symm

theorem ungated_of_firstAct {now : Micros} (acts : setup.FirstAct now deeds stage) :
    Ungated deeds stage := by
  have nothing : Ungated ([] : List (Entry ν)) .opening := ⟨rfl, nofun, nofun⟩
  cases acts with
  | cancelled isOver | unreachable isOver =>
    exact nothing.append_quiet (by simp [event?]) rfl (Stage.owed_of_rested isOver)
  | linked frame | pending => exact nothing.append_quiet (by simp [event?]) rfl rfl

/-- Every step of an attempt keeps it ungated. -/
theorem ungated_of_act (ungated : Ungated deeds world.stage)
    (isPhase : world.handle.phase = if Welcomed deeds then .ready else .connecting)
    (acts : setup.Act world more stage) : Ungated (deeds ++ more) stage := by
  cases acts with
  | linked isStage =>
    rw [isStage] at ungated
    exact ungated.append_quiet (by simp [event?]) rfl rfl
  | unreachable isStage isOver | broken isStage isOver | unreadable isStage reads isOver =>
    rw [isStage] at ungated
    exact ungated.append_quiet (by simp [event?]) rfl (Stage.owed_of_rested isOver)
  | sendFailed isStage isOver | sentForClose isStage isOver =>
    rw [isStage] at ungated
    refine ungated.append_quiet (by simp [event?]) rfl ?_
    rw [Stage.owed_of_rested isOver, List.append_nil]
    exact filterMap_dealing?_handed _ _ _ rfl
  | sentForTurn isStage | sentForDrain isStage =>
    rw [isStage] at ungated
    refine ungated.append_quiet (by simp [event?]) rfl ?_
    exact (List.append_nil _).trans (filterMap_dealing?_handed _ _ _ rfl)
  | drained isStage | idled isStage | pinging isStage | disconnecting isStage
  | received isStage =>
    rw [isStage] at ungated
    exact ungated.append_quiet (by simp [event?]) rfl rfl
  | requested isStage =>
    rw [isStage] at ungated
    refine ungated.append_quiet (by simp [event?]) rfl ?_
    rw [Stage.owed, dealing?_requestPacket]
    rfl
  | @refused client rested packet last isStage reads refuses isOver =>
    rw [isStage] at ungated
    refine ungated.append (by simp [Welcomed, event?]) ?_ (by simp)
    rw [Stage.owed_of_rested isOver]
    exact (Inbound.dealings_of_refuses refuses).symm.trans (List.append_nil _).symm
  | settled isStage reads welcome silent =>
    rw [isStage] at ungated
    refine ungated.append_handled rfl isPhase ?_
    rw [silent]
    rfl
  | answered isStage reads welcome owed =>
    rw [isStage] at ungated
    refine ungated.append_handled rfl isPhase ?_
    rw [owed, Stage.owed, Inbound.dealing?_answer owed]
    rfl

/-- Before the acceptance of a session as after it, messages are told and acknowledgements
given to the link just as the packets call for it, in the phase of the moment. So nothing
is told or acknowledged before the acceptance exactly when the broker sends nothing of the
kind before it. -/
theorem Attempt.data_ungated {handlerState : σ} {opens : List Outcome} {history : List Move}
    (attempt : setup.Attempt (setup.play (.initial handlerState opens) history) world) :
    let entries := world.since (setup.play (.initial handlerState opens) history)
    Ungated entries world.stage ∧
      ((∀ dealing ∈ (prelude entries).filterMap dealing? ++ owedEarly entries world.stage,
          ∃ packet, dealing = .handled packet) ↔
        ∀ packet ∈ (prelude entries).filterMap handled?,
          packet.delivery? = none ∧ packet.answer? = none) := by
  have ungated := attempt.does_induction (motive := Ungated) ungated_of_firstAct
    (fun earlier busy does ungated acts =>
      ungated_of_act ungated (earlier.phase_eq busy does) acts)
    .waiting (setup.sound_play handlerState opens history)
  exact ⟨ungated.of_deeds, ungated.of_deeds.gated_iff⟩

end Setup

/-- A broker that sends a message without having accepted the session. -/
def Move.hastyMessage : List Move :=
  .deliver (.data [0x32, 6, 0, 1, 0x61, 0, 7, 9]) :: .replicate 4 .step

namespace Setup.Attempt

theorem greeter_hastyMessage :
    greeter.Attempt .asked (greeter.play .asked (.step :: Move.hastyMessage)) := by
  rw [play_cons]
  exact Attempt.play greeter (.begun (.inl ⟨rfl, rfl⟩)) (by decide +kernel)

/-- The message is told, and the acknowledgement given to the link, although no answer to
the connection request has come. -/
theorem greeter_hastyMessage_told :
    greeter.Attempt .asked (greeter.play .asked (.step :: Move.hastyMessage)) ∧
      (greeter.play .asked (.step :: Move.hastyMessage)).handle.phase = .connecting ∧
      ((greeter.play .asked (.step :: Move.hastyMessage)).since .asked).filterMap
        Entry.connAck? = [] ∧
      ((greeter.play .asked (.step :: Move.hastyMessage)).since .asked).filterMap
        Entry.dealing? =
        [.handled (.publish ⟨"a", [9], .atLeastOnce, some 7, false, false⟩),
          .delivered (.dataReceived "a" [9]), .answered (.acknowledge .pubAck 7)] :=
  ⟨greeter_hastyMessage, by decide +kernel, by decide +kernel, by decide +kernel⟩

/-- All of this comes before the acceptance. -/
theorem greeter_hastyMessage_ungated :
    let entries := (greeter.play .asked (.step :: Move.hastyMessage)).since .asked
    Entry.Ungated entries (greeter.play .asked (.step :: Move.hastyMessage)).stage ∧
      ¬ (∀ packet ∈ (Entry.prelude entries).filterMap Entry.handled?,
        packet.delivery? = none ∧ packet.answer? = none) := by
  have attempt : greeter.Attempt (greeter.play (.initial 0 []) [.ask .once])
      (greeter.play .asked (.step :: Move.hastyMessage)) := greeter_hastyMessage
  exact ⟨(data_ungated attempt).1, by decide +kernel⟩

end Setup.Attempt

end Uplink
