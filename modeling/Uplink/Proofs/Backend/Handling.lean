import Uplink.Proofs.Backend.Acts
import Uplink.Proofs.Session.Delivery

/-!
# What a session does with what it receives

A session handles the frames of its stream in order and each once, until a frame cannot
be framed or read, the broker refuses the session, or a send fails. Before it takes the
next packet, it delivers the message of a packet and acknowledges it. `Abreast` is the
invariant: the received bytes are the frames that were handled and the unread rest, and
of what the handled packets call for only the acknowledgement in flight is missing.
-/

namespace Uplink

/-- What is done with a packet. -/
inductive Dealing where
  | handled (packet : Inbound)
  /-- The message of a packet is told. -/
  | delivered (event : Event)
  /-- An acknowledgement is given to the link. -/
  | answered (answer : Outbound)
deriving DecidableEq, Repr

/-- All that is done with a packet, in order: it is handled, then its message is
delivered, then it is acknowledged. -/
def Inbound.dealings (packet : Inbound) : List Dealing :=
  .handled packet ::
    (packet.delivery?.toList.map .delivered ++ packet.answer?.toList.map .answered)

/-- A refusal is handled, and that is all. -/
theorem Inbound.dealings_of_refuses {packet : Inbound} (refuses : packet.refuses = true) :
    packet.dealings = [.handled packet] := by
  cases packet with
  | connAck answer => rfl
  | publish | acknowledge | subAck | pingResp => cases refuses

/-- Sending an acknowledgement is part of what is done with a packet. -/
def Outbound.dealing? : Outbound → Option Dealing
  | acknowledge kind packetId => some (.answered (acknowledge kind packetId))
  | connect _ | publish _ | subscribe _ | pingReq | disconnect => none

/-- What is owed for a packet is an acknowledgement. -/
theorem Inbound.dealing?_answer {packet : Inbound} {answer : Outbound}
    (owed : packet.answer? = some answer) : answer.dealing? = some (.answered answer) := by
  obtain ⟨packetId, rfl | rfl⟩ := Inbound.exists_of_answer? owed <;> rfl

/-- The acknowledgement that is being given to the link. -/
def Stage.owed : Stage → List Dealing
  | sending _ packet _ _ => packet.dealing?.toList
  | resting | awaitingRequest | opening | draining _ | selecting _ _ _ => []

namespace Entry

variable {ν : Type}

/-- The packet that was handled. -/
def handled? : Entry ν → Option Inbound
  | handled packet => some packet
  | _ => none

/-- The bytes that were received. -/
def received? : Entry ν → Option Bytes
  | received bytes => some bytes
  | _ => none

/-- What was done with a packet. -/
def dealing? : Entry ν → Option Dealing
  | handled packet => some (.handled packet)
  | raised (.dataReceived topic payload) _ => some (.delivered (.dataReceived topic payload))
  | handed packet _ _ => packet.dealing?
  | _ => none

/-- The message of a packet is told, and nothing else that is done with it. -/
theorem filterMap_dealing?_tidings (phase : Phase) (packet : Inbound) :
    (tidings phase packet : List (Entry ν)).filterMap dealing? =
      packet.delivery?.toList.map .delivered := by
  cases packet with
  | connAck answer =>
    simp only [tidings]
    split <;> rfl
  | publish message =>
    simp only [tidings, Inbound.delivery?]
    split <;> rfl
  | acknowledge | subAck | pingResp => rfl

/-- When a packet is given to the link, only an acknowledgement counts. -/
theorem filterMap_dealing?_handed (packet : Outbound) (frame : Bytes) (taken : Bool)
    {later : List (Entry ν)} (undealt : later.filterMap dealing? = []) :
    (handed packet frame taken :: later).filterMap dealing? = packet.dealing?.toList := by
  cases answer : packet.dealing? <;> simp [dealing?, answer, undealt]

/-- The frames of all bytes that were received. -/
def inbound (entries : List (Entry ν)) : Frame.Parsed :=
  Frame.parse Limits.packetBuffer (entries.filterMap received?).flatten

/-- What a session did with what it received on its link, up to a stage. -/
structure Diligent (entries : List (Entry ν)) (stage : Stage) : Prop where
  /-- The packets handled are those of the complete frames, in order and each once, up to
  the first frame that cannot be read or refuses the session. -/
  in_order : entries.filterMap handled? <+: Inbound.readable (inbound entries).frames
  /-- When the session waits in a turn, it has handled every complete frame, and the bytes
  behind them can still become one. -/
  up_to_date : ∀ client deadline armed, stage = .selecting client deadline armed →
    (inbound entries).frames.map Inbound.decode = (entries.filterMap handled?).map .ok ∧
      (inbound entries).fault = none
  /-- At its end it has handled everything up to there, unless a send failed. -/
  to_the_end : stage.isBusy = false →
    entries.filterMap handled? = Inbound.readable (inbound entries).frames ∨
      ∃ packet frame, .handed packet frame false ∈ entries
  /-- Once a send has failed, nothing more is handled. -/
  stops : ∀ earlier packet frame later, entries = earlier ++ .handed packet frame false :: later →
    later.filterMap handled? = []
  /-- Messages are delivered and acknowledgements are given to the link as the handled
  packets call for it: between the packet and the next one, each once, and no others. Only
  the last acknowledgement can still be on its way. -/
  dealt : entries.filterMap dealing? ++ stage.owed =
    (entries.filterMap handled?).flatMap Inbound.dealings
  /-- Every message that asks for an acknowledgement says for what. -/
  identified : ∀ message, .publish message ∈ entries.filterMap handled? →
    message.qos ≠ .atMostOnce → message.packetId ≠ none

end Entry

namespace Stage

/-- The received bytes that were not handed out yet. -/
def rest : Stage → Bytes
  | sending client _ _ _ | draining client | selecting client _ _ => client.unread
  | resting | awaitingRequest | opening => []

/-- Nothing is owed without a session. -/
theorem owed_of_rested {stage : Stage} (isOver : stage.isBusy = false) : stage.owed = [] := by
  cases stage with
  | sending => cases isOver
  | resting | awaitingRequest | opening | draining | selecting => rfl

/-- Whether packets that were received may wait to be handled. -/
def isDraining : Stage → Bool
  | draining _ | sending _ _ _ .drain => true
  | _ => false

@[simp] theorem rest_waiting (stage : Stage) : stage.waiting.rest = stage.rest := by
  cases stage <;> rfl

@[simp] theorem owed_waiting (stage : Stage) : stage.waiting.owed = stage.owed := by
  cases stage <;> rfl

@[simp] theorem isDraining_waiting (stage : Stage) :
    stage.waiting.isDraining = stage.isDraining := by
  cases stage <;> rfl

end Stage

/-- Behind a fault of the next frame there is nothing to read. -/
theorem Client.readable_of_next {client : Client} {fault : ProtocolError}
    (reads : client.next.1 = .error fault) :
    Inbound.readable (Frame.parse client.capacity client.unread).frames = [] := by
  rcases Client.fault_of_next reads with unframed | ⟨length, complete, undecodable⟩
  · rw [Frame.parse_of_fault unframed]
    rfl
  · rw [Frame.parse_of_complete complete]
    exact Inbound.readable_cons_of_error undecodable _

namespace Entry

variable {ν : Type} {deeds more : List (Entry ν)} {stage after : Stage}

/-- Diligence only depends on what the task did. -/
theorem Diligent.of_deeds {entries : List (Entry ν)}
    (diligent : Diligent (entries.filter isDeed) stage) : Diligent entries stage := by
  have received : (entries.filter isDeed).filterMap received? = entries.filterMap received? :=
    filterMap_deeds (by rintro ⟨⟩ ⟨⟩ <;> rfl) entries
  have handled : (entries.filter isDeed).filterMap handled? = entries.filterMap handled? :=
    filterMap_deeds (by rintro ⟨⟩ ⟨⟩ <;> rfl) entries
  have dealt : (entries.filter isDeed).filterMap dealing? = entries.filterMap dealing? :=
    filterMap_deeds (by rintro ⟨⟩ ⟨⟩ <;> rfl) entries
  have sameInbound : inbound (entries.filter isDeed) = inbound entries := by
    rw [inbound, received, inbound]
  refine ⟨?_, ?_, ?_, ?_, ?_, ?_⟩
  · simpa only [handled, sameInbound] using diligent.in_order
  · simpa only [handled, sameInbound] using diligent.up_to_date
  · intro isOver
    rcases diligent.to_the_end isOver with all | ⟨packet, frame, failed⟩
    · exact .inl (by rwa [handled, sameInbound] at all)
    · exact .inr ⟨packet, frame, (List.mem_filter.mp failed).1⟩
  · rintro earlier packet frame later rfl
    have stopped := diligent.stops (earlier.filter isDeed) packet frame (later.filter isDeed)
      (List.filter_append _ _)
    rwa [filterMap_deeds (by rintro ⟨⟩ ⟨⟩ <;> rfl)] at stopped
  · simpa only [handled, dealt] using diligent.dealt
  · simpa only [handled] using diligent.identified

/-- A session is abreast of its stream: it has handled the frames in front of the unread
bytes, and no send has failed. -/
structure Abreast (deeds : List (Entry ν)) (stage : Stage) : Prop where
  cut : ∃ frames, Frame.Cut Limits.packetBuffer (deeds.filterMap received?).flatten frames
      stage.rest ∧ frames.map Inbound.decode = (deeds.filterMap handled?).map .ok
  welcome : ∀ packet ∈ deeds.filterMap handled?, packet.refuses = false
  sound : ∀ packet frame, .handed packet frame false ∉ deeds
  drained : stage.isDraining = false →
    Frame.length? stage.rest Limits.packetBuffer = .ok none
  dealt : deeds.filterMap dealing? ++ stage.owed =
    (deeds.filterMap handled?).flatMap Inbound.dealings

theorem Abreast.readable_inbound (abreast : Abreast deeds stage)
    (unreceived : more.filterMap received? = []) :
    Inbound.readable (inbound (deeds ++ more)).frames = deeds.filterMap handled? ++
      Inbound.readable (Frame.parse Limits.packetBuffer stage.rest).frames := by
  obtain ⟨frames, cut, read⟩ := abreast.cut
  rw [inbound, List.filterMap_append, unreceived, List.append_nil, cut.parse_eq]
  exact Inbound.readable_append read abreast.welcome _

/-- A session that was abreast is diligent, whatever it does last: more of the stream is
handled, and no bytes are received. -/
theorem Abreast.diligent_append (abreast : Abreast deeds stage)
    (unreceived : more.filterMap received? = [])
    (next : more.filterMap handled? <+:
      Inbound.readable (Frame.parse Limits.packetBuffer stage.rest).frames)
    (waits : ∀ client deadline armed, after = .selecting client deadline armed →
      more = [] ∧ stage.isDraining = false)
    (ends : after.isBusy = false → more.filterMap handled? =
        Inbound.readable (Frame.parse Limits.packetBuffer stage.rest).frames ∨
      ∃ packet frame, .handed packet frame false ∈ more)
    (stops : ∀ earlier packet frame later,
      more = earlier ++ .handed packet frame false :: later → later.filterMap handled? = [])
    (dealt : more.filterMap dealing? ++ after.owed =
      stage.owed ++ (more.filterMap handled?).flatMap Inbound.dealings) :
    Diligent (deeds ++ more) after := by
  have readable := abreast.readable_inbound unreceived
  have in_order : (deeds ++ more).filterMap handled? <+:
      Inbound.readable (inbound (deeds ++ more)).frames := by
    rw [readable, List.filterMap_append]
    exact (List.prefix_append_right_inj _).mpr next
  refine ⟨in_order, ?_, ?_, ?_, ?_, ?_⟩
  · intro client deadline armed isSelecting
    obtain ⟨rfl, notDraining⟩ := waits client deadline armed isSelecting
    obtain ⟨frames, cut, read⟩ := abreast.cut
    have parsed := Frame.parse_of_incomplete (abreast.drained notDraining)
    rw [List.append_nil, inbound, cut.parse_eq, parsed]
    exact ⟨by simpa using read, rfl⟩
  · intro isOver
    rcases ends isOver with all | ⟨packet, frame, failed⟩
    · left
      rw [readable, List.filterMap_append, all]
    · exact .inr ⟨packet, frame, List.mem_append_right _ failed⟩
  · intro earlier packet frame later split
    -- No send had failed before, so the failure is among what was done last.
    obtain ⟨between, rfl, isMore⟩ | ⟨rest, rfl, -⟩ := split_append split
    · exact stops between packet frame later isMore
    · exact absurd (by simp) (abreast.sound packet frame)
  · rw [List.filterMap_append, List.append_assoc, dealt, ← List.append_assoc, abreast.dealt,
      List.filterMap_append, List.flatMap_append]
  · intro message isHandled asks
    obtain ⟨frame, -, reads⟩ := Inbound.decode_of_mem_readable (in_order.subset isHandled)
    exact Inbound.identified_of_decode reads asks

/-- Nothing is left to read once everything was handled. -/
theorem Abreast.readable_eq_nil (abreast : Abreast deeds stage)
    (drained : stage.isDraining = false) :
    Inbound.readable (Frame.parse Limits.packetBuffer stage.rest).frames = [] := by
  rw [Frame.parse_of_incomplete (abreast.drained drained)]
  rfl

theorem Abreast.waiting (abreast : Abreast deeds stage) : Abreast deeds stage.waiting := by
  refine ⟨?_, abreast.welcome, abreast.sound, ?_, ?_⟩
  · rw [Stage.rest_waiting]
    exact abreast.cut
  · rw [Stage.rest_waiting, Stage.isDraining_waiting]
    exact abreast.drained
  · rw [Stage.owed_waiting]
    exact abreast.dealt

/-- What neither receives nor handles anything keeps a session abreast. It may send what is
owed, or end with the owing of it. -/
theorem Abreast.append_quiet (abreast : Abreast deeds stage) (rest : after.rest = stage.rest)
    (unreceived : more.filterMap received? = []) (unhandled : more.filterMap handled? = [])
    (sound : ∀ packet frame, .handed packet frame false ∉ more)
    (drained : after.isDraining = false →
      Frame.length? stage.rest Limits.packetBuffer = .ok none)
    (dealt : more.filterMap dealing? ++ after.owed = stage.owed) :
    Abreast (deeds ++ more) after where
  cut := by
    simpa only [List.filterMap_append, unreceived, unhandled, List.append_nil, rest]
      using abreast.cut
  welcome := by
    rw [List.filterMap_append, unhandled, List.append_nil]
    exact abreast.welcome
  sound packet frame failed := by
    rcases List.mem_append.mp failed with before | behind
    · exact abreast.sound packet frame before
    · exact sound packet frame behind
  drained := by rwa [rest]
  dealt := by
    rw [List.filterMap_append, List.append_assoc, dealt, abreast.dealt, List.filterMap_append,
      unhandled, List.append_nil]

/-- A session that neither receives nor handles anything at its end is diligent when there
was nothing left that can be read, or a send failed. -/
theorem Abreast.diligent_quiet (abreast : Abreast deeds stage) (isOver : after.isBusy = false)
    (unreceived : more.filterMap received? = []) (unhandled : more.filterMap handled? = [])
    (ends : Inbound.readable (Frame.parse Limits.packetBuffer stage.rest).frames = [] ∨
      ∃ packet frame, .handed packet frame false ∈ more)
    (dealt : more.filterMap dealing? = stage.owed) : Diligent (deeds ++ more) after := by
  refine abreast.diligent_append unreceived ?_ ?_ ?_ ?_ ?_
  · rw [unhandled]
    exact List.nil_prefix
  · rintro client deadline armed rfl
    cases isOver
  · intro _
    rw [unhandled]
    exact ends.imp_left Eq.symm
  · rintro earlier packet frame later rfl
    rw [List.filterMap_append, List.append_eq_nil_iff] at unhandled
    exact unhandled.2
  · rw [unhandled, dealt, Stage.owed_of_rested isOver]
    simp

/-- A session that is abreast is diligent. -/
theorem Abreast.diligent (abreast : Abreast deeds stage) (busy : stage.isBusy = true) :
    Diligent deeds stage := by
  have diligent : Diligent (deeds ++ []) stage := by
    refine abreast.diligent_append rfl List.nil_prefix ?_ ?_ ?_ ?_
    · rintro client deadline armed rfl
      exact ⟨rfl, rfl⟩
    · exact fun isOver => absurd (busy.symm.trans isOver) nofun
    · simp
    · simp
  rwa [List.append_nil] at diligent

/-- What is received may complete frames, which are handled next. -/
theorem Abreast.append_received {client : Client} {deadline : Micros} {armed : Bool}
    (abreast : Abreast deeds (.selecting client deadline armed)) (bytes : Bytes) :
    Abreast (deeds ++ [.received bytes]) (.draining (client.release.absorb bytes)) := by
  obtain ⟨frames, cut, read⟩ := abreast.cut
  have arrived : (deeds ++ [received bytes]).filterMap received? =
      deeds.filterMap received? ++ [bytes] := List.filterMap_append
  have handled : (deeds ++ [received bytes]).filterMap handled? = deeds.filterMap handled? := by
    rw [List.filterMap_append]
    exact List.append_nil _
  have dealt : (deeds ++ [received bytes]).filterMap dealing? = deeds.filterMap dealing? := by
    rw [List.filterMap_append]
    exact List.append_nil _
  refine ⟨⟨frames, ?_, ?_⟩, ?_, ?_, nofun, ?_⟩
  · rw [arrived, List.flatten_append, List.flatten_singleton]
    exact cut.append bytes
  · rwa [handled]
  · rw [handled]
    exact abreast.welcome
  · simpa using abreast.sound
  · rw [handled, dealt]
    exact abreast.dealt

/-- A session that is refused has handled everything up to the refusal. -/
theorem Abreast.diligent_refused {client rested : Client} {packet : Inbound}
    (abreast : Abreast deeds (.draining client)) (capacity : client.capacity = Limits.packetBuffer)
    (reads : client.next = (.ok (some packet), rested)) (refuses : packet.refuses = true)
    (isOver : after.isBusy = false) :
    Diligent (deeds ++ [.handled packet, .raised .disconnected .disconnected, .aborted])
      after := by
  obtain ⟨length, complete, decoded, -⟩ := Client.complete_of_next reads
  rw [capacity] at complete
  have readable : Inbound.readable (Frame.parse Limits.packetBuffer client.unread).frames =
      [packet] := by
    rw [Frame.parse_of_complete complete]
    exact Inbound.readable_cons_of_refuses decoded refuses _
  refine abreast.diligent_append rfl ?_ ?_ ?_ ?_ ?_
  · rw [Stage.rest, readable]
    exact List.prefix_rfl
  · rintro client deadline armed rfl
    cases isOver
  · intro _
    rw [Stage.rest, readable]
    exact .inl rfl
  · intro earlier sent frame later split
    have failed : .handed sent frame false ∈ [.handled packet,
        .raised .disconnected .disconnected, (.aborted : Entry ν)] := by
      rw [split]
      exact List.mem_append_right _ List.mem_cons_self
    simp at failed
  · rw [Stage.owed_of_rested isOver]
    exact (Inbound.dealings_of_refuses refuses).symm.trans (List.append_nil _).symm

/-- The packet that a session takes is handled as it calls for. -/
theorem Abreast.append_handled (abreast : Abreast deeds stage) {client rested : Client}
    {packet : Inbound} (phase : Phase) (isStage : stage = .draining client)
    (capacity : client.capacity = Limits.packetBuffer)
    (reads : client.next = (.ok (some packet), rested)) (welcome : packet.refuses = false)
    (rest : after.rest = rested.unread) (draining : after.isDraining = true)
    (owed : after.owed = packet.answer?.toList.map .answered) :
    Abreast (deeds ++ .handled packet :: tidings phase packet) after := by
  obtain ⟨length, complete, decoded, unread⟩ := Client.complete_of_next reads
  obtain ⟨frames, cut, read⟩ := abreast.cut
  have unreceived : (.handled packet :: tidings phase packet : List (Entry ν)).filterMap
      received? = [] := by
    rw [List.filterMap_cons_none rfl, filterMap_tidings (fun _ _ _ _ => rfl)]
  have unhandled : (tidings phase packet : List (Entry ν)).filterMap handled? = [] :=
    filterMap_tidings (fun _ _ _ _ => rfl) phase packet
  have dealt := abreast.dealt
  subst isStage
  rw [capacity] at complete
  rw [Stage.owed, List.append_nil] at dealt
  refine ⟨⟨frames ++ [client.unread.take length], ?_, ?_⟩, ?_, ?_, ?_, ?_⟩
  · rw [List.filterMap_append, unreceived, List.append_nil, rest, unread]
    exact cut.take complete
  · simp [handled?, unhandled, read, decoded]
  · simpa [handled?, unhandled, or_imp, forall_and, welcome] using abreast.welcome
  · intro sent frame failed
    rcases List.mem_append.mp failed with before | behind
    · exact abreast.sound sent frame before
    · cases packet <;> simp [tidings] at behind
  · simp [draining]
  · simp [dealing?, handled?, unhandled, filterMap_dealing?_tidings, owed, dealt,
      Inbound.dealings]

end Entry

/-- Sending a request or a ping is no part of what is done with a packet. -/
theorem Setup.dealing?_requestPacket (packetId : UInt16) (request : Request) :
    (Setup.requestPacket packetId request).dealing? = none := by
  cases request <;> rfl

namespace Setup

open Entry

variable {σ ν : Type} {setup : Setup σ ν} {world : World σ ν} {deeds more : List (Entry ν)}
  {stage : Stage}

/-- A session under way is abreast, and one that is over was diligent. -/
def Attentive (deeds : List (Entry ν)) (stage : Stage) : Prop :=
  (stage.isBusy = true → Abreast deeds stage) ∧ (stage.isBusy = false → Diligent deeds stage)

theorem Attentive.of_abreast (abreast : Abreast deeds stage) (busy : stage.isBusy = true) :
    Attentive deeds stage :=
  ⟨fun _ => abreast, fun isOver => absurd (busy.symm.trans isOver) nofun⟩

theorem Attentive.of_diligent (diligent : Diligent deeds stage) (isOver : stage.isBusy = false) :
    Attentive deeds stage :=
  ⟨fun busy => absurd (busy.symm.trans isOver) nofun, fun _ => diligent⟩

theorem Attentive.waiting (attentive : Attentive deeds stage) :
    Attentive deeds stage.waiting := by
  refine ⟨fun busy => ?_, fun isOver => ?_⟩
  · rw [Stage.isBusy_waiting] at busy
    exact (attentive.1 busy).waiting
  · rw [Stage.isBusy_waiting] at isOver
    rw [Stage.waiting_of_rested isOver]
    exact attentive.2 isOver

/-- Before the link is open there is nothing to handle. -/
theorem abreast_opening : Abreast ([] : List (Entry ν)) .opening :=
  ⟨⟨[], .refl _ _, rfl⟩, nofun, nofun, fun _ => rfl, rfl⟩

theorem Attentive.of_firstAct {now : Micros} (acts : setup.FirstAct now deeds stage) :
    Attentive deeds stage := by
  cases acts with
  | cancelled isOver | unreachable isOver =>
    have unread := abreast_opening.readable_eq_nil (ν := ν) rfl
    exact .of_diligent (abreast_opening.diligent_quiet isOver rfl rfl (.inl unread) rfl) isOver
  | linked frame =>
    exact .of_abreast (abreast_opening.append_quiet rfl rfl rfl (by simp) (fun _ => rfl) rfl) rfl
  | pending =>
    exact .of_abreast (abreast_opening.append_quiet rfl rfl rfl (by simp) (fun _ => rfl) rfl) rfl

/-- Every step of an attempt handles what it takes as it calls for. -/
theorem Attentive.of_act (abreast : Abreast deeds world.stage) (fit : world.stage.Fit)
    (acts : setup.Act world more stage) : Attentive (deeds ++ more) stage := by
  cases acts with
  | linked isStage frame =>
    rw [isStage] at abreast
    exact .of_abreast (abreast.append_quiet rfl rfl rfl nofun (fun _ => rfl) rfl) rfl
  | unreachable isStage isOver | broken isStage isOver =>
    rw [isStage] at abreast
    have unread := abreast.readable_eq_nil rfl
    exact .of_diligent (abreast.diligent_quiet isOver rfl rfl (.inl unread) rfl) isOver
  | @sendFailed client packet frame next rested isStage isOver =>
    rw [isStage] at abreast
    have failed : ∃ sent bytes, .handed sent bytes false ∈ [.handed packet frame false,
        .raised .disconnected .disconnected, (.aborted : Entry ν)] :=
      ⟨packet, frame, List.mem_cons_self⟩
    exact .of_diligent (abreast.diligent_quiet isOver rfl rfl (.inr failed)
      (filterMap_dealing?_handed packet frame false rfl)) isOver
  | @sentForTurn client packet frame isStage =>
    rw [isStage] at abreast
    refine .of_abreast
      (abreast.append_quiet rfl rfl rfl (by simp) (fun _ => abreast.drained rfl) ?_) rfl
    exact (List.append_nil _).trans (filterMap_dealing?_handed packet frame true rfl)
  | @sentForDrain client packet frame isStage =>
    rw [isStage] at abreast
    refine .of_abreast (abreast.append_quiet rfl rfl rfl (by simp) nofun ?_) rfl
    exact (List.append_nil _).trans (filterMap_dealing?_handed packet frame true rfl)
  | @sentForClose client packet frame rested isStage isOver =>
    rw [isStage] at abreast
    have unread := abreast.readable_eq_nil rfl
    exact .of_diligent (abreast.diligent_quiet isOver rfl rfl (.inl unread)
      (filterMap_dealing?_handed packet frame true rfl)) isOver
  | unreadable isStage reads isOver =>
    rw [isStage] at abreast fit
    have unread := Client.readable_of_next reads
    rw [fit] at unread
    exact .of_diligent (abreast.diligent_quiet isOver rfl rfl (.inl unread) rfl) isOver
  | drained isStage reads =>
    rw [isStage] at abreast fit
    obtain ⟨incomplete, same⟩ := Client.incomplete_of_next reads
    rw [fit] at incomplete
    exact .of_abreast (abreast.append_quiet same rfl rfl nofun (fun _ => incomplete) rfl) rfl
  | @refused client rested packet last isStage reads refuses isOver =>
    rw [isStage] at abreast fit
    exact .of_diligent (abreast.diligent_refused fit reads refuses isOver) isOver
  | settled isStage reads welcome silent =>
    refine .of_abreast (abreast.append_handled _ isStage ?_ reads welcome rfl rfl ?_) rfl
    · rwa [isStage] at fit
    · rw [silent]
      rfl
  | @answered client rested packet answer isStage reads welcome owed frame =>
    refine .of_abreast (abreast.append_handled _ isStage ?_ reads welcome rfl rfl ?_) rfl
    · rwa [isStage] at fit
    · rw [owed, Stage.owed, Inbound.dealing?_answer owed]
      rfl
  | received isStage =>
    rw [isStage] at abreast
    exact .of_abreast (abreast.append_received _) rfl
  | idled isStage | pinging isStage | disconnecting isStage =>
    rw [isStage] at abreast
    exact .of_abreast (abreast.append_quiet rfl rfl rfl nofun (fun _ => abreast.drained rfl) rfl) rfl
  | @requested client deadline armed request isStage frame =>
    rw [isStage] at abreast
    refine .of_abreast (abreast.append_quiet rfl rfl rfl nofun (fun _ => abreast.drained rfl) ?_) rfl
    rw [Stage.owed, dealing?_requestPacket]
    rfl

/-- A session handles the packets of the complete frames that it received, in order and
each once, up to a frame that cannot be read, a refusal or a failed send. Messages are
delivered and acknowledgements given to the link as the packets call for it, before the
next packet. While the session waits in a turn, nothing that it could handle is left. -/
theorem Attempt.received_handled {handlerState : σ} {opens : List Outcome} {history : List Move}
    (attempt : setup.Attempt (setup.play (.initial handlerState opens) history) world) :
    Diligent (world.since (setup.play (.initial handlerState opens) history)) world.stage := by
  have sound := setup.sound_play handlerState opens history
  have attentive := attempt.deeds_induction (motive := Attentive) .of_firstAct
    (fun earlier busy attentive acts => .of_act (attentive.1 busy) (earlier.fit sound busy) acts)
    .waiting sound
  cases busy : world.stage.isBusy with
  | true => exact ((attentive.1 busy).diligent busy).of_deeds
  | false => exact (attentive.2 busy).of_deeds

end Setup

/-- The broker accepts a session, and a message is cut where a chunk ends. -/
def Move.splitMessage : List Move :=
  [.deliver (.data [0x20, 2, 0, 0, 0x32, 6, 0, 1]),
    .deliver (.data [0x61, 0, 7, 9, 0x50, 2, 0, 8])] ++ .replicate 12 .step

theorem Setup.Attempt.greeter_splitMessage :
    greeter.Attempt .asked (greeter.play .asked (.step :: Move.splitMessage)) := by
  rw [play_cons]
  exact Attempt.play greeter (.begun (.inl ⟨rfl, rfl⟩)) (by decide +kernel)

/-- An acceptance and the begin of a message arrive together, then the rest of it and
another packet. -/
theorem Setup.Attempt.greeter_handled :
    Entry.Diligent ((greeter.play .asked (.step :: Move.splitMessage)).since .asked)
        (greeter.play .asked (.step :: Move.splitMessage)).stage ∧
      ((greeter.play .asked (.step :: Move.splitMessage)).since .asked).filterMap Entry.dealing? =
        [.handled (.connAck ⟨false, 0⟩),
          .handled (.publish ⟨"a", [9], .atLeastOnce, some 7, false, false⟩),
          .delivered (.dataReceived "a" [9]), .answered (.acknowledge .pubAck 7),
          .handled (.acknowledge .pubRec 8), .answered (.acknowledge .pubRel 8)] := by
  have attempt : greeter.Attempt (greeter.play (.initial 0 []) [.ask .once])
      (greeter.play .asked (.step :: Move.splitMessage)) := greeter_splitMessage
  have diligent := Attempt.received_handled attempt
  exact ⟨diligent, by decide +kernel⟩

end Uplink
