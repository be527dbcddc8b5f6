import Uplink.Proofs.Backend.Parting

/-!
# The acknowledgement of a message

A message that asks for an acknowledgement gets one before the next packet is taken, but
only when its payload is delivered: one that is too large is dropped without a word to the
broker. What is done with packets is a list in which every packet is followed by its own
dealings, so what stands between two packets is found by cutting that list where packets
are handled.
-/

namespace Uplink

namespace Dealing

/-- It follows the handling of a packet. -/
def isSequel : Dealing → Bool
  | handled _ => false
  | delivered _ => true
  | answered _ => true

/-- The message for which an acknowledgement is given to the link. -/
def receipt? : Dealing → Option UInt16
  | answered (.acknowledge .pubAck packetId) => some packetId
  | _ => none

end Dealing

/-- What follows the handling of a packet. -/
def Inbound.sequel (packet : Inbound) : List Dealing :=
  packet.delivery?.toList.map .delivered ++ packet.answer?.toList.map .answered

theorem Inbound.dealings_eq_cons (packet : Inbound) :
    packet.dealings = .handled packet :: packet.sequel := rfl

theorem Inbound.isSequel_of_mem_sequel {packet : Inbound} {dealing : Dealing}
    (isDealt : dealing ∈ packet.sequel) : dealing.isSequel = true := by
  rw [sequel, List.mem_append, List.mem_map, List.mem_map] at isDealt
  rcases isDealt with ⟨event, -, rfl⟩ | ⟨answer, -, rfl⟩
  · rfl
  · rfl

/-- What comes before the next packet is all that follows the handling of the last one. -/
theorem Inbound.takeWhile_sequel (packet : Inbound) (packets : List Inbound) :
    (packet.sequel ++ packets.flatMap dealings).takeWhile Dealing.isSequel = packet.sequel := by
  rw [List.takeWhile_append_of_pos fun _ => isSequel_of_mem_sequel]
  cases packets with
  | nil => exact List.append_nil _
  | cons next packets =>
    rw [List.flatMap_cons, dealings_eq_cons, List.cons_append,
      List.takeWhile_cons_of_neg (by simp [Dealing.isSequel]), List.append_nil]

/-- Where a packet is handled, its own dealings follow, and then those of other packets. -/
theorem Inbound.exists_rest {packets : List Inbound} {earlier later : List Dealing}
    {packet : Inbound}
    (split : packets.flatMap dealings = earlier ++ .handled packet :: later) :
    ∃ rest : List Inbound, later = packet.sequel ++ rest.flatMap dealings := by
  induction packets generalizing earlier with
  | nil => simp at split
  | cons first packets ih =>
    rw [List.flatMap_cons, dealings_eq_cons, List.cons_append] at split
    cases earlier with
    | nil =>
      rw [List.nil_append, List.cons.injEq, Dealing.handled.injEq] at split
      obtain ⟨rfl, rfl⟩ := split
      exact ⟨packets, rfl⟩
    | cons dealing earlier =>
      rw [List.cons_append, List.cons.injEq] at split
      -- No packet is handled in what follows the first one, so it is a later one.
      obtain ⟨between, -, inPackets⟩ | ⟨between, inSequel, -⟩ := Entry.split_append split.2
      · exact ih inPackets
      · have among : .handled packet ∈ first.sequel := by simp [inSequel]
        cases isSequel_of_mem_sequel among

namespace Entry

variable {ν : Type} {entries earlier between later : List (Entry ν)} {stage : Stage}
  {packet : Inbound}

/-- The message for which an acknowledgement is given to the link. -/
def receipt? : Entry ν → Option UInt16
  | handed (.acknowledge .pubAck packetId) _ _ => some packetId
  | _ => none

theorem bind_receipt? (entry : Entry ν) :
    entry.dealing?.bind Dealing.receipt? = entry.receipt? := by
  cases entry with
  | handed packet frame taken =>
    cases packet with
    | acknowledge kind packetId => cases kind <;> rfl
    | connect | publish | subscribe | pingReq | disconnect => rfl
  | raised event phase => cases event <;> rfl
  | called | opened | received | handled | aborted | returned | noted => rfl

theorem isSequel_of_dealing? {entry : Entry ν} {dealing : Dealing}
    (deals : entry.dealing? = some dealing) : dealing.isSequel = entry.handled?.isNone := by
  cases entry with
  | handled packet =>
    cases deals
    rfl
  | handed packet frame taken =>
    cases packet <;> cases deals
    rfl
  | raised event phase =>
    cases event <;> cases deals
    rfl
  | called | opened | received | aborted | returned | noted => cases deals

theorem isSequel_of_unhandled (unhandled : entries.filterMap handled? = []) :
    ∀ dealing ∈ entries.filterMap dealing?, dealing.isSequel = true := by
  intro dealing isDealt
  obtain ⟨entry, among, deals⟩ := List.mem_filterMap.mp isDealt
  rw [isSequel_of_dealing? deals, List.filterMap_eq_nil_iff.mp unhandled entry among]
  rfl

end Entry

theorem Stage.isSequel_of_mem_owed {stage : Stage} {dealing : Dealing}
    (isOwed : dealing ∈ stage.owed) : dealing.isSequel = true := by
  cases stage with
  | sending client packet frame next =>
    cases packet <;> simp_all [owed, Outbound.dealing?, Dealing.isSequel]
  | resting | awaitingRequest | opening | draining | selecting => cases isOwed

/-- The message for which an acknowledgement is in hand. -/
def Stage.receipts (stage : Stage) : List UInt16 := stage.owed.filterMap Dealing.receipt?

/-- The acknowledgements that a message gets: one, unless its payload is too large to be
delivered. -/
def Publish.dueReceipts (message : Publish) (packetId : UInt16) : List UInt16 :=
  if message.payload.length ≤ Limits.payload then [packetId] else []

namespace Entry

variable {ν : Type} {entries earlier between later : List (Entry ν)} {stage : Stage}
  {packet next : Inbound}

theorem filterMap_dealing?_handled (packet : Inbound) (later : List (Entry ν)) :
    (.handled packet :: later).filterMap dealing? = .handled packet :: later.filterMap dealing? :=
  rfl

theorem exists_split_of_handled (isHandled : packet ∈ entries.filterMap handled?) :
    ∃ earlier later, entries = earlier ++ .handled packet :: later := by
  obtain ⟨entry, among, isPacket⟩ := List.mem_filterMap.mp isHandled
  cases entry with
  | handled other =>
    cases isPacket
    exact List.append_of_mem among
  | called | raised | opened | received | handed | aborted | returned | noted => cases isPacket

theorem Diligent.takeWhile_isSequel (diligent : Diligent entries stage)
    (split : entries = earlier ++ .handled packet :: later) :
    (later.filterMap dealing? ++ stage.owed).takeWhile Dealing.isSequel = packet.sequel := by
  have dealt := diligent.dealt
  rw [split, List.filterMap_append, filterMap_dealing?_handled, List.append_assoc,
    List.cons_append] at dealt
  obtain ⟨rest, follows⟩ := Inbound.exists_rest dealt.symm
  rw [follows, Inbound.takeWhile_sequel]

/-- All that a packet calls for is done before the next packet is taken. -/
theorem Diligent.filterMap_dealing?_between (diligent : Diligent entries stage)
    (split : entries = earlier ++ .handled packet :: (between ++ .handled next :: later))
    (unhandled : between.filterMap handled? = []) :
    between.filterMap dealing? = packet.sequel := by
  have upToNext := diligent.takeWhile_isSequel split
  rwa [List.filterMap_append, filterMap_dealing?_handled, List.append_assoc,
    List.takeWhile_append_of_pos (isSequel_of_unhandled unhandled), List.cons_append,
    List.takeWhile_cons_of_neg (by simp [Dealing.isSequel]), List.append_nil] at upToNext

/-- All that the last packet calls for is done, or in hand. -/
theorem Diligent.filterMap_dealing?_last (diligent : Diligent entries stage)
    (split : entries = earlier ++ .handled packet :: later)
    (unhandled : later.filterMap handled? = []) :
    later.filterMap dealing? ++ stage.owed = packet.sequel := by
  have upToNow := diligent.takeWhile_isSequel split
  rwa [List.takeWhile_eq_self_iff.mpr] at upToNow
  intro dealing isDealt
  rcases List.mem_append.mp isDealt with done | owed
  · exact isSequel_of_unhandled unhandled dealing done
  · exact Stage.isSequel_of_mem_owed owed

/-- The acknowledgements that follow the handling of a message. -/
structure Receipted (message : Publish) (packetId : UInt16) (later : List (Entry ν))
    (stage : Stage) : Prop where
  /-- Before the next packet is taken, all of them are given to the link. -/
  before_next : ∀ between next rest, later = between ++ .handled next :: rest →
    between.filterMap handled? = [] →
      between.filterMap receipt? = message.dueReceipts packetId
  /-- Without a next packet, one of them can be in hand. -/
  at_last : later.filterMap handled? = [] →
    later.filterMap receipt? ++ stage.receipts = message.dueReceipts packetId
  /-- What is given to the link is the packet in its written form. -/
  framed : ∀ frame taken, .handed (.acknowledge .pubAck packetId) frame taken ∈ later →
    (Outbound.acknowledge .pubAck packetId).encode Limits.packetBuffer = .ok frame

theorem receipts_of_message {message : Publish} {packetId : UInt16}
    (asks : message.qos = .atLeastOnce) (identified : message.packetId = some packetId) :
    (Inbound.publish message).sequel.filterMap Dealing.receipt? =
      message.dueReceipts packetId := by
  rw [Inbound.sequel, Inbound.delivery?, Inbound.answer?, Publish.dueReceipts, identified]
  by_cases delivers : message.payload.length ≤ Limits.payload
  · rw [if_pos delivers, if_pos ⟨delivers, asks⟩, if_pos delivers]
    rfl
  · simp [delivers]

theorem filterMap_receipt? (entries : List (Entry ν)) :
    (entries.filterMap dealing?).filterMap Dealing.receipt? = entries.filterMap receipt? := by
  rw [List.filterMap_filterMap]
  exact congrArg (fun view => entries.filterMap view) (funext bind_receipt?)

end Entry

namespace Setup

open Entry

variable {σ ν : Type} {setup : Setup σ ν} {world : World σ ν}

theorem Attentive.diligent {deeds : List (Entry ν)} {stage : Stage}
    (attentive : Attentive deeds stage) : Diligent deeds stage := by
  cases busy : stage.isBusy with
  | true => exact (attentive.1 busy).diligent busy
  | false => exact attentive.2 busy

/-- A message that asks for an acknowledgement gets exactly one, with its packet identifier
and before the next packet is taken, if its payload can be delivered. If the payload is
larger, it gets none. -/
theorem Attempt.message_receipted {handlerState : σ} {opens : List Outcome}
    {history : List Move} {earlier later : List (Entry ν)} {message : Publish}
    (attempt : setup.Attempt (setup.play (.initial handlerState opens) history) world)
    (split : world.since (setup.play (.initial handlerState opens) history) =
      earlier ++ .handled (.publish message) :: later)
    (asks : message.qos = .atLeastOnce) :
    ∃ packetId, message.packetId = some packetId ∧
      Receipted message packetId later world.stage := by
  have sound := setup.sound_play handlerState opens history
  have diligent := (attempt.attentive sound).diligent.of_deeds
  have isHandled : .publish message ∈ (world.since
      (setup.play (.initial handlerState opens) history)).filterMap handled? := by
    simp [split, handled?]
  obtain ⟨packetId, identified⟩ := Option.ne_none_iff_exists'.mp
    (diligent.identified message isHandled (by simp [asks]))
  refine ⟨packetId, identified, ?_, ?_, ?_⟩
  · rintro between next rest rfl unhandled
    rw [← filterMap_receipt?, diligent.filterMap_dealing?_between split unhandled,
      receipts_of_message asks identified]
  · intro unhandled
    rw [← filterMap_receipt?, Stage.receipts, ← List.filterMap_append,
      diligent.filterMap_dealing?_last split unhandled, receipts_of_message asks identified]
  · intro frame taken given
    have among : .handed (.acknowledge .pubAck packetId) frame taken ∈
        world.since (setup.play (.initial handlerState opens) history) := by
      simp [split, given]
    exact attempt.served.framed _ among

end Setup

/-- A message that asks for an acknowledgement, for examples. -/
def Publish.asking (packetId : UInt16) (payload : Bytes) : Publish :=
  ⟨"a", payload, .atLeastOnce, some packetId, false, false⟩

/-- The broker accepts the session and sends a message that is one byte too large to be
delivered, and a small one. Both ask for an acknowledgement. -/
def Move.largeMessage : List Move :=
  [.deliver (.data [0x20, 2, 0, 0]),
    .deliver (.data ([0x32, 0x86, 0x08, 0, 1, 0x61, 0, 7] ++ List.replicate 1025 0)),
    .deliver (.data [0x32, 6, 0, 1, 0x61, 0, 8, 9])] ++ .replicate 12 .step

namespace Setup.Attempt

theorem greeter_largeMessage :
    greeter.Attempt .asked (greeter.play .asked (.step :: Move.largeMessage)) := by
  rw [play_cons]
  exact Attempt.play greeter (.begun (.inl ⟨rfl, rfl⟩)) (by decide +kernel)

/-- After the acceptance the large message is handled, and then the small one, of which
alone an acknowledgement is given to the link. -/
theorem greeter_largeMessage_unacknowledged :
    greeter.Attempt .asked (greeter.play .asked (.step :: Move.largeMessage)) ∧
      (greeter.play .asked (.step :: Move.largeMessage)).handle.phase = .ready ∧
      ((greeter.play .asked (.step :: Move.largeMessage)).since .asked).filterMap
        Entry.dealing? =
        [.handled (.connAck ⟨false, 0⟩), .handled (.publish (.asking 7 (.replicate 1025 0))),
          .handled (.publish (.asking 8 [9])), .delivered (.dataReceived "a" [9]),
          .answered (.acknowledge .pubAck 8)] :=
  ⟨greeter_largeMessage, by decide +kernel, by decide +kernel⟩

/-- The large message gets no acknowledgement, and the small one gets one. -/
theorem greeter_largeMessage_receipted :
    let world := greeter.play .asked (.step :: Move.largeMessage)
    (∃ earlier later, world.since .asked =
        earlier ++ .handled (.publish (.asking 7 (.replicate 1025 0))) :: later ∧
      Entry.Receipted (.asking 7 (.replicate 1025 0)) 7 later world.stage ∧
      (Publish.asking 7 (.replicate 1025 0)).dueReceipts 7 = []) ∧
    ∃ earlier later, world.since .asked =
        earlier ++ .handled (.publish (.asking 8 [9])) :: later ∧
      Entry.Receipted (.asking 8 [9]) 8 later world.stage ∧
      (Publish.asking 8 [9]).dueReceipts 8 = [8] := by
  have attempt : greeter.Attempt (greeter.play (.initial 0 []) [.ask .once])
      (greeter.play .asked (.step :: Move.largeMessage)) := greeter_largeMessage
  refine ⟨?_, ?_⟩
  · have isHandled : .publish (.asking 7 (.replicate 1025 0)) ∈ ((greeter.play .asked
        (.step :: Move.largeMessage)).since .asked).filterMap Entry.handled? := by decide +kernel
    obtain ⟨earlier, later, split⟩ := Entry.exists_split_of_handled isHandled
    obtain ⟨packetId, named, receipted⟩ := message_receipted attempt split rfl
    cases named
    exact ⟨earlier, later, split, receipted, by decide +kernel⟩
  · have isHandled : .publish (.asking 8 [9]) ∈ ((greeter.play .asked
        (.step :: Move.largeMessage)).since .asked).filterMap Entry.handled? := by decide +kernel
    obtain ⟨earlier, later, split⟩ := Entry.exists_split_of_handled isHandled
    obtain ⟨packetId, named, receipted⟩ := message_receipted attempt split rfl
    cases named
    exact ⟨earlier, later, split, receipted, by decide +kernel⟩

end Setup.Attempt

end Uplink
