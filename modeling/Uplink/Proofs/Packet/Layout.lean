import Uplink.Proofs.Packet.Fitting

/-!
# The written form of packets

`Outbound.firstByte` and `Outbound.content` say what a packet looks like on the wire, as the
protocol lays it out: type and flags in one byte, then, behind the length, the fields one
after the other. Encoding a packet succeeds exactly when the packet can be laid out
(`Outbound.Encodable`) and the buffer has room for it, and then the buffer begins with this
form and the shortest length.

`Requires` is the other half of `Writes`: what a body that succeeds has needed.
-/

namespace Uplink

/-! ## The form on the wire -/

/-- The two-bit number of a guarantee. -/
def QoS.level : QoS → Nat
  | atMostOnce => 0
  | atLeastOnce => 1
  | exactlyOnce => 2

theorem QoS.code_eq (qos : QoS) : qos.code = qos.level.toUInt8 := by
  cases qos <;> rfl

/-- The identifier of a message: a number in front of the payload where the guarantee asks
for an acknowledgement, and no bytes at all where it does not. -/
def Wire.identifier (qos : QoS) (packetId : Option UInt16) : Bytes :=
  if qos = .atMostOnce then [] else packetId.elim [] fun packetId => number packetId.toNat

namespace Outbound

/-- The control type of a packet. -/
def controlType : Outbound → Nat
  | connect _ => 1
  | publish _ => 3
  | acknowledge .pubAck _ => 4
  | acknowledge .pubRec _ => 5
  | acknowledge .pubRel _ => 6
  | acknowledge .pubComp _ => 7
  | subscribe _ => 8
  | pingReq => 12
  | disconnect => 14

/-- The four flags beside the control type. A message has its repetition, its guarantee and
its retention there; releases and subscriptions carry fixed flags. -/
def flags : Outbound → Nat
  | publish message => 8 * message.dup.toNat + 2 * message.qos.level + message.retain.toNat
  | acknowledge .pubRel _ | subscribe _ => 2
  | connect _ | acknowledge _ _ | pingReq | disconnect => 0

/-- The type byte of a packet. -/
def firstByte (packet : Outbound) : UInt8 := (16 * packet.controlType + packet.flags).toUInt8

/-- The variable header and the payload of a packet. -/
def content : Outbound → Bytes
  | connect request => Wire.text "MQTT" ++ [4, if request.cleanSession then 2 else 0] ++
      Wire.number request.keepAlive.toNat ++ Wire.text request.clientId
  | publish message => Wire.text message.topic ++
      Wire.identifier message.qos message.packetId ++ message.payload
  | acknowledge _ packetId => Wire.number packetId.toNat
  | subscribe request => Wire.number request.packetId.toNat ++
      request.topics.flatMap fun (topic, qos) => Wire.text topic ++ [qos.level.toUInt8]
  | pingReq | disconnect => []

/-- The texts in a packet. -/
def texts : Outbound → List String
  | connect request => [request.clientId]
  | publish message => [message.topic]
  | subscribe request => request.topics.map (·.1)
  | acknowledge _ _ | pingReq | disconnect => []

/-- The bytes in front of a body that an encoding needs. -/
def reserve : Outbound → Nat
  | pingReq | disconnect => 2
  | connect _ | publish _ | acknowledge _ _ | subscribe _ => 5

/-- A packet can be laid out in a buffer: its texts fit their length fields, a message that
asks for an acknowledgement has an identifier, the length field can carry the length, and
the buffer has the room. -/
structure Encodable (packet : Outbound) (room : Nat) : Prop where
  texts : ∀ text ∈ packet.texts, text.utf8ByteSize ≤ 65535
  identified : ∀ message, packet = .publish message → message.qos ≠ .atMostOnce →
    message.packetId.isSome
  short : packet.content.length ≤ 268435455
  fits : packet.reserve + packet.content.length ≤ room

end Outbound

theorem Writer.textField_eq (text : String) (short : text.utf8ByteSize ≤ 65535) :
    textField text = Wire.text text := by
  rw [textField, Wire.text, bigEndian_eq]
  congr 2
  exact UInt16.toNat_ofNat_of_lt (Nat.lt_succ_of_le short)

/-! ## What a body needs -/

/-- A body that succeeds has found its packet in order, and has moved by this many bytes
without leaving the buffer. -/
def Requires (body : Write Unit) (inOrder : Prop) (count : Nat) : Prop :=
  ∀ writer left : Writer, writer.position ≤ writer.buffer.length → body writer = .ok () left →
    inOrder ∧ left.position = writer.position + count ∧
      left.position ≤ left.buffer.length ∧ left.buffer.length = writer.buffer.length

namespace Requires

variable {body first second : Write Unit} {inOrder other : Prop} {count more : Nat}

theorem nothing : Requires (pure ()) True 0 := by
  rintro writer left within ⟨⟩
  exact ⟨trivial, rfl, within, rfl⟩

theorem throw (fault : ProtocolError) : Requires (throw fault) False count :=
  fun _ _ _ succeeds => absurd succeeds Fallible.throw_ne_ok

theorem putBytes (bytes : Bytes) : Requires (Writer.putBytes bytes) True bytes.length := by
  intro writer left within succeeds
  simp only [Writer.putBytes] at succeeds
  split at succeeds
  · next room =>
    cases succeeds
    have length := Writer.length_buffer_after room
    exact ⟨trivial, rfl, length.symm ▸ room, length⟩
  · cases succeeds

theorem putU8 (value : UInt8) : Requires (Writer.putU8 value) True 1 := putBytes [value]

theorem putU16 (value : UInt16) : Requires (Writer.putU16 value) True 2 := putBytes _

theorem seq (before : Requires first inOrder count) (behind : Requires second other more) :
    Requires (do first; second) (inOrder ∧ other) (count + more) := by
  intro writer left within succeeds
  obtain ⟨⟨⟩, between, isFirst, isSecond⟩ := Fallible.bind_eq_ok_iff.mp succeeds
  obtain ⟨firstOrder, moved, inside, size⟩ := before writer between within isFirst
  obtain ⟨secondOrder, movedOn, stillInside, sameSize⟩ := behind between left inside isSecond
  exact ⟨⟨firstOrder, secondOrder⟩, by omega, stillInside, sameSize.trans size⟩

theorem weaken (requires : Requires body inOrder count) (order : inOrder → other)
    (length : inOrder → count = more) : Requires body other more := by
  intro writer left within succeeds
  obtain ⟨isOrder, moved, inside, size⟩ := requires writer left within succeeds
  exact ⟨order isOrder, length isOrder ▸ moved, inside, size⟩

theorem forM {α : Type} {part : α → Write Unit} {orderOf : α → Prop} {bytesOf : α → Bytes}
    (parts : ∀ item, Requires (part item) (orderOf item) (bytesOf item).length) (items : List α) :
    Requires (items.forM part) (∀ item ∈ items, orderOf item) (items.flatMap bytesOf).length := by
  induction items with
  | nil => exact nothing.weaken (fun _ _ listed => nomatch listed) fun _ => rfl
  | cons item items ih =>
    refine ((parts item).seq ih).weaken (fun both => ?_) fun _ => ?_
    · exact List.forall_mem_cons.mpr both
    · rw [List.flatMap_cons, List.length_append]

theorem putText (text : String) :
    Requires (Writer.putText text) (text.utf8ByteSize ≤ 65535) (2 + text.utf8ByteSize) := by
  by_cases short : text.utf8ByteSize ≤ 65535
  · have within : ¬text.utf8ByteSize > 65535 := Nat.not_lt.mpr short
    simp only [Writer.putText, if_neg within]
    refine (nothing.seq ((putU16 _).seq (putBytes _))).weaken (fun _ => short) fun _ => ?_
    rw [Utf8.length_encode, Nat.zero_add]
  · have beyond : text.utf8ByteSize > 65535 := Nat.not_le.mp short
    simp only [Writer.putText, if_pos beyond]
    intro writer left _ succeeds
    obtain ⟨_, _, thrown, -⟩ := Fallible.bind_eq_ok_iff.mp succeeds
    exact absurd thrown Fallible.throw_ne_ok

end Requires

theorem Connect.requires_body (request : Connect) :
    Requires request.body (request.clientId.utf8ByteSize ≤ 65535)
      (Outbound.connect request).content.length := by
  refine ((Requires.putText _).seq ((Requires.putU8 _).seq ((Requires.putU8 _).seq
    ((Requires.putU16 _).seq (Requires.putText _))))).weaken (fun order => order.2.2.2.2)
    fun _ => ?_
  simp only [Outbound.content, List.length_append, Wire.length_text, Wire.length_number,
    List.length_cons, List.length_nil]
  omega

theorem Publish.requires_body (message : Publish) :
    Requires message.body
      (message.topic.utf8ByteSize ≤ 65535 ∧
        (message.qos ≠ .atMostOnce → message.packetId.isSome))
      (Outbound.publish message).content.length := by
  unfold body
  have length : (Outbound.publish message).content.length = 2 + message.topic.utf8ByteSize +
      ((if message.qos = .atMostOnce then 0 else message.packetId.elim 0 fun _ => 2) +
        message.payload.length) := by
    simp only [Outbound.content, Wire.identifier, List.length_append, Wire.length_text]
    cases message.packetId <;> split <;> simp [Nat.add_assoc]
  by_cases silent : message.qos = .atMostOnce
  · simp only [silent, ne_eq, not_true_eq_false, if_false, if_true] at length ⊢
    refine ((Requires.putText _).seq (Requires.nothing.seq (Requires.putBytes _))).weaken
      (fun order => ⟨order.1, False.elim⟩) fun _ => length.symm
  · cases isId : message.packetId with
    | none =>
      simp only [silent, ne_eq, not_false_eq_true, if_true]
      have refused : Requires (MonadExcept.throw .malformedPacket) False 0 := .throw _
      refine ((Requires.putText _).seq (refused.seq (Requires.putBytes _))).weaken
        (fun order => order.2.1.elim) fun order => order.2.1.elim
    | some packetId =>
      simp only [silent, isId, ne_eq, not_false_eq_true, if_true, if_false] at length ⊢
      exact ((Requires.putText _).seq ((Requires.putU16 _).seq (Requires.putBytes _))).weaken
        (fun order => ⟨order.1, fun _ => rfl⟩) fun _ => length.symm

theorem Subscribe.requires_body (request : Subscribe) :
    Requires request.body (∀ topic ∈ request.topics, topic.1.utf8ByteSize ≤ 65535)
      (Outbound.subscribe request).content.length := by
  have topic (topic : String × QoS) :
      Requires (do Writer.putText topic.1; Writer.putU8 topic.2.code)
        (topic.1.utf8ByteSize ≤ 65535) (Wire.text topic.1 ++ [topic.2.level.toUInt8]).length := by
    refine ((Requires.putText _).seq (Requires.putU8 _)).weaken (fun order => order.1) fun _ => ?_
    rw [List.length_append, Wire.length_text, List.length_singleton]
  refine ((Requires.putU16 _).seq (Requires.forM topic request.topics)).weaken
    (fun order => order.2) fun _ => ?_
  rw [Outbound.content, List.length_append, Wire.length_number]

/-! ## What a body writes -/

theorem Connect.layout_eq {request : Connect} (short : request.clientId.utf8ByteSize ≤ 65535) :
    request.layout = (Outbound.connect request).content := by
  rw [layout, Outbound.content, Writer.textField_eq _ short, Writer.textField_eq "MQTT" (by decide),
    Writer.bigEndian_eq, List.append_assoc, List.append_assoc]
  rfl

theorem Publish.layout_eq {message : Publish} (short : message.topic.utf8ByteSize ≤ 65535) :
    message.layout = (Outbound.publish message).content := by
  have number : Writer.bigEndian = fun packetId => Wire.number packetId.toNat :=
    funext Writer.bigEndian_eq
  rw [layout, Outbound.content, Wire.identifier, Writer.textField_eq _ short, List.append_assoc,
    number]

theorem Subscribe.layout_eq {request : Subscribe}
    (short : ∀ topic ∈ request.topics, topic.1.utf8ByteSize ≤ 65535) :
    request.layout = (Outbound.subscribe request).content := by
  rw [layout, Outbound.content, Writer.bigEndian_eq]
  congr 1
  refine congrArg List.flatten (List.map_congr_left fun topic listed => ?_)
  dsimp only
  rw [Writer.textField_eq _ (short topic listed), QoS.code_eq]

/-! ## Encoding -/

namespace Encoded

variable {buffer bytes : Bytes} {header : UInt8} {body : Write Unit} {inOrder : Prop}

theorem exists_of_frame {encoded : Encoded} (requires : Requires body inOrder bytes.length)
    (framed : frame buffer header body = .ok encoded) :
    inOrder ∧ bytes.length ≤ Varint.maximum ∧ headerReserve + bytes.length ≤ buffer.length := by
  simp only [frame] at framed
  split at framed
  · cases framed
  · next reserved =>
    split at framed
    · cases framed
    · next left isBody =>
      obtain ⟨order, moved, inside, size⟩ := requires _ left (Nat.not_lt.mp reserved) isBody
      simp only [Writer.startAt] at moved size
      have remaining : left.position - headerReserve = bytes.length := by omega
      rw [remaining] at framed
      cases field : Varint.write [0, 0, 0, 0] bytes.length with
      | error fault =>
        rw [field] at framed
        cases framed
      | ok written =>
        exact ⟨order, (Varint.write_reserved_iff.mp field).1, by omega⟩

/-- Framing a body succeeds exactly when the packet is in order, its length can be written
and the bytes have room behind the reserve. -/
theorem exists_frame_iff (writes : inOrder → Writes body bytes)
    (requires : Requires body inOrder bytes.length) :
    (∃ encoded, frame buffer header body = .ok encoded) ↔
      inOrder ∧ bytes.length ≤ Varint.maximum ∧ headerReserve + bytes.length ≤ buffer.length := by
  constructor
  · rintro ⟨encoded, framed⟩
    exact exists_of_frame requires framed
  · rintro ⟨order, short, room⟩
    exact exists_frame (writes order) room short

/-- A framed body is carried, in place. -/
theorem carries_of_frame {encoded : Encoded} (writes : inOrder → Writes body bytes)
    (requires : Requires body inOrder bytes.length)
    (framed : frame buffer header body = .ok encoded) :
    encoded.Carries header bytes ∧ encoded.buffer.length = buffer.length := by
  obtain ⟨order, short, room⟩ := exists_of_frame requires framed
  obtain ⟨other, alsoFramed, carries⟩ := frame_of_writes (writes order) room short
  cases framed.symm.trans alsoFramed
  exact carries

/-- A packet without a body is two bytes, for which the buffer must have room. -/
theorem bare_eq_ok_iff {encoded : Encoded} :
    bare buffer header = .ok encoded ↔
      2 ≤ buffer.length ∧ encoded = ⟨header :: 0 :: buffer.drop 2, 2⟩ := by
  have bareEq : bare buffer header =
      if 2 ≤ buffer.length then .ok ⟨header :: 0 :: buffer.drop 2, 2⟩
      else .error .bufferTooSmall := by
    simp only [bare, Writer.putBytes, Writer.startAt, List.length_cons, List.length_nil,
      Nat.zero_add]
    by_cases room : 2 ≤ buffer.length <;> simp [room]
  rw [bareEq]
  split
  · next room => simp [room, eq_comm]
  · next short => simp [short]

theorem carries_bare (header : UInt8) (rest : Bytes) :
    (⟨header :: 0 :: rest, 2⟩ : Encoded).Carries header [] :=
  ⟨[0], Varint.shortest_iff.mpr (by rw [List.length_nil, Varint.encode]; rfl), rfl, rfl⟩

end Encoded

theorem Publish.header_eq (message : Publish) :
    message.header = (Outbound.publish message).firstByte := by
  simp only [header, Outbound.firstByte, Outbound.controlType, Outbound.flags]
  cases message.qos <;> cases message.retain <;> cases message.dup <;> decide

theorem Acknowledgement.header_eq (kind : Acknowledgement) (packetId : UInt16) :
    kind.header = (Outbound.acknowledge kind packetId).firstByte := by
  cases kind <;> rfl

namespace Outbound

variable {packet : Outbound} {buffer : Bytes} {room : Nat}

theorem encodable_iff {inOrder : Prop}
    (order : inOrder ↔ (∀ text ∈ packet.texts, text.utf8ByteSize ≤ 65535) ∧
      ∀ message, packet = .publish message → message.qos ≠ .atMostOnce →
        message.packetId.isSome) :
    packet.Encodable room ↔ inOrder ∧ packet.content.length ≤ Varint.maximum ∧
      packet.reserve + packet.content.length ≤ room := by
  rw [order]
  constructor
  · rintro ⟨texts, identified, short, fits⟩
    exact ⟨⟨texts, identified⟩, short, fits⟩
  · rintro ⟨⟨texts, identified⟩, short, fits⟩
    exact ⟨texts, identified, short, fits⟩

/-- What a packet writes and requires decides what its encoding does. -/
structure Framed (packet : Outbound) (body : Write Unit) (inOrder : Prop) : Prop where
  encodes : ∀ buffer, packet.encodeInto buffer = Encoded.frame buffer packet.firstByte body
  writes : inOrder → Writes body packet.content
  requires : Requires body inOrder packet.content.length
  reserved : packet.reserve = Encoded.headerReserve
  order : inOrder ↔ (∀ text ∈ packet.texts, text.utf8ByteSize ≤ 65535) ∧
    ∀ message, packet = .publish message → message.qos ≠ .atMostOnce → message.packetId.isSome

theorem framed_connect (request : Connect) :
    (connect request).Framed request.body (request.clientId.utf8ByteSize ≤ 65535) where
  encodes _ := rfl
  writes short := Connect.layout_eq short ▸ Connect.writes_body short
  requires := request.requires_body
  reserved := rfl
  order := by simp [texts]

theorem framed_publish (message : Publish) :
    (publish message).Framed message.body (message.topic.utf8ByteSize ≤ 65535 ∧
      (message.qos ≠ .atMostOnce → message.packetId.isSome)) where
  encodes _ := by rw [encodeInto, message.header_eq]
  writes order := by
    refine Publish.layout_eq order.1 ▸ Publish.writes_body order.1 fun asks => ?_
    exact Option.isSome_iff_ne_none.mp (order.2 asks)
  requires := message.requires_body
  reserved := rfl
  order := by simp [texts]

theorem framed_acknowledge (kind : Acknowledgement) (packetId : UInt16) :
    (acknowledge kind packetId).Framed (Writer.putU16 packetId) True where
  encodes _ := by rw [encodeInto, kind.header_eq packetId]
  writes _ := by
    rw [content, ← Writer.bigEndian_eq]
    exact .putU16 packetId
  requires := .putU16 packetId
  reserved := rfl
  order := by simp [texts]

theorem framed_subscribe (request : Subscribe) :
    (subscribe request).Framed request.body
      (∀ topic ∈ request.topics, topic.1.utf8ByteSize ≤ 65535) where
  encodes _ := rfl
  writes short := Subscribe.layout_eq short ▸ Subscribe.writes_body short
  requires := request.requires_body
  reserved := rfl
  order := by simp [texts]

theorem Framed.exists_iff {body : Write Unit} {inOrder : Prop} (framed : packet.Framed body inOrder) :
    (∃ encoded, packet.encodeInto buffer = .ok encoded) ↔ packet.Encodable buffer.length := by
  rw [framed.encodes, Encoded.exists_frame_iff framed.writes framed.requires,
    encodable_iff framed.order, framed.reserved]

theorem Framed.carries {body : Write Unit} {inOrder : Prop} (framed : packet.Framed body inOrder)
    {encoded : Encoded} (encodes : packet.encodeInto buffer = .ok encoded) :
    encoded.Carries packet.firstByte packet.content ∧ encoded.buffer.length = buffer.length :=
  Encoded.carries_of_frame framed.writes framed.requires (framed.encodes buffer ▸ encodes)

/-- Encoding succeeds exactly when the packet can be laid out in the buffer. -/
theorem exists_encodeInto_iff :
    (∃ encoded, packet.encodeInto buffer = .ok encoded) ↔ packet.Encodable buffer.length := by
  cases packet with
  | connect request => exact (framed_connect request).exists_iff
  | publish message => exact (framed_publish message).exists_iff
  | acknowledge kind packetId => exact (framed_acknowledge kind packetId).exists_iff
  | subscribe request => exact (framed_subscribe request).exists_iff
  | pingReq | disconnect =>
    refine .trans ?_ (encodable_iff (iff_of_true trivial ?_)).symm
    · simp [encodeInto, Encoded.bare_eq_ok_iff, content, reserve]
    · simp [texts]

/-- An encoded packet stands at the start of its buffer, which keeps its size. -/
theorem carries_of_encodeInto {encoded : Encoded} (encodes : packet.encodeInto buffer = .ok encoded) :
    encoded.Carries packet.firstByte packet.content ∧ encoded.buffer.length = buffer.length := by
  cases packet with
  | connect request => exact (framed_connect request).carries encodes
  | publish message => exact (framed_publish message).carries encodes
  | acknowledge kind packetId => exact (framed_acknowledge kind packetId).carries encodes
  | subscribe request => exact (framed_subscribe request).carries encodes
  | pingReq | disconnect =>
    obtain ⟨room, rfl⟩ := Encoded.bare_eq_ok_iff.mp encodes
    refine ⟨Encoded.carries_bare _ _, ?_⟩
    simp only [List.length_cons, List.length_drop]
    omega

/-- Encoding a packet succeeds exactly when it can be laid out and the buffer has room. Then
the buffer begins with the type byte, the shortest spelling of the length of the content, and
the content, whatever stood in the buffer and however many bytes the length takes. -/
theorem encodeInto_exactly (packet : Outbound) (buffer : Bytes) :
    ((∃ encoded, packet.encodeInto buffer = .ok encoded) ↔ packet.Encodable buffer.length) ∧
    ∀ encoded, packet.encodeInto buffer = .ok encoded →
      (∃ lengthField, Varint.Shortest lengthField packet.content.length ∧
        encoded.buffer.take encoded.length =
          packet.firstByte :: (lengthField ++ packet.content) ∧
        encoded.length = 1 + lengthField.length + packet.content.length) ∧
      encoded.buffer.length = buffer.length :=
  ⟨exists_encodeInto_iff, fun _ encodes => carries_of_encodeInto encodes⟩

end Outbound

end Uplink
