import Uplink.Proofs.Packet.Completeness
import Uplink.Proofs.Packet.Layout

/-!
# Packets that go both ways

Messages and acknowledgements are written and read by separate code with different
bookkeeping. Reading the fields of a message succeeds exactly on the content that
`Outbound.content` lays out for it, under exactly the flags of its type byte; from this both
laws follow: what was encoded is decoded as the same packet, whatever follows it, and what
was decoded of a shortest frame is encoded as the same bytes.
-/

namespace Uplink

/-- What a packet that both sides send is for its receiver. A message that is delivered at
most once comes without an identifier. -/
def Outbound.arrival? : Outbound → Option Inbound
  | publish message => some (.publish { message with
      packetId := if message.qos = .atMostOnce then none else message.packetId })
  | acknowledge kind packetId => some (.acknowledge kind packetId)
  | connect _ | subscribe _ | pingReq | disconnect => none

theorem QoS.ofCode_eq_ok_iff {code : UInt8} {qos : QoS} : ofCode code = .ok qos ↔ code = qos.code := by
  constructor
  · intro isQos
    simp only [ofCode] at isQos
    repeat' split at isQos
    all_goals cases isQos
    all_goals assumption
  · rintro rfl
    exact ofCode_code qos

/-! ## The fields of a message -/

namespace Publish

/-- The flags of a type byte determine the guarantee and the two marks of a message, and are
determined by them. -/
theorem flags_eq_iff {first : UInt8} {message : Publish} :
    ((first &&& 0x0F) >>> 1 &&& 3 = message.qos.code ∧
      ((first &&& 0x0F) &&& 1 != 0) = message.retain ∧
      ((first &&& 0x0F) &&& 8 != 0) = message.dup) ↔
      first.toNat % 16 = (Outbound.publish message).flags := by
  have table : ∀ code < 256, ∀ retain dup : Bool,
      ∀ qos ∈ [QoS.atMostOnce, .atLeastOnce, .exactlyOnce],
        ((UInt8.ofNat code &&& 0x0F) >>> 1 &&& 3 = qos.code ∧
          ((UInt8.ofNat code &&& 0x0F) &&& 1 != 0) = retain ∧
          ((UInt8.ofNat code &&& 0x0F) &&& 8 != 0) = dup) ↔
          code % 16 = 8 * dup.toNat + 2 * qos.level + retain.toNat := by
    decide +kernel
  have listed : message.qos ∈ [QoS.atMostOnce, .atLeastOnce, .exactlyOnce] := by
    cases message.qos <;> simp
  have entry := table first.toNat first.toNat_lt message.retain message.dup message.qos listed
  rwa [UInt8.ofNat_toNat] at entry

/-- The type byte of a message is a message's, with the flags that belong to it. -/
theorem first_eq_iff {first : UInt8} {message : Publish} :
    first = (Outbound.publish message).firstByte ↔
      first.toNat / 16 = 3 ∧ first.toNat % 16 = (Outbound.publish message).flags := by
  have bound : (Outbound.publish message).flags < 16 := by
    simp only [Outbound.flags]
    cases message.dup <;> cases message.qos <;> cases message.retain <;> decide
  have value : (Outbound.publish message).firstByte.toNat =
      48 + (Outbound.publish message).flags := Nat.mod_eq_of_lt (by simp only [Outbound.controlType]; omega)
  rw [← UInt8.toNat_inj, value]
  omega

/-- The guarantee that the flags name. -/
def guarantee (code : UInt8) : Read QoS :=
  match QoS.ofCode code with
  | .ok qos => pure qos
  | .error fault => throw fault

/-- The identifier of a message that asks for an acknowledgement. -/
def identifier (qos : QoS) : Read (Option UInt16) :=
  if qos = .atMostOnce then pure none else some <$> Reader.u16

/-- The fields of a message one after the other. -/
theorem fields_eq (flags : UInt8) :
    fields flags = do
      let qos ← guarantee (flags >>> 1 &&& 3)
      let topic ← Reader.text
      let packetId ← identifier qos
      let payload ← Reader.rest
      return { topic, payload, qos, packetId, retain := flags &&& 1 != 0, dup := flags &&& 8 != 0 } := by
  unfold fields guarantee identifier
  cases QoS.ofCode (flags >>> 1 &&& 3) with
  | error fault => rfl
  | ok qos => cases qos <;> rfl

theorem guarantee_eq_ok_iff {code : UInt8} {qos : QoS} {reader left : Reader} :
    guarantee code reader = .ok qos left ↔ code = qos.code ∧ reader = left := by
  rw [guarantee, ← QoS.ofCode_eq_ok_iff]
  cases QoS.ofCode code with
  | error fault => exact iff_of_false Fallible.throw_ne_ok fun both => nomatch both.1
  | ok named => rw [Fallible.pure_eq_ok_iff, Except.ok.injEq]

/-- An identifier is read exactly where it is written. -/
theorem identifier_eq_ok_iff {qos : QoS} {reader left : Reader} {packetId : Option UInt16} :
    identifier qos reader = .ok packetId left ↔
      (packetId.isSome ↔ qos ≠ .atMostOnce) ∧
        reader.remaining = Wire.identifier qos packetId ++ left.remaining := by
  obtain ⟨remaining⟩ := reader
  obtain ⟨after⟩ := left
  rw [identifier, Wire.identifier]
  split
  · next silent =>
    rw [Fallible.pure_eq_ok_iff]
    cases packetId <;> simp [silent]
  · next asks =>
    rw [Fallible.map_eq_ok_iff]
    cases packetId <;> simp [asks, Reader.u16_eq_ok_iff]

/-- The fields of a message are read exactly of its content, under its flags. -/
theorem fields_eq_ok_iff {first : UInt8} {reader left : Reader} {message : Publish} :
    fields (first &&& 0x0F) reader = .ok message left ↔
      first.toNat % 16 = (Outbound.publish message).flags ∧
        message.topic.utf8ByteSize < 65536 ∧
        (message.packetId.isSome ↔ message.qos ≠ .atMostOnce) ∧
        reader.remaining = (Outbound.publish message).content ∧ left.remaining = [] := by
  rw [← flags_eq_iff, fields_eq, Outbound.content]
  simp only [Fallible.bind_eq_ok_iff, guarantee_eq_ok_iff, Reader.text_eq_ok_iff,
    identifier_eq_ok_iff, Reader.rest_eq_ok_iff, Fallible.pure_eq_ok_iff]
  constructor
  · rintro ⟨qos, _, ⟨isQos, rfl⟩, topic, afterTopic, ⟨isTopic, short⟩, packetId, afterId,
      ⟨identified, isId⟩, payload, afterPayload, ⟨rfl, nothing⟩, rfl, rfl⟩
    refine ⟨⟨isQos, rfl, rfl⟩, short, identified, ?_, nothing⟩
    rw [isTopic, isId, List.append_assoc]
  · rintro ⟨⟨isQos, isRetain, isDup⟩, short, identified, isContent, nothing⟩
    rw [List.append_assoc] at isContent
    refine ⟨message.qos, reader, ⟨isQos, rfl⟩, message.topic, ⟨_⟩, ⟨isContent, short⟩,
      message.packetId, ⟨message.payload⟩, ⟨identified, rfl⟩, message.payload, left,
      ⟨rfl, nothing⟩, ?_, rfl⟩
    rw [isRetain, isDup]

end Publish

namespace Inbound

variable {bytes : Bytes}

theorem decodeAs_eq_publish_iff {kind : Kind} {message : Publish} :
    decodeAs kind bytes = .ok (publish message) ↔
      kind = .publish ∧ Frame.read bytes Publish.fields = .ok message := by
  cases kind <;> simp [decodeAs, Except.map_eq_ok_iff]

theorem decodeAs_eq_acknowledge_iff {kind : Kind} {ack : Acknowledgement} {packetId : UInt16} :
    decodeAs kind bytes = .ok (acknowledge ack packetId) ↔
      kind = .acknowledge ack ∧ (Frame.read bytes fun _ => Reader.u16) = .ok packetId := by
  cases kind with
  | acknowledge kind =>
    simp only [decodeAs, Except.map_eq_ok_iff, Kind.acknowledge.injEq, acknowledge.injEq]
    constructor
    · rintro ⟨_, isRead, rfl, rfl⟩
      exact ⟨rfl, isRead⟩
    · rintro ⟨rfl, isRead⟩
      exact ⟨packetId, isRead, rfl, rfl⟩
  | _ => simp [decodeAs, Except.map_eq_ok_iff]

/-- A message is read exactly of a complete frame with its type byte and its content. -/
theorem decode_eq_publish_iff {message : Publish} :
    decode bytes = .ok (publish message) ↔
      message.topic.utf8ByteSize < 65536 ∧
        (message.packetId.isSome ↔ message.qos ≠ .atMostOnce) ∧
        ∃ (whole : Frame.Whole) (rest : Bytes), bytes = whole.bytes ++ rest ∧
          whole.first = (Outbound.publish message).firstByte ∧
          whole.body = (Outbound.publish message).content := by
  simp only [decode_eq_ok_iff, decodeAs_eq_publish_iff, Frame.read_eq_ok_iff]
  constructor
  · rintro ⟨first, tail, kind, isBytes, isType, rfl, whole, rest, left, isWhole, isMessage⟩
    obtain ⟨isFlags, short, identified, isContent, -⟩ := Publish.fields_eq_ok_iff.mp isMessage
    have sameFirst : whole.first = first := by
      rw [isBytes] at isWhole
      exact (List.cons.inj isWhole).1.symm
    refine ⟨short, identified, whole, rest, isWhole, ?_, isContent⟩
    exact Publish.first_eq_iff.mpr ⟨sameFirst ▸ isType, isFlags⟩
  · rintro ⟨short, identified, whole, rest, rfl, isFirst, isContent⟩
    obtain ⟨isType, isFlags⟩ := Publish.first_eq_iff.mp isFirst
    refine ⟨whole.first, _, .publish, rfl, isType, rfl, whole, rest, ⟨[]⟩, rfl, ?_⟩
    exact Publish.fields_eq_ok_iff.mpr ⟨isFlags, short, identified, isContent, rfl⟩

/-- Of a complete frame with nothing behind it, the frame itself is what is read. -/
theorem decode_whole_eq_publish_iff {whole : Frame.Whole} {message : Publish} :
    decode whole.bytes = .ok (publish message) ↔
      message.topic.utf8ByteSize < 65536 ∧
        (message.packetId.isSome ↔ message.qos ≠ .atMostOnce) ∧
        whole.first = (Outbound.publish message).firstByte ∧
        whole.body = (Outbound.publish message).content := by
  rw [decode_eq_publish_iff]
  refine and_congr_right fun _ => and_congr_right fun _ => ?_
  constructor
  · rintro ⟨other, rest, isWhole, isMessage⟩
    rw [← List.append_nil whole.bytes] at isWhole
    cases Frame.Whole.eq_of_append isWhole
    exact isMessage
  · intro isMessage
    exact ⟨whole, [], (List.append_nil _).symm, isMessage⟩

/-- An acknowledgement is read of a complete frame with its type byte and its content. -/
theorem decode_acknowledge {kind : Acknowledgement} {packetId : UInt16} {whole : Frame.Whole}
    (isFirst : whole.first = (Outbound.acknowledge kind packetId).firstByte)
    (isContent : whole.body = (Outbound.acknowledge kind packetId).content) (rest : Bytes) :
    decode (whole.bytes ++ rest) = .ok (acknowledge kind packetId) := by
  have isType : whole.first.toNat / 16 = (Kind.acknowledge kind).controlType := by
    rw [isFirst, ← kind.header_eq]
    cases kind <;> decide
  refine decode_eq_ok_iff.mpr ⟨whole.first, _, .acknowledge kind, rfl, isType, ?_⟩
  refine decodeAs_eq_acknowledge_iff.mpr ⟨rfl, Frame.read_eq_ok_iff.mpr ?_⟩
  refine ⟨whole, rest, ⟨[]⟩, rfl, Reader.u16_eq_ok_iff.mpr ?_⟩
  rw [isContent, Outbound.content, List.append_nil]

end Inbound

/-! ## What can be a message -/

theorem QoS.level_eq_zero_iff {qos : QoS} : qos.level = 0 ↔ qos = .atMostOnce := by
  cases qos <;> decide

/-- The two bits of a guarantee stand for one unless they are both set. -/
theorem QoS.exists_level_iff {bits : Nat} : (∃ qos : QoS, qos.level = bits) ↔ bits < 3 := by
  constructor
  · rintro ⟨qos, rfl⟩
    cases qos <;> decide
  · intro small
    match bits with
    | 0 => exact ⟨.atMostOnce, rfl⟩
    | 1 => exact ⟨.atLeastOnce, rfl⟩
    | 2 => exact ⟨.exactlyOnce, rfl⟩

namespace Publish

/-- The flags of a message come apart into its guarantee and its two marks. -/
theorem level_of_flags {first : UInt8} {message : Publish}
    (isFlags : first.toNat % 16 = (Outbound.publish message).flags) :
    message.qos.level = first.toNat / 2 % 4 := by
  have retain := message.retain.toNat_lt
  have level := QoS.exists_level_iff.mp ⟨message.qos, rfl⟩
  simp only [Outbound.flags] at isFlags
  omega

/-- Every four flags are a message's, as long as they name a guarantee. -/
theorem exists_flags {first : UInt8} {qos : QoS} (isLevel : qos.level = first.toNat / 2 % 4) :
    ∃ dup retain : Bool, first.toNat % 16 = 8 * dup.toNat + 2 * qos.level + retain.toNat := by
  have bit (value : Nat) : (value % 2 == 1).toNat = value % 2 := by
    obtain isZero | isOne := Nat.mod_two_eq_zero_or_one value
    · rw [isZero]; rfl
    · rw [isOne]; rfl
  refine ⟨first.toNat / 8 % 2 == 1, first.toNat % 2 == 1, ?_⟩
  rw [bit, bit, isLevel]
  omega

/-- Bytes begin with an identifier where the guarantee asks for one, if there are two. -/
theorem exists_identifier_iff {qos : QoS} {behind : Bytes} :
    (∃ (packetId : Option UInt16) (payload : Bytes), (packetId.isSome ↔ qos ≠ .atMostOnce) ∧
      behind = Wire.identifier qos packetId ++ payload) ↔
      (qos ≠ .atMostOnce → 2 ≤ behind.length) := by
  simp only [Wire.identifier]
  by_cases silent : qos = .atMostOnce
  · refine iff_of_true ⟨none, behind, by simp [silent], ?_⟩ fun asks => absurd silent asks
    rw [if_pos silent, List.nil_append]
  · simp only [if_neg silent]
    constructor
    · rintro ⟨packetId, payload, identified, rfl⟩ -
      obtain ⟨packetId, rfl⟩ := Option.isSome_iff_exists.mp (identified.mpr silent)
      rw [Option.elim_some, List.length_append, Wire.length_number]
      omega
    · intro enough
      obtain ⟨high, rest, rfl⟩ := List.exists_cons_of_length_pos (Nat.lt_of_succ_lt (enough silent))
      obtain ⟨low, payload, rfl⟩ :=
        List.exists_cons_of_length_pos (Nat.lt_of_succ_lt_succ (enough silent))
      have isNumber := Wire.number_eq_iff.mpr (Eq.refl (high.toUInt16 <<< 8 ||| low.toUInt16))
      refine ⟨some (high.toUInt16 <<< 8 ||| low.toUInt16), payload, by simp [silent], ?_⟩
      rw [Option.elim_some, isNumber, List.cons_append, List.cons_append, List.nil_append]

end Publish

/-- A complete frame is read as a message exactly when its type says so, its guarantee is
one of the three, and its body begins with a text and, if it asks for an acknowledgement,
two more bytes. -/
theorem Inbound.exists_decode_publish_iff (whole : Frame.Whole) :
    (∃ message, decode whole.bytes = .ok (publish message)) ↔
      whole.first.toNat / 16 = 3 ∧ whole.first.toNat / 2 % 4 ≠ 3 ∧
        ∃ (high low : UInt8) (topic : String) (behind : Bytes),
          whole.body = high :: low :: (Utf8.encode topic ++ behind) ∧
          topic.utf8ByteSize = 256 * high.toNat + low.toNat ∧
          (whole.first.toNat / 2 % 4 ≠ 0 → 2 ≤ behind.length) := by
  constructor
  · rintro ⟨message, reads⟩
    obtain ⟨short, identified, isFirst, isContent⟩ := decode_whole_eq_publish_iff.mp reads
    obtain ⟨isType, isFlags⟩ := Publish.first_eq_iff.mp isFirst
    have isLevel := Publish.level_of_flags isFlags
    have known := QoS.exists_level_iff.mp ⟨message.qos, rfl⟩
    rw [Outbound.content, List.append_assoc] at isContent
    obtain ⟨high, low, isBody, size⟩ := Wire.text_append_iff.mp ⟨isContent, short⟩
    refine ⟨isType, by omega, high, low, message.topic, _, isBody, size, fun asks => ?_⟩
    refine Publish.exists_identifier_iff.mp ⟨_, _, identified, rfl⟩ fun silent => asks ?_
    rw [← isLevel, QoS.level_eq_zero_iff.mpr silent]
  · rintro ⟨isType, known, high, low, topic, behind, isBody, size, enough⟩
    obtain ⟨qos, isLevel⟩ := QoS.exists_level_iff.mpr (show whole.first.toNat / 2 % 4 < 3 by omega)
    obtain ⟨dup, retain, isFlags⟩ := Publish.exists_flags isLevel
    obtain ⟨packetId, payload, identified, rfl⟩ := Publish.exists_identifier_iff.mpr fun asks =>
      enough fun silent => asks (QoS.level_eq_zero_iff.mp (isLevel.trans silent))
    obtain ⟨isText, short⟩ := Wire.text_append_iff.mpr ⟨high, low, isBody, size⟩
    let message : Publish := { topic, payload, qos, packetId, retain, dup }
    have isFirst : whole.first = (Outbound.publish message).firstByte :=
      Publish.first_eq_iff.mpr ⟨isType, isFlags⟩
    have isContent : whole.body = (Outbound.publish message).content := by
      rw [isText, Outbound.content, List.append_assoc]
    exact ⟨message, decode_whole_eq_publish_iff.mpr ⟨short, identified, isFirst, isContent⟩⟩

/-! ## Both directions -/

/-- What was encoded is a complete frame with the type byte and the content of its packet. -/
theorem Outbound.exists_whole {packet : Outbound} {buffer : Bytes} {encoded : Encoded}
    (encodes : packet.encodeInto buffer = .ok encoded) :
    ∃ whole : Frame.Whole, encoded.bytes = whole.bytes ∧ encoded.length = whole.bytes.length ∧
      whole.first = packet.firstByte ∧ whole.body = packet.content := by
  obtain ⟨lengthField, shortest, isBytes, isLength⟩ := (carries_of_encodeInto encodes).1
  have encodable := exists_encodeInto_iff.mp ⟨encoded, encodes⟩
  have short : lengthField.length ≤ 4 := by
    rw [Varint.shortest_iff.mp shortest]
    exact Varint.length_encode_le_four_iff.mpr encodable.short
  refine ⟨⟨packet.firstByte, lengthField, packet.content, shortest.spells, short⟩, isBytes, ?_,
    rfl, rfl⟩
  rw [isLength, Frame.Whole.length_bytes]

/-- A frame with the type byte and the content of a packet that goes both ways is read as
its arrival. -/
theorem Outbound.decode_arrival {packet : Outbound} {arrival : Inbound} {whole : Frame.Whole}
    {room : Nat} (arrives : packet.arrival? = some arrival) (encodable : packet.Encodable room)
    (isFirst : whole.first = packet.firstByte) (isContent : whole.body = packet.content)
    (rest : Bytes) : Inbound.decode (whole.bytes ++ rest) = .ok arrival := by
  cases packet with
  | publish message =>
    cases arrives
    have short := encodable.texts message.topic (List.mem_singleton.mpr rfl)
    have identified := encodable.identified message rfl
    refine Inbound.decode_eq_publish_iff.mpr
      ⟨Nat.lt_succ_of_le short, ?_, whole, rest, rfl, isFirst, ?_⟩
    · by_cases silent : message.qos = .atMostOnce
      · simp [silent]
      · simpa [silent] using identified silent
    · rw [isContent, content, content, Wire.identifier, Wire.identifier]
      by_cases silent : message.qos = .atMostOnce <;> simp [silent]
  | acknowledge kind packetId =>
    cases arrives
    exact Inbound.decode_acknowledge isFirst isContent rest
  | connect | subscribe | pingReq | disconnect => cases arrives

/-- The message of a frame is encoded as that frame again, if its length was written in the
shortest way and the buffer has room. -/
theorem Publish.encodeInto_decoded {message : Publish} {whole : Frame.Whole} {buffer : Bytes}
    (shortest : Varint.Shortest whole.lengthField whole.body.length)
    (reads : Inbound.decode whole.bytes = .ok (.publish message))
    (room : 5 + whole.body.length ≤ buffer.length) :
    ∃ encoded, (Outbound.publish message).encodeInto buffer = .ok encoded ∧
      encoded.bytes = whole.bytes := by
  obtain ⟨short, identified, isFirst, isContent⟩ := Inbound.decode_whole_eq_publish_iff.mp reads
  have encodable : (Outbound.publish message).Encodable buffer.length := {
    texts := by
      intro text listed
      cases List.mem_singleton.mp listed
      exact Nat.le_of_lt_succ short
    identified := by
      rintro _ ⟨⟩ asks
      exact identified.mpr asks
    short := isContent ▸ whole.length_body_le
    fits := isContent ▸ room }
  obtain ⟨encoded, encodes⟩ := Outbound.exists_encodeInto_iff.mpr encodable
  obtain ⟨lengthField, alsoShortest, isBytes, -⟩ := (Outbound.carries_of_encodeInto encodes).1
  have sameField : lengthField = whole.lengthField := by
    rw [isContent] at shortest
    rw [Varint.shortest_iff.mp alsoShortest, Varint.shortest_iff.mp shortest]
  refine ⟨encoded, encodes, ?_⟩
  rw [sameField, ← isFirst, ← isContent] at isBytes
  exact isBytes

/-- A message or an acknowledgement that was encoded is measured and decoded as what it is
for its receiver, whatever follows it. A complete frame that is decoded as a message and has
the shortest length is encoded from this message again, and a complete frame is decoded as a
message exactly when its type is a message's, it names a guarantee, and its body holds a text
and, above the lowest guarantee, two bytes more. -/
theorem Outbound.decode_encode_inverse :
    (∀ (packet : Outbound) (arrival : Inbound) (buffer : Bytes) (encoded : Encoded),
      packet.arrival? = some arrival → packet.encodeInto buffer = .ok encoded →
        ∀ (more : Bytes) (capacity : Nat), encoded.length ≤ capacity →
          Frame.length? (encoded.bytes ++ more) capacity = .ok (some encoded.length) ∧
          Inbound.decode (encoded.bytes ++ more) = .ok arrival) ∧
    ∀ whole : Frame.Whole,
      (∀ (message : Publish) (buffer : Bytes),
        Varint.Shortest whole.lengthField whole.body.length →
          Inbound.decode whole.bytes = .ok (.publish message) →
          5 + whole.body.length ≤ buffer.length →
            ∃ encoded, (publish message).encodeInto buffer = .ok encoded ∧
              encoded.bytes = whole.bytes) ∧
      ((∃ message, Inbound.decode whole.bytes = .ok (.publish message)) ↔
        whole.first.toNat / 16 = 3 ∧ whole.first.toNat / 2 % 4 ≠ 3 ∧
          ∃ (high low : UInt8) (topic : String) (behind : Bytes),
            whole.body = high :: low :: (Utf8.encode topic ++ behind) ∧
            topic.utf8ByteSize = 256 * high.toNat + low.toNat ∧
            (whole.first.toNat / 2 % 4 ≠ 0 → 2 ≤ behind.length)) := by
  constructor
  · intro packet arrival buffer encoded arrives encodes more capacity large
    obtain ⟨whole, isBytes, isLength, isFirst, isContent⟩ := exists_whole encodes
    rw [isBytes, isLength]
    constructor
    · rw [Frame.length?_whole, if_pos (isLength ▸ large)]
    · exact decode_arrival arrives (exists_encodeInto_iff.mp ⟨encoded, encodes⟩) isFirst
        isContent more
  · intro whole
    constructor
    · intro message buffer shortest reads room
      exact Publish.encodeInto_decoded shortest reads room
    · exact Inbound.exists_decode_publish_iff whole

/-- A message of one byte comes back from the eight bytes of its frame, with another byte
behind them. -/
theorem Outbound.decode_encode_inverse_message :
    Inbound.decode [0x32, 0x06, 0x00, 0x01, 0x61, 0x00, 0x07, 0x2A, 0xFF] =
      .ok (.publish ⟨"a", [0x2A], .atLeastOnce, some 7, false, false⟩) :=
  (decode_encode_inverse.1 (.publish ⟨"a", [0x2A], .atLeastOnce, some 7, false, false⟩) _
    (.replicate 11 0) ⟨[0x32, 0x06, 0x00, 0x01, 0x61, 0x00, 0x07, 0x2A, 0x00, 0x07, 0x2A], 8⟩
    rfl (by with_unfolding_all rfl) [0xFF] 8 (Nat.le_refl 8)).2

end Uplink
