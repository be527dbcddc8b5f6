import Uplink.Config
import Uplink.Packet.Encode
import Uplink.Proofs.Wire.Header

/-!
# Packets fit their buffer

What a body writes is fixed by its packet: `Writes body bytes` says that a writer with
room for `bytes` takes them all and nothing else. From it follows that every packet a
session sends can be encoded, since identifiers, topics and payloads are limited.
-/

namespace Uplink

/-- The writer after it took some bytes. -/
def Writer.after (writer : Writer) (bytes : Bytes) : Writer :=
  ⟨writer.buffer.take writer.position ++ bytes ++
    writer.buffer.drop (writer.position + bytes.length), writer.position + bytes.length⟩

/-- A body puts exactly these bytes into every writer that has room for them. -/
def Writes (body : Write Unit) (bytes : Bytes) : Prop :=
  ∀ writer : Writer, writer.position + bytes.length ≤ writer.buffer.length →
    body writer = .ok () (writer.after bytes)

namespace Writer

variable {writer : Writer} {first second : Bytes}

theorem length_buffer_after (room : writer.position + first.length ≤ writer.buffer.length) :
    (writer.after first).buffer.length = writer.buffer.length := by
  simp only [after, List.length_append, List.length_take, List.length_drop]
  omega

/-- Bytes taken one after the other are taken as a whole. -/
theorem after_after
    (room : writer.position + (first ++ second).length ≤ writer.buffer.length) :
    (writer.after first).after second = writer.after (first ++ second) := by
  obtain ⟨buffer, position⟩ := writer
  simp only [List.length_append] at room
  have front : (buffer.take position).length = position := by
    rw [List.length_take]
    omega
  have written : (buffer.take position ++ first).length = position + first.length := by
    rw [List.length_append, front]
  simp only [after, List.length_append, Writer.mk.injEq]
  refine ⟨?_, by omega⟩
  rw [List.take_left' written, List.drop_append, written, List.drop_eq_nil_of_le (by omega),
    List.nil_append, List.drop_drop]
  have further : position + first.length + (position + first.length + second.length -
      (position + first.length)) = position + (first.length + second.length) := by omega
  rw [further, List.append_assoc, List.append_assoc, List.append_assoc, List.append_assoc]

end Writer

namespace Writes

variable {body first second : Write Unit} {bytes front back : Bytes}

theorem nothing : Writes (pure ()) [] := by
  intro writer room
  simp [Writer.after, pure, EStateM.pure]

theorem putBytes (bytes : Bytes) : Writes (Writer.putBytes bytes) bytes := by
  intro writer room
  simp only [Writer.putBytes, if_pos room]
  rfl

theorem putU8 (value : UInt8) : Writes (Writer.putU8 value) [value] := .putBytes [value]

theorem putU16 (value : UInt16) : Writes (Writer.putU16 value) (Writer.bigEndian value) :=
  .putBytes _

/-- One body after another writes its bytes behind the other's. -/
theorem seq (before : Writes first front) (behind : Writes second back) :
    Writes (do first; second) (front ++ back) := by
  intro writer room
  have frontRoom : writer.position + front.length ≤ writer.buffer.length := by
    simp only [List.length_append] at room
    omega
  have backRoom : (writer.after front).position + back.length ≤
      (writer.after front).buffer.length := by
    rw [Writer.length_buffer_after frontRoom]
    simp only [Writer.after, List.length_append] at room ⊢
    omega
  have written := behind _ backRoom
  rw [Writer.after_after room] at written
  simp only [bind, EStateM.bind, before writer frontRoom, written]

/-- A list of parts is written part after part. -/
theorem forM {α : Type} {part : α → Write Unit} {partBytes : α → Bytes} {items : List α}
    (parts : ∀ item ∈ items, Writes (part item) (partBytes item)) :
    Writes (items.forM part) (items.flatMap partBytes) := by
  induction items with
  | nil => exact .nothing
  | cons item items ih =>
    refine .seq (parts item List.mem_cons_self) (ih fun other isOther => ?_)
    exact parts other (List.mem_cons_of_mem _ isOther)

end Writes

/-- A text behind its length, as the wire carries it. -/
def Writer.textField (text : String) : Bytes :=
  bigEndian text.utf8ByteSize.toUInt16 ++ Utf8.encode text

@[simp] theorem Writer.length_textField (text : String) :
    (textField text).length = 2 + text.utf8ByteSize := by
  simp only [textField, bigEndian, List.length_append, Utf8.length_encode, List.length_cons,
    List.length_nil]

theorem Writes.putText {text : String} (short : text.utf8ByteSize ≤ 65535) :
    Writes (Writer.putText text) (Writer.textField text) := by
  have within : ¬text.utf8ByteSize > 65535 := by omega
  simp only [Writer.putText, if_neg within]
  exact .seq (.putU16 _) (.putBytes _)

/-! ## Bodies -/

/-- The bytes of a connection request behind its header. -/
def Connect.layout (request : Connect) : Bytes :=
  Writer.textField "MQTT" ++ ([protocolLevel] ++ ([if request.cleanSession then 2 else 0] ++
    (Writer.bigEndian request.keepAlive ++ Writer.textField request.clientId)))

/-- The bytes of a message behind its header. -/
def Publish.layout (message : Publish) : Bytes :=
  Writer.textField message.topic ++
    ((if message.qos = .atMostOnce then [] else message.packetId.elim [] Writer.bigEndian) ++
      message.payload)

/-- The bytes of a subscription behind its header. -/
def Subscribe.layout (request : Subscribe) : Bytes :=
  Writer.bigEndian request.packetId ++
    request.topics.flatMap fun (topic, qos) => Writer.textField topic ++ [qos.code]

theorem Connect.writes_body {request : Connect} (short : request.clientId.utf8ByteSize ≤ 65535) :
    Writes request.body request.layout :=
  .seq (.putText (by decide)) (.seq (.putU8 _) (.seq (.putU8 _) (.seq (.putU16 _) (.putText short))))

theorem Publish.writes_body {message : Publish} (short : message.topic.utf8ByteSize ≤ 65535)
    (identified : message.qos ≠ .atMostOnce → message.packetId ≠ none) :
    Writes message.body message.layout := by
  unfold body layout
  refine .seq (.putText short) ?_
  by_cases silent : message.qos = .atMostOnce
  · simp only [silent, ne_eq, not_true_eq_false, if_false, if_true]
    exact .seq .nothing (.putBytes _)
  · obtain ⟨packetId, isId⟩ := Option.ne_none_iff_exists'.mp (identified silent)
    simp only [silent, ne_eq, not_false_eq_true, if_true, if_false, isId, Option.elim_some]
    exact .seq (.putU16 packetId) (.putBytes _)

theorem Subscribe.writes_body {request : Subscribe}
    (short : ∀ topic ∈ request.topics, topic.1.utf8ByteSize ≤ 65535) :
    Writes request.body request.layout := by
  refine .seq (.putU16 _) (.forM fun topic isTopic => ?_)
  exact .seq (.putText (short topic isTopic)) (.putU8 _)

/-! ## Frames -/

/-- What stands at the start of a buffer with an encoded packet: the type byte, the shortest
spelling of the length of a body, and the body. -/
def Encoded.Carries (encoded : Encoded) (first : UInt8) (body : Bytes) : Prop :=
  ∃ lengthField, Varint.Shortest lengthField body.length ∧
    encoded.bytes = first :: (lengthField ++ body) ∧
    encoded.length = 1 + lengthField.length + body.length

/-- A header over the reserved bytes leaves the body alone, and the body moves down to it
whole, however long the header is. -/
theorem Encoded.take_copyWithin {buffer front body : Bytes} {reserve : Nat}
    (fits : front.length ≤ reserve)
    (stands : (buffer.drop reserve).take body.length = body) :
    (copyWithin (overwrite buffer front) reserve body.length front.length).take
      (front.length + body.length) = front ++ body := by
  have gap : front.length + (reserve - front.length) = reserve := by omega
  have behind : (overwrite buffer front).drop reserve = buffer.drop reserve := by
    rw [overwrite, List.drop_append, List.drop_eq_nil_of_le fits, List.nil_append, List.drop_drop,
      gap]
  rw [copyWithin, behind, stands, overwrite, List.take_left]
  exact List.take_left' (by rw [List.length_append])

/-- A body whose bytes have room behind the reserve is framed, in place. -/
theorem Encoded.frame_of_writes {buffer bytes : Bytes} {header : UInt8} {body : Write Unit}
    (writes : Writes body bytes) (room : headerReserve + bytes.length ≤ buffer.length)
    (short : bytes.length ≤ Varint.maximum) :
    ∃ encoded, Encoded.frame buffer header body = .ok encoded ∧
      encoded.Carries header bytes ∧ encoded.buffer.length = buffer.length := by
  have reserve : ¬buffer.length < headerReserve := by omega
  have start : (Writer.startAt buffer headerReserve).position + bytes.length ≤
      (Writer.startAt buffer headerReserve).buffer.length := room
  let written := (Writer.startAt buffer headerReserve).after bytes
  let front := header :: Varint.encode bytes.length
  have groups := Varint.length_encode_le_four_iff.mpr short
  have frontShort : front.length ≤ headerReserve := Nat.succ_le_succ groups
  have remaining : written.position - headerReserve = bytes.length := Nat.add_sub_cancel_left _ _
  have stands : (written.buffer.drop headerReserve).take bytes.length = bytes := by
    have before : (buffer.take headerReserve).length = headerReserve :=
      List.length_take_of_le (Nat.not_lt.mp reserve)
    simp only [written, Writer.after, Writer.startAt]
    rw [List.append_assoc, List.drop_left' before, List.take_left]
  have size : written.buffer.length = buffer.length := Writer.length_buffer_after start
  have framed : Encoded.frame buffer header body = .ok
      ⟨copyWithin (overwrite written.buffer front) headerReserve bytes.length front.length,
        front.length + bytes.length⟩ := by
    have field := Varint.write_reserved_iff.mpr ⟨short, rfl⟩
    have length : front.length = 1 + (Varint.encode bytes.length).length := Nat.add_comm _ 1
    simp only [Encoded.frame, if_neg reserve, writes _ start]
    rw [show (Writer.after _ _).position - headerReserve = bytes.length from remaining, field,
      length]
    simp only [bind, Except.bind, List.take_left]
    rfl
  refine ⟨_, framed, ⟨Varint.encode bytes.length, Varint.shortest_iff.mpr rfl, ?_, ?_⟩, ?_⟩
  · exact take_copyWithin frontShort stands
  · simp only [front, List.length_cons]
    omega
  · simp only [copyWithin, overwrite, List.length_append, List.length_take, List.length_drop, size]
    omega

/-- A body whose bytes have room behind the reserve is framed. -/
theorem Encoded.exists_frame {buffer bytes : Bytes} {header : UInt8} {body : Write Unit}
    (writes : Writes body bytes) (room : headerReserve + bytes.length ≤ buffer.length)
    (short : bytes.length ≤ Varint.maximum) :
    ∃ encoded, Encoded.frame buffer header body = .ok encoded := by
  obtain ⟨encoded, framed, -⟩ := Encoded.frame_of_writes writes room short
  exact ⟨encoded, framed⟩

/-- A packet as sessions send it: its texts and its payload keep to the limits. -/
inductive Outbound.Modest : Outbound → Prop where
  | connect {request : Connect} (short : request.clientId.utf8ByteSize ≤ Limits.clientId) :
      Modest (.connect request)
  | publish {message : Publish} (topic : message.topic.utf8ByteSize ≤ Limits.topic)
      (payload : message.payload.length ≤ Limits.payload)
      (identified : message.qos ≠ .atMostOnce → message.packetId ≠ none) :
      Modest (.publish message)
  | subscribe {packetId : UInt16} {topic : String} {qos : QoS}
      (short : topic.utf8ByteSize ≤ Limits.topic) :
      Modest (.subscribe ⟨packetId, [(topic, qos)]⟩)
  | acknowledge (kind : Acknowledgement) (packetId : UInt16) : Modest (.acknowledge kind packetId)
  | pingReq : Modest .pingReq
  | disconnect : Modest .disconnect

theorem Outbound.exists_encode {packet : Outbound} {capacity : Nat}
    (encodes : ∃ encoded, packet.encodeInto (.replicate capacity 0) = .ok encoded) :
    ∃ frame, packet.encode capacity = .ok frame := by
  obtain ⟨encoded, encodes⟩ := encodes
  exact ⟨encoded.bytes, by rw [encode, encodes]; rfl⟩

/-- What a session sends fits its buffer. -/
theorem Outbound.Modest.exists_frame {packet : Outbound} (modest : packet.Modest)
    {capacity : Nat} (wide : Limits.packetBuffer ≤ capacity) :
    ∃ frame, packet.encode capacity = .ok frame := by
  refine exists_encode ?_
  simp only [Limits.packetBuffer] at wide
  cases modest with
  | @connect request short =>
    have length : request.layout.length = 12 + request.clientId.utf8ByteSize := by
      have protocolName : "MQTT".utf8ByteSize = 4 := by decide
      simp only [Connect.layout, Writer.bigEndian, List.length_append, Writer.length_textField,
        protocolName, List.length_cons, List.length_nil]
      omega
    simp only [Limits.clientId] at short
    refine Encoded.exists_frame (Connect.writes_body (by omega)) ?_ ?_
    · simp only [length, Encoded.headerReserve, List.length_replicate]
      omega
    · simp only [length, Varint.maximum]
      omega
  | @publish message topic payload identified =>
    have identifier : (if message.qos = .atMostOnce then []
        else message.packetId.elim [] Writer.bigEndian).length ≤ 2 := by
      split
      · exact Nat.zero_le 2
      · cases message.packetId with
        | none => exact Nat.zero_le 2
        | some packetId => exact Nat.le_refl 2
    have length : message.layout.length ≤
        4 + message.topic.utf8ByteSize + message.payload.length := by
      simp only [Publish.layout, List.length_append, Writer.length_textField]
      omega
    simp only [Limits.topic, Limits.payload] at topic payload
    refine Encoded.exists_frame (Publish.writes_body (by omega) identified) ?_ ?_
    · simp only [Encoded.headerReserve, List.length_replicate]
      omega
    · simp only [Varint.maximum]
      omega
  | @subscribe packetId topic qos short =>
    have length : (Subscribe.layout ⟨packetId, [(topic, qos)]⟩).length =
        5 + topic.utf8ByteSize := by
      simp only [Subscribe.layout, Writer.bigEndian, List.flatMap_cons, List.flatMap_nil,
        List.length_append, Writer.length_textField, List.length_cons, List.length_nil]
      omega
    simp only [Limits.topic] at short
    refine Encoded.exists_frame (Subscribe.writes_body ?_) ?_ ?_
    · simp only [List.mem_singleton, forall_eq]
      omega
    · simp only [length, Encoded.headerReserve, List.length_replicate]
      omega
    · simp only [length, Varint.maximum]
      omega
  | acknowledge kind packetId =>
    refine Encoded.exists_frame (.putU16 packetId) ?_ (by simp [Writer.bigEndian, Varint.maximum])
    simp only [Writer.bigEndian, List.length_cons, List.length_nil, Encoded.headerReserve,
      List.length_replicate]
    omega
  | pingReq | disconnect =>
    have room : 0 + 2 ≤ capacity := by omega
    simp only [encodeInto, Encoded.bare, Writer.putBytes, Writer.startAt, List.length_cons,
      List.length_nil, List.length_replicate, if_pos room]
    exact ⟨_, rfl⟩

end Uplink
