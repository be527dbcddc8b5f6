import Uplink.Proofs.Packet.Layout

/-!
# What is written is read back

A `Field` is a value that a single call writes, and its `Shape` is what a reader has to know
to ask for it. `Writer.Extends` is the order in which the states of a writer follow each
other: the position moves on within the buffer, and only what lies between the two positions
may have changed. Every call extends its writer, also one that fails, and a call that succeeds
adds the written form of its field and nothing else. So the calls of a sequence, as long as
all succeed, leave their written forms side by side, and these are read back one by one.
-/

namespace Uplink

/-! ## Fields -/

/-- A value that a single call writes. -/
inductive Field where
  | u8 (value : UInt8)
  | u16 (value : UInt16)
  | bytes (content : Bytes)
  | text (spoken : String)
deriving DecidableEq, Repr

namespace Field

/-- What a reader is asked for. Bytes are asked for by their number. -/
inductive Shape where
  | u8
  | u16
  | bytes (count : Nat)
  | text
deriving DecidableEq, Repr

/-- The shape under which a field is read back. -/
def shape : Field → Shape
  | u8 _ => .u8
  | u16 _ => .u16
  | bytes content => .bytes content.length
  | text _ => .text

/-- Write a field. -/
def put : Field → Write Unit
  | u8 value => Writer.putU8 value
  | u16 value => Writer.putU16 value
  | bytes content => Writer.putBytes content
  | text spoken => Writer.putText spoken

/-- The written form of a field. -/
def wire : Field → Bytes
  | u8 value => [value]
  | u16 value => Wire.number value.toNat
  | bytes content => content
  | text spoken => Wire.text spoken

/-- A field fits a writer: the buffer has room for its written form, and the length of a text
can be written in front of it. -/
structure Fits (field : Field) (writer : Writer) : Prop where
  room : writer.position + field.wire.length ≤ writer.buffer.length
  short : ∀ spoken, field = .text spoken → spoken.utf8ByteSize ≤ 65535

/-- Read a field of a shape. -/
def Shape.take : Shape → Read Field
  | u8 => Field.u8 <$> Reader.u8
  | u16 => Field.u16 <$> Reader.u16
  | bytes count => Field.bytes <$> Reader.bytes count
  | text => Field.text <$> Reader.text

/-- Read fields of some shapes one after the other. -/
def Shape.takeAll : List Shape → Read (List Field)
  | [] => pure []
  | shape :: shapes => do
    let field ← shape.take
    let fields ← takeAll shapes
    return field :: fields

/-- A field whose length can be written is read back in front of any bytes. -/
theorem take_wire {field : Field} (rest : Bytes)
    (short : ∀ spoken, field = .text spoken → spoken.utf8ByteSize ≤ 65535) :
    field.shape.take ⟨field.wire ++ rest⟩ = .ok field ⟨rest⟩ := by
  cases field with
  | u8 value => exact Fallible.map_eq_ok_iff.mpr ⟨value, Reader.u8_eq_ok_iff.mpr rfl, rfl⟩
  | u16 value => exact Fallible.map_eq_ok_iff.mpr ⟨value, Reader.u16_eq_ok_iff.mpr rfl, rfl⟩
  | bytes content =>
    exact Fallible.map_eq_ok_iff.mpr ⟨content, Reader.bytes_eq_ok_iff.mpr ⟨rfl, rfl⟩, rfl⟩
  | text spoken =>
    refine Fallible.map_eq_ok_iff.mpr ⟨spoken, Reader.text_eq_ok_iff.mpr ⟨rfl, ?_⟩, rfl⟩
    exact Nat.lt_succ_of_le (short spoken rfl)

theorem takeAll_wire {fields : List Field} (rest : Bytes)
    (short : ∀ spoken, .text spoken ∈ fields → spoken.utf8ByteSize ≤ 65535) :
    Shape.takeAll (fields.map shape) ⟨fields.flatMap wire ++ rest⟩ = .ok fields ⟨rest⟩ := by
  induction fields with
  | nil => rfl
  | cons field fields ih =>
    have first := take_wire (fields.flatMap wire ++ rest)
      fun spoken isText => short spoken (isText ▸ List.mem_cons_self)
    have others := ih fun spoken listed => short spoken (List.mem_cons_of_mem _ listed)
    rw [List.map_cons, List.flatMap_cons, List.append_assoc, Shape.takeAll]
    refine Fallible.bind_eq_ok_iff.mpr ⟨field, _, first, ?_⟩
    exact Fallible.bind_eq_ok_iff.mpr ⟨fields, _, others, rfl⟩

end Field

namespace Writer

/-! ## Writers that follow each other -/

/-- A writer has moved on within its buffer, and the bytes before the earlier and behind the
later position are as they were. -/
structure Extends (later earlier : Writer) : Prop where
  size : later.buffer.length = earlier.buffer.length
  onward : earlier.position ≤ later.position
  within : earlier.position ≤ earlier.buffer.length → later.position ≤ later.buffer.length
  front : later.buffer.take earlier.position = earlier.buffer.take earlier.position
  behind : later.buffer.drop later.position = earlier.buffer.drop later.position

namespace Extends

theorem refl (writer : Writer) : writer.Extends writer := ⟨rfl, Nat.le_refl _, id, rfl, rfl⟩

theorem trans {later between earlier : Writer} (second : later.Extends between)
    (first : between.Extends earlier) : later.Extends earlier where
  size := second.size.trans first.size
  onward := Nat.le_trans first.onward second.onward
  within inside := second.within (first.within inside)
  front := by
    have shorter (bytes : Bytes) :
        (bytes.take between.position).take earlier.position = bytes.take earlier.position := by
      rw [List.take_take, Nat.min_eq_left first.onward]
    rw [← shorter, second.front, shorter, first.front]
  behind := by
    have farther (bytes : Bytes) :
        (bytes.drop between.position).drop (later.position - between.position) =
          bytes.drop later.position := by
      rw [List.drop_drop, Nat.add_sub_cancel' second.onward]
    rw [second.behind, ← farther, first.behind, farther]

end Extends

variable {writer left : Writer} {field : Field} {fields : List Field}

/-- A writer that takes bytes for which it has room is extended. -/
theorem extends_after {bytes : Bytes}
    (room : writer.position + bytes.length ≤ writer.buffer.length) :
    (writer.after bytes).Extends writer where
  size := length_buffer_after room
  onward := Nat.le_add_right _ _
  within _ := (length_buffer_after room).symm ▸ room
  front := by
    have front : (writer.buffer.take writer.position).length = writer.position :=
      List.length_take_of_le (by omega)
    rw [after, List.append_assoc]
    exact List.take_left' front
  behind := by
    have written : (writer.buffer.take writer.position ++ bytes).length =
        writer.position + bytes.length := by
      rw [List.length_append, List.length_take_of_le (by omega)]
    exact List.drop_left' written

/-! ## Single calls -/

/-- How a call that writes a field can end. -/
inductive PutCase (writer : Writer) (field : Field) :
    EStateM.Result ProtocolError Writer Unit → Prop where
  | written (fits : field.Fits writer) : PutCase writer field (.ok () (writer.after field.wire))
  | refused {fault : ProtocolError} (unfit : ¬field.Fits writer) :
      PutCase writer field (.error fault writer)
  /-- The length of a text still has room, and the text has not. -/
  | cut {spoken : String} (isText : field = .text spoken) (unfit : ¬field.Fits writer)
      (room : writer.position + (Wire.number spoken.utf8ByteSize).length ≤ writer.buffer.length) :
      PutCase writer field
        (.error .bufferTooSmall (writer.after (Wire.number spoken.utf8ByteSize)))

theorem putBytes_of_full {bytes : Bytes}
    (full : ¬writer.position + bytes.length ≤ writer.buffer.length) :
    putBytes bytes writer = .error .bufferTooSmall writer := if_neg full

/-- A text whose length can be written is put as that number and then its bytes. -/
theorem putText_of_short {spoken : String} (short : spoken.utf8ByteSize ≤ 65535) :
    putText spoken =
      (do putBytes (Wire.number spoken.utf8ByteSize); putBytes (Utf8.encode spoken)) := by
  have within : ¬spoken.utf8ByteSize > 65535 := Nat.not_lt.mpr short
  have size : bigEndian spoken.utf8ByteSize.toUInt16 = Wire.number spoken.utf8ByteSize := by
    rw [bigEndian_eq]
    exact congrArg Wire.number (UInt16.toNat_ofNat_of_lt (Nat.lt_succ_of_le short))
  simp only [putText, if_neg within, putU16, size]

/-- Bytes that are the written form of a field without a length are written or refused. -/
theorem putCase_bytes {bytes : Bytes} (isWire : field.wire = bytes)
    (untexted : ∀ spoken, field ≠ .text spoken) : PutCase writer field (putBytes bytes writer) := by
  subst isWire
  by_cases room : writer.position + field.wire.length ≤ writer.buffer.length
  · rw [Writes.putBytes _ writer room]
    exact .written ⟨room, fun spoken isText => absurd isText (untexted spoken)⟩
  · rw [putBytes_of_full room]
    exact .refused fun fits => room fits.room

theorem putCase_text (writer : Writer) (spoken : String) :
    PutCase writer (.text spoken) (putText spoken writer) := by
  by_cases short : spoken.utf8ByteSize ≤ 65535
  · rw [putText_of_short short]
    by_cases wide : writer.position + (Wire.text spoken).length ≤ writer.buffer.length
    · rw [(Writes.putBytes _).seq (Writes.putBytes _) writer wide]
      exact .written ⟨wide, fun _ isText => Field.text.inj isText ▸ short⟩
    · have unfit : ¬(Field.text spoken).Fits writer := fun fits => wide fits.room
      by_cases room : writer.position + (Wire.number spoken.utf8ByteSize).length ≤
          writer.buffer.length
      · have full : ¬(writer.after (Wire.number spoken.utf8ByteSize)).position +
            (Utf8.encode spoken).length ≤
              (writer.after (Wire.number spoken.utf8ByteSize)).buffer.length := by
          rw [length_buffer_after room]
          rwa [Wire.text, List.length_append, ← Nat.add_assoc] at wide
        simp only [bind, EStateM.bind, Writes.putBytes _ writer room, putBytes_of_full full]
        exact .cut rfl unfit room
      · simp only [bind, EStateM.bind, putBytes_of_full room]
        exact .refused unfit
  · have beyond : spoken.utf8ByteSize > 65535 := Nat.not_le.mp short
    simp only [putText, if_pos beyond]
    exact .refused fun fits => short (fits.short spoken rfl)

theorem put_cases (writer : Writer) (field : Field) : PutCase writer field (field.put writer) := by
  cases field with
  | u8 value => exact putCase_bytes rfl nofun
  | u16 value => exact putCase_bytes (bigEndian_eq value).symm nofun
  | bytes content => exact putCase_bytes rfl nofun
  | text spoken => exact putCase_text writer spoken

/-- A field is written exactly when it fits, as its written form. -/
theorem put_eq_ok_iff : field.put writer = .ok () left ↔
    field.Fits writer ∧ left = writer.after field.wire := by
  have ends := put_cases writer field
  generalize field.put writer = outcome at ends
  cases ends with
  | written fits => simp [fits, eq_comm]
  | refused unfit | cut isText unfit => simp [unfit]

/-- A call that fails leaves the writer as it was, or the length of a text behind. -/
theorem eq_or_of_put_eq_error {fault : ProtocolError} (fails : field.put writer = .error fault left) :
    left = writer ∨ ∃ spoken, field = .text spoken ∧
      writer.position + (Wire.number spoken.utf8ByteSize).length ≤ writer.buffer.length ∧
      left = writer.after (Wire.number spoken.utf8ByteSize) := by
  have ends := put_cases writer field
  rw [fails] at ends
  cases ends with
  | refused => exact .inl rfl
  | cut isText unfit room => exact .inr ⟨_, isText, room, rfl⟩

/-! ## Sequences of calls -/

/-- The writer behind a call, whether or not it succeeded. -/
def call (writer : Writer) (field : Field) : Writer :=
  match field.put writer with
  | .ok _ left | .error _ left => left

/-- The writer behind a sequence of calls. A call that fails does not stop the sequence. -/
def calls (writer : Writer) (fields : List Field) : Writer := fields.foldl call writer

/-- Every call of a sequence succeeds. -/
def Accepts (writer : Writer) : List Field → Prop
  | [] => True
  | field :: fields =>
    (∃ left, field.put writer = .ok () left) ∧ (writer.call field).Accepts fields

theorem extends_call (writer : Writer) (field : Field) : (writer.call field).Extends writer := by
  unfold call
  split
  · next isPut =>
    obtain ⟨fits, rfl⟩ := put_eq_ok_iff.mp isPut
    exact extends_after fits.room
  · next fails =>
    rcases eq_or_of_put_eq_error fails with rfl | ⟨spoken, -, room, rfl⟩
    · exact .refl _
    · exact extends_after room

theorem extends_calls (writer : Writer) (fields : List Field) :
    (writer.calls fields).Extends writer := by
  induction fields generalizing writer with
  | nil => exact .refl writer
  | cons field fields ih => exact (ih (writer.call field)).trans (extends_call writer field)

theorem calls_append (writer : Writer) (earlier later : List Field) :
    writer.calls (earlier ++ later) = (writer.calls earlier).calls later := List.foldl_append

/-- What calls that all succeed have needed, and what they leave: their written forms, side by
side. -/
structure Wrote (writer : Writer) (fields : List Field) : Prop where
  room : writer.position + (fields.flatMap Field.wire).length ≤ writer.buffer.length
  short : ∀ spoken, .text spoken ∈ fields → spoken.utf8ByteSize ≤ 65535
  calls_eq : writer.calls fields = writer.after (fields.flatMap Field.wire)

theorem wrote_of_accepts (within : writer.position ≤ writer.buffer.length)
    (accepts : writer.Accepts fields) : writer.Wrote fields := by
  induction fields generalizing writer with
  | nil =>
    refine ⟨within, nofun, ?_⟩
    rw [calls, List.foldl_nil, List.flatMap_nil, after, List.append_nil, List.length_nil,
      Nat.add_zero, List.take_append_drop]
  | cons field fields ih =>
    obtain ⟨⟨left, isPut⟩, accepts⟩ := accepts
    have called : writer.call field = left := by rw [call, isPut]
    obtain ⟨fits, rfl⟩ := put_eq_ok_iff.mp isPut
    rw [called] at accepts
    have extended := extends_after fits.room
    obtain ⟨room, short, calls⟩ := ih (extended.within within) accepts
    have whole : writer.position + (field.wire ++ fields.flatMap Field.wire).length ≤
        writer.buffer.length := by
      rw [extended.size] at room
      rwa [List.length_append, ← Nat.add_assoc]
    refine ⟨whole, ?_, ?_⟩
    · intro spoken listed
      rcases List.mem_cons.mp listed with isText | listed
      · exact fits.short spoken isText.symm
      · exact short spoken listed
    · rw [List.flatMap_cons, ← after_after whole, ← calls, Writer.calls, List.foldl_cons, called]
      rfl

/-- The bytes between the positions of two writers that share a buffer. -/
def written (start left : Writer) : Bytes := (left.buffer.take left.position).drop start.position

theorem written_after {bytes : Bytes}
    (room : writer.position + bytes.length ≤ writer.buffer.length) :
    writer.written (writer.after bytes) = bytes := by
  have front : (writer.buffer.take writer.position).length = writer.position :=
    List.length_take_of_le (by omega)
  have whole : (writer.buffer.take writer.position ++ bytes).length =
      writer.position + bytes.length := by rw [List.length_append, front]
  rw [written, after, List.take_left' whole]
  exact List.drop_left' front

/-- What a sequence of calls on a writer comes to. -/
structure Mirrored (start : Writer) (fields : List Field) : Prop where
  /-- The position never decreases on the way. -/
  onward : ∀ earlier later, fields = earlier ++ later →
    (start.calls earlier).position ≤ (start.calls fields).position
  /-- It stays within the buffer, which keeps its size. -/
  within : (start.calls fields).position ≤ (start.calls fields).buffer.length
  size : (start.calls fields).buffer.length = start.buffer.length
  /-- The bytes before the start are untouched. -/
  front : (start.calls fields).buffer.take start.position = start.buffer.take start.position
  /-- The bytes from the final position on are untouched. -/
  behind : (start.calls fields).buffer.drop (start.calls fields).position =
    start.buffer.drop (start.calls fields).position
  /-- A call succeeds exactly when its field fits, and then adds its written form. -/
  succeeds : ∀ (field : Field) (left : Writer), field.put (start.calls fields) = .ok () left ↔
    field.Fits (start.calls fields) ∧ left = (start.calls fields).after field.wire
  /-- A call that fails changes nothing, except that the length of a text can stay behind. -/
  fails : ∀ (field : Field) (fault : ProtocolError) (left : Writer),
    field.put (start.calls fields) = .error fault left →
    left = start.calls fields ∨ ∃ spoken : String, field = .text spoken ∧
      left = (start.calls fields).after (Wire.number spoken.utf8ByteSize)
  /-- If all calls succeeded, their fields are read back from between the two positions, and
  nothing is left over. -/
  readBack : start.Accepts fields →
    Field.Shape.takeAll (fields.map Field.shape) ⟨start.written (start.calls fields)⟩ =
      .ok fields ⟨[]⟩

/-- Whatever is called on a writer that starts within its buffer stays between its start and
its position, a failed call leaves the length of a text behind at most, and what was written
without a failure is read back as it was given. -/
theorem mirrored (start : Writer) (fields : List Field)
    (within : start.position ≤ start.buffer.length) : start.Mirrored fields := by
  have extended := extends_calls start fields
  refine ⟨?_, extended.within within, extended.size, extended.front, extended.behind, ?_, ?_, ?_⟩
  · rintro earlier later rfl
    rw [calls_append]
    exact (extends_calls _ later).onward
  · exact fun field left => put_eq_ok_iff
  · intro field fault left fails
    rcases eq_or_of_put_eq_error fails with same | ⟨spoken, isText, -, isLeft⟩
    · exact .inl same
    · exact .inr ⟨spoken, isText, isLeft⟩
  · intro accepts
    obtain ⟨room, short, isCalls⟩ := wrote_of_accepts within accepts
    rw [isCalls, written_after room, ← List.append_nil (fields.flatMap Field.wire)]
    exact Field.takeAll_wire [] short

/-- A text behind a number, written from the second byte of a buffer on and read back. -/
theorem mirrored_greeting :
    (startAt (.replicate 9 0xAA) 1).position ≤ (startAt (.replicate 9 0xAA) 1).buffer.length ∧
    (startAt (.replicate 9 0xAA) 1).Accepts [.u16 260, .text "hi", .bytes [7]] ∧
    Field.Shape.takeAll [.u16, .text, .bytes 1] ⟨[1, 4, 0, 2, 104, 105, 7]⟩ =
      .ok [.u16 260, .text "hi", .bytes [7]] ⟨[]⟩ := by
  have within : (startAt (.replicate 9 0xAA) 1).position ≤
      (startAt (.replicate 9 0xAA) 1).buffer.length := by decide
  have accepts : (startAt (.replicate 9 0xAA) 1).Accepts [.u16 260, .text "hi", .bytes [7]] :=
    ⟨⟨_, rfl⟩, ⟨_, rfl⟩, ⟨_, rfl⟩, trivial⟩
  exact ⟨within, accepts, (mirrored _ _ within).readBack accepts⟩

end Writer

end Uplink
