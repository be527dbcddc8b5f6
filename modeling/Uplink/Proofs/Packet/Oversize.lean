import Uplink.Proofs.Packet.Completeness
import Uplink.Proofs.Wire.Cursor

/-!
# What is too large to receive

A received packet is found too large for one of two causes. Its header announces a frame
beyond the capacity of the buffer, which shows before the frame is complete
(`Frame.Oversized`); or it is the answer to a subscription with more codes than a client
takes (`SubAck.Overfull`). Every other fault is reported under another name, so what was
found too large tells which of the two stands in front.

As long as neither shows and the frame is not complete, its bytes leave free space in every
buffer that a header fits: `Frame.length_lt_of_incomplete`.
-/

namespace Uplink

namespace Frame

variable {bytes : Bytes} {capacity : Nat}

/-- The header in front announces a frame of more than `capacity` bytes. -/
def Oversized (capacity : Nat) (bytes : Bytes) : Prop :=
  ∃ (first : UInt8) (lengthField rest : Bytes) (size : Nat),
    bytes = first :: (lengthField ++ rest) ∧ Varint.Spells lengthField size ∧
      lengthField.length ≤ 4 ∧ capacity < 1 + lengthField.length + size

/-- Framing only finds too large what announces that it is. -/
theorem length?_eq_tooLarge_iff :
    length? bytes capacity = .error .payloadTooLarge ↔ Oversized capacity bytes := by
  constructor
  · intro verdict
    have found := length?_cases bytes capacity
    rw [verdict] at found
    cases found with
    | malformed unread => cases (Varint.readGroups_eq_error_iff.mp unread).1
    | tooLarge spelled short large => exact ⟨_, _, _, _, rfl, spelled, short, large⟩
  · rintro ⟨first, lengthField, rest, size, rfl, spelled, short, large⟩
    have header := Varint.read_eq_some_iff.mpr ⟨lengthField, rest, rfl, spelled, rfl, short⟩
    have beyond : 1 + lengthField.length + size > capacity := large
    simp only [length?, header, if_pos beyond]

/-- The bytes of a frame that is not complete do not fill a buffer that has room for a
header, also when the header itself is cut. -/
theorem length_lt_of_incomplete (wide : 5 ≤ capacity) (waits : length? bytes capacity = .ok none) :
    bytes.length < capacity := by
  have found := length?_cases bytes capacity
  rw [waits] at found
  cases found with
  | empty => exact Nat.lt_of_lt_of_le (by decide) wide
  | cut unread =>
    have short := (Varint.readGroups_eq_none_iff.mp unread).1
    rw [List.length_cons]
    omega
  | lacking spelled short fits lacks =>
    rw [List.length_cons, List.length_append]
    omega

end Frame

/-! ## Reading -/

/-- An operation that never finds anything too large. -/
def Read.Spares {α : Type} (operation : Read α) : Prop :=
  ∀ reader left, operation reader ≠ .error .payloadTooLarge left

namespace Read.Spares

variable {α β : Type} {operation : Read α} {next : α → Read β}

theorem bind (first : Spares operation) (behind : ∀ value, Spares (next value)) :
    Spares (operation >>= next) := by
  intro reader left fails
  simp only [Bind.bind, EStateM.bind] at fails
  split at fails
  · next value between isFirst => exact behind value between left fails
  · next fault between isFirst =>
    cases fails
    exact first reader left isFirst

theorem pure (value : α) : Spares (Pure.pure value : Read α) := nofun

theorem throw {fault : ProtocolError} (other : fault ≠ .payloadTooLarge) :
    Spares (MonadExcept.throw fault : Read α) := by
  rintro reader left ⟨⟩
  exact other rfl

theorem map (first : Spares operation) (image : α → β) : Spares (image <$> operation) := by
  intro reader left fails
  simp only [Functor.map, EStateM.map] at fails
  split at fails
  · cases fails
  · next fault between isFirst =>
    cases fails
    exact first reader left isFirst

theorem u8 : Spares Reader.u8 := by
  intro reader left fails
  unfold Reader.u8 at fails
  split at fails <;> cases fails

theorem u16 : Spares Reader.u16 := by
  intro reader left fails
  unfold Reader.u16 at fails
  split at fails <;> cases fails

theorem bytes (count : Nat) : Spares (Reader.bytes count) := by
  intro reader left fails
  unfold Reader.bytes at fails
  split at fails <;> cases fails

theorem rest : Spares Reader.rest := nofun

theorem varint : Spares Reader.varint := by
  intro reader left fails
  unfold Reader.varint at fails
  split at fails
  · cases fails
  · cases fails
  · next fault isValue =>
    cases fails
    cases (Varint.readGroups_eq_error_iff.mp isValue).1

theorem text : Spares Reader.text := by
  refine .bind .u16 fun size => .bind (.bytes _) fun spelled => ?_
  split
  · exact .pure _
  · exact .throw nofun

end Read.Spares

theorem Frame.spares_header : Read.Spares Frame.header :=
  .bind .u8 fun _ => .bind .varint fun _ => .bind (.bytes _) fun _ => .pure _

theorem ConnAck.spares_fields : Read.Spares ConnAck.fields :=
  .bind .u8 fun _ => .bind .u8 fun _ => .pure _

theorem QoS.ne_tooLarge_of_ofCode {code : UInt8} {fault : ProtocolError}
    (fails : QoS.ofCode code = .error fault) : fault ≠ .payloadTooLarge := by
  unfold QoS.ofCode at fails
  rintro rfl
  split at fails
  · cases fails
  · split at fails
    · cases fails
    · split at fails <;> cases fails

theorem Publish.spares_fields (flags : UInt8) : Read.Spares (Publish.fields flags) := by
  unfold fields
  cases isCode : QoS.ofCode (flags >>> 1 &&& 3) with
  | error fault =>
    intro reader left fails
    cases fails
    exact QoS.ne_tooLarge_of_ofCode isCode rfl
  | ok qos =>
    refine .bind (.pure qos) fun qos => .bind .text fun topic => ?_
    dsimp only
    split
    · exact .bind (.pure _) fun _ => .bind .rest fun _ => .pure _
    · exact .bind (.map .u16 _) fun _ => .bind .rest fun _ => .pure _

/-- What is found too large in a complete frame is found in its body. -/
theorem Frame.read_eq_tooLarge_iff {α : Type} {frame : Bytes} {fields : UInt8 → Read α} :
    Frame.read frame fields = .error .payloadTooLarge ↔
      ∃ (whole : Frame.Whole) (rest : Bytes) (left : Reader), frame = whole.bytes ++ rest ∧
        fields whole.flags ⟨whole.body⟩ = .error .payloadTooLarge left := by
  simp only [Frame.read]
  constructor
  · intro fails
    split at fails
    · next fault isSplit =>
      cases parts : Frame.header ⟨frame⟩ with
      | ok found left => cases (Frame.split_of_header parts).symm.trans isSplit
      | error other left =>
        cases (Frame.split_of_fault parts).symm.trans isSplit
        cases fails
        exact absurd parts (Frame.spares_header _ _)
    · next flags reader isSplit =>
      obtain ⟨whole, rest, rfl, rfl, rfl⟩ := Frame.split_eq_ok_iff.mp isSplit
      split at fails
      · cases fails
      · next fault left isBody =>
        cases fails
        exact ⟨whole, rest, left, rfl, isBody⟩
  · rintro ⟨whole, rest, left, rfl, isBody⟩
    rw [Frame.split_eq_ok_iff.mpr ⟨whole, rest, rfl, rfl, rfl⟩]
    simp only [isBody]

namespace SubAck

/-- A complete answer to a subscription with more codes than a client takes. -/
def Overfull (frame : Bytes) : Prop :=
  ∃ (whole : Frame.Whole) (rest : Bytes) (packetId : UInt16) (codes : Bytes),
    frame = whole.bytes ++ rest ∧ whole.first.toNat / 16 = 9 ∧
      whole.body = Wire.number packetId.toNat ++ codes ∧ maxCodes < codes.length

theorem fields_eq_tooLarge_iff {body : Bytes} :
    (∃ left, fields ⟨body⟩ = .error .payloadTooLarge left) ↔
      ∃ (packetId : UInt16) (codes : Bytes),
        body = Wire.number packetId.toNat ++ codes ∧ maxCodes < codes.length := by
  constructor
  · rintro ⟨left, fails⟩
    simp only [fields, bind, EStateM.bind] at fails
    split at fails
    · next packetId between isId =>
      have parts := Reader.u16_eq_ok_iff.mp isId
      refine ⟨packetId, between.remaining, parts, ?_⟩
      simp only [Reader.rest] at fails
      split at fails
      · next large => exact large
      · cases fails
    · next fault between isFault =>
      cases fails
      exact absurd isFault (Read.Spares.u16 _ _)
  · rintro ⟨packetId, codes, rfl, large⟩
    have isId : Reader.u16 ⟨Wire.number packetId.toNat ++ codes⟩ = .ok packetId ⟨codes⟩ :=
      Reader.u16_eq_ok_iff.mpr rfl
    have beyond : codes.length > maxCodes := large
    refine ⟨⟨[]⟩, ?_⟩
    simp only [fields, bind, EStateM.bind, isId, Reader.rest, if_pos beyond]
    rfl

end SubAck

namespace Inbound

variable {frame : Bytes} {kind : Kind}

/-- Nothing is found too large in a body that spares the client that. -/
theorem read_spared {α : Type} {fields : UInt8 → Read α} (spares : ∀ flags, (fields flags).Spares)
    (build : α → Inbound) : (Frame.read frame fields).map build ≠ .error .payloadTooLarge := by
  rw [Ne, Except.map_eq_error_iff, Frame.read_eq_tooLarge_iff]
  rintro ⟨whole, rest, left, -, fails⟩
  exact spares whole.flags _ _ fails

/-- Only the answer to a subscription is found too large when it is read. -/
theorem decodeAs_eq_tooLarge_iff :
    decodeAs kind frame = .error .payloadTooLarge ↔
      kind = .subAck ∧ ∃ (whole : Frame.Whole) (rest : Bytes) (packetId : UInt16) (codes : Bytes),
        frame = whole.bytes ++ rest ∧ whole.body = Wire.number packetId.toNat ++ codes ∧
          SubAck.maxCodes < codes.length := by
  cases kind with
  | connAck => exact iff_of_false (read_spared (fun _ => ConnAck.spares_fields) connAck) nofun
  | publish => exact iff_of_false (read_spared Publish.spares_fields publish) nofun
  | acknowledge kind =>
    exact iff_of_false (read_spared (fun _ => Read.Spares.u16) (acknowledge kind)) nofun
  | pingResp => exact iff_of_false nofun nofun
  | subAck =>
    simp only [decodeAs, Except.map_eq_error_iff, Frame.read_eq_tooLarge_iff, true_and]
    constructor
    · rintro ⟨whole, rest, left, isWhole, fails⟩
      obtain ⟨packetId, codes, parts, large⟩ := SubAck.fields_eq_tooLarge_iff.mp ⟨left, fails⟩
      exact ⟨whole, rest, packetId, codes, isWhole, parts, large⟩
    · rintro ⟨whole, rest, packetId, codes, isWhole, parts, large⟩
      obtain ⟨left, fails⟩ := SubAck.fields_eq_tooLarge_iff.mpr ⟨packetId, codes, parts, large⟩
      exact ⟨whole, rest, left, isWhole, fails⟩

/-- Reading finds a packet too large exactly when it is an overfull answer to a
subscription. -/
theorem decode_eq_tooLarge_iff :
    decode frame = .error .payloadTooLarge ↔ SubAck.Overfull frame := by
  cases frame with
  | nil =>
    refine iff_of_false nofun ?_
    rintro ⟨whole, rest, _, _, isWhole, -⟩
    cases isWhole
  | cons first tail =>
    have code : (first >>> 4).toNat = first.toNat / 16 := by
      rw [UInt8.toNat_shiftRight, Nat.shiftRight_eq_div_pow]
      rfl
    simp only [decode]
    constructor
    · intro fails
      split at fails
      · next kind isKind =>
        obtain ⟨rfl, whole, rest, packetId, codes, isWhole, parts, large⟩ :=
          decodeAs_eq_tooLarge_iff.mp fails
        have sameFirst : whole.first = first := (List.cons.inj isWhole).1.symm
        refine ⟨whole, rest, packetId, codes, isWhole, ?_, parts, large⟩
        rw [sameFirst, ← code]
        exact Kind.ofCode?_eq_some_iff.mp isKind
      · cases fails
    · rintro ⟨whole, rest, packetId, codes, isWhole, isType, parts, large⟩
      have sameFirst : whole.first = first := (List.cons.inj isWhole).1.symm
      have isAnswer : (first >>> 4).toNat = Kind.controlType .subAck := by
        rw [code, ← sameFirst, isType]
        rfl
      rw [Kind.ofCode?_eq_some_iff.mpr isAnswer]
      exact decodeAs_eq_tooLarge_iff.mpr
        ⟨rfl, whole, rest, packetId, codes, isWhole, parts, large⟩

end Inbound

/-- Some bytes begin with the header of a frame that a buffer cannot hold, or with a complete
answer to a subscription that has too many codes. -/
def Frame.TooLarge (capacity : Nat) (bytes : Bytes) : Prop :=
  Oversized capacity bytes ∨
    ∃ length, length? bytes capacity = .ok (some length) ∧ SubAck.Overfull (bytes.take length)

end Uplink
