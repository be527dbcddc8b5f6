import Uplink.Proofs.Packet.Completeness
import Uplink.Proofs.Wire.Cursor

/-!
# Verdicts of framing

`Frame.length?` judges the bytes at hand: a frame is complete, a frame cannot be assembled, or
more bytes are needed. The first two verdicts are final, and the third can always be overcome:
the bytes at hand begin a complete frame that is longer. A frame that is found complete is the
one that a reader of packets splits off, with or without the bytes behind it, whichever of its
spellings the length has.
-/

namespace Uplink

/-- Bytes that all announce a further one become a value with a last byte. -/
theorem Varint.exists_spells_of_unended {front : Bytes} (unended : Varint.Unended front) :
    ∃ value, Varint.Spells (front ++ [0]) value := by
  induction front with
  | nil => exact ⟨_, .last (by decide)⟩
  | cons byte rest ih =>
    obtain ⟨continued, unended⟩ := unended_cons.mp unended
    obtain ⟨value, spelled⟩ := ih unended
    exact ⟨_, .more continued spelled⟩

namespace Frame

variable {bytes : Bytes} {capacity length : Nat}

/-- A frame is measured exactly when a complete one is in front and the capacity suffices
for it. -/
theorem length?_eq_some_iff :
    length? bytes capacity = .ok (some length) ↔
      ∃ (whole : Whole) (rest : Bytes), bytes = whole.bytes ++ rest ∧
        whole.bytes.length = length ∧ length ≤ capacity := by
  constructor
  · intro verdict
    have found := length?_cases bytes capacity
    rw [verdict] at found
    cases found with
    | complete whole rest fits => exact ⟨whole, rest, rfl, rfl, fits⟩
  · rintro ⟨whole, rest, rfl, rfl, fits⟩
    rw [length?_whole, if_pos fits]

/-- Where more bytes are needed, some complete frame begins with those that are there. -/
theorem exists_whole_of_incomplete (waits : length? bytes capacity = .ok none) :
    ∃ (more : Bytes) (whole : Whole), bytes ++ more = whole.bytes := by
  have found := length?_cases bytes capacity
  rw [waits] at found
  cases found with
  | empty => exact ⟨[0, 0], ⟨0, [0], [], .last (by decide), by decide⟩, rfl⟩
  | @cut first behind unread =>
    -- End the length, and supply the body that it then announces.
    obtain ⟨cut, unended⟩ := Varint.readGroups_eq_none_iff.mp unread
    obtain ⟨size, spelled⟩ := Varint.exists_spells_of_unended unended
    have body : (List.replicate size (0 : UInt8)).length = size := List.length_replicate
    refine ⟨0 :: .replicate size 0,
      ⟨first, behind ++ [0], .replicate size 0, body.symm ▸ spelled, ?_⟩, ?_⟩
    · rw [List.length_append, List.length_singleton]
      omega
    · rw [Whole.bytes, List.append_assoc, List.singleton_append, List.cons_append]
  | @lacking first lengthField rest size spelled short _ lacks =>
    -- Supply what the body lacks.
    have body : (rest ++ .replicate (size - rest.length) 0).length = size := by
      rw [List.length_append, List.length_replicate]
      omega
    refine ⟨.replicate (size - rest.length) 0,
      ⟨first, lengthField, rest ++ .replicate (size - rest.length) 0,
        body.symm ▸ spelled, short⟩, ?_⟩
    rw [Whole.bytes, List.cons_append, List.append_assoc]

/-! ## What is read of a complete frame -/

/-- A complete frame is split off whatever stands behind it. -/
theorem split_whole (whole : Whole) (rest : Bytes) :
    split (whole.bytes ++ rest) = .ok (whole.flags, ⟨whole.body⟩) :=
  split_eq_ok_iff.mpr ⟨whole, rest, rfl, rfl, rfl⟩

theorem split_whole_alone (whole : Whole) :
    split whole.bytes = .ok (whole.flags, ⟨whole.body⟩) := by
  rw [← List.append_nil whole.bytes, split_whole]

/-- What is read of a complete frame, and how reading it fails, is up to the frame alone. -/
theorem read_whole_append {α : Type} (whole : Whole) (rest : Bytes) (fields : UInt8 → Read α) :
    read (whole.bytes ++ rest) fields = read whole.bytes fields := by
  simp only [read, split_whole, split_whole_alone]

end Frame

namespace Inbound

theorem decodeAs_whole_append (kind : Kind) (whole : Frame.Whole) (rest : Bytes) :
    decodeAs kind (whole.bytes ++ rest) = decodeAs kind whole.bytes := by
  cases kind with
  | connAck | publish | acknowledge | subAck => simp only [decodeAs, Frame.read_whole_append]
  | pingResp => rfl

/-- A complete frame is decoded alike, also into the same fault, whatever stands behind it. -/
theorem decode_whole_append (whole : Frame.Whole) (rest : Bytes) :
    decode (whole.bytes ++ rest) = decode whole.bytes := by
  have alike (kind : Kind) := decodeAs_whole_append kind whole rest
  simp only [Frame.Whole.bytes, List.cons_append] at alike ⊢
  simp only [decode, alike]

end Inbound

namespace Frame

variable {bytes : Bytes} {capacity length : Nat}

/-- The first `length` bytes are a frame of which framing and reading make the same: the flags
and the body that the reader splits off, with and without the bytes behind, are those of the
frame, whose body begins where the reader of lengths stops. -/
structure CutAlike (bytes : Bytes) (length : Nat) : Prop where
  split : ∃ whole : Whole, bytes.take length = whole.bytes ∧
    Varint.readAt bytes 1 = (.ok (some whole.body.length), 1 + whole.lengthField.length) ∧
    Frame.split (bytes.take length) = .ok (whole.flags, ⟨whole.body⟩) ∧
    Frame.split bytes = .ok (whole.flags, ⟨whole.body⟩)
  decode : Inbound.decode bytes = Inbound.decode (bytes.take length)

theorem cutAlike_of_complete (complete : length? bytes capacity = .ok (some length)) :
    CutAlike bytes length := by
  obtain ⟨whole, rest, rfl, rfl, -⟩ := length?_eq_some_iff.mp complete
  have cut : (whole.bytes ++ rest).take whole.bytes.length = whole.bytes := List.take_left
  refine ⟨⟨whole, cut, ?_, ?_, split_whole whole rest⟩, ?_⟩
  · refine Varint.readAt_eq_some_iff.mpr
      ⟨whole.lengthField, whole.body ++ rest, ?_, whole.spells, whole.short, rfl⟩
    rw [Whole.bytes, List.cons_append, List.drop_succ_cons, List.drop_zero, List.append_assoc]
  · rw [cut, split_whole_alone]
  · rw [cut, Inbound.decode_whole_append]

/-- What is in front of bytes that need more needs more. -/
theorem incomplete_of_isPrefix {front : Bytes} (waits : length? bytes capacity = .ok none)
    (isFront : front <+: bytes) : length? front capacity = .ok none := by
  obtain ⟨more, rfl⟩ := isFront
  refine Classical.byContradiction fun decided => decided ?_
  rw [← length?_append decided more, waits]

/-- A verdict of framing other than "not yet" stands whatever follows. A frame that is found
complete lies within the bytes and the capacity, and is the one that is read. "Not yet" was the
verdict on all that came before, and some bytes bring about another one. -/
theorem verdicts_final (bytes : Bytes) (capacity : Nat) :
    (length? bytes capacity ≠ .ok none →
      ∀ more, length? (bytes ++ more) capacity = length? bytes capacity) ∧
    (∀ length, length? bytes capacity = .ok (some length) →
      length ≤ min bytes.length capacity ∧ CutAlike bytes length) ∧
    (length? bytes capacity = .ok none →
      (∃ more, length? (bytes ++ more) capacity ≠ .ok none) ∧
      ∀ front, front <+: bytes → length? front capacity = .ok none) := by
  refine ⟨length?_append, fun length complete => ⟨?_, cutAlike_of_complete complete⟩,
    fun waits => ⟨?_, fun front => incomplete_of_isPrefix waits⟩⟩
  · obtain ⟨-, -, -, -, fits⟩ := length?_eq_some_iff.mp complete
    exact Nat.le_min.mpr ⟨(length?_bounds complete).2, fits⟩
  · obtain ⟨more, whole, isWhole⟩ := exists_whole_of_incomplete waits
    have verdict := length?_whole whole [] capacity
    rw [List.append_nil, ← isWhole] at verdict
    refine ⟨more, ?_⟩
    rw [verdict]
    split <;> exact nofun

/-- An answer to a subscription whose length takes a byte more than it needs is cut off the
stream as it is read. -/
theorem verdicts_final_longLength :
    length? [0x90, 0x83, 0x00, 0x00, 0x09, 0x80, 0xD0] 8 = .ok (some 6) ∧
    CutAlike [0x90, 0x83, 0x00, 0x00, 0x09, 0x80, 0xD0] 6 :=
  have complete : length? [0x90, 0x83, 0x00, 0x00, 0x09, 0x80, 0xD0] 8 = .ok (some 6) := by rfl
  ⟨complete, ((verdicts_final _ 8).2.1 6 complete).2⟩

end Frame

end Uplink
