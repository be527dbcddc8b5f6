import Mathlib.Algebra.Group.Nat.Defs
import Uplink.Proofs.Wire.Fields
import Uplink.Proofs.Wire.Framing

/-!
# Headers

A frame begins with its type byte and the length of its body. `Varint.Spells` says which
bytes stand for a length, without a reader or a writer: the reader accepts exactly the
spellings of at most four bytes, and `Varint.encode` is the shortest of all spellings.

`Frame.Whole` is a complete frame in its three parts. `Frame.length?` and `Frame.split` parse
the header independently of each other; both find exactly the complete frame that some bytes
begin with. `Frame.LengthCase` lists the verdicts of the first, each with what it says of the
bytes.
-/

namespace Uplink

namespace Varint

/-- The bytes that stand for a value: groups of seven bits, the least significant group
first, and the top bit set in every byte but the last. -/
inductive Spells : (field : Bytes) → (value : Nat) → Prop
  | last {byte : UInt8} (final : byte.toNat < 128) : Spells [byte] byte.toNat
  | more {byte : UInt8} {rest : Bytes} {value : Nat} (continued : 128 ≤ byte.toNat)
      (spelled : Spells rest value) :
      Spells (byte :: rest) (byte.toNat - 128 + 128 * value)

/-- A spelling of a value than which no other is shorter. -/
structure Shortest (field : Bytes) (value : Nat) : Prop where
  spells : Spells field value
  least : ∀ other, Spells other value → field.length ≤ other.length

variable {field other : Bytes} {value : Nat}

/-- A spelling of some bytes has a value below that power of 128. -/
theorem Spells.lt_pow (spelled : Spells field value) : value < 128 ^ field.length := by
  induction spelled with
  | last final => exact final
  | @more byte rest value continued spelled ih =>
    have bound := byte.toNat_lt
    rw [List.length_cons, Nat.pow_succ]
    omega

/-- A value has one spelling of each length at most. -/
theorem Spells.eq_of_length {same : Nat} (spelled : Spells field value)
    (also : Spells other same) (values : value = same) (lengths : field.length = other.length) :
    field = other := by
  induction spelled generalizing other same with
  | last final =>
    cases also with
    | last => rw [UInt8.toNat_inj.mp values]
    | more _ spelled => cases spelled <;> simp at lengths
  | @more byte rest value continued spelled ih =>
    cases also with
    | last => cases spelled <;> simp at lengths
    | @more otherByte otherRest otherValue otherContinued otherSpelled =>
      have bound := byte.toNat_lt
      have otherBound := otherByte.toNat_lt
      have bytes : byte.toNat = otherByte.toNat := by omega
      rw [UInt8.toNat_inj.mp bytes,
        ih otherSpelled (by omega) (Nat.succ.inj lengths)]

theorem spells_encode (value : Nat) : Spells (encode value) value := by
  induction value using Nat.strongRecOn with
  | ind value ih =>
    rw [encode]
    split
    · next small =>
      have byte : value.toUInt8.toNat = value := Nat.mod_eq_of_lt (by omega)
      have spelled : Spells [value.toUInt8] value.toUInt8.toNat := .last (by omega)
      rwa [byte] at spelled
    · next large =>
      have byte : (value % 128 + 128).toUInt8.toNat = value % 128 + 128 :=
        Nat.mod_eq_of_lt (by omega)
      have continued : 128 ≤ (value % 128 + 128).toUInt8.toNat := by omega
      have spelled := Spells.more continued (ih (value / 128) (by omega))
      have whole : (value % 128 + 128).toUInt8.toNat - 128 + 128 * (value / 128) = value := by
        omega
      rwa [whole] at spelled

theorem Spells.length_encode_le (spelled : Spells field value) :
    (encode value).length ≤ field.length := by
  induction spelled with
  | last final =>
    rw [encode, if_pos final]
    exact Nat.le_refl 1
  | @more byte rest value continued spelled ih =>
    have bound := byte.toNat_lt
    rw [encode]
    split
    · exact Nat.succ_le_succ (Nat.zero_le _)
    · have quotient : (byte.toNat - 128 + 128 * value) / 128 = value := by omega
      rw [quotient, List.length_cons, List.length_cons]
      exact Nat.succ_le_succ ih

/-- The written form of a value is its shortest spelling, and the only one of its length. -/
theorem shortest_iff : Shortest field value ↔ field = encode value := by
  constructor
  · rintro ⟨spelled, least⟩
    refine spelled.eq_of_length (spells_encode value) rfl ?_
    exact Nat.le_antisymm (least _ (spells_encode value)) spelled.length_encode_le
  · rintro rfl
    exact ⟨spells_encode value, fun _ spelled => spelled.length_encode_le⟩

theorem Spells.length_pos (spelled : Spells field value) : 0 < field.length := by
  cases spelled <;> exact Nat.succ_pos _

/-! ## Reading and writing -/

theorem readGroups_of_spells {groups : Nat} (spelled : Spells field value)
    (short : field.length ≤ groups) (rest : Bytes) :
    readGroups groups (field ++ rest) = .ok (some (value, field.length)) := by
  induction spelled generalizing groups with
  | last final =>
    obtain ⟨groups, rfl⟩ := Nat.exists_eq_add_of_le' short
    simp [readGroups, final]
  | @more byte tail value continued spelled ih =>
    have bound := byte.toNat_lt
    obtain ⟨groups, rfl⟩ := Nat.exists_eq_add_of_le' (Nat.le_trans (Nat.succ_pos tail.length) short)
    have notFinal : ¬byte.toNat < 128 := by omega
    have low : byte.toNat % 128 = byte.toNat - 128 := by omega
    have isRead := ih (Nat.succ_le_succ_iff.mp short)
    simp [readGroups, notFinal, low, isRead]

theorem spells_of_readGroups {groups size : Nat} {bytes : Bytes}
    (isRead : readGroups groups bytes = .ok (some (value, size))) :
    ∃ field rest, bytes = field ++ rest ∧ Spells field value ∧ field.length = size ∧
      size ≤ groups := by
  induction groups generalizing bytes value size with
  | zero => cases isRead
  | succ groups ih =>
    cases bytes with
    | nil => cases isRead
    | cons byte tail =>
      have bound := byte.toNat_lt
      simp only [readGroups] at isRead
      split at isRead
      · next final =>
        cases isRead
        exact ⟨[byte], tail, rfl, .last final, rfl, Nat.succ_le_succ (Nat.zero_le _)⟩
      · next notFinal =>
        split at isRead
        · next isRest =>
          cases isRead
          obtain ⟨field, rest, rfl, spelled, rfl, short⟩ := ih isRest
          have low : byte.toNat % 128 = byte.toNat - 128 := by omega
          refine ⟨byte :: field, rest, rfl, ?_, rfl, Nat.succ_le_succ short⟩
          rw [low]
          exact .more (by omega) spelled
        · next unread => exact absurd isRead (unread value size)

/-- A value is read exactly when a spelling of it of at most four bytes is in front. -/
theorem read_eq_some_iff {bytes : Bytes} {size : Nat} :
    read bytes = .ok (some (value, size)) ↔
      ∃ field rest, bytes = field ++ rest ∧ Spells field value ∧ field.length = size ∧
        size ≤ 4 := by
  constructor
  · exact spells_of_readGroups
  · rintro ⟨field, rest, rfl, spelled, rfl, short⟩
    exact readGroups_of_spells spelled short rest

/-- A value below `128 ^ groups` is written in that many bytes. -/
theorem length_encode_le {groups : Nat} (positive : 0 < groups)
    (small : value < 128 ^ groups) : (encode value).length ≤ groups := by
  induction groups generalizing value with
  | zero => omega
  | succ groups ih =>
    rw [encode]
    split
    · exact positive
    · next large =>
      have groupsPositive : 0 < groups := by
        refine Nat.pos_of_ne_zero ?_
        rintro rfl
        exact large (by simpa using small)
      have rest : value / 128 < 128 ^ groups := by
        rw [Nat.div_lt_iff_lt_mul (by decide), ← Nat.pow_succ]
        exact small
      exact Nat.succ_le_succ (ih groupsPositive rest)

/-- Four bytes suffice exactly for the values up to the maximum. -/
theorem length_encode_le_four_iff : (encode value).length ≤ 4 ↔ value ≤ maximum := by
  have power : 128 ^ 4 = maximum + 1 := rfl
  constructor
  · intro short
    have below := Nat.lt_of_lt_of_le (spells_encode value).lt_pow
      (Nat.pow_le_pow_right (by decide) short)
    omega
  · intro small
    exact length_encode_le (by decide) (by omega)

/-- Writing into four bytes succeeds exactly for the values up to the maximum. -/
theorem write_reserved_iff {written : Bytes × Nat} :
    write [0, 0, 0, 0] value = .ok written ↔
      value ≤ maximum ∧
        written = (encode value ++ [0, 0, 0, 0].drop (encode value).length,
          (encode value).length) := by
  rw [write]
  split
  · next large => simp [Nat.not_le.mpr large]
  · next small =>
    have short := length_encode_le_four_iff.mpr (Nat.not_lt.mp small)
    simp [short, Nat.not_lt.mp small, eq_comm]

end Varint

theorem Reader.varint_eq_ok_iff {reader left : Reader} {value : Nat} :
    varint reader = .ok value left ↔
      ∃ field, reader.remaining = field ++ left.remaining ∧ Varint.Spells field value ∧
        field.length ≤ 4 := by
  obtain ⟨remaining⟩ := reader
  obtain ⟨after⟩ := left
  constructor
  · intro isRead
    simp only [varint] at isRead
    split at isRead
    · next size isValue =>
      cases isRead
      obtain ⟨field, rest, rfl, spelled, rfl, short⟩ := Varint.read_eq_some_iff.mp isValue
      exact ⟨field, by rw [List.drop_left], spelled, short⟩
    · cases isRead
    · cases isRead
  · rintro ⟨field, rfl, spelled, short⟩
    have isValue := Varint.read_eq_some_iff.mpr ⟨field, after, rfl, spelled, rfl, short⟩
    simp [varint, isValue]

namespace Frame

/-- A complete frame: its type byte, the length of its body in at most four bytes, and the
body. -/
structure Whole where
  first : UInt8
  lengthField : Bytes
  body : Bytes
  spells : Varint.Spells lengthField body.length
  short : lengthField.length ≤ 4

namespace Whole

/-- The bytes of a frame. -/
def bytes (whole : Whole) : Bytes := whole.first :: (whole.lengthField ++ whole.body)

/-- The four bits beside the control type. -/
def flags (whole : Whole) : UInt8 := whole.first &&& 0x0F

@[simp] theorem length_bytes (whole : Whole) :
    whole.bytes.length = 1 + whole.lengthField.length + whole.body.length := by
  rw [bytes, List.length_cons, List.length_append]
  omega

/-- The length of a body stays within what four bytes can carry. -/
theorem length_body_le (whole : Whole) : whole.body.length ≤ Varint.maximum := by
  have power : 128 ^ 4 = Varint.maximum + 1 := rfl
  have below := Nat.lt_of_lt_of_le whole.spells.lt_pow
    (Nat.pow_le_pow_right (by decide) whole.short)
  omega

theorem read_lengthField (whole : Whole) (rest : Bytes) :
    Varint.read (whole.lengthField ++ (whole.body ++ rest)) =
      .ok (some (whole.body.length, whole.lengthField.length)) :=
  Varint.read_eq_some_iff.mpr ⟨_, _, rfl, whole.spells, rfl, whole.short⟩

/-- Some bytes begin with one complete frame at most. -/
theorem eq_of_append {whole other : Whole} {rest more : Bytes}
    (same : whole.bytes ++ rest = other.bytes ++ more) : whole = other := by
  obtain ⟨first, lengthField, body, spells, short⟩ := whole
  obtain ⟨otherFirst, otherField, otherBody, otherSpells, otherShort⟩ := other
  simp only [bytes, List.cons_append, List.append_assoc] at same
  obtain ⟨rfl, tails⟩ := List.cons.inj same
  have isRead := read_lengthField ⟨first, lengthField, body, spells, short⟩ rest
  have alsoRead := read_lengthField ⟨first, otherField, otherBody, otherSpells, otherShort⟩ more
  simp only [tails, alsoRead, Except.ok.injEq, Option.some.injEq, Prod.mk.injEq] at isRead
  obtain ⟨rfl, behind⟩ := List.append_inj tails isRead.2.symm
  obtain ⟨rfl, -⟩ := List.append_inj behind isRead.1.symm
  rfl

end Whole

variable {bytes : Bytes}

/-- A complete frame in front is measured, unless the capacity does not suffice for it. -/
theorem length?_whole (whole : Whole) (rest : Bytes) (capacity : Nat) :
    length? (whole.bytes ++ rest) capacity =
      if whole.bytes.length ≤ capacity then .ok (some whole.bytes.length)
      else .error .payloadTooLarge := by
  have there : 1 + whole.lengthField.length + whole.body.length ≤
      (whole.first :: (whole.lengthField ++ (whole.body ++ rest))).length := by
    simp only [List.length_cons, List.length_append]
    omega
  rw [Whole.length_bytes, Whole.bytes, List.cons_append, List.append_assoc]
  simp only [length?, whole.read_lengthField, if_pos there]
  split
  · next large => rw [if_neg (Nat.not_le.mpr large)]
  · next fits => rw [if_pos (Nat.not_lt.mp fits)]

/-- How the first frame of a buffer can be judged. -/
inductive LengthCase (capacity : Nat) : Bytes → Except ProtocolError (Option Nat) → Prop where
  | empty : LengthCase capacity [] (.ok none)
  | malformed {first : UInt8} {rest : Bytes} {fault : ProtocolError}
      (unread : Varint.read rest = .error fault) :
      LengthCase capacity (first :: rest) (.error fault)
  /-- The bytes end within the length. -/
  | cut {first : UInt8} {rest : Bytes} (unread : Varint.read rest = .ok none) :
      LengthCase capacity (first :: rest) (.ok none)
  | tooLarge {first : UInt8} {lengthField rest : Bytes} {size : Nat}
      (spelled : Varint.Spells lengthField size) (short : lengthField.length ≤ 4)
      (large : capacity < 1 + lengthField.length + size) :
      LengthCase capacity (first :: (lengthField ++ rest)) (.error .payloadTooLarge)
  /-- The bytes end within the body. -/
  | lacking {first : UInt8} {lengthField rest : Bytes} {size : Nat}
      (spelled : Varint.Spells lengthField size) (short : lengthField.length ≤ 4)
      (fits : 1 + lengthField.length + size ≤ capacity) (lacks : rest.length < size) :
      LengthCase capacity (first :: (lengthField ++ rest)) (.ok none)
  | complete (whole : Whole) (rest : Bytes) (fits : whole.bytes.length ≤ capacity) :
      LengthCase capacity (whole.bytes ++ rest) (.ok (some whole.bytes.length))

theorem length?_cases (bytes : Bytes) (capacity : Nat) :
    LengthCase capacity bytes (length? bytes capacity) := by
  cases bytes with
  | nil => exact .empty
  | cons first behind =>
    match header : Varint.read behind with
    | .error fault =>
      simp only [length?, header]
      exact .malformed header
    | .ok none =>
      simp only [length?, header]
      exact .cut header
    | .ok (some (size, width)) =>
      obtain ⟨lengthField, rest, rfl, spelled, rfl, short⟩ := Varint.read_eq_some_iff.mp header
      simp only [length?, header, List.length_cons, List.length_append]
      split
      · next large => exact .tooLarge spelled short large
      · next small =>
        have fits := Nat.not_lt.mp small
        split
        · next there =>
          obtain ⟨body, more, rfl, rfl⟩ : ∃ body more, rest = body ++ more ∧ body.length = size :=
            ⟨rest.take size, rest.drop size, (List.take_append_drop size rest).symm,
              List.length_take_of_le (by omega)⟩
          have isComplete := LengthCase.complete ⟨first, lengthField, body, spelled, short⟩ more
            (Nat.le_trans (Nat.le_of_eq (Whole.length_bytes _)) fits)
          rwa [Whole.length_bytes, Whole.bytes, List.cons_append, List.append_assoc] at isComplete
        · exact .lacking spelled short fits (by omega)

/-- The flags of a header and the body that it announces. -/
def header : Read (UInt8 × Bytes) := do
  let first ← Reader.u8
  let remaining ← Reader.varint
  let body ← Reader.bytes remaining
  return (first &&& 0x0F, body)

theorem header_eq_ok_iff {reader left : Reader} {flags : UInt8} {body : Bytes} :
    header reader = .ok (flags, body) left ↔
      ∃ whole : Whole, reader.remaining = whole.bytes ++ left.remaining ∧
        flags = whole.flags ∧ body = whole.body := by
  simp only [header, Fallible.bind_eq_ok_iff, Reader.u8_eq_ok_iff, Reader.varint_eq_ok_iff,
    Reader.bytes_eq_ok_iff, Fallible.pure_eq_ok_iff]
  constructor
  · rintro ⟨first, afterFirst, isFirst, size, afterSize, ⟨field, isField, spelled, short⟩,
      taken, afterBody, ⟨isBody, rfl⟩, parts, rfl⟩
    cases parts
    refine ⟨⟨first, field, body, spelled, short⟩, ?_, rfl, rfl⟩
    rw [isFirst, isField, isBody, Whole.bytes, List.cons_append, List.append_assoc]
  · rintro ⟨whole, isWhole, rfl, rfl⟩
    refine ⟨whole.first, ⟨whole.lengthField ++ (whole.body ++ left.remaining)⟩, ?_,
      whole.body.length, ⟨whole.body ++ left.remaining⟩,
      ⟨whole.lengthField, rfl, whole.spells, whole.short⟩, whole.body, left, ⟨rfl, rfl⟩, rfl, rfl⟩
    rw [isWhole, Whole.bytes, List.cons_append, List.append_assoc]

theorem split_of_header {flags : UInt8} {body : Bytes} {left : Reader}
    (isHeader : header ⟨bytes⟩ = .ok (flags, body) left) : split bytes = .ok (flags, ⟨body⟩) := by
  unfold header at isHeader
  simp only [split, isHeader]

theorem split_of_fault {fault : ProtocolError} {left : Reader}
    (fails : header ⟨bytes⟩ = .error fault left) : split bytes = .error fault := by
  unfold header at fails
  simp only [split, fails]

/-- A frame is split off exactly when a complete one is in front. -/
theorem split_eq_ok_iff {flags : UInt8} {reader : Reader} :
    split bytes = .ok (flags, reader) ↔
      ∃ (whole : Whole) (rest : Bytes),
        bytes = whole.bytes ++ rest ∧ flags = whole.flags ∧ reader = ⟨whole.body⟩ := by
  constructor
  · intro isSplit
    cases parts : header ⟨bytes⟩ with
    | ok found left =>
      cases (split_of_header parts).symm.trans isSplit
      obtain ⟨whole, isWhole, isFlags, isBody⟩ := header_eq_ok_iff.mp parts
      exact ⟨whole, left.remaining, isWhole, isFlags, congrArg Reader.mk isBody⟩
    | error fault left => cases (split_of_fault parts).symm.trans isSplit
  · rintro ⟨whole, rest, rfl, rfl, rfl⟩
    have isHeader : header ⟨whole.bytes ++ rest⟩ = .ok (whole.flags, whole.body) ⟨rest⟩ :=
      header_eq_ok_iff.mpr ⟨whole, rfl, rfl, rfl⟩
    exact split_of_header isHeader

/-- A frame is read as a packet exactly when a complete one is in front whose body reads as
that packet; the bytes behind it are not looked at. -/
theorem read_eq_ok_iff {α : Type} {fields : UInt8 → Read α} {packet : α} :
    read bytes fields = .ok packet ↔
      ∃ (whole : Whole) (rest : Bytes) (left : Reader),
        bytes = whole.bytes ++ rest ∧ fields whole.flags ⟨whole.body⟩ = .ok packet left := by
  simp only [read]
  constructor
  · intro isRead
    split at isRead
    · cases isRead
    · next flags reader isSplit =>
      obtain ⟨whole, rest, rfl, rfl, rfl⟩ := split_eq_ok_iff.mp isSplit
      split at isRead
      · next left isPacket =>
        cases isRead
        exact ⟨whole, rest, left, rfl, isPacket⟩
      · cases isRead
  · rintro ⟨whole, rest, left, rfl, isPacket⟩
    rw [split_eq_ok_iff.mpr ⟨whole, rest, rfl, rfl, rfl⟩]
    simp only [isPacket]

end Frame

end Uplink
