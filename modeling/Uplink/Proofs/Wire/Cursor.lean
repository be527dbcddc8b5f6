import Mathlib.Order.Bounds.Defs
import Uplink.Proofs.Wire.Header

/-!
# Variable-byte integers in place

A value is written at the front of a buffer, in as few bytes as hold it, and is read at a
cursor anywhere in one. `Varint.WrittenAs` says what writing a value comes to, in every
buffer, and that it is read back wherever the written bytes stand. `Varint.ReadFrom` says
what reading comes to at every cursor of every buffer, also behind its end: a value, a fault
or a wait, and that the cursor moves past a value only. What is read does not have to be the
shortest spelling, but each length has one spelling of a value at most.
-/

namespace Uplink.Varint

variable {field buffer : Bytes} {value cursor : Nat}

/-- Bytes that all announce a further one. -/
def Unended (bytes : Bytes) : Prop := ∀ byte ∈ bytes, 128 ≤ byte.toNat

theorem unended_cons {byte : UInt8} {rest : Bytes} :
    Unended (byte :: rest) ↔ 128 ≤ byte.toNat ∧ Unended rest := List.forall_mem_cons

/-! ## Verdicts of a reader -/

section

variable {groups : Nat} {byte : UInt8} {bytes rest : Bytes}

/-- A byte that announces a further one leaves the verdict to the bytes behind it, unless
they hold a value. -/
theorem readGroups_cons_eq_iff (continued : 128 ≤ byte.toNat)
    {verdict : Except ProtocolError (Option (Nat × Nat))}
    (valueless : ∀ found, verdict ≠ .ok (some found)) :
    readGroups (groups + 1) (byte :: rest) = verdict ↔ readGroups groups rest = verdict := by
  rw [readGroups, if_neg (Nat.not_lt.mpr continued)]
  split
  · next value size isRest =>
    rw [isRest]
    exact iff_of_false (valueless _).symm (valueless _).symm
  · rfl

/-- Reading waits exactly when the bytes end before the last one of a value and before the
last one that a value can have. -/
theorem readGroups_eq_none_iff :
    readGroups groups bytes = .ok none ↔ bytes.length < groups ∧ Unended bytes := by
  induction groups generalizing bytes with
  | zero => exact iff_of_false nofun fun short => absurd short.1 (Nat.not_lt_zero _)
  | succ groups ih =>
    cases bytes with
    | nil => exact iff_of_true rfl ⟨Nat.succ_pos groups, nofun⟩
    | cons byte rest =>
      rw [unended_cons]
      by_cases continued : 128 ≤ byte.toNat
      · rw [readGroups_cons_eq_iff continued (by simp), ih, List.length_cons,
          Nat.succ_lt_succ_iff]
        simp only [continued, true_and]
      · refine iff_of_false (fun waits => ?_) fun unended => continued unended.2.1
        rw [readGroups, if_pos (Nat.not_le.mp continued)] at waits
        cases waits

/-- Reading fails exactly when as many bytes as a value can have all announce a further one. -/
theorem readGroups_eq_error_iff {fault : ProtocolError} :
    readGroups groups bytes = .error fault ↔
      fault = .malformedPacket ∧ groups ≤ bytes.length ∧ Unended (bytes.take groups) := by
  induction groups generalizing bytes with
  | zero =>
    refine ⟨fun fails => ⟨(Except.error.inj fails).symm, Nat.zero_le _, nofun⟩, ?_⟩
    rintro ⟨rfl, -⟩
    rfl
  | succ groups ih =>
    cases bytes with
    | nil => exact iff_of_false nofun fun long => absurd long.2.1 (Nat.not_succ_le_zero groups)
    | cons byte rest =>
      rw [List.take_succ_cons, unended_cons]
      by_cases continued : 128 ≤ byte.toNat
      · rw [readGroups_cons_eq_iff continued (by simp), ih, List.length_cons,
          Nat.succ_le_succ_iff]
        simp only [continued, true_and]
      · refine iff_of_false (fun fails => ?_) fun unended => continued unended.2.2.1
        rw [readGroups, if_pos (Nat.not_le.mp continued)] at fails
        cases fails

end

/-! ## Writing -/

/-- The written form of a value has the least number of bytes that can hold it. -/
theorem isLeast_length_encode (value : Nat) :
    IsLeast {size | 1 ≤ size ∧ value < 128 ^ size} (encode value).length := by
  have spelled := spells_encode value
  refine ⟨⟨spelled.length_pos, spelled.lt_pow⟩, ?_⟩
  rintro size ⟨positive, holds⟩
  exact length_encode_le positive holds

/-- What writing a value comes to: these bytes, in every buffer that has room for them. -/
structure WrittenAs (value : Nat) (field : Bytes) : Prop where
  /-- They are as few as can hold the value. -/
  width : IsLeast {size | 1 ≤ size ∧ value < 128 ^ size} field.length
  /-- The value is written exactly when it is not too large and the buffer has room; the bytes
  behind stay as they were. -/
  write_eq_ok_iff : ∀ buffer after size, write buffer value = .ok (after, size) ↔
    (value ≤ 268435455 ∧ field.length ≤ buffer.length) ∧
      after = field ++ buffer.drop field.length ∧ size = field.length
  /-- It is read back wherever these bytes stand, and the cursor moves behind them. -/
  readBack : value ≤ 268435455 → ∀ front behind,
    readAt (front ++ field ++ behind) front.length =
      (.ok (some value), front.length + field.length)

theorem writtenAs_encode (value : Nat) : WrittenAs value (encode value) where
  width := isLeast_length_encode value
  write_eq_ok_iff buffer after size := by
    rw [write]
    split
    · next large =>
      refine iff_of_false (fun written => ?_) fun fits => absurd fits.1.1 (Nat.not_le.mpr large)
      cases written
    · next small =>
      have fits : value ≤ 268435455 := Nat.not_lt.mp small
      dsimp only
      split
      · next room => simp [fits, room, eq_comm]
      · next short => simp [short]
  readBack small front behind := by
    have short := length_encode_le_four_iff.mpr small
    have isRead : read (encode value ++ behind) = .ok (some (value, (encode value).length)) :=
      readGroups_of_spells (spells_encode value) short behind
    rw [readAt, List.append_assoc, List.drop_left, isRead]

/-! ## Reading -/

/-- A value is read at a cursor exactly when a spelling of it stands there. -/
theorem readAt_eq_some_iff {position : Nat} :
    readAt buffer cursor = (.ok (some value), position) ↔
      ∃ field rest, buffer.drop cursor = field ++ rest ∧ Spells field value ∧
        field.length ≤ 4 ∧ position = cursor + field.length := by
  unfold readAt
  split
  · next found size isRead =>
    have spelling := read_eq_some_iff.mp isRead
    constructor
    · rintro ⟨⟩
      obtain ⟨field, rest, isField, spelled, rfl, short⟩ := spelling
      exact ⟨field, rest, isField, spelled, short, rfl⟩
    · rintro ⟨field, rest, isField, spelled, short, rfl⟩
      have again := read_eq_some_iff.mpr ⟨field, rest, isField, spelled, rfl, short⟩
      cases isRead.symm.trans again
      rfl
  · next unread =>
    refine iff_of_false nofun ?_
    rintro ⟨field, rest, isField, spelled, short, rfl⟩
    cases unread.symm.trans (read_eq_some_iff.mpr ⟨field, rest, isField, spelled, rfl, short⟩)
  · next fault unread =>
    refine iff_of_false nofun ?_
    rintro ⟨field, rest, isField, spelled, short, rfl⟩
    cases unread.symm.trans (read_eq_some_iff.mpr ⟨field, rest, isField, spelled, rfl, short⟩)

/-- Where there is no value, reading at a cursor tells the verdict on the bytes from it on. -/
theorem fst_readAt_eq_none_iff :
    (readAt buffer cursor).1 = .ok none ↔ read (buffer.drop cursor) = .ok none := by
  unfold readAt
  split <;> simp [*]

theorem fst_readAt_eq_error_iff {fault : ProtocolError} :
    (readAt buffer cursor).1 = .error fault ↔ read (buffer.drop cursor) = .error fault := by
  unfold readAt
  split <;> simp [*]

theorem exists_value_of_moved (moved : (readAt buffer cursor).2 ≠ cursor) :
    ∃ value, (readAt buffer cursor).1 = .ok (some value) := by
  unfold readAt at moved ⊢
  split at moved
  · next value size isRead => exact ⟨value, rfl⟩
  · exact absurd rfl moved
  · exact absurd rfl moved

/-- What reading comes to at a cursor of a buffer. -/
structure ReadFrom (buffer : Bytes) (cursor : Nat) : Prop where
  /-- The cursor only moves past a value. -/
  moved : (readAt buffer cursor).2 ≠ cursor → ∃ value, (readAt buffer cursor).1 = .ok (some value)
  /-- A value moves it by one to four bytes, which spell the value and can hold no larger one
  than fits their number. -/
  value : ∀ value, (readAt buffer cursor).1 = .ok (some value) → ∃ size, 1 ≤ size ∧ size ≤ 4 ∧
    value < 128 ^ size ∧ Spells ((buffer.drop cursor).take size) value ∧
    (readAt buffer cursor).2 = cursor + size
  /-- Four bytes that all announce a further one are malformed, and nothing else is. -/
  malformed : ∀ fault, (readAt buffer cursor).1 = .error fault ↔ fault = .malformedPacket ∧
    4 ≤ (buffer.drop cursor).length ∧ Unended ((buffer.drop cursor).take 4)
  /-- Reading waits exactly when fewer bytes are left, and all announce a further one. -/
  waits : (readAt buffer cursor).1 = .ok none ↔
    (buffer.drop cursor).length < 4 ∧ Unended (buffer.drop cursor)
  /-- The same value in as many bytes, wherever it is read, is spelled by the same bytes. -/
  spelling : ∀ value size other otherCursor,
    readAt buffer cursor = (.ok (some value), cursor + size) →
    readAt other otherCursor = (.ok (some value), otherCursor + size) →
    (buffer.drop cursor).take size = (other.drop otherCursor).take size

theorem readFrom (buffer : Bytes) (cursor : Nat) : ReadFrom buffer cursor where
  moved := exists_value_of_moved
  value value isValue := by
    obtain ⟨field, rest, isField, spelled, short, moves⟩ :=
      readAt_eq_some_iff.mp (Prod.ext isValue rfl)
    refine ⟨field.length, spelled.length_pos, short, spelled.lt_pow, ?_, moves⟩
    rwa [isField, List.take_left]
  malformed fault := by
    rw [fst_readAt_eq_error_iff, read, readGroups_eq_error_iff]
  waits := by
    rw [fst_readAt_eq_none_iff, read, readGroups_eq_none_iff]
  spelling value size other otherCursor isRead alsoRead := by
    obtain ⟨field, rest, isField, spelled, -, moves⟩ := readAt_eq_some_iff.mp isRead
    obtain ⟨otherField, otherRest, isOther, otherSpelled, -, otherMoves⟩ :=
      readAt_eq_some_iff.mp alsoRead
    obtain rfl := Nat.add_left_cancel moves
    have lengths := Nat.add_left_cancel otherMoves
    rw [isField, isOther, List.take_left, List.take_left' lengths.symm]
    exact spelled.eq_of_length otherSpelled rfl lengths

/-- Every value is written in one way, the shortest there is, wherever the buffer has room for
it, and is read back from it at every cursor. Reading ends in one of three ways, each for its
own cause, and the cursor moves past a value only. -/
theorem written_and_read :
    (∀ value, ∃ field, WrittenAs value field) ∧ ∀ buffer cursor, ReadFrom buffer cursor :=
  ⟨fun value => ⟨encode value, writtenAs_encode value⟩, readFrom⟩

/-- The largest value that two bytes hold, read behind a type byte. -/
example : readAt [0x30, 0xFF, 0x7F, 0x00] 1 = (.ok (some 16383), 3) := rfl

end Uplink.Varint
