import Uplink.Wire.Reader
import Uplink.Wire.Writer

/-!
# Fields of a packet

`Wire.number` and `Wire.text` are the written forms of a 16-bit number and of a text. The
writer puts a number in this form, and each operation of a reader succeeds exactly when the
bytes in front spell the value that it returns; what it leaves are the bytes behind them.
-/

namespace Uplink

namespace Wire

/-- A 16-bit number: two bytes, the more significant one first. -/
def number (value : Nat) : Bytes := [(value / 256).toUInt8, (value % 256).toUInt8]

/-- A text: its length in bytes, then its UTF-8 form. -/
def text (text : String) : Bytes := number text.utf8ByteSize ++ Utf8.encode text

@[simp] theorem length_number (value : Nat) : (number value).length = 2 := rfl

@[simp] theorem length_text (spoken : String) : (text spoken).length = 2 + spoken.utf8ByteSize := by
  rw [text, List.length_append, length_number, Utf8.length_encode]

end Wire

/-! ## Numbers -/

theorem toNat_bigEndian (high low : UInt8) :
    (high.toUInt16 <<< 8 ||| low.toUInt16).toNat = 256 * high.toNat + low.toNat := by
  have highBound := high.toNat_lt
  have lowBound := low.toNat_lt
  have shifted : (high.toUInt16 <<< 8).toNat = 2 ^ 8 * high.toNat := by
    rw [UInt16.toNat_shiftLeft, UInt8.toNat_toUInt16, UInt16.toNat_ofNat, Nat.shiftLeft_eq]
    simp only [Nat.reducePow, Nat.reduceMod]
    omega
  rw [UInt16.toNat_or, shifted, UInt8.toNat_toUInt16,
    ← Nat.two_pow_add_eq_or_of_lt lowBound]

/-- The two bytes in front of some others are a number's only if it is made of them. -/
theorem Wire.number_eq_iff {value : UInt16} {high low : UInt8} :
    Wire.number value.toNat = [high, low] ↔ high.toUInt16 <<< 8 ||| low.toUInt16 = value := by
  have highBound := high.toNat_lt
  have lowBound := low.toNat_lt
  have bound := value.toNat_lt
  rw [Wire.number, ← UInt16.toNat_inj, toNat_bigEndian, List.cons.injEq, List.cons.injEq,
    ← UInt8.toNat_inj, ← UInt8.toNat_inj, UInt8.toNat_ofNat', UInt8.toNat_ofNat']
  simp only [and_true]
  omega

/-- Any two bytes are the number that they are made of. -/
theorem Wire.number_toNat (high low : UInt8) :
    Wire.number (256 * high.toNat + low.toNat) = [high, low] := by
  rw [← toNat_bigEndian, Wire.number_eq_iff]

/-- A text stands in front exactly when two bytes give the length of its UTF-8 form. -/
theorem Wire.text_append_iff {body behind : Bytes} {spoken : String} :
    body = Wire.text spoken ++ behind ∧ spoken.utf8ByteSize < 65536 ↔
      ∃ high low : UInt8, body = high :: low :: (Utf8.encode spoken ++ behind) ∧
        spoken.utf8ByteSize = 256 * high.toNat + low.toNat := by
  constructor
  · rintro ⟨rfl, short⟩
    let size := spoken.utf8ByteSize
    have high : (size / 256).toUInt8.toNat = size / 256 := Nat.mod_eq_of_lt (by omega)
    have low : (size % 256).toUInt8.toNat = size % 256 := Nat.mod_eq_of_lt (by omega)
    refine ⟨(size / 256).toUInt8, (size % 256).toUInt8, ?_, by omega⟩
    rw [Wire.text, Wire.number, List.append_assoc]
    rfl
  · rintro ⟨high, low, rfl, size⟩
    have highBound := high.toNat_lt
    have lowBound := low.toNat_lt
    refine ⟨?_, by omega⟩
    rw [Wire.text, size, Wire.number_toNat]
    rfl

theorem Writer.bigEndian_eq (value : UInt16) : bigEndian value = Wire.number value.toNat := by
  have bound := value.toNat_lt
  symm
  rw [bigEndian, Wire.number_eq_iff, ← UInt16.toNat_inj, toNat_bigEndian, UInt16.toNat_toUInt8,
    UInt16.toNat_toUInt8, UInt16.toNat_shiftRight, UInt16.toNat_ofNat, Nat.shiftRight_eq_div_pow]
  simp only [Nat.reducePow, Nat.reduceMod]
  omega

/-! ## Operations that can fail -/

namespace Fallible

variable {σ α β : Type} {state left : σ}

theorem pure_eq_ok_iff {value result : α} :
    (pure value : EStateM ProtocolError σ α) state = .ok result left ↔
      value = result ∧ state = left := by
  simp [pure, EStateM.pure]

theorem throw_ne_ok {fault : ProtocolError} {result : α} :
    (throw fault : EStateM ProtocolError σ α) state ≠ .ok result left := by
  rintro ⟨⟩

/-- An operation with a continuation ends as the continuation does behind it. -/
theorem bind_eq_ok_iff {first : EStateM ProtocolError σ α} {next : α → EStateM ProtocolError σ β}
    {result : β} :
    (first >>= next) state = .ok result left ↔
      ∃ value between, first state = .ok value between ∧ next value between = .ok result left := by
  simp only [bind, EStateM.bind]
  constructor
  · intro succeeds
    split at succeeds
    · next value between isFirst => exact ⟨value, between, isFirst, succeeds⟩
    · cases succeeds
  · rintro ⟨value, between, isFirst, succeeds⟩
    rw [isFirst]
    exact succeeds

theorem map_eq_ok_iff {first : EStateM ProtocolError σ α} {image : α → β} {result : β} :
    (image <$> first) state = .ok result left ↔
      ∃ value, first state = .ok value left ∧ image value = result := by
  simp only [Functor.map, EStateM.map]
  constructor
  · intro succeeds
    split at succeeds
    · next value between isFirst =>
      cases succeeds
      exact ⟨value, isFirst, rfl⟩
    · cases succeeds
  · rintro ⟨value, isFirst, rfl⟩
    rw [isFirst]

end Fallible

/-! ## What a read takes -/

namespace Reader

variable {reader left : Reader}

theorem u8_eq_ok_iff {byte : UInt8} :
    u8 reader = .ok byte left ↔ reader.remaining = byte :: left.remaining := by
  obtain ⟨remaining⟩ := reader
  obtain ⟨after⟩ := left
  cases remaining <;> simp [u8]

theorem bytes_eq_ok_iff {count : Nat} {taken : Bytes} :
    bytes count reader = .ok taken left ↔
      reader.remaining = taken ++ left.remaining ∧ taken.length = count := by
  obtain ⟨remaining⟩ := reader
  obtain ⟨after⟩ := left
  rw [bytes]
  constructor
  · intro isRead
    split at isRead
    · next enough =>
      cases isRead
      exact ⟨(List.take_append_drop count remaining).symm, List.length_take_of_le enough⟩
    · cases isRead
  · rintro ⟨rfl, rfl⟩
    simp

theorem u16_eq_ok_iff {value : UInt16} :
    u16 reader = .ok value left ↔ reader.remaining = Wire.number value.toNat ++ left.remaining := by
  obtain ⟨remaining⟩ := reader
  obtain ⟨after⟩ := left
  match remaining with
  | [] | [_] => simp [u16, Wire.number]
  | high :: low :: rest =>
    have parts : high :: low :: rest = Wire.number value.toNat ++ after ↔
        Wire.number value.toNat = [high, low] ∧ rest = after := by
      simp only [Wire.number, List.cons_append, List.nil_append, List.cons.injEq, and_true,
        and_assoc]
      simp only [eq_comm]
    rw [parts, Wire.number_eq_iff]
    simp [u16]

theorem rest_eq_ok_iff {taken : Bytes} :
    rest reader = .ok taken left ↔ reader.remaining = taken ∧ left.remaining = [] := by
  obtain ⟨remaining⟩ := reader
  obtain ⟨after⟩ := left
  simp [rest, eq_comm]

/-- A text is taken exactly when its written form is in front. -/
theorem text_eq_ok_iff {spoken : String} :
    text reader = .ok spoken left ↔
      reader.remaining = Wire.text spoken ++ left.remaining ∧ spoken.utf8ByteSize < 65536 := by
  simp only [text, Fallible.bind_eq_ok_iff, u16_eq_ok_iff, bytes_eq_ok_iff]
  constructor
  · rintro ⟨size, afterSize, isSize, spelled, afterText, ⟨isSpelled, length⟩, decoded⟩
    cases spells : Utf8.decode? spelled with
    | none =>
      rw [spells] at decoded
      exact absurd decoded Fallible.throw_ne_ok
    | some decodedText =>
      rw [spells] at decoded
      obtain ⟨rfl, rfl⟩ := Fallible.pure_eq_ok_iff.mp decoded
      have encoded := Utf8.encode_of_decode? spells
      have sized : decodedText.utf8ByteSize = size.toNat := by
        rw [← Utf8.length_encode, encoded, length]
      refine ⟨?_, sized ▸ size.toNat_lt⟩
      rw [isSize, isSpelled, Wire.text, sized, encoded, List.append_assoc]
  · rintro ⟨isText, short⟩
    have size : (UInt16.ofNat spoken.utf8ByteSize).toNat = spoken.utf8ByteSize :=
      UInt16.toNat_ofNat_of_lt short
    refine ⟨.ofNat spoken.utf8ByteSize, ⟨Utf8.encode spoken ++ left.remaining⟩, ?_,
      Utf8.encode spoken, left, ⟨rfl, ?_⟩, ?_⟩
    · rw [isText, Wire.text, size, List.append_assoc]
    · rw [size, Utf8.length_encode]
    · rw [Utf8.decode?_encode]
      exact Fallible.pure_eq_ok_iff.mpr ⟨rfl, rfl⟩

end Reader

end Uplink
