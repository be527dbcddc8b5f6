import Uplink.Proofs.Decimal.Rounding
import Uplink.Proofs.Telemetry.Inscription

/-!
# Samples of sensors

A sample is sent as the text of its number, rounded to tenths, so what its envelope says is
what `Tenths.Rounded` says of the text. The text has sixteen bytes of room, which makes the
limits of the number depend on its sign, and on the number after rounding: a carry can take
one byte more. Such a text has no escapes, so its envelope is no longer than it looks.
-/

namespace Uplink

theorem Json.Quoted.width_of_isDigit {c : Char} (digit : c.isDigit = true) : width c = 1 := by
  obtain ⟨low, high⟩ := Char.isDigit_iff_toNat.mp digit
  have unlisted : c ∉ ['"', '\\', '\x08', '\x0c', '\n', '\r', '\t'] := by
    intro listed
    simp only [List.mem_cons, List.not_mem_nil, or_false] at listed
    rcases listed with rfl | rfl | rfl | rfl | rfl | rfl | rfl <;> cases digit
  have visible : ¬c.toNat < 0x20 := Nat.not_lt.mpr (Nat.le_trans (by decide) low)
  rw [width, if_neg unlisted, if_neg visible, Char.utf8Size_eq_one_iff]
  exact Nat.le_trans high (by decide)

/-- Only room can be missing for a text on a channel with a name. -/
theorem Reading.put_eq_ite {reading : Reading} {buffer : Bytes} {appId : String}
    (nonempty : reading.data ≠ "") (named : reading.channel.appId? = some appId) :
    reading.put buffer =
      if size appId reading.data ≤ buffer.length then
        .ok (size appId reading.data)
          (written appId reading.data ++ buffer.drop (size appId reading.data))
      else .error .outOfMemory buffer := by
  have encodes := encode_eq_ok_iff.mpr ⟨nonempty, appId, named, rfl⟩
  simp only [put, encodes, length_written named]

namespace EnvSample

open Tenths (render spoken)

variable {sample : EnvSample} {buffer : Bytes} {channel : Channel} {appId : String}
  {negative : Bool} {number : ℚ}

theorem after_of_error {fault : CodecError} {after : Bytes}
    (failed : sample.put buffer = .error fault after) : after = buffer := by
  rw [put] at failed
  split at failed
  · cases failed
    rfl
  · exact Reading.after_of_error failed

/-- The text of a finite double needs no escapes. -/
theorem size_render (finite : Binary64.number? sample.value = some (negative, number)) :
    Reading.size appId (render sample.value) =
      43 + appId.utf8ByteSize + (render sample.value).utf8ByteSize := by
  obtain ⟨tenths, isText, -⟩ := Tenths.exists_text finite
  rw [Reading.size, isText, Json.Quoted.extent_of_narrow,
    Utf8.utf8ByteSize_of_ascii (Tenths.ascii_text negative tenths)]
  intro c isIn
  rcases Tenths.char_text negative tenths isIn with rfl | rfl | digit
  · decide
  · decide
  · exact Json.Quoted.width_of_isDigit digit

/-- What a finite sample does to a buffer, on a channel with a name. -/
structure Sampled (sample : EnvSample) (channel : Channel) (appId : String) (negative : Bool)
    (buffer : Bytes) : Prop where
  /-- There is room for the text up to these numbers, and there must be room for the envelope. -/
  succeeds : (∃ length after, sample.put buffer = .ok length after) ↔
    |spoken (render sample.value)| < (if negative then 10 ^ 13 else 10 ^ 14) ∧
      43 + appId.utf8ByteSize + (render sample.value).utf8ByteSize ≤ buffer.length
  /-- The buffer begins with the envelope of the text. -/
  inscribed : ∀ length after, sample.put buffer = .ok length after →
    Reading.Inscribed { channel, data := render sample.value } buffer length after
  fails : (¬∃ length after, sample.put buffer = .ok length after) →
    sample.put buffer = .error .outOfMemory buffer

/-- Every sensor but one has a channel with a name. -/
theorem exists_channel (reported : sample.sensor ≠ .airQuality) :
    ∃ channel appId, sample.sensor.channel? = some channel ∧ channel.appId? = some appId := by
  cases isSensor : sample.sensor with
  | airQuality => exact absurd isSensor reported
  | temperature | humidity | airPressure => exact ⟨_, _, rfl, rfl⟩

theorem put_eq (reported : sample.sensor.channel? = some channel) :
    sample.put buffer =
      if (render sample.value).utf8ByteSize ≤ maxText then
        Reading.put { channel, data := render sample.value } buffer
      else .error .outOfMemory buffer := by
  simp only [put, reading, reported]
  by_cases short : (render sample.value).utf8ByteSize ≤ maxText
  · rw [if_pos short, if_pos short]
  · rw [if_neg short, if_neg short]

theorem render_ne_empty (finite : Binary64.number? sample.value = some (negative, number)) :
    render sample.value ≠ "" := by
  obtain ⟨tenths, isText, -⟩ := Tenths.exists_text finite
  intro isEmpty
  have chars := congrArg String.toList (isText.symm.trans isEmpty)
  rw [Tenths.toList_text, String.toList_empty] at chars
  exact List.cons_ne_nil _ _ (List.append_eq_nil_iff.mp chars).2

/-- The text of a finite sample is as long as its number is large. -/
theorem fits_iff (finite : Binary64.number? sample.value = some (negative, number)) :
    (render sample.value).utf8ByteSize ≤ maxText ↔
      |spoken (render sample.value)| < if negative then 10 ^ 13 else 10 ^ 14 := by
  obtain ⟨tenths, isText, -⟩ := Tenths.exists_text finite
  have nonneg : (0 : ℚ) ≤ tenths / 10 := by positivity
  rw [isText, Tenths.spoken_text, abs_signed, abs_of_nonneg nonneg]
  exact Tenths.utf8ByteSize_text_le_iff negative tenths

/-- A finite sample on a channel with a name only needs room, for its text and for the
envelope. -/
theorem put_eq_ite (reported : sample.sensor.channel? = some channel)
    (named : channel.appId? = some appId)
    (finite : Binary64.number? sample.value = some (negative, number)) :
    sample.put buffer =
      if (render sample.value).utf8ByteSize ≤ maxText ∧
          Reading.size appId (render sample.value) ≤ buffer.length then
        .ok (Reading.size appId (render sample.value))
          (Reading.written appId (render sample.value) ++
            buffer.drop (Reading.size appId (render sample.value)))
      else .error .outOfMemory buffer := by
  rw [put_eq reported, ite_and, Reading.put_eq_ite (render_ne_empty finite) named]

theorem inscribed_of_put (reported : sample.sensor.channel? = some channel) {length : Nat}
    {after : Bytes} (puts : sample.put buffer = .ok length after) :
    Reading.Inscribed { channel, data := render sample.value } buffer length after := by
  rw [put_eq reported] at puts
  split at puts
  · exact Reading.inscribed_of_put puts
  · cases puts

theorem sampled (reported : sample.sensor.channel? = some channel)
    (named : channel.appId? = some appId)
    (finite : Binary64.number? sample.value = some (negative, number)) :
    sample.Sampled channel appId negative buffer := by
  have puts : sample.put buffer = _ := put_eq_ite reported named finite
  rw [size_render finite] at puts
  refine ⟨?_, fun length after => inscribed_of_put reported, fun fails => ?_⟩
  · rw [← fits_iff finite, puts]
    split
    · next fits => exact iff_of_true ⟨_, _, rfl⟩ fits
    · next exceeds => exact iff_of_false (fun ⟨_, _, done⟩ => nomatch done) exceeds
  · rw [puts] at fails ⊢
    split at fails
    · exact absurd ⟨_, _, rfl⟩ fails
    · next exceeds => exact if_neg exceeds

/-- A sample of a finite double is put into a buffer exactly when the rounded number is within
the limits of its text and the envelope fits. Then the buffer begins with the envelope of the
number, rounded to tenths. -/
theorem put_rounds (sample : EnvSample) (buffer : Bytes) :
    (sample.sensor = .airQuality → sample.put buffer = .error .unsupportedSensor buffer) ∧
    (∀ fault after, sample.put buffer = .error fault after → after = buffer) ∧
    (sample.sensor ≠ .airQuality → sample.value.isFinite →
      ∃ channel appId negative number, sample.sensor.channel? = some channel ∧
        channel.appId? = some appId ∧
        Binary64.number? sample.value = some (negative, number) ∧
        Tenths.Rounded sample.value negative number ∧
        sample.Sampled channel appId negative buffer) := by
  refine ⟨fun unreported => ?_, fun fault after => after_of_error, fun reported finite => ?_⟩
  · simp only [put, reading, unreported, EnvSensor.channel?]
  · obtain ⟨channel, appId, reports, named⟩ := exists_channel reported
    rw [← Binary64.isSome_number?, Option.isSome_iff_exists] at finite
    obtain ⟨⟨negative, number⟩, finite⟩ := finite
    exact ⟨channel, appId, negative, number, reports, named, finite,
      Tenths.rounded_render finite, sampled reports named finite⟩

/-- The carry of the rounding takes a seventeenth byte. -/
example : (put ⟨.temperature, 99999999999999.94⟩ |>.into (.replicate 100 0)).isOk = true ∧
    (put ⟨.temperature, 99999999999999.95⟩ |>.into (.replicate 100 0)).isOk = false := by
  decide +kernel

end EnvSample

end Uplink
