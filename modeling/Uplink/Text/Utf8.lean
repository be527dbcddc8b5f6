/-!
# Text as bytes

The wire and the documents carry text as UTF-8. `Utf8.encode` and `Utf8.decode?`
are the only passage between the two in this library, and the strict definition of
the encoding is the standard library's: no overlong form, no surrogate, nothing
beyond the last code point.
-/

namespace Uplink

/-- A sequence of octets, as links carry them. -/
abbrev Bytes := List UInt8

namespace Utf8

/-- The octets of a text. -/
def encode (text : String) : Bytes := text.toByteArray.data.toList

/-- The text that some octets spell, when they are well-formed UTF-8. -/
def decode? (bytes : Bytes) : Option String := String.fromUTF8? ⟨bytes.toArray⟩

/-- A text occupies as many octets as its encoded size. -/
@[simp] theorem length_encode (text : String) : (encode text).length = text.utf8ByteSize := rfl

/-- Reading back an encoded text gives the text. -/
@[simp] theorem decode?_encode (text : String) : decode? (encode text) = some text := by
  have whole : (⟨(encode text).toArray⟩ : ByteArray) = text.toByteArray := rfl
  rw [decode?, whole, String.fromUTF8?, dif_pos text.isValidUTF8]
  rfl

/-- Octets that spell a text are that text's encoding. -/
theorem encode_of_decode? {bytes : Bytes} {text : String} (spelled : decode? bytes = some text) :
    encode text = bytes := by
  rw [decode?, String.fromUTF8?] at spelled
  split at spelled
  · cases spelled
    rfl
  · cases spelled

end Utf8

end Uplink
