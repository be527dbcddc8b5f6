import Uplink.Config
import Uplink.Identity.WrapError
import Uplink.Text.Blank
import Uplink.Text.Utf8

/-!
# Client identifiers

The identifier of a device becomes a level of its topics, so it is never empty and
holds neither white space nor a character with a meaning in topics. A device can also
tell its identity itself: then the first `IdentityAnswer.kept` bytes count and white
space at their end does not.
-/

namespace Uplink

/-- Whether a character can stand in an identifier. -/
def ClientId.isPlain (c : Char) : Bool :=
  !(c == '/' || c == '+' || c == '#' || Text.isBlank c)

/-- The identifier of a device towards the cloud. -/
structure ClientId where
  text : String
  nonempty : text.isEmpty = false
  plain : text.toList.all ClientId.isPlain = true
  fits : text.utf8ByteSize ≤ Limits.clientId
deriving DecidableEq

namespace ClientId

/-- Use a given text as identifier. Its form is judged before its length. -/
def custom (text : String) : Except WrapError ClientId :=
  if nonempty : text.isEmpty = false then
    if plain : text.toList.all isPlain = true then
      if fits : text.utf8ByteSize ≤ Limits.clientId then .ok ⟨text, nonempty, plain, fits⟩
      else .error .clientIdTooLong
    else .error .invalidClientId
  else .error .invalidClientId

end ClientId

/-- What a device answers when it is asked for its identity. -/
inductive IdentityAnswer where
  | failed
  /-- Bytes written to the front of a cleared buffer, and the reported length. -/
  | written (bytes : Bytes) (length : Nat)

namespace IdentityAnswer

/-- Size of the buffer that a device writes its identity to. -/
def bufferSize : Nat := 32

/-- Number of bytes of the answer that count: the length of a modem's serial number. -/
def kept : Nat := 15

/-- The buffer after an answer. -/
def buffer (bytes : Bytes) : Bytes :=
  bytes.take bufferSize ++ List.replicate (bufferSize - bytes.length) 0

end IdentityAnswer

/-- Use what a device tells about itself as identifier. -/
def ClientId.ofIdentity : IdentityAnswer → Except WrapError ClientId
  | .failed => .error .identity
  | .written bytes length =>
    match Utf8.decode? ((IdentityAnswer.buffer bytes).take (min length IdentityAnswer.kept)) with
    | none => .error .identity
    | some text => custom (Text.trimEnd text)

end Uplink
