import Uplink.Wire.Varint

/-!
# Sequential reading

A `Reader` is what is left of one packet. An operation that finds too few bytes
consumes nothing; a text has consumed its length before its bytes are looked at, and
its bytes before their encoding is.
-/

namespace Uplink

/-- The bytes of a packet that have not been read yet. -/
structure Reader where
  remaining : Bytes
deriving DecidableEq, Repr

/-- An operation on a reader. What was consumed before a fault stays consumed. -/
abbrev Read (α : Type) := EStateM ProtocolError Reader α

namespace Reader

/-- Take exactly `count` bytes. -/
def bytes (count : Nat) : Read Bytes := fun reader =>
  if count ≤ reader.remaining.length then
    .ok (reader.remaining.take count) ⟨reader.remaining.drop count⟩
  else .error .malformedPacket reader

/-- Take one byte. -/
def u8 : Read UInt8 := fun reader =>
  match reader.remaining with
  | byte :: rest => .ok byte ⟨rest⟩
  | [] => .error .malformedPacket reader

/-- Take a 16-bit number, most significant byte first. -/
def u16 : Read UInt16 := fun reader =>
  match reader.remaining with
  | high :: low :: rest => .ok (high.toUInt16 <<< 8 ||| low.toUInt16) ⟨rest⟩
  | _ => .error .malformedPacket reader

/-- Take a text that is preceded by its length in bytes. -/
def text : Read String := do
  let size ← u16
  let spelled ← bytes size.toNat
  match Utf8.decode? spelled with
  | some text => return text
  | none => throw .invalidUtf8String

/-- Take a variable-byte integer; one that is cut short is malformed. -/
def varint : Read Nat := fun reader =>
  match Varint.read reader.remaining with
  | .ok (some (value, size)) => .ok value ⟨reader.remaining.drop size⟩
  | .ok none => .error .malformedPacket reader
  | .error fault => .error fault reader

/-- Take everything that is left. -/
def rest : Read Bytes := fun reader => .ok reader.remaining ⟨[]⟩

end Reader

end Uplink
