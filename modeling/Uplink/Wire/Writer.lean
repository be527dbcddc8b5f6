import Uplink.Wire.ProtocolError
import Uplink.Text.Utf8

/-!
# Sequential writing

A `Writer` is an output buffer with the position of the next byte. Each operation
either writes everything it was given or reports that the buffer is too small; only
a text, which is written after its length, can leave something behind when it fails.
-/

namespace Uplink

/-- An output buffer and the position of the next byte. -/
structure Writer where
  buffer : Bytes
  position : Nat
deriving DecidableEq, Repr

/-- An operation on a writer. The writer is left as it stands when a fault arises. -/
abbrev Write (α : Type) := EStateM ProtocolError Writer α

namespace Writer

/-- Start writing at `position` of a buffer. -/
def startAt (buffer : Bytes) (position : Nat) : Writer := ⟨buffer, position⟩

/-- Write bytes at the position and move past them. -/
def putBytes (bytes : Bytes) : Write Unit := fun writer =>
  let stop := writer.position + bytes.length
  if stop ≤ writer.buffer.length then
    .ok () ⟨writer.buffer.take writer.position ++ bytes ++ writer.buffer.drop stop, stop⟩
  else .error .bufferTooSmall writer

/-- Write one byte. -/
def putU8 (value : UInt8) : Write Unit := putBytes [value]

/-- The two bytes of a 16-bit number, most significant first. -/
def bigEndian (value : UInt16) : Bytes := [(value >>> 8).toUInt8, value.toUInt8]

/-- Write a 16-bit number, most significant byte first. -/
def putU16 (value : UInt16) : Write Unit := putBytes (bigEndian value)

/-- Write a text after its length in bytes, which must fit 16 bits. -/
def putText (text : String) : Write Unit := do
  if text.utf8ByteSize > 65535 then throw .payloadTooLarge
  putU16 text.utf8ByteSize.toUInt16
  putBytes (Utf8.encode text)

end Writer

end Uplink
