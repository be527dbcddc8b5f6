import Uplink.Text.Utf8
import Uplink.Wire.ProtocolError

/-!
# Variable-byte integers

A length is written in groups of seven bits, least significant group first; every
byte but the last has its top bit set. At most four bytes are used, so the largest
value is `Varint.maximum`. `Varint.encode` gives the shortest form and
`Varint.read` accepts every form, longer ones included.
-/

namespace Uplink.Varint

/-- The largest value that four groups of seven bits can carry. -/
def maximum : Nat := 268435455

/-- The shortest written form of a value. -/
def encode (value : Nat) : Bytes :=
  if value < 128 then [value.toUInt8]
  else (value % 128 + 128).toUInt8 :: encode (value / 128)

/-- Read at most `groups` bytes: the value and the number of bytes it took, or
nothing while its last byte is still missing. -/
def readGroups : (groups : Nat) → Bytes → Except ProtocolError (Option (Nat × Nat))
  | 0, _ => .error .malformedPacket
  | _ + 1, [] => .ok none
  | groups + 1, byte :: rest =>
    if byte.toNat < 128 then .ok (some (byte.toNat, 1))
    else match readGroups groups rest with
      | .ok (some (value, size)) => .ok (some (byte.toNat % 128 + 128 * value, size + 1))
      | unfinished => unfinished

/-- Read a value from the front of some bytes. Four bytes that all announce a
further one are malformed. -/
def read (bytes : Bytes) : Except ProtocolError (Option (Nat × Nat)) := readGroups 4 bytes

/-- Read a value at a cursor. The cursor moves past the value when there is one and
stays where it is otherwise. -/
def readAt (buffer : Bytes) (cursor : Nat) : Except ProtocolError (Option Nat) × Nat :=
  match read (buffer.drop cursor) with
  | .ok (some (value, size)) => (.ok (some value), cursor + size)
  | .ok none => (.ok none, cursor)
  | .error fault => (.error fault, cursor)

/-- Write a value at the front of a buffer: the buffer afterwards and the number of
bytes written. -/
def write (buffer : Bytes) (value : Nat) : Except ProtocolError (Bytes × Nat) :=
  if value > maximum then .error .payloadTooLarge
  else
    let written := encode value
    if written.length ≤ buffer.length then
      .ok (written ++ buffer.drop written.length, written.length)
    else .error .bufferTooSmall

end Uplink.Varint
