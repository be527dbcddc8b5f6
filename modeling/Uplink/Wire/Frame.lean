import Uplink.Wire.Varint

/-!
# Frames

A frame is one control packet in the byte stream: a type byte, the length of the
rest as a variable-byte integer, and the rest. `Frame.length?` tells from the bytes
at hand where the first frame ends.
-/

namespace Uplink.Frame

/-- Length of the first frame of `buffer` once all of it is there. A frame that
announces more than `capacity` bytes can never be assembled. -/
def length? (buffer : Bytes) (capacity : Nat) : Except ProtocolError (Option Nat) :=
  match buffer with
  | [] => .ok none
  | _ :: afterType =>
    match Varint.read afterType with
    | .error fault => .error fault
    | .ok none => .ok none
    | .ok (some (remaining, size)) =>
      let total := 1 + size + remaining
      if total > capacity then .error .payloadTooLarge
      else if total ≤ buffer.length then .ok (some total)
      else .ok none

end Uplink.Frame
