/-!
# Codec faults

What can go wrong while a reading is encoded or a command document is decoded.
-/

namespace Uplink

/-- Faults of the document codec. -/
inductive CodecError where
  /-- Required input is empty, or a command tree is inconsistent. -/
  | invalidArgument
  /-- The encoded document does not fit. -/
  | outOfMemory
  /-- The input is no document. -/
  | malformed
  /-- The sensor has no channel in the cloud. -/
  | unsupportedSensor
deriving DecidableEq, Repr

/-- The wording of each fault. -/
def CodecError.message : CodecError → String
  | invalidArgument => "invalid argument"
  | outOfMemory => "out of memory"
  | malformed => "malformed JSON input"
  | unsupportedSensor => "unsupported sensor"

end Uplink
