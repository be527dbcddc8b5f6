import Uplink.Command.Search
import Uplink.Command.Vocabulary
import Uplink.Json.Parser
import Uplink.Telemetry.CodecError

/-!
# Decoding command documents

`Dispatch.ofBytes` finds the commands of a document. A `Codec` hands them to its
handler, one at a time and in order; a handler is a function on a state of its own.
-/

namespace Uplink

/-- The commands that a document dispatches, and how its decoding ended. -/
structure Dispatch where
  commands : List Command
  result : Except CodecError Nat

namespace Dispatch

/-- The commands that a tree finds in a document. -/
def ofTree (root : Node) (document : Json) : Found :=
  Found.below document root (root.search ·)

/-- What a walk amounts to: the number of commands, unless a node was misplaced. -/
def ofFound (found : Found) : Dispatch :=
  ⟨found.commands,
    if found.misplaced then .error .invalidArgument else .ok found.commands.length⟩

/-- The commands of a document in the order of the groups. -/
def ofJson (document : Json) : Dispatch :=
  ofFound (Found.walk (ofTree · document) (Vocabulary.groups.map Vocabulary.tree))

/-- The commands of a document in its written form. -/
def ofBytes (input : Bytes) : Dispatch :=
  if input.isEmpty then ⟨[], .error .invalidArgument⟩
  else match Json.ofBytes? input with
    | none => ⟨[], .error .malformed⟩
    | some document => ofJson document

end Dispatch

/-- A decoder with the one handler that receives its commands. -/
structure Codec (σ : Type) where
  receive : Command → σ → σ
  state : σ

namespace Codec

variable {σ : Type}

/-- Decode a document and hand each command to the handler. -/
def decode (codec : Codec σ) (input : Bytes) : Except CodecError Nat × Codec σ :=
  let dispatch := Dispatch.ofBytes input
  let state := dispatch.commands.foldl (fun state command => codec.receive command state) codec.state
  (dispatch.result, { codec with state })

end Codec

end Uplink
