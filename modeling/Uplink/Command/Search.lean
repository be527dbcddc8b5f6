import Uplink.Command.Basic
import Uplink.Json.Basic

/-!
# Searching a document for commands

`Node.search` walks a command tree in its own order and looks each key up in the
document. A key that the document lacks skips its branch. A node that stands at the
wrong level ends the walk; what was found before it stays found.
-/

namespace Uplink

/-- What a walk has found, and whether it met a misplaced node. -/
structure Found where
  commands : List Command
  misplaced : Bool

namespace Found

/-- Nothing found so far. -/
def nothing : Found := ⟨[], false⟩

/-- A node stands at the wrong level. -/
def stop : Found := ⟨[], true⟩

/-- Go on after what was found, unless the walk has ended. -/
def andThen (first : Found) (next : Unit → Found) : Found :=
  if first.misplaced then first
  else
    let second := next ()
    ⟨first.commands ++ second.commands, second.misplaced⟩

/-- Visit nodes one after the other. -/
def walk (visit : Node → Found) : List Node → Found
  | [] => nothing
  | node :: rest => (visit node).andThen fun _ => walk visit rest

/-- Visit the value that a node's key has in a document, if it has one. -/
def below (document : Json) (node : Node) (visit : Json → Found) : Found :=
  match document.select? node.key with
  | none => nothing
  | some value => visit value

end Found

namespace Node

/-- The command of an action node. -/
def searchAction (group : CommandGroup) (recipient : Recipient) (channel : Channel)
    (document : Json) (node : Node) : Found :=
  match node.kind with
  | .action action => Found.below document node fun leaf =>
    ⟨[{ group, recipient, channel, action, value := leaf.toDouble?, state := leaf.toBool? }], false⟩
  | _ => .stop

/-- The commands below a channel node. -/
def searchChannel (group : CommandGroup) (recipient : Recipient) (document : Json)
    (node : Node) : Found :=
  match node.kind with
  | .channel channel => Found.below document node fun inner =>
    Found.walk (searchAction group recipient channel inner) node.children
  | _ => .stop

/-- The commands below a recipient node. -/
def searchRecipient (group : CommandGroup) (document : Json) (node : Node) : Found :=
  match node.kind with
  | .recipient recipient => Found.below document node fun inner =>
    Found.walk (searchChannel group recipient inner) node.children
  | _ => .stop

/-- The commands of a tree that a document asks for; the document is what stands
under the key of the tree's root. -/
def search (root : Node) (document : Json) : Found :=
  match root.kind with
  | .group group => Found.walk (searchRecipient group document) root.children
  | _ => .stop

end Node

end Uplink
