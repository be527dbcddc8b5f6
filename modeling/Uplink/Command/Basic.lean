import Uplink.Telemetry.Channel

/-!
# Commands

A command names what the cloud wants done: a group, a recipient, a channel and an
action, with the number or the truth value that the document gave for it. `Node` is
a tree of keys, in which a command is a path from the root to a leaf.
-/

namespace Uplink

/-- Top-level category of commands. -/
inductive CommandGroup where
  | set
  | get
deriving DecidableEq, Repr

/-- The subsystem that a command is addressed to. -/
inductive Recipient where
  | environment
  | motion
  | ui
  | modemInfo
deriving DecidableEq, Repr

/-- What a command does. -/
inductive CommandAction where
  | enable
  | disable
  | thresholdHigh
  | thresholdLow
  | read
  | readNew
  | pwm
  | ledRed
  | ledGreen
  | ledBlue
  | ledPulseLength
  | ledPauseLength
  | playMelody
  | playNote
deriving DecidableEq, Repr

/-- A command that a document asks for. -/
structure Command where
  group : CommandGroup
  recipient : Recipient
  channel : Channel
  action : CommandAction
  /-- Present when the document gives a number. -/
  value : Option Float
  /-- Present when the document gives a truth value. -/
  state : Option Bool
deriving Repr

/-- What a key of a command tree stands for. -/
inductive NodeKind where
  | group (group : CommandGroup)
  | recipient (recipient : Recipient)
  | channel (channel : Channel)
  | action (action : CommandAction)
deriving DecidableEq, Repr

/-- A key of a command tree with the keys below it. -/
inductive Node where
  | node (key : String) (kind : NodeKind) (children : List Node)

namespace Node

/-- The key that is looked up in a document. -/
def key : Node → String
  | node key _ _ => key

/-- What the key stands for. -/
def kind : Node → NodeKind
  | node _ kind _ => kind

/-- The keys below. -/
def children : Node → List Node
  | node _ _ children => children

end Node

end Uplink
