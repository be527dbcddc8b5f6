import Uplink.Text.Utf8

/-!
# A scripted link

The broker's side of a connection as a script: what it delivers, whether it takes
what is sent, and how attempts to reach it end. The queue of deliveries belongs to
the broker and outlives a connection; the rest of a chunk that was begun does not.
-/

namespace Uplink

/-- What the broker does next on its side. -/
inductive Delivery where
  | data (chunk : Bytes)
  /-- The broker hangs up. -/
  | close
  /-- The link fails. -/
  | fault
deriving DecidableEq, Repr

/-- How an attempt or a send ends at the moment it is looked at. -/
inductive Outcome where
  | ok
  | fail
  /-- It has not ended yet. -/
  | pend
deriving DecidableEq, Repr

/-- A failure of the link itself. -/
inductive LinkFault where
  | simulated
deriving DecidableEq, Repr

/-- The name under which a failure is reported. -/
def LinkFault.name : LinkFault → String
  | simulated => "SimError"

/-- What happens on a link, in the order in which it happens. -/
inductive LinkEvent where
  | sent (frame : Bytes)
  | sendFailed (frame : Bytes)
  | aborted
deriving DecidableEq, Repr

/-- The state of a scripted link. -/
structure Link where
  /-- What the broker has in store. -/
  inbound : List Delivery := []
  /-- What is left of the chunk that was begun. -/
  chunk : Bytes := []
  /-- How sends end at present. -/
  sendMode : Outcome := .ok
deriving DecidableEq, Repr

namespace Link

/-- Add to what the broker has in store. -/
def deliver (link : Link) (delivery : Delivery) : Link :=
  { link with inbound := link.inbound ++ [delivery] }

/-- Forget the connection: a chunk that was begun is lost. -/
def forget (link : Link) : Link := { link with chunk := [] }

/-- Receive at most `room` bytes; no bytes at all mean that the broker hung up.
There is no answer while nothing has arrived. -/
def receive? (link : Link) (room : Nat) : Option (Except LinkFault Bytes × Link) :=
  match link.chunk, link.inbound with
  | byte :: rest, _ =>
    some (.ok ((byte :: rest).take room), { link with chunk := (byte :: rest).drop room })
  | [], .data chunk :: inbound =>
    some (.ok (chunk.take room), { link with inbound, chunk := chunk.drop room })
  | [], .close :: inbound => some (.ok [], { link with inbound })
  | [], .fault :: inbound => some (.error .simulated, { link with inbound })
  | [], [] => none

/-- How a send ends now; there is no answer while it has not ended. -/
def send? (link : Link) : Option (Except LinkFault Unit) :=
  match link.sendMode with
  | .ok => some (.ok ())
  | .fail => some (.error .simulated)
  | .pend => none

end Link

end Uplink
