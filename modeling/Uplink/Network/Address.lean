import Uplink.Config

/-!
# Addresses

Internet addresses and their written forms. An IPv4 address is four decimal numbers
without leading zeros; an IPv6 address is eight groups of hexadecimal digits, of which
one run of zeros may be left out and the last two may be written as an IPv4 address.
-/

namespace Uplink

/-- An internet address. -/
inductive IpAddress where
  | v4 (octets : List Nat)
  | v6 (groups : List Nat)
deriving DecidableEq, Repr

namespace IpAddress

/-- The value of a digit in a base of at most sixteen. -/
def digit? (base : Nat) (c : Char) : Option Nat :=
  let code := c.toLower.toNat
  let value :=
    if 48 ≤ code ∧ code ≤ 57 then code - 48
    else if 97 ≤ code ∧ code ≤ 102 then code - 87
    else base
  if value < base then some value else none

/-- A number of one to `width` digits. -/
def number? (base width : Nat) (text : String) : Option Nat :=
  let digits := text.toList
  if digits.isEmpty || width < digits.length then none
  else (digits.mapM (digit? base)).map (·.foldl (fun total digit => total * base + digit) 0)

/-- One decimal number of an IPv4 address. -/
def octet? (text : String) : Option Nat := do
  let value ← number? 10 3 text
  if value ≤ 255 ∧ (text.startsWith "0" → text.length = 1) then some value else none

/-- The four numbers of an IPv4 address. -/
def octets? (text : String) : Option (List Nat) := do
  let octets ← (text.splitOn ".").mapM octet?
  if octets.length = 4 then some octets else none

/-- The last part of an IPv6 address: one group, or an IPv4 address as two. -/
def lastGroups? (text : String) : Option (List Nat) :=
  match octets? text with
  | some [a, b, c, d] => some [a * 256 + b, c * 256 + d]
  | _ => (number? 16 4 text).map ([·])

/-- Groups separated by colons. -/
def groups? : List String → Option (List Nat)
  | [] => some []
  | [last] => lastGroups? last
  | first :: rest => do
    let group ← number? 16 4 first
    let groups ← groups? rest
    return group :: groups

/-- Groups separated by colons, none of them written as an IPv4 address. -/
def hexGroups? (text : String) : Option (List Nat) :=
  if text.isEmpty then some [] else (text.splitOn ":").mapM (number? 16 4)

/-- The groups after a run of zeros that was left out. -/
def tailGroups? (text : String) : Option (List Nat) :=
  if text.isEmpty then some [] else groups? (text.splitOn ":")

/-- The eight groups of an IPv6 address. -/
def allGroups? (text : String) : Option (List Nat) :=
  match text.splitOn "::" with
  | [whole] => do
    let groups ← groups? (whole.splitOn ":")
    if groups.length = 8 then some groups else none
  | front :: rest => do
    let head ← hexGroups? front
    let tail ← tailGroups? ("::".intercalate rest)
    if head.length + tail.length ≤ 7 then
      some (head ++ List.replicate (8 - head.length - tail.length) 0 ++ tail)
    else none
  | [] => none

/-- Read an address of a family. -/
def parse? (family : AddressFamily) (text : String) : Option IpAddress :=
  match family with
  | .ipv4 => (octets? text).map v4
  | .ipv6 => (allGroups? text).map v6

/-- Whether a text is an address of either family. -/
def isAddress (text : String) : Bool :=
  (parse? .ipv4 text).isSome || (parse? .ipv6 text).isSome

/-- Whether an address stands for no host at all. -/
def isUnspecified : IpAddress → Bool
  | v4 octets => octets.all (· == 0)
  | v6 groups => groups.all (· == 0)

end IpAddress

end Uplink
