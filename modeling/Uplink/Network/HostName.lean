import Uplink.Network.Address

/-!
# Names of hosts

The name service and the TLS peer each have a rule for the names that they take. A
query is made for any name whose labels have one to 63 bytes, without regard to what
they are made of. A server name is held to the letters of domain names, and its last
label must not be a number.
-/

namespace Uplink.HostName

/-- The longest name, in bytes, without a dot at its end. -/
def maxSize : Nat := 253

/-- The longest label, in bytes. -/
def maxLabel : Nat := 63

/-- A name without one dot at its end. -/
def withoutDot (name : String) : String :=
  if name.endsWith "." then String.ofList name.toList.dropLast else name

/-- The parts between the dots of a name. -/
def labels (name : String) : List String := name.splitOn "."

/-- Whether a label has a length that labels can have. -/
def isLabel (label : String) : Bool := !label.isEmpty && label.utf8ByteSize ≤ maxLabel

/-- The name that the name service is asked for, if a query can be made. -/
def query? (name : String) : Option String :=
  let asked := withoutDot name
  if (labels asked).all isLabel && asked.utf8ByteSize ≤ maxSize then some asked else none

/-- Whether a character can stand in a label of a server name. -/
def isLetter (c : Char) : Bool := c.isAlphanum || c == '_' || c == '-'

/-- Whether a label can be part of a server name: it neither begins nor ends with a
hyphen. -/
def isServerLabel (label : String) : Bool :=
  isLabel label && label.toList.all isLetter && !label.startsWith "-" && !label.endsWith "-"

/-- Whether a text is a domain name that a TLS peer takes as its own. -/
def isServerName (name : String) : Bool :=
  let parts := labels (withoutDot name)
  name.utf8ByteSize ≤ maxSize && parts.all isServerLabel &&
    !((parts.getLastD "").toList.all Char.isDigit)

/-- A name in the form in which a TLS peer reports it. -/
def lowercase (name : String) : String := String.ofList (name.toList.map Char.toLower)

end Uplink.HostName
