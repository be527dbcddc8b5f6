import Uplink.Json.Number

/-!
# Documents

A `Json` value is a document as it is written: an object keeps its members in their
order and with repeated keys. `Json.select?` says what a name finds in an object:
the member with exactly that key, otherwise the one with the smallest key that
differs from it in the case of ASCII letters only. Of members with the same key the
last one counts.
-/

namespace Uplink

/-- A document. -/
inductive Json where
  | null
  | bool (value : Bool)
  | number (value : Json.Number)
  | string (text : String)
  | array (items : List Json)
  | object (members : List (String × Json))
deriving Inhabited

namespace Json

/-- The members of an object. -/
def members? : Json → Option (List (String × Json))
  | object members => some members
  | _ => none

/-- The double that a number denotes. -/
def toDouble? : Json → Option Float
  | number value => value.toDouble?
  | _ => none

/-- The value of a boolean. -/
def toBool? : Json → Option Bool
  | bool value => some value
  | _ => none

/-- Whether two keys are equal up to the case of ASCII letters. -/
def sameLetters (left right : String) : Bool :=
  left.toList.map Char.toLower == right.toList.map Char.toLower

/-- The last member with a key. -/
def lastMember? (key : String) (members : List (String × Json)) : Option Json :=
  (members.findRev? fun member => member.1 == key).map (·.2)

/-- The smallest key that a name matches up to the case of its letters. Keys are
compared by their characters, which is also the order of their bytes. -/
def smallestKey? (name : String) : (members : List (String × Json)) → Option String
  | [] => none
  | (key, _) :: rest =>
    let best := smallestKey? name rest
    if sameLetters name key then
      match best with
      | none => some key
      | some other => if other < key then some other else some key
    else best

/-- What a name finds among some members. -/
def selectMember? (name : String) (members : List (String × Json)) : Option Json :=
  match lastMember? name members with
  | some value => some value
  | none => (smallestKey? name members).bind (lastMember? · members)

/-- What a name finds in a document; nothing in one that is not an object. -/
def select? (document : Json) (name : String) : Option Json :=
  document.members?.bind (selectMember? name)

end Json

end Uplink
