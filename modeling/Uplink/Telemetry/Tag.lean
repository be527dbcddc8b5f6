/-!
# Tags

A tag identifies an outbound reading and is never zero. `TagSequence` hands them out
in increasing order and starts again at one after the largest.
-/

namespace Uplink

/-- The identifier of an outbound reading. -/
structure Tag where
  value : UInt32
  value_ne_zero : value ≠ 0
deriving DecidableEq

namespace Tag

/-- The smallest tag. -/
def first : Tag := ⟨1, by decide⟩

/-- The tag with a given number; zero is none. -/
def ofNumber? (value : UInt32) : Option Tag :=
  if nonzero : value ≠ 0 then some ⟨value, nonzero⟩ else none

/-- The following tag. The largest is followed by the smallest. -/
def next (tag : Tag) : Tag := (ofNumber? (tag.value + 1)).getD first

end Tag

/-- A source of tags, which remembers the number of the last one; zero before the
first. -/
structure TagSequence where
  last : UInt32 := 0

namespace TagSequence

/-- Hand out the next tag. -/
def next (tags : TagSequence) : Tag × TagSequence :=
  let tag := match Tag.ofNumber? tags.last with
    | some last => last.next
    | none => Tag.first
  (tag, ⟨tag.value⟩)

/-- Hand out a number of tags. -/
def take (tags : TagSequence) : (count : Nat) → List Tag × TagSequence
  | 0 => ([], tags)
  | count + 1 =>
    let (tag, rest) := tags.next
    let (more, left) := rest.take count
    (tag :: more, left)

/-- The sequence after a number of tags. -/
def drop (tags : TagSequence) : (count : Nat) → TagSequence
  | 0 => tags
  | count + 1 => tags.next.2.drop count

end TagSequence

end Uplink
