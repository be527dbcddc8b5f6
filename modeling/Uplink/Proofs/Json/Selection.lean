import Uplink.Json.Basic
import Uplink.Proofs.Text.ByteOrder

/-!
# What names find in a document

`Selects` says what selecting a name in a document finds, by the members of the object
alone: no search order is involved. `Reaches` selects several names one after the other.
The functions `Json.select?` and `Json.follow?` compute exactly these two relations.
-/

namespace Uplink.Json

/-- A value is what a key stands for among some members: the last member with the key
counts. -/
def Holds (members : List (String × Json)) (key : String) (value : Json) : Prop :=
  ∃ earlier later, members = earlier ++ (key, value) :: later ∧
    ∀ member ∈ later, member.1 ≠ key

/-- What selecting a name in a document finds. The member with exactly that key comes
first; without one it is the member with the smallest key that is equal to the name up to
the case of ASCII letters, where keys are ordered as byte strings. -/
inductive Selects : (document : Json) → (name : String) → (found : Json) → Prop
  | exactly {members : List (String × Json)} {name : String} {found : Json}
      (held : Holds members name found) : Selects (.object members) name found
  | caseless {members : List (String × Json)} {name key : String} {found : Json}
      (absent : ∀ member ∈ members, member.1 ≠ name)
      (held : Holds members key found)
      (similar : sameLetters name key)
      (smallest : ∀ member ∈ members, sameLetters name member.1 →
        Utf8.encode key ≤ Utf8.encode member.1) :
      Selects (.object members) name found

/-- What selecting some names, one after the other, ends at. -/
inductive Reaches : (document : Json) → (names : List String) → (found : Json) → Prop
  | here {document : Json} : Reaches document [] document
  | inside {document inner found : Json} {name : String} {names : List String}
      (selected : Selects document name inner) (reached : Reaches inner names found) :
      Reaches document (name :: names) found

/-- Select some names, one after the other. -/
def follow? (document : Json) (names : List String) : Option Json :=
  names.foldlM select? document

@[simp] theorem follow?_nil (document : Json) : document.follow? [] = some document := rfl

@[simp] theorem follow?_cons (document : Json) (name : String) (names : List String) :
    document.follow? (name :: names) = (document.select? name).bind (·.follow? names) := rfl

variable {members : List (String × Json)} {name key : String}

/-! ## Keys -/

theorem lastMember?_eq_some {value : Json} :
    lastMember? key members = some value ↔ Holds members key value := by
  rw [lastMember?, List.findRev?_eq_find?_reverse]
  constructor
  · intro found
    obtain ⟨⟨_, _⟩, held, rfl⟩ := Option.map_eq_some_iff.mp found
    obtain ⟨matches_key, after, before, split, others⟩ := List.find?_eq_some_iff_append.mp held
    obtain rfl : _ = key := eq_of_beq matches_key
    refine ⟨before.reverse, after.reverse, ?_, fun member listed => ?_⟩
    · rw [← List.reverse_reverse members, split]
      simp
    · simpa using others member (List.mem_reverse.mp listed)
  · rintro ⟨earlier, later, rfl, others⟩
    refine Option.map_eq_some_iff.mpr ⟨(key, value), ?_, rfl⟩
    refine List.find?_eq_some_iff_append.mpr
      ⟨beq_self_eq_true key, later.reverse, earlier.reverse, by simp, fun member listed => ?_⟩
    simpa using others member (List.mem_reverse.mp listed)

/-- A key stands for something exactly when some member has it. -/
theorem lastMember?_eq_none :
    lastMember? key members = none ↔ ∀ member ∈ members, member.1 ≠ key := by
  rw [lastMember?, List.findRev?_eq_find?_reverse, Option.map_eq_none_iff, List.find?_eq_none]
  simp only [List.mem_reverse, beq_iff_eq]

theorem Holds.mem {value : Json} (held : Holds members key value) : (key, value) ∈ members := by
  obtain ⟨earlier, later, rfl, -⟩ := held
  exact List.mem_append_right earlier List.mem_cons_self

theorem smallestKey?_eq_none :
    smallestKey? name members = none ↔ ∀ member ∈ members, ¬ sameLetters name member.1 := by
  induction members with
  | nil => simp [smallestKey?]
  | cons member rest ih =>
    obtain ⟨key, value⟩ := member
    rw [List.forall_mem_cons, ← ih, smallestKey?]
    split
    case isTrue similar =>
      refine iff_of_false ?_ fun none_similar => none_similar.1 similar
      split
      · exact Option.some_ne_none _
      · split <;> exact Option.some_ne_none _
    case isFalse different => exact ⟨fun best => ⟨different, best⟩, fun both => both.2⟩

/-- The key found is one of the members' keys, it is similar to the name, and no similar
key is smaller. -/
theorem of_smallestKey? (found : smallestKey? name members = some key) :
    key ∈ members.map (·.1) ∧ sameLetters name key ∧
      ∀ member ∈ members, sameLetters name member.1 → key ≤ member.1 := by
  induction members generalizing key with
  | nil => cases found
  | cons member rest ih =>
    obtain ⟨first, value⟩ := member
    simp only [smallestKey?] at found
    split at found
    case isFalse different =>
      obtain ⟨listed, similar, smallest⟩ := ih found
      refine ⟨List.mem_cons_of_mem _ listed, similar, fun member among alike => ?_⟩
      rcases List.mem_cons.mp among with rfl | later
      · exact absurd alike different
      · exact smallest member later alike
    case isTrue firstSimilar =>
      split at found
      case h_1 none_later =>
        cases found
        refine ⟨List.mem_cons_self, firstSimilar, fun member among alike => ?_⟩
        rcases List.mem_cons.mp among with rfl | later
        · exact le_rfl
        · exact absurd alike (smallestKey?_eq_none.mp none_later member later)
      case h_2 other best =>
        obtain ⟨listed, similar, smallest⟩ := ih best
        split at found
        case isTrue less =>
          cases found
          refine ⟨List.mem_cons_of_mem _ listed, similar, fun member among alike => ?_⟩
          rcases List.mem_cons.mp among with rfl | later
          · exact less.le
          · exact smallest member later alike
        case isFalse notLess =>
          cases found
          refine ⟨List.mem_cons_self, firstSimilar, fun member among alike => ?_⟩
          rcases List.mem_cons.mp among with rfl | later
          · exact le_rfl
          · exact (not_lt.mp notLess).trans (smallest member later alike)

/-- A similar key that no similar key undercuts is the one that is found. -/
theorem smallestKey?_eq_some (listed : key ∈ members.map (·.1)) (similar : sameLetters name key)
    (smallest : ∀ member ∈ members, sameLetters name member.1 → key ≤ member.1) :
    smallestKey? name members = some key := by
  obtain ⟨member, among, rfl⟩ := List.mem_map.mp listed
  cases best : smallestKey? name members with
  | none => exact absurd similar (smallestKey?_eq_none.mp best member among)
  | some other =>
    obtain ⟨otherListed, otherSimilar, otherSmallest⟩ := of_smallestKey? best
    obtain ⟨otherMember, otherAmong, rfl⟩ := List.mem_map.mp otherListed
    rw [le_antisymm (otherSmallest member among similar)
      (smallest otherMember otherAmong otherSimilar)]

/-! ## Names -/

/-- Selecting a name computes what the members determine. -/
theorem select?_eq_some {document found : Json} :
    document.select? name = some found ↔ Selects document name found := by
  constructor
  · intro selected
    obtain ⟨members, isObject, chosen⟩ := Option.bind_eq_some_iff.mp selected
    obtain rfl : document = .object members := by
      cases document <;> simp_all [members?]
    rw [selectMember?] at chosen
    split at chosen
    case h_1 value held =>
      cases chosen
      exact .exactly (lastMember?_eq_some.mp held)
    case h_2 absent =>
      obtain ⟨key, best, held⟩ := Option.bind_eq_some_iff.mp chosen
      obtain ⟨-, similar, smallest⟩ := of_smallestKey? best
      exact .caseless (lastMember?_eq_none.mp absent) (lastMember?_eq_some.mp held) similar
        fun member among alike => Utf8.encode_le_encode.mpr (smallest member among alike)
  · intro selected
    cases selected with
    | exactly held =>
      simp [select?, members?, selectMember?, lastMember?_eq_some.mpr held]
    | caseless absent held similar smallest =>
      have best := smallestKey?_eq_some (List.mem_map_of_mem held.mem) similar
        fun member among alike => Utf8.encode_le_encode.mp (smallest member among alike)
      simp [select?, members?, selectMember?, lastMember?_eq_none.mpr absent, best,
        lastMember?_eq_some.mpr held]

/-- Following names computes what selecting them ends at. -/
theorem follow?_eq_some {document found : Json} {names : List String} :
    document.follow? names = some found ↔ Reaches document names found := by
  induction names generalizing document with
  | nil =>
    constructor
    · intro reached
      cases reached
      exact .here
    · rintro ⟨⟩
      rfl
  | cons name names ih =>
    rw [follow?_cons, Option.bind_eq_some_iff]
    constructor
    · rintro ⟨inner, selected, rest⟩
      exact .inside (select?_eq_some.mp selected) (ih.mp rest)
    · rintro ⟨⟩
      next inner selected rest => exact ⟨inner, select?_eq_some.mpr selected, ih.mpr rest⟩

/-- Some names reach one value at most. -/
theorem Reaches.unique {document found other : Json} {names : List String}
    (reached : Reaches document names found) (also : Reaches document names other) :
    found = other :=
  Option.some.inj ((follow?_eq_some.mpr reached).symm.trans (follow?_eq_some.mpr also))

end Uplink.Json
