import Mathlib.Data.List.Pairwise
import Mathlib.Logic.Relation
import Uplink.Proofs.Command.Reporting

/-!
# Edits that commands do not see

Documents that say the same may be spelled in many ways. `Json.Edit` is one change of a
spelling: the members of an object in another order, a key in another case, a member more or
less that no name of the vocabulary asks for. Where the members stand decides which names
these are, so the relation carries the nodes of the command tree at its place and moves with
them down to the leaves, whose values stay as they are.

An edited document need not be unambiguous any more, since foreign keys may repeat. What
every edit preserves is that each name of the tree has at most one answer (`Json.Definite`),
and under this condition selecting a name does not depend on order or case.
-/

namespace Uplink

namespace Json

/-! ## Names and their answers -/

section Letters

variable {first second third : String}

theorem sameLetters_iff :
    sameLetters first second ↔ first.toList.map Char.toLower = second.toList.map Char.toLower := by
  rw [sameLetters, beq_iff_eq]

theorem sameLetters_self (name : String) : sameLetters name name := sameLetters_iff.mpr rfl

theorem sameLetters_trans (left : sameLetters first second) (right : sameLetters second third) :
    sameLetters first third :=
  sameLetters_iff.mpr ((sameLetters_iff.mp left).trans (sameLetters_iff.mp right))

theorem sameLetters_symm (same : sameLetters first second) : sameLetters second first :=
  sameLetters_iff.mpr (sameLetters_iff.mp same).symm

end Letters

/-- The values of the members whose key is a name up to case. -/
def answers (name : String) (document : Json) : List Json :=
  ((document.members?.getD []).filter (sameLetters name ·.1)).map (·.2)

section Answers

variable {document : Json} {members earlier later : List (String × Json)} {name key : String}
  {value : Json}

theorem answers_object :
    (object members).answers name = (members.filter (sameLetters name ·.1)).map (·.2) := rfl

theorem answers_split :
    (object (earlier ++ (key, value) :: later)).answers name =
      (object earlier).answers name ++
        ((if sameLetters name key then [value] else []) ++ (object later).answers name) := by
  rw [answers_object, List.filter_append, List.map_append, List.filter_cons]
  by_cases similar : sameLetters name key <;> simp [similar, answers_object]

theorem answers_append :
    (object (earlier ++ later)).answers name =
      (object earlier).answers name ++ (object later).answers name := by
  rw [answers_object, List.filter_append, List.map_append, answers_object, answers_object]

/-- A name with at most one answer finds it, in whatever case it is written. -/
theorem select?_eq_head? (once : (document.answers name).length ≤ 1) :
    document.select? name = (document.answers name).head? := by
  cases document with
  | null | bool | number | string | array => rfl
  | object members =>
    rw [answers_object] at once ⊢
    generalize similar : members.filter (sameLetters name ·.1) = answering at once ⊢
    match answering with
    | [] =>
      have absent : ∀ member ∈ members, ¬ sameLetters name member.1 :=
        List.filter_eq_nil_iff.mp similar
      rw [List.map_nil, List.head?_nil, Option.eq_none_iff_forall_ne_some]
      intro found selected
      cases select?_eq_some.mp selected with
      | exactly held => exact absent _ held.mem (sameLetters_self name)
      | caseless _ held alike => exact absent _ held.mem alike
    | [(key, value)] =>
      have only : ∀ member ∈ members, sameLetters name member.1 → member = (key, value) := by
        intro member listed alike
        rw [← List.mem_singleton, ← similar]
        exact List.mem_filter.mpr ⟨listed, alike⟩
      obtain ⟨earlier, later, split, -, alike, others⟩ := List.filter_eq_cons_iff.mp similar
      have held : Holds members key value := by
        refine ⟨earlier, later, split, fun member listed same => ?_⟩
        exact List.filter_eq_nil_iff.mp others member listed (same ▸ alike)
      apply select?_eq_some.mpr
      by_cases exact : key = name
      · exact .exactly (exact ▸ held)
      · refine .caseless (fun member listed same => ?_) held alike fun member listed also => ?_
        · cases only member listed (same ▸ sameLetters_self name)
          exact exact same
        · cases only member listed also
          exact Utf8.encode_le_encode.mpr le_rfl
    | _ :: _ :: _ =>
      rw [List.length_map] at once
      exact absurd (Nat.le_of_succ_le_succ once) (Nat.not_succ_le_zero _)

/-- A name with at most one answer finds the same among the same answers. -/
theorem select?_of_perm {other : Json} (once : (document.answers name).length ≤ 1)
    (same : (document.answers name).Perm (other.answers name)) :
    document.select? name = other.select? name := by
  rw [select?_eq_head? once, select?_eq_head? (same.length_eq ▸ once)]
  generalize document.answers name = answers at once same
  match answers with
  | [] => rw [List.nil_perm.mp same]
  | [value] => rw [List.singleton_perm.mp same]
  | _ :: _ :: _ => exact absurd (Nat.le_of_succ_le_succ once) (Nat.not_succ_le_zero _)

end Answers

/-! ## Documents -/

/-- No object in a document has two keys that are equal up to case. -/
inductive Unambiguous : (document : Json) → Prop
  | null : Unambiguous null
  | bool {truth : Bool} : Unambiguous (bool truth)
  | number {literal : Number} : Unambiguous (number literal)
  | string {text : String} : Unambiguous (string text)
  | array {items : List Json} (inner : ∀ item ∈ items, Unambiguous item) :
      Unambiguous (array items)
  | object {members : List (String × Json)}
      (distinct : members.Pairwise fun left right => ¬ sameLetters left.1 right.1)
      (inner : ∀ member ∈ members, Unambiguous member.2) :
      Unambiguous (object members)

/-- One change of a document that nodes of a command tree do not see. What stands under a
foreign key is free: the member can be removed and added with another value. -/
inductive Edit : (nodes : List Node) → (before after : Json) → Prop
  | reorder {nodes : List Node} {members others : List (String × Json)}
      (same : members.Perm others) : Edit nodes (object members) (object others)
  | recase {nodes : List Node} (earlier later : List (String × Json)) (value : Json)
      {key other : String} (same : sameLetters key other) :
      Edit nodes (object (earlier ++ (key, value) :: later))
        (object (earlier ++ (other, value) :: later))
  | add {nodes : List Node} (earlier later : List (String × Json)) (key : String) (value : Json)
      (foreign : ∀ node ∈ nodes, ¬ sameLetters node.key key) :
      Edit nodes (object (earlier ++ later)) (object (earlier ++ (key, value) :: later))
  | remove {nodes : List Node} (earlier later : List (String × Json)) (key : String)
      (value : Json) (foreign : ∀ node ∈ nodes, ¬ sameLetters node.key key) :
      Edit nodes (object (earlier ++ (key, value) :: later)) (object (earlier ++ later))
  | inside {nodes : List Node} {node : Node} (earlier later : List (String × Json))
      (key : String) {value changed : Json} (among : node ∈ nodes)
      (aboveLeaves : node.children ≠ []) (named : sameLetters node.key key)
      (edit : Edit node.children value changed) :
      Edit nodes (object (earlier ++ (key, value) :: later))
        (object (earlier ++ (key, changed) :: later))

/-- Every name of a tree has at most one answer wherever it is asked for. -/
inductive Definite : (nodes : List Node) → (document : Json) → Prop
  | intro {nodes : List Node} {document : Json}
      (once : ∀ node ∈ nodes, (document.answers node.key).length ≤ 1)
      (inner : ∀ node ∈ nodes, ∀ value ∈ document.answers node.key,
        Definite node.children value) :
      Definite nodes document

end Json

/-- No two siblings in a forest of some height have names that are equal up to case. -/
def Node.apart : (height : Nat) → (nodes : List Node) → Bool
  | 0, nodes => nodes.isEmpty
  | height + 1, nodes =>
    decide (nodes.Pairwise fun left right => ¬ Json.sameLetters left.key right.key) &&
      nodes.all fun node => apart height node.children

namespace Node

variable {height : Nat} {nodes : List Node} {node : Node}

theorem apart_children (distinct : apart (height + 1) nodes) (among : node ∈ nodes) :
    apart height node.children :=
  List.all_eq_true.mp (Bool.and_eq_true_iff.mp distinct).2 node among

/-- A key names one of some siblings at most. -/
theorem eq_of_apart {other : Node} {key : String} (distinct : apart (height + 1) nodes)
    (among : node ∈ nodes) (alsoAmong : other ∈ nodes) (named : Json.sameLetters node.key key)
    (alsoNamed : Json.sameLetters other.key key) : node = other := by
  have symmetric : Std.Symm fun left right : Node => ¬ Json.sameLetters left.key right.key :=
    ⟨fun _ _ distinct alike => distinct (Json.sameLetters_symm alike)⟩
  have siblings := of_decide_eq_true (Bool.and_eq_true_iff.mp distinct).1
  have alike := Json.sameLetters_trans named (Json.sameLetters_symm alsoNamed)
  by_contra different
  exact siblings.forall among alsoAmong different alike

/-- A leaf path begins with the name of its tree. -/
theorem names_of_mem {path : LeafPath} (listed : path ∈ node.paths) :
    ∃ rest, path = (node.key, node.kind) :: rest ∧
      (node.children = [] ∧ rest = [] ∨ ∃ child ∈ node.children, rest ∈ child.paths) := by
  by_cases leaf : node.children = []
  · rw [paths_of_leaf leaf] at listed
    obtain ⟨rest, isEmpty, rfl⟩ := List.mem_map.mp listed
    exact ⟨rest, rfl, .inl ⟨leaf, List.mem_singleton.mp isEmpty⟩⟩
  · rw [paths_of_inner leaf] at listed
    obtain ⟨rest, below, rfl⟩ := List.mem_map.mp listed
    obtain ⟨child, among, ofChild⟩ := List.mem_flatMap.mp below
    exact ⟨rest, rfl, .inr ⟨child, among, ofChild⟩⟩

end Node

namespace Json

variable {height : Nat} {nodes : List Node} {node : Node} {document before after : Json}

theorem Definite.of_no_members (nodes : List Node) (none : document.members? = none) :
    Definite nodes document := by
  have silent (name : String) : document.answers name = [] := by
    rw [answers, none]
    rfl
  refine .intro (fun node _ => ?_) fun node _ value listed => ?_
  · rw [silent]
    exact Nat.zero_le 1
  · rw [silent] at listed
    cases listed

/-- Among distinct keys, one at most is a name up to case. -/
theorem length_answers_le {members : List (String × Json)} (name : String)
    (distinct : members.Pairwise fun left right => ¬ sameLetters left.1 right.1) :
    ((object members).answers name).length ≤ 1 := by
  rw [answers_object, List.length_map]
  have named : ∀ member ∈ members.filter (sameLetters name ·.1), sameLetters name member.1 :=
    fun member listed => (List.mem_filter.mp listed).2
  have apart := distinct.filter (sameLetters name ·.1)
  generalize members.filter (sameLetters name ·.1) = answering at named apart
  match answering with
  | [] => exact Nat.zero_le 1
  | [_] => exact Nat.le_refl 1
  | first :: second :: _ =>
    have alike := sameLetters_trans
      (sameLetters_symm (named first List.mem_cons_self))
      (named second (List.mem_cons_of_mem _ List.mem_cons_self))
    exact absurd alike (List.rel_of_pairwise_cons apart List.mem_cons_self)

/-- Without two equal keys in any object, every name has one answer at most. -/
theorem Unambiguous.definite (unambiguous : document.Unambiguous) (nodes : List Node) :
    Definite nodes document := by
  induction unambiguous generalizing nodes with
  | null | bool | number | string | array => exact .of_no_members nodes rfl
  | @object members distinct _ ih =>
    refine .intro (fun node _ => length_answers_le node.key distinct) fun node _ value listed => ?_
    obtain ⟨member, answering, rfl⟩ := List.mem_map.mp listed
    exact ih member (List.mem_filter.mp answering).1 node.children

/-! ## One edit -/

/-- For each name at its place, an edit keeps the answers, or it is an edit of the one
answer. -/
theorem Edit.answers_cases (edit : Edit nodes before after) (definite : Definite nodes before)
    (distinct : Node.apart (height + 1) nodes) (among : node ∈ nodes) :
    (before.answers node.key).Perm (after.answers node.key) ∨
      ∃ value changed, before.answers node.key = [value] ∧ after.answers node.key = [changed] ∧
        node.children ≠ [] ∧ Edit node.children value changed := by
  obtain ⟨once, -⟩ := definite
  cases edit with
  | reorder same =>
    left
    rw [answers_object, answers_object]
    exact (same.filter _).map _
  | @recase _ earlier later value key other same =>
    left
    have either : sameLetters node.key key = sameLetters node.key other := by
      apply Bool.eq_iff_iff.mpr
      exact ⟨(sameLetters_trans · same), (sameLetters_trans · (sameLetters_symm same))⟩
    rw [answers_split, answers_split, either]
  | add earlier later key value foreign =>
    left
    rw [answers_split, if_neg (foreign node among), List.nil_append, answers_append]
  | remove earlier later key value foreign =>
    left
    rw [answers_split, if_neg (foreign node among), List.nil_append, answers_append]
  | @inside _ target earlier later key value changed alsoAmong aboveLeaves named edit =>
    by_cases similar : sameLetters node.key key
    -- Siblings are apart, so the edit goes on below this very node.
    · right
      cases Node.eq_of_apart distinct among alsoAmong similar named
      have single := once node among
      rw [answers_split, if_pos similar] at single ⊢
      rw [answers_split, if_pos similar]
      simp only [List.length_append, List.length_singleton] at single
      have noEarlier := List.eq_nil_of_length_eq_zero
        (l := (object earlier).answers node.key) (by omega)
      have noLater := List.eq_nil_of_length_eq_zero
        (l := (object later).answers node.key) (by omega)
      rw [noEarlier, noLater]
      exact ⟨value, changed, rfl, rfl, aboveLeaves, edit⟩
    · left
      rw [answers_split, answers_split, if_neg similar, if_neg similar]

/-- An edit leaves every name with one answer at most. -/
theorem Edit.definite (edit : Edit nodes before after) (definite : Definite nodes before)
    (distinct : Node.apart height nodes) : Definite nodes after := by
  -- An edit of the one answer is an edit at the children, one level lower.
  induction height generalizing nodes before after with
  | zero =>
    cases List.isEmpty_iff.mp distinct
    exact .intro (fun _ among => nomatch among) fun _ among => nomatch among
  | succ height ih =>
    have kept : ∀ node ∈ nodes, _ := fun _ among => edit.answers_cases definite distinct among
    obtain ⟨once, inner⟩ := definite
    refine .intro (fun node among => ?_) fun node among value listed => ?_
    · obtain same | ⟨_, _, -, isAfter, -⟩ := kept node among
      · exact same.length_eq ▸ once node among
      · rw [isAfter]
        exact Nat.le_refl 1
    · obtain same | ⟨old, changed, isBefore, isAfter, -, edit⟩ := kept node among
      · exact inner node among value (same.mem_iff.mpr listed)
      · rw [isAfter, List.mem_singleton] at listed
        subst listed
        have definiteOld := inner node among old (isBefore ▸ List.mem_singleton.mpr rfl)
        exact ih edit definiteOld (Node.apart_children distinct among)

/-- An edit does not change what leaf paths end at. -/
theorem Edit.follow?_eq (edit : Edit nodes before after) (definite : Definite nodes before)
    (distinct : Node.apart height nodes) (among : node ∈ nodes) {path : LeafPath}
    (listed : path ∈ node.paths) : before.follow? path.names = after.follow? path.names := by
  induction height generalizing nodes before after node path with
  | zero =>
    cases List.isEmpty_iff.mp distinct
    cases among
  | succ height ih =>
    obtain ⟨rest, rfl, ending⟩ := Node.names_of_mem listed
    rw [LeafPath.names_cons, follow?_cons, follow?_cons]
    obtain same | ⟨old, changed, isBefore, isAfter, aboveLeaves, edit⟩ :=
      edit.answers_cases definite distinct among
    · obtain ⟨once, -⟩ := definite
      rw [select?_of_perm (once node among) same]
    · obtain ⟨once, inner⟩ := definite
      have definiteOld := inner node among old (isBefore ▸ List.mem_singleton.mpr rfl)
      rw [select?_eq_head? (once node among), select?_eq_head? (isAfter ▸ Nat.le_refl 1), isBefore,
        isAfter]
      obtain ⟨leaf, -⟩ | ⟨child, childAmong, ofChild⟩ := ending
      · exact absurd leaf aboveLeaves
      · exact ih edit definiteOld (Node.apart_children distinct among) childAmong ofChild

end Json

/-! ## Many edits -/

namespace Vocabulary

/-- The trees that a document is searched for, side by side. -/
def roots : List Node := groups.map tree

theorem roots_apart : Node.apart 4 roots := by decide +kernel

theorem exists_root_of_mem {path : LeafPath} (listed : path ∈ paths) :
    ∃ root ∈ roots, path ∈ root.paths := by
  obtain reading | setting := List.mem_append.mp listed
  · exact ⟨getCommands, List.mem_cons_self, reading⟩
  · exact ⟨setCommands, List.mem_cons_of_mem _ List.mem_cons_self, setting⟩

end Vocabulary

namespace Json

variable {document edited : Json}

/-- Any number of edits preserve what each leaf path of the vocabulary ends at. -/
theorem follow?_of_edits (definite : Definite Vocabulary.roots document)
    (edits : Relation.ReflTransGen (Edit Vocabulary.roots) document edited) :
    Definite Vocabulary.roots edited ∧ ∀ path ∈ Vocabulary.paths,
      document.follow? path.names = edited.follow? path.names := by
  induction edits with
  | refl => exact ⟨definite, fun _ _ => rfl⟩
  | tail _ edit ih =>
    obtain ⟨definiteBefore, same⟩ := ih
    refine ⟨edit.definite definiteBefore Vocabulary.roots_apart, fun path listed => ?_⟩
    obtain ⟨root, among, ofRoot⟩ := Vocabulary.exists_root_of_mem listed
    rw [same path listed]
    exact edit.follow?_eq definiteBefore Vocabulary.roots_apart among ofRoot

/-- Edited documents ask for the same commands. -/
theorem contributions_of_edits (unambiguous : document.Unambiguous)
    (edits : Relation.ReflTransGen (Edit Vocabulary.roots) document edited) :
    document.contributions [] Vocabulary.paths = edited.contributions [] Vocabulary.paths := by
  obtain ⟨-, same⟩ := follow?_of_edits (unambiguous.definite Vocabulary.roots) edits
  rw [contributions, contributions]
  exact List.filterMap_congr fun path listed => by rw [same path listed]

end Json

namespace Codec

/-- Of a document without two equal keys in any object, every spelling that edits lead to is
decoded alike: the same number of commands, and the same commands for the handler. -/
theorem decode_edited {input other : Bytes} {document edited : Json}
    (spelled : Json.ofBytes? input = some document)
    (alsoSpelled : Json.ofBytes? other = some edited)
    (unambiguous : document.Unambiguous)
    (edits : Relation.ReflTransGen (Json.Edit Vocabulary.roots) document edited) :
    ∃ commands : List Command, ∀ {σ : Type} (codec : Codec σ),
      codec.decode input = (.ok commands.length, codec.receiveAll commands) ∧
        codec.decode other = (.ok commands.length, codec.receiveAll commands) := by
  refine ⟨document.contributions [] Vocabulary.paths, fun codec => ⟨decode_eq spelled codec, ?_⟩⟩
  rw [Json.contributions_of_edits unambiguous edits]
  exact decode_eq alsoSpelled codec

/-- A text that switches a pin on, with an empty group behind. -/
def plainText : Bytes := Utf8.encode
  "\x7b\"set\":\x7b\"ui\":\x7b\"pin\":\x7b\"enable\":true\x7d\x7d\x7d,\"get\":\x7b\x7d\x7d"

/-- The members that switch a pin on. -/
def pinOn : List (String × Json) := [("pin", .object [("enable", .bool true)])]

/-- What the text says. -/
def plainDocument : Json :=
  .object [("set", .object [("ui", .object pinOn)]), ("get", .object [])]

theorem plainDocument_unambiguous : plainDocument.Unambiguous := by
  have single {key : String} {value : Json} (inner : value.Unambiguous) :
      (Json.object [(key, value)]).Unambiguous :=
    .object (List.pairwise_singleton _ _) (List.forall_mem_singleton.mpr inner)
  have setting : (Json.object [("ui", .object pinOn)]).Unambiguous :=
    single (single (single .bool))
  have reading : (Json.object []).Unambiguous := .object .nil fun _ listed => nomatch listed
  refine .object (by decide +kernel) ?_
  exact List.forall_mem_cons.mpr ⟨setting, List.forall_mem_singleton.mpr reading⟩

/-- The same groups the other way round and in other cases, with a remark inside. -/
def remarkedText : Bytes := Utf8.encode
  "\x7b\"GET\":\x7b\x7d,\"set\":\x7b\"Ui\":\x7b\"pin\":\x7b\"enable\":true\x7d,\"why\":null\x7d\x7d\x7d"

/-- What the remarked text says. -/
def remarkedDocument : Json :=
  .object [("GET", .object []), ("set", .object [("Ui", .object (pinOn ++ [("why", .null)]))])]

theorem remarkedDocument_edited :
    Relation.ReflTransGen (Json.Edit Vocabulary.roots) plainDocument remarkedDocument := by
  have isSetting : Vocabulary.setCommands ∈ Vocabulary.roots :=
    List.mem_cons_of_mem _ List.mem_cons_self
  have isInterface : Vocabulary.setCommands.children[2] ∈ Vocabulary.setCommands.children :=
    List.getElem_mem _
  have reordered : Json.Edit Vocabulary.roots plainDocument
      (.object [("get", .object []), ("set", .object [("ui", .object pinOn)])]) :=
    .reorder (.swap _ _ [])
  have recased : Json.Edit Vocabulary.roots
      (.object [("get", .object []), ("set", .object [("ui", .object pinOn)])])
      (.object [("GET", .object []), ("set", .object [("ui", .object pinOn)])]) :=
    .recase [] _ _ (by decide +kernel)
  have recasedInside : Json.Edit Vocabulary.roots
      (.object [("GET", .object []), ("set", .object [("ui", .object pinOn)])])
      (.object [("GET", .object []), ("set", .object [("Ui", .object pinOn)])]) :=
    .inside [("GET", .object [])] [] "set" isSetting nofun (by decide +kernel)
      (.recase [] [] _ (by decide +kernel))
  have remarked : Json.Edit Vocabulary.roots
      (.object [("GET", .object []), ("set", .object [("Ui", .object pinOn)])])
      remarkedDocument :=
    .inside [("GET", .object [])] [] "set" isSetting nofun (by decide +kernel)
      (.inside [] [] "Ui" isInterface nofun (by decide +kernel)
        (.add pinOn [] "why" .null (by decide +kernel)))
  exact .tail (.tail (.tail (.single reordered) recased) recasedInside) remarked

/-- Four edits of a document do not change what it is decoded to. -/
theorem decode_edited_remarked :
    ∃ commands : List Command, ∀ {σ : Type} (codec : Codec σ),
      codec.decode plainText = (.ok commands.length, codec.receiveAll commands) ∧
        codec.decode remarkedText = (.ok commands.length, codec.receiveAll commands) := by
  have plain : Json.ofBytes? plainText = some plainDocument := rfl
  have remarked : Json.ofBytes? remarkedText = some remarkedDocument := rfl
  exact decode_edited plain remarked plainDocument_unambiguous remarkedDocument_edited

end Codec

end Uplink
