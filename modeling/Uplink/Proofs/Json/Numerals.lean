import Uplink.Json.Parser
import Uplink.Proofs.Json.Selection

/-!
# The numbers of a document

A literal may be too large for any double. The reader refuses a document with such a
literal, at whatever depth it stands, so every number of a document that was read
denotes a double, and with it every number that a name finds there.
-/

namespace Uplink.Json

/-- Every number in a document denotes a double. -/
inductive Denotes : Json → Prop
  | null : Denotes null
  | bool (truth : Bool) : Denotes (bool truth)
  | number {literal : Number} (finite : literal.toDouble?.isSome) : Denotes (number literal)
  | string (text : String) : Denotes (string text)
  | array {items : List Json} (each : ∀ item ∈ items, Denotes item) : Denotes (array items)
  | object {members : List (String × Json)} (each : ∀ member ∈ members, Denotes member.2) :
      Denotes (object members)

/-- What can be selected in such a document is one. -/
theorem Denotes.of_selects {document found : Json} {name : String} (denotes : Denotes document)
    (selected : Selects document name found) : Denotes found := by
  cases denotes with
  | object each =>
    cases selected with
    | exactly held => exact each _ held.mem
    | caseless _ held _ _ => exact each _ held.mem
  | _ => cases selected

theorem Denotes.of_reaches {document found : Json} {names : List String}
    (denotes : Denotes document) (reached : Reaches document names found) : Denotes found := by
  induction reached with
  | here => exact denotes
  | inside selected _ ih => exact ih (denotes.of_selects selected)

/-- A value of such a document is a number exactly when it denotes a double. -/
theorem Denotes.toDouble?_isSome {leaf : Json} (denotes : Denotes leaf) :
    leaf.toDouble?.isSome ↔ ∃ literal, leaf = .number literal := by
  cases denotes with
  | number finite => exact iff_of_true finite ⟨_, rfl⟩
  | _ => simp [toDouble?]

/-- A value is a boolean exactly when it has a truth value. -/
theorem toBool?_isSome {leaf : Json} : leaf.toBool?.isSome ↔ ∃ truth, leaf = .bool truth := by
  cases leaf <;> simp [toBool?]

/-! ## Readers -/

section

variable {α : Type} {element : Parser α} {closing : Char} {good : α → Prop}

/-- What holds of every element that is read holds of all elements of a sequence. -/
theorem forall_elements
    (each : ∀ {chars found rest}, element chars = some (found, rest) → good found)
    {bound chars rest : List Char} {reversed found : List α}
    (before : ∀ item ∈ reversed, good item)
    (taken : elements element closing bound reversed chars = some (found, rest)) :
    ∀ item ∈ found, good item := by
  fun_induction elements element closing bound reversed chars with
  | case1 => cases taken
  | case2 => cases taken
  | case3 => cases taken
  | case4 _ _ _ _ item _ first _ _ ih =>
    exact ih (List.forall_mem_cons.mpr ⟨each first, before⟩) taken
  | case5 _ _ _ _ item _ first =>
    cases taken
    simpa [or_imp, forall_and] using ⟨before, each first⟩
  | case6 => cases taken

theorem forall_sequence
    (each : ∀ {chars found rest}, element chars = some (found, rest) → good found)
    {chars rest : List Char} {found : List α}
    (taken : sequence element closing chars = some (found, rest)) :
    ∀ item ∈ found, good item := by
  rw [sequence] at taken
  split at taken
  · cases taken
  · split at taken
    · cases taken
      exact List.forall_mem_nil _
    · exact forall_elements each (List.forall_mem_nil _) taken

end

/-- A literal that was read denotes a double. -/
theorem unsignedNumber_finite {negative : Bool} {chars rest : List Char} {literal : Number}
    (taken : unsignedNumber negative chars = some (literal, rest)) :
    literal.toDouble?.isSome := by
  simp only [unsignedNumber, Option.bind_eq_bind, Option.bind_eq_some_iff] at taken
  obtain ⟨_, _, _, _, _, _, _, finite, same⟩ := taken
  cases same
  exact Option.isSome_iff_exists.mpr ⟨_, finite⟩

theorem numberLiteral_finite {chars rest : List Char} {literal : Number}
    (taken : numberLiteral chars = some (literal, rest)) : literal.toDouble?.isSome := by
  rw [numberLiteral.eq_def] at taken
  split at taken <;> exact unsignedNumber_finite taken

theorem member_denotes {read : Parser Json}
    (each : ∀ {chars found rest}, read chars = some (found, rest) → Denotes found)
    {chars rest : List Char} {found : String × Json}
    (taken : member read chars = some (found, rest)) : Denotes found.2 := by
  simp only [member, Option.bind_eq_bind, Option.bind_eq_some_iff] at taken
  obtain ⟨⟨key, after⟩, -, taken⟩ := taken
  split at taken
  · obtain ⟨⟨value, left⟩, one, same⟩ := Option.bind_eq_some_iff.mp taken
    cases same
    exact each one
  · cases taken

/-- Every number of a value that was read denotes a double. -/
theorem value_denotes {depth : Nat} {chars rest : List Char} {found : Json}
    (taken : value depth chars = some (found, rest)) : Denotes found := by
  induction depth using Nat.strongRecOn generalizing chars found rest with
  | ind depth ih =>
    revert taken
    fun_cases value depth chars with
    | case1 => rintro ⟨⟩
    | case2 =>
      rintro ⟨⟩
      exact .null
    | case3 =>
      rintro ⟨⟩
      exact .bool true
    | case4 =>
      rintro ⟨⟩
      exact .bool false
    | case5 =>
      intro taken
      obtain ⟨_, -, same⟩ := Option.map_eq_some_iff.mp taken
      cases same
      exact .string _
    | case6 depth =>
      intro taken
      obtain ⟨_, items, same⟩ := Option.map_eq_some_iff.mp taken
      cases same
      exact .array (forall_sequence (ih depth depth.lt_succ_self) items)
    | case7 depth =>
      intro taken
      obtain ⟨_, members, same⟩ := Option.map_eq_some_iff.mp taken
      cases same
      exact .object (forall_sequence (member_denotes (ih depth depth.lt_succ_self)) members)
    | case8 =>
      intro taken
      obtain ⟨_, literal, same⟩ := Option.map_eq_some_iff.mp taken
      cases same
      exact .number (numberLiteral_finite literal)

/-- Every number of a document that was read denotes a double. -/
theorem denotes_of_ofBytes? {bytes : Bytes} {document : Json}
    (spelled : ofBytes? bytes = some document) : Denotes document := by
  obtain ⟨text, -, parsed⟩ := Option.bind_eq_some_iff.mp spelled
  rw [parse?] at parsed
  split at parsed
  case h_1 taken =>
    split at parsed
    · cases parsed
      exact value_denotes taken
    · cases parsed
  case h_2 => cases parsed

end Uplink.Json
