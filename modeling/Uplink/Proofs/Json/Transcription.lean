import Mathlib.Data.String.Basic
import Uplink.Json.Parser
import Uplink.Json.Printer

/-!
# Reading back what was written

A quoted text is read back as it was, whatever characters it holds and whatever follows it.
A record, which is an object whose members are texts, is read back as a whole. Its written
form has no blank outside its texts (`Json.outside`), and its length in bytes depends on the
characters of the texts (`Quoted.extent`).
-/

namespace Uplink.Json

namespace Quoted

/-- The number of bytes that a character takes up between quotes. -/
def width (c : Char) : Nat :=
  if c ∈ ['"', '\\', '\x08', '\x0c', '\n', '\r', '\t'] then 2
  else if c.toNat < 0x20 then 6
  else c.utf8Size

/-- The number of bytes that a text takes up between quotes. -/
def extent : List Char → Nat
  | [] => 0
  | c :: text => width c + extent text

theorem extent_of_narrow {text : List Char} (narrow : ∀ c ∈ text, width c = 1) :
    extent text = text.length := by
  induction text with
  | nil => rfl
  | cons c text ih =>
    rw [List.forall_mem_cons] at narrow
    rw [extent, narrow.1, ih narrow.2, List.length_cons, Nat.add_comm]

/-- A character is escaped with a letter, as a control character, or not at all. -/
inductive Escaped (c : Char) : Prop
  | letter {letter : Char} (escaped : escape c = ['\\', letter])
      (short : shortEscape? letter = some c) (narrow : letter.utf8Size = 1) (wide : width c = 2)
  | control (low : c.toNat < 0x20)
      (escaped : escape c =
        ['\\', 'u', '0', '0', hexDigit (c.toNat / 16), hexDigit c.toNat]) (wide : width c = 6)
  | plain (high : 0x20 ≤ c.toNat) (unquoted : c ≠ '"') (unslashed : c ≠ '\\')
      (escaped : escape c = [c]) (wide : width c = c.utf8Size)

theorem escaped (c : Char) : Escaped c := by
  by_cases listed : c ∈ ['"', '\\', '\x08', '\x0c', '\n', '\r', '\t']
  · have wide : width c = 2 := if_pos listed
    simp only [List.mem_cons, List.not_mem_nil, or_false] at listed
    obtain rfl | rfl | rfl | rfl | rfl | rfl | rfl := listed <;>
      exact .letter rfl rfl (by decide) wide
  · have wide : width c = if c.toNat < 0x20 then 6 else c.utf8Size := if_neg listed
    simp only [List.mem_cons, List.not_mem_nil, or_false, not_or] at listed
    obtain ⟨unquoted, unslashed, b, f, n, r, t⟩ := listed
    have escaped : escape c = if c.toNat < 0x20 then
        ['\\', 'u', '0', '0', hexDigit (c.toNat / 16), hexDigit c.toNat] else [c] := by
      rw [escape.eq_def]
      split <;> first | contradiction | rfl
    by_cases low : c.toNat < 0x20
    · exact .control low (escaped.trans (if_pos low)) (wide.trans (if_pos low))
    · exact .plain (Nat.le_of_not_lt low) unquoted unslashed (escaped.trans (if_neg low))
        (wide.trans (if_neg low))

/-! ## Escapes -/

/-- There are sixteen digits. -/
theorem hexDigit_cases {motive : Nat → Char → Prop}
    (each : ∀ value : Fin 16, motive value (hexDigit value)) (value : Nat) :
    motive (value % 16) (hexDigit value) := by
  have reduced : hexDigit value = hexDigit (value % 16) := by
    rw [hexDigit, hexDigit, Nat.mod_mod]
  rw [reduced]
  exact each ⟨value % 16, Nat.mod_lt _ (by decide)⟩

theorem hexValue?_hexDigit (value : Nat) : hexValue? (hexDigit value) = some (value % 16) :=
  hexDigit_cases (motive := fun value digit => hexValue? digit = some value) (by decide) value

theorem hexDigit_plain (value : Nat) :
    (hexDigit value).utf8Size = 1 ∧ hexDigit value ≠ '"' ∧ hexDigit value ≠ '\\' :=
  hexDigit_cases
    (motive := fun _ digit => digit.utf8Size = 1 ∧ digit ≠ '"' ∧ digit ≠ '\\') (by decide) value

/-- The four digits of a control character spell its code. -/
theorem unit?_control {c : Char} (low : c.toNat < 0x20) :
    unit? '0' '0' (hexDigit (c.toNat / 16)) (hexDigit c.toNat) = some c.toNat := by
  have zero : hexValue? '0' = some 0 := rfl
  rw [unit?, zero, hexValue?_hexDigit, hexValue?_hexDigit]
  simp only [Option.bind_eq_bind, Option.bind_some, pure, Option.some.injEq]
  omega

/-- An escaped character is read back as it was, whatever follows. -/
theorem decodeBody?_escape (c : Char) (reversed rest : List Char) :
    decodeBody? reversed (escape c ++ rest) = decodeBody? (c :: reversed) rest := by
  cases escaped c with
  | @letter letter escaped short =>
    have notUnit : letter ≠ 'u' := by
      rintro rfl
      cases short
    rw [escaped, List.cons_append, List.cons_append, List.nil_append,
      decodeBody?.eq_4 _ _ _ fun _ _ _ _ _ same => absurd same notUnit, short]
  | control low escaped =>
    have notLeading : isLeading c.toNat = false := by simp [isLeading]; omega
    have notTrailing : isTrailing c.toNat = false := by simp [isTrailing]; omega
    simp only [escaped, List.cons_append, List.nil_append, decodeBody?, unit?_control low,
      notLeading, notTrailing, Char.ofNat_toNat]
    rfl
  | plain high unquoted unslashed escaped =>
    rw [escaped, List.cons_append, List.nil_append,
      decodeBody?.eq_5 _ _ _ unquoted (fun _ _ _ _ _ same => absurd same unslashed)
        (fun _ _ same => absurd same unslashed), if_neg (Nat.not_lt.mpr high)]

theorem decodeBody?_flatMap (text reversed rest : List Char) :
    decodeBody? reversed (text.flatMap escape ++ '"' :: rest) =
      some (reversed.reverse ++ text, rest) := by
  induction text generalizing reversed with
  | nil => simp [decodeBody?]
  | cons c text ih =>
    rw [List.flatMap_cons, List.append_assoc, decodeBody?_escape, ih]
    simp

theorem encode_append (text rest : List Char) :
    encode text ++ rest = '"' :: (text.flatMap escape ++ '"' :: rest) := by
  simp [encode]

/-- A quoted text is read back as it was, whatever follows. -/
theorem decode?_encode (text rest : List Char) :
    decode? (encode text ++ rest) = some (text, rest) := by
  rw [encode_append, decode?, decodeBody?_flatMap]
  rfl

/-! ## Bytes -/

/-- The bytes of an escaped character. -/
theorem utf8Len_escape (c : Char) : String.utf8Len (escape c) = width c := by
  cases escaped c with
  | letter escaped short narrow wide =>
    have slash : '\\'.utf8Size = 1 := rfl
    simp [escaped, wide, narrow, slash]
  | control low escaped wide =>
    have marks : '\\'.utf8Size = 1 ∧ 'u'.utf8Size = 1 ∧ '0'.utf8Size = 1 := ⟨rfl, rfl, rfl⟩
    simp [escaped, wide, marks, hexDigit_plain]
  | plain high unquoted unslashed escaped wide => simp [escaped, wide]

/-- A quoted text takes up what its characters take up, and two quotes. -/
theorem utf8Len_encode (text : List Char) :
    String.utf8Len (encode text) = 2 + extent text := by
  have quote : '"'.utf8Size = 1 := rfl
  have body : String.utf8Len (text.flatMap escape) = extent text := by
    induction text with
    | nil => rfl
    | cons c text ih => simp [utf8Len_escape, extent, ih]
  rw [encode, String.utf8Len_append, String.utf8Len_cons, body]
  simp [quote]
  omega

end Quoted

/-! ## Records -/

/-- The member of an object that is a text. -/
def entry (text : String × String) : String × Json := (text.1, string text.2)

/-- An object whose members are texts. -/
def record (texts : List (String × String)) : Json := object (texts.map entry)

theorem skipBlank_cons {c : Char} (solid : isBlank c = false) (rest : List Char) :
    skipBlank (c :: rest) = c :: rest :=
  List.dropWhile_cons_of_neg (by simp [solid])

/-- Quoted text has no blank in front of it. -/
theorem skipBlank_encode (text rest : List Char) :
    skipBlank (Quoted.encode text ++ rest) = Quoted.encode text ++ rest := by
  rw [Quoted.encode_append, skipBlank_cons rfl]

/-- A text is read as a value, however deep it stands. -/
theorem value_encode (depth : Nat) (text : String) (rest : List Char) :
    value depth (Quoted.encode text.toList ++ rest) = some (string text, rest) := by
  have read := Quoted.decode?_encode text.toList rest
  rw [Quoted.encode_append] at read ⊢
  rw [value, read]
  simp

/-- The written form of a member that is a text. -/
def renderEntry (text : String × String) : List Char :=
  Quoted.encode text.1.toList ++ ':' :: Quoted.encode text.2.toList

/-- A written member is read back, whatever follows. -/
theorem member_renderEntry (depth : Nat) (text : String × String) (rest : List Char) :
    member (value depth) (renderEntry text ++ rest) = some (entry text, rest) := by
  rw [renderEntry, List.append_assoc, List.cons_append]
  simp only [member, Quoted.decode?_encode, Option.bind_eq_bind, Option.bind_some,
    skipBlank_cons (c := ':') rfl, skipBlank_encode, value_encode]
  simp [entry]

theorem renderMembers_entry (text : String × String) :
    renderMembers [entry text] = renderEntry text := by
  rw [entry, renderMembers, render, renderEntry]

theorem renderMembers_entry_cons (text next : String × String)
    (others : List (String × String)) :
    renderMembers ((text :: next :: others).map entry) =
      renderEntry text ++ ',' :: renderMembers ((next :: others).map entry) := by
  simp [entry, renderMembers, render, renderEntry]

/-- One round of reading the members of a record. -/
theorem elements_renderEntry (depth : Nat) (text : String × String) {c : Char}
    (solid : isBlank c = false) (place : Char) (bound : List Char)
    (reversed : List (String × Json)) (rest : List Char) :
    elements (member (value depth)) '\x7d' (place :: bound) reversed
        (renderEntry text ++ c :: rest) =
      if c = ',' then elements (member (value depth)) '\x7d' bound (entry text :: reversed) rest
      else if c = '\x7d' then some ((entry text :: reversed).reverse, rest) else none := by
  have unblanked : skipBlank (renderEntry text ++ c :: rest) = renderEntry text ++ c :: rest := by
    rw [renderEntry, List.append_assoc, skipBlank_encode]
  rw [elements, unblanked, member_renderEntry]
  simp only [skipBlank_cons solid]

/-- The members of a record are read up to the closing brace, when the bound admits them. -/
theorem elements_record (depth : Nat) (text : String × String) (others : List (String × String))
    {bound : List Char} (room : others.length < bound.length) (reversed : List (String × Json))
    (rest : List Char) :
    elements (member (value depth)) '\x7d' bound reversed
        (renderMembers ((text :: others).map entry) ++ '\x7d' :: rest) =
      some (reversed.reverse ++ (text :: others).map entry, rest) := by
  induction others generalizing text bound reversed with
  | nil =>
    obtain ⟨place, bound, rfl⟩ := List.exists_cons_of_length_pos room
    rw [List.map_singleton, renderMembers_entry, elements_renderEntry depth text rfl]
    simp
  | cons next others ih =>
    obtain ⟨place, bound, rfl⟩ := List.exists_cons_of_length_pos (Nat.zero_lt_of_lt room)
    rw [renderMembers_entry_cons, List.append_assoc, List.cons_append,
      elements_renderEntry depth text rfl, if_pos rfl,
      ih next (Nat.lt_of_succ_lt_succ room) (entry text :: reversed)]
    simp

/-- The members of a record begin with a quote, and each takes up a character. -/
theorem exists_renderMembers (text : String × String) (others : List (String × String)) :
    ∃ chars, renderMembers ((text :: others).map entry) = '"' :: chars ∧
      others.length ≤ chars.length := by
  induction others generalizing text with
  | nil =>
    rw [List.map_singleton, renderMembers_entry, renderEntry, Quoted.encode_append]
    exact ⟨_, rfl, Nat.zero_le _⟩
  | cons next others ih =>
    obtain ⟨chars, written, short⟩ := ih next
    rw [renderMembers_entry_cons, renderEntry, List.append_assoc, Quoted.encode_append, written]
    refine ⟨_, rfl, ?_⟩
    simp only [List.length_append, List.length_cons]
    omega

/-- A record is read back as a value, whatever follows it. -/
theorem value_record (depth : Nat) (texts : List (String × String)) (rest : List Char) :
    value (depth + 1) (render (record texts) ++ rest) = some (record texts, rest) := by
  have read : sequence (member (value depth)) '\x7d'
      (renderMembers (texts.map entry) ++ '\x7d' :: rest) = some (texts.map entry, rest) := by
    cases texts with
    | nil =>
      rw [List.map_nil, renderMembers, List.nil_append, sequence, skipBlank_cons rfl]
      rfl
    | cons text others =>
      obtain ⟨chars, written, short⟩ := exists_renderMembers text others
      have room : others.length <
          (renderMembers ((text :: others).map entry) ++ '\x7d' :: rest).length := by
        rw [written, List.length_append, List.length_cons]
        omega
      have all := elements_record depth text others room [] rest
      rw [written, List.cons_append] at all ⊢
      rw [sequence, skipBlank_cons rfl]
      exact all
  rw [record, render, List.append_assoc, List.cons_append, List.singleton_append, value, read]
  rfl

/-- A written record is read back as a document. -/
theorem parse?_render_record (texts : List (String × String)) :
    parse? (render (record texts)) = some (record texts) := by
  have unblanked : skipBlank (render (record texts)) = render (record texts) := by
    rw [record, render, List.cons_append, skipBlank_cons rfl]
  have read := value_record 126 texts []
  rw [List.append_nil] at read
  rw [parse?, unblanked, maxDepth, read]
  rfl

/-! ## Outside the texts -/

/-- The characters of a document that stand outside its quoted texts, from inside or outside
one. -/
def outside : (quoted : Bool) → List Char → List Char
  | _, [] => []
  | true, '\\' :: _ :: rest => outside true rest
  | quoted, c :: rest =>
    if c = '"' then outside (!quoted) rest
    else if quoted then outside true rest
    else c :: outside false rest

theorem outside_cons {c : Char} (unquoted : c ≠ '"') (rest : List Char) :
    outside false (c :: rest) = c :: outside false rest := by
  simp [outside, unquoted]

theorem outside_plain {c : Char} (unquoted : c ≠ '"') (unslashed : c ≠ '\\') (rest : List Char) :
    outside true (c :: rest) = outside true rest := by
  rw [outside, if_neg unquoted, if_pos rfl]
  rintro _ _ - rfl
  exact absurd rfl unslashed

theorem outside_escape (c : Char) (rest : List Char) :
    outside true (Quoted.escape c ++ rest) = outside true rest := by
  cases Quoted.escaped c with
  | letter escaped => simp [escaped, outside]
  | control low escaped =>
    obtain ⟨-, firstUnquoted, firstUnslashed⟩ := Quoted.hexDigit_plain (c.toNat / 16)
    obtain ⟨-, unquoted, unslashed⟩ := Quoted.hexDigit_plain c.toNat
    have zero (rest : List Char) : outside true ('0' :: rest) = outside true rest :=
      outside_plain (by decide) (by decide) rest
    simp only [escaped, List.cons_append, List.nil_append]
    rw [outside, zero, zero, outside_plain firstUnquoted firstUnslashed,
      outside_plain unquoted unslashed]
  | plain high unquoted unslashed escaped =>
    rw [escaped, List.singleton_append, outside_plain unquoted unslashed]

theorem outside_flatMap (text rest : List Char) :
    outside true (text.flatMap Quoted.escape ++ '"' :: rest) = outside false rest := by
  induction text with
  | nil => simp [outside]
  | cons c text ih => rw [List.flatMap_cons, List.append_assoc, outside_escape, ih]

theorem outside_encode (text rest : List Char) :
    outside false (Quoted.encode text ++ rest) = outside false rest := by
  rw [Quoted.encode_append, ← outside_flatMap text rest]
  simp [outside]

/-- Outside its texts a member of a record is a colon. -/
theorem outside_renderEntry (text : String × String) (rest : List Char) :
    outside false (renderEntry text ++ rest) = ':' :: outside false rest := by
  rw [renderEntry, List.append_assoc, outside_encode, List.cons_append, outside_cons (by decide),
    outside_encode]

end Uplink.Json
