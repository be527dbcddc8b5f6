import Uplink.Json.Basic
import Uplink.Json.Quoted
import Uplink.Text.Utf8

/-!
# Reading documents

`Json.parse?` reads one document that takes up the whole input, blanks around it
apart. The grammar is the strict one: no comment, no trailing comma, no leading zero.
At most `Json.maxDepth` arrays and objects may stand inside one another, and a number
must denote a finite double.
-/

namespace Uplink.Json

/-- A reader of one thing from the front of some characters. -/
abbrev Parser (α : Type) := List Char → Option (α × List Char)

/-- The characters that may stand between the parts of a document. -/
def isBlank (c : Char) : Bool := c == ' ' || c == '\t' || c == '\n' || c == '\r'

/-- Drop leading blanks. -/
def skipBlank (chars : List Char) : List Char := chars.dropWhile isBlank

/-- Take leading digits. -/
def takeDigits : List Char → List Digit × List Char
  | [] => ([], [])
  | c :: rest =>
    match Digit.ofChar? c with
    | some digit =>
      let (more, left) := takeDigits rest
      (digit :: more, left)
    | none => ([], c :: rest)

/-- Take at least one digit. -/
def someDigits : Parser (List Digit) := fun chars =>
  match takeDigits chars with
  | ([], _) => none
  | found => some found

/-- Take the digits before the point; a zero stands alone. -/
def wholePart : Parser (List Digit) := fun chars =>
  match someDigits chars with
  | some (0 :: _ :: _, _) => none
  | found => found

/-- Take the point and the digits after it, if there is a point. -/
def fractionPart : Parser (List Digit)
  | '.' :: rest => someDigits rest
  | chars => some ([], chars)

/-- Take a signed exponent after its letter. -/
def exponentDigits : Parser Exponent
  | '-' :: rest => (someDigits rest).map fun (digits, left) => (⟨true, digits⟩, left)
  | '+' :: rest => (someDigits rest).map fun (digits, left) => (⟨false, digits⟩, left)
  | chars => (someDigits chars).map fun (digits, left) => (⟨false, digits⟩, left)

/-- Take an exponent, if there is one. -/
def exponentPart : Parser (Option Exponent)
  | 'e' :: rest => (exponentDigits rest).map fun (exponent, left) => (some exponent, left)
  | 'E' :: rest => (exponentDigits rest).map fun (exponent, left) => (some exponent, left)
  | chars => some (none, chars)

/-- Take a number without its sign. -/
def unsignedNumber (negative : Bool) : Parser Number := fun chars => do
  let (whole, chars) ← wholePart chars
  let (fraction, chars) ← fractionPart chars
  let (exponent, chars) ← exponentPart chars
  let literal : Number := ⟨negative, whole, fraction, exponent⟩
  let _ ← literal.toDouble?
  return (literal, chars)

/-- Take a number. -/
def numberLiteral : Parser Number
  | '-' :: rest => unsignedNumber true rest
  | chars => unsignedNumber false chars

/-- Take elements separated by commas up to a closing character, at most as many as
`bound` is long, given those already taken in reverse. -/
def elements {α : Type} (element : Parser α) (closing : Char) :
    (bound : List Char) → (reversed : List α) → Parser (List α)
  | [], _, _ => none
  | _ :: bound, reversed, chars =>
    match element (skipBlank chars) with
    | none => none
    | some (taken, rest) =>
      match skipBlank rest with
      | [] => none
      | c :: rest =>
        if c = ',' then elements element closing bound (taken :: reversed) rest
        else if c = closing then some ((taken :: reversed).reverse, rest)
        else none

/-- Take a possibly empty sequence up to a closing character. An element takes up at
least one character, so there are no more of them than characters. -/
def sequence {α : Type} (element : Parser α) (closing : Char) : Parser (List α) := fun chars =>
  match skipBlank chars with
  | [] => none
  | c :: rest =>
    if c = closing then some ([], rest)
    else elements element closing chars [] (c :: rest)

/-- Take a key and its value. -/
def member (value : Parser Json) : Parser (String × Json) := fun chars => do
  let (key, chars) ← Quoted.decode? chars
  match skipBlank chars with
  | ':' :: rest =>
    let (found, chars) ← value (skipBlank rest)
    return ((String.ofList key, found), chars)
  | _ => none

/-- Take a value, in which at most `depth` arrays and objects stand inside one
another. -/
def value : (depth : Nat) → Parser Json
  | _, [] => none
  | _, 'n' :: 'u' :: 'l' :: 'l' :: rest => some (null, rest)
  | _, 't' :: 'r' :: 'u' :: 'e' :: rest => some (bool true, rest)
  | _, 'f' :: 'a' :: 'l' :: 's' :: 'e' :: rest => some (bool false, rest)
  | _, '"' :: rest =>
    (Quoted.decode? ('"' :: rest)).map fun (text, left) => (string (String.ofList text), left)
  | depth + 1, '[' :: rest =>
    (sequence (value depth) ']' rest).map fun (items, left) => (array items, left)
  | depth + 1, '\x7b' :: rest =>
    (sequence (member (value depth)) '\x7d' rest).map fun (members, left) => (object members, left)
  | _, chars => (numberLiteral chars).map fun (literal, left) => (number literal, left)

/-- The most arrays and objects that may stand inside one another. -/
def maxDepth : Nat := 127

/-- Read a document that takes up all the characters. -/
def parse? (chars : List Char) : Option Json :=
  match value maxDepth (skipBlank chars) with
  | some (document, rest) => if (skipBlank rest).isEmpty then some document else none
  | none => none

/-- Read a document from its bytes, which must be UTF-8. -/
def ofBytes? (bytes : Bytes) : Option Json :=
  (Utf8.decode? bytes).bind fun text => parse? text.toList

end Uplink.Json
