/-!
# Quoted text

Text in a document stands between quotes. `Quoted.encode` escapes quotes,
backslashes and control characters and nothing else. `Quoted.decode?` accepts every
escape of the format: two-letter ones, and four hexadecimal digits for one unit of
UTF-16, where surrogates must come as a pair. Raw control characters are refused.
-/

namespace Uplink.Json.Quoted

/-- A hexadecimal digit in lower case. -/
def hexDigit (value : Nat) : Char := (Nat.toDigits 16 (value % 16)).headD '0'

/-- The written form of one character. -/
def escape (c : Char) : List Char :=
  match c with
  | '"' => ['\\', '"']
  | '\\' => ['\\', '\\']
  | '\x08' => ['\\', 'b']
  | '\x0c' => ['\\', 'f']
  | '\n' => ['\\', 'n']
  | '\r' => ['\\', 'r']
  | '\t' => ['\\', 't']
  | c =>
    if c.toNat < 0x20 then ['\\', 'u', '0', '0', hexDigit (c.toNat / 16), hexDigit c.toNat]
    else [c]

/-- Text between quotes. -/
def encode (text : List Char) : List Char := '"' :: text.flatMap escape ++ ['"']

/-- The character that a two-letter escape stands for. -/
def shortEscape? : Char → Option Char
  | '"' => some '"'
  | '\\' => some '\\'
  | '/' => some '/'
  | 'b' => some '\x08'
  | 'f' => some '\x0c'
  | 'n' => some '\n'
  | 'r' => some '\r'
  | 't' => some '\t'
  | _ => none

/-- The value of a hexadecimal digit in either case. -/
def hexValue? (c : Char) : Option Nat :=
  let code := c.toNat
  if 48 ≤ code ∧ code ≤ 57 then some (code - 48)
  else if 97 ≤ code ∧ code ≤ 102 then some (code - 87)
  else if 65 ≤ code ∧ code ≤ 70 then some (code - 55)
  else none

/-- The UTF-16 unit that four hexadecimal digits spell. -/
def unit? (a b c d : Char) : Option Nat := do
  let a ← hexValue? a
  let b ← hexValue? b
  let c ← hexValue? c
  let d ← hexValue? d
  return ((a * 16 + b) * 16 + c) * 16 + d

/-- Whether a unit is the first of a surrogate pair. -/
def isLeading (unit : Nat) : Bool := 0xD800 ≤ unit && unit < 0xDC00

/-- Whether a unit is the second of a surrogate pair. -/
def isTrailing (unit : Nat) : Bool := 0xDC00 ≤ unit && unit < 0xE000

/-- The character that a surrogate pair stands for. -/
def combine (leading trailing : Nat) : Char :=
  Char.ofNat (0x10000 + (leading - 0xD800) * 0x400 + (trailing - 0xDC00))

/-- Read text up to its closing quote, given the characters read so far in reverse:
the text and what follows the quote. -/
def decodeBody? (reversed : List Char) : List Char → Option (List Char × List Char)
  | [] => none
  | '"' :: rest => some (reversed.reverse, rest)
  | '\\' :: 'u' :: a :: b :: c :: d :: rest =>
    match unit? a b c d with
    | none => none
    | some unit =>
      if isLeading unit then
        match rest with
        | '\\' :: 'u' :: e :: f :: g :: h :: rest =>
          match unit? e f g h with
          | none => none
          | some trailing =>
            if isTrailing trailing then decodeBody? (combine unit trailing :: reversed) rest
            else none
        | _ => none
      else if isTrailing unit then none
      else decodeBody? (Char.ofNat unit :: reversed) rest
  | '\\' :: c :: rest =>
    match shortEscape? c with
    | none => none
    | some plain => decodeBody? (plain :: reversed) rest
  | c :: rest => if c.toNat < 0x20 then none else decodeBody? (c :: reversed) rest

/-- Read quoted text from the front of some characters. -/
def decode? : List Char → Option (List Char × List Char)
  | '"' :: rest => decodeBody? [] rest
  | _ => none

end Uplink.Json.Quoted
