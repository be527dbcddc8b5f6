import Uplink.Json.Basic
import Uplink.Json.Quoted

/-!
# Writing documents

`Json.render` writes a document without blanks between its parts. Numbers are
written as they were read, with a plain exponent.
-/

namespace Uplink.Json

/-- Digits as characters. -/
def renderDigits (digits : List Digit) : List Char := digits.map Digit.toChar

/-- The written form of a number. -/
def Number.render (number : Number) : List Char :=
  (if number.negative then ['-'] else []) ++ renderDigits number.whole ++
    (if number.fraction.isEmpty then [] else '.' :: renderDigits number.fraction) ++
    match number.exponent with
    | none => []
    | some exponent =>
      'e' :: (if exponent.negative then ['-'] else []) ++ renderDigits exponent.digits

mutual

/-- The written form of a document. -/
def render : Json → List Char
  | null => ['n', 'u', 'l', 'l']
  | bool true => ['t', 'r', 'u', 'e']
  | bool false => ['f', 'a', 'l', 's', 'e']
  | number literal => literal.render
  | string text => Quoted.encode text.toList
  | array items => '[' :: renderItems items ++ [']']
  | object members => '\x7b' :: renderMembers members ++ ['\x7d']

/-- The items of an array, separated by commas. -/
def renderItems : List Json → List Char
  | [] => []
  | [item] => render item
  | item :: items => render item ++ ',' :: renderItems items

/-- The members of an object, separated by commas. -/
def renderMembers : List (String × Json) → List Char
  | [] => []
  | [(key, item)] => Quoted.encode key.toList ++ ':' :: render item
  | (key, item) :: members =>
    Quoted.encode key.toList ++ ':' :: render item ++ ',' :: renderMembers members

end

end Uplink.Json
