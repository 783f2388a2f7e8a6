import AccessHarness.Json.Basic

/-!
# Writing JSON

The compact form: no blanks, fields in the order they have, control characters as
escapes, every other character as it is.
-/

namespace AccessHarness.Json

/-- One lower-case hexadecimal digit. -/
def lowerHex (n : Nat) : Char := if n < 10 then Char.ofNat (48 + n) else Char.ofNat (87 + n)

/-- How a character is written between quotes. -/
def writtenChar (c : Char) : List Char :=
  if c = '"' then ['\\', '"']
  else if c = '\\' then ['\\', '\\']
  else if c = '\n' then ['\\', 'n']
  else if c = '\r' then ['\\', 'r']
  else if c = '\t' then ['\\', 't']
  else if c.toNat = 8 then ['\\', 'b']
  else if c.toNat = 12 then ['\\', 'f']
  else if c.toNat < 0x20 then
    ['\\', 'u', '0', '0', lowerHex (c.toNat / 16), lowerHex (c.toNat % 16)]
  else [c]

/-- A text with its quotes. -/
def writtenText (s : String) : List Char := '"' :: s.toList.flatMap writtenChar ++ ['"']

/-- A number as it is held. -/
def writtenNumeral (n : Numeral) : List Char :=
  (if n.negative then ['-'] else []) ++ n.whole ++
  (if n.fraction.isEmpty then [] else '.' :: n.fraction) ++
  match n.exponent with
  | none => []
  | some (negative, digits) => 'e' :: (if negative then '-' :: digits else digits)

mutual
/-- The compact text of a document. -/
def written : Json → List Char
  | .null => ['n', 'u', 'l', 'l']
  | .bool true => ['t', 'r', 'u', 'e']
  | .bool false => ['f', 'a', 'l', 's', 'e']
  | .num n => writtenNumeral n
  | .str s => writtenText s
  | .unreadable => ['"', '"']
  | .arr items => '[' :: writtenItems items ++ [']']
  | .obj fields => '\x7b' :: writtenFields fields ++ ['\x7d']
/-- The items of an array, separated by commas. -/
def writtenItems : List Json → List Char
  | [] => []
  | [v] => written v
  | v :: w :: rest => written v ++ ',' :: writtenItems (w :: rest)
/-- The fields of an object, separated by commas. -/
def writtenFields : List (String × Json) → List Char
  | [] => []
  | [(k, v)] => writtenText k ++ ':' :: written v
  | (k, v) :: w :: rest => writtenText k ++ ':' :: written v ++ ',' :: writtenFields (w :: rest)
end

/-- The compact text of a document. -/
def text (j : Json) : String := String.ofList (written j)

end AccessHarness.Json
