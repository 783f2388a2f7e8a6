import AccessHarness.Text.Escaped

/-!
# Quoted text

How a text is shown inside a message: between double quotes, with the characters that
would not be seen, or would be seen as something else, written as escapes.

Everything that shows a value (`shown` below and in other modules) is built from these
few forms.
-/

namespace AccessHarness.Text

/-- A number in lower-case hexadecimal, without leading zeros. -/
def hexadecimal (n : Nat) : List Char := Nat.toDigits 16 n

/-- A character by its number, between braces. -/
def numbered (c : Char) : List Char :=
  ['\\', 'u', '\x7b'] ++ hexadecimal c.toNat ++ ['\x7d']

/-- How one character is written between quotes: a backslash form for the quote, the
backslash, tab, line feed, carriage return and NUL, a number for what is not printable or
would join the character before it, and the character itself otherwise. -/
def quotedChar (c : Char) : List Char :=
  if c = '"' then ['\\', '"']
  else if c = '\\' then ['\\', '\\']
  else if c = '\n' then ['\\', 'n']
  else if c = '\t' then ['\\', 't']
  else if c = '\r' then ['\\', 'r']
  else if c.toNat = 0 then ['\\', '0']
  else if isEscaped c then numbered c
  else [c]

/-- A text between quotes. -/
def quoted (s : String) : String :=
  String.ofList ('"' :: s.toList.flatMap quotedChar ++ ['"'])

/-- An optional value: `Some(...)` around the shown value, or `None`. -/
def shownOption {α : Type} (shown : α → String) : Option α → String
  | none => "None"
  | some a => "Some(" ++ shown a ++ ")"

/-- A list in square brackets. -/
def shownList {α : Type} (shown : α → String) (l : List α) : String :=
  "[" ++ String.intercalate ", " (l.map shown) ++ "]"

/-- A set in braces, members in order. -/
def shownSet {α : Type} (shown : α → String) (l : List α) : String :=
  "\x7b" ++ String.intercalate ", " (l.map shown) ++ "\x7d"

/-- A record: its name, then its fields by name. -/
def shownRecord (name : String) (fields : List (String × String)) : String :=
  name ++ " \x7b " ++
    String.intercalate ", " (fields.map fun f => f.1 ++ ": " ++ f.2) ++ " \x7d"

/-- A whole number. -/
def shownInt (n : Int) : String :=
  if n < 0 then "-" ++ Nat.repr n.natAbs else Nat.repr n.natAbs

/-- A truth value. -/
def shownBool : Bool → String
  | true => "true"
  | false => "false"

end AccessHarness.Text
