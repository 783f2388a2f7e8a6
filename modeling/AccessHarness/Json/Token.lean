import AccessHarness.Json.Basic

/-!
# The lexical side of JSON

A text is read one character at a time by a machine (`Scan`) that hands over each token
as soon as it is complete.  A number and a word end where the next character cannot
belong to them, so that character is looked at twice: it closes the token, and then
stands between tokens.

* `Scan.step` takes one character and gives the tokens it completes.
* `Scan.finish` gives the token that the end of the text completes.
* `Numeral.ofChars?` is the grammar of numbers.
* `joinSurrogates` makes characters of the code points that a text names.
-/

namespace AccessHarness

namespace Numeral

/-- The digits at the front, if there are any, and the rest. -/
def digitsThen (l : List Char) : Option (List Char × List Char) :=
  match l.takeWhile Char.isDigit with
  | [] => none
  | ds => some (ds, l.dropWhile Char.isDigit)

/-- Digits without a superfluous zero in front. -/
def wholePart (l : List Char) : Option (List Char × List Char) :=
  match digitsThen l with
  | some ('0' :: _ :: _, _) => none
  | r => r

/-- The part after the point, if there is a point. -/
def fractionPart : List Char → Option (List Char × List Char)
  | '.' :: rest => digitsThen rest
  | l => some ([], l)

/-- The digits of an exponent after its letter, with an optional sign. -/
def exponentDigits : List Char → Option (Bool × List Char)
  | '+' :: rest => if rest.isEmpty || !rest.all Char.isDigit then none else some (false, rest)
  | '-' :: rest => if rest.isEmpty || !rest.all Char.isDigit then none else some (true, rest)
  | rest => if rest.isEmpty || !rest.all Char.isDigit then none else some (false, rest)

/-- The exponent, if there is one; it is the last part of a number. -/
def exponentPart : List Char → Option (Option (Bool × List Char))
  | [] => some none
  | c :: rest => if c = 'e' ∨ c = 'E' then (exponentDigits rest).map some else none

/-- **The grammar of numbers**, over the whole list of characters. -/
def ofChars? (l : List Char) : Option Numeral :=
  let unsigned := match l with
    | '-' :: rest => rest
    | _ => l
  match wholePart unsigned with
  | none => none
  | some (whole, afterWhole) =>
    match fractionPart afterWhole with
    | none => none
    | some (fraction, afterFraction) =>
      (exponentPart afterFraction).map fun e => ⟨l.head? == some '-', whole, fraction, e⟩

end Numeral

namespace Json

/-- What a text of JSON is made of. -/
inductive Token where
  | openArray | closeArray | openObject | closeObject | comma | colon
  | word (letters : List Char)
  | numeral (n : Numeral)
  | text (s : String)
  /-- A text that names half of a surrogate pair. -/
  | unreadable
  deriving DecidableEq

/-- Characters for a list of code points, each high surrogate together with the low one
right after it; `none` when a surrogate stands alone. -/
def joinSurrogates : List Nat → Option (List Char)
  | [] => some []
  | [n] => if 0xd800 ≤ n ∧ n < 0xe000 then none else some [Char.ofNat n]
  | n :: m :: rest =>
    if 0xd800 ≤ n ∧ n < 0xdc00 then
      if 0xdc00 ≤ m ∧ m < 0xe000 then
        (joinSurrogates rest).map (Char.ofNat (0x10000 + (n - 0xd800) * 1024 + (m - 0xdc00)) :: ·)
      else none
    else if 0xdc00 ≤ n ∧ n < 0xe000 then none
    else (joinSurrogates (m :: rest)).map (Char.ofNat n :: ·)

/-- Where the reading of a text stands.  The characters seen so far are kept last
first. -/
inductive Scan where
  /-- Between tokens. -/
  | between
  /-- In a word. -/
  | inWord (seen : List Char)
  /-- In a number. -/
  | inNumber (seen : List Char)
  /-- Between the quotes of a text. -/
  | inText (seen : List Nat)
  /-- After a backslash in a text. -/
  | afterBackslash (seen : List Nat)
  /-- In the four digits of a code point, with the number of digits still to come. -/
  | inCode (seen : List Nat) (left : Nat) (value : Nat)

namespace Scan

/-- The four characters that may stand anywhere between tokens. -/
def isSpace (c : Char) : Bool := c = ' ' || c = '\n' || c = '\t' || c = '\r'

/-- Whether a character can belong to a number. -/
def inNumeral (c : Char) : Bool :=
  c.isDigit || c = '-' || c = '+' || c = '.' || c = 'e' || c = 'E'

/-- The value of a hexadecimal digit. -/
def hexValue? (c : Char) : Option Nat :=
  let n := c.toNat
  if 48 ≤ n && n ≤ 57 then some (n - 48)
  else if 65 ≤ n && n ≤ 70 then some (n - 55)
  else if 97 ≤ n && n ≤ 102 then some (n - 87)
  else none

/-- The character that a backslash and a letter stand for. -/
def escaped? (c : Char) : Option Nat :=
  match c with
  | '"' => some 34
  | '\\' => some 92
  | '/' => some 47
  | 'b' => some 8
  | 'f' => some 12
  | 'n' => some 10
  | 'r' => some 13
  | 't' => some 9
  | _ => none

/-- The token of a closed text. -/
def textToken (seen : List Nat) : Token :=
  match joinSurrogates seen.reverse with
  | some cs => .text (String.ofList cs)
  | none => .unreadable

/-- A character that starts something, or is a token of its own. -/
def start (c : Char) : Option (List Token × Scan) :=
  if isSpace c then some ([], .between)
  else match c with
    | '[' => some ([.openArray], .between)
    | ']' => some ([.closeArray], .between)
    | '\x7b' => some ([.openObject], .between)
    | '\x7d' => some ([.closeObject], .between)
    | ',' => some ([.comma], .between)
    | ':' => some ([.colon], .between)
    | '"' => some ([], .inText [])
    | _ =>
      if c = '-' || c.isDigit then some ([], .inNumber [c])
      else if c.isLower then some ([], .inWord [c])
      else none

/-- One character. -/
def step (scan : Scan) (c : Char) : Option (List Token × Scan) :=
  match scan with
  | .between => start c
  | .inWord seen =>
    if c.isLower then some ([], .inWord (c :: seen))
    else (start c).map fun r => (.word seen.reverse :: r.1, r.2)
  | .inNumber seen =>
    if inNumeral c then some ([], .inNumber (c :: seen))
    else match Numeral.ofChars? seen.reverse with
      | none => none
      | some n => (start c).map fun r => (.numeral n :: r.1, r.2)
  | .inText seen =>
    if c = '"' then some ([textToken seen], .between)
    else if c = '\\' then some ([], .afterBackslash seen)
    else if c.toNat < 0x20 then none
    else some ([], .inText (c.toNat :: seen))
  | .afterBackslash seen =>
    if c = 'u' then some ([], .inCode seen 4 0)
    else (escaped? c).map fun n => ([], .inText (n :: seen))
  | .inCode seen left value =>
    match hexValue? c with
    | none => none
    | some d =>
      if left ≤ 1 then some ([], .inText ((value * 16 + d) :: seen))
      else some ([], .inCode seen (left - 1) (value * 16 + d))

/-- The end of the text. -/
def finish : Scan → Option (List Token)
  | .between => some []
  | .inWord seen => some [.word seen.reverse]
  | .inNumber seen => (Numeral.ofChars? seen.reverse).map fun n => [.numeral n]
  | _ => none

end Scan

end Json

end AccessHarness
