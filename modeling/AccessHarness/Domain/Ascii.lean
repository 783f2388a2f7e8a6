import AccessHarness.Domain.Direction
import AccessHarness.Domain.Label
import AccessHarness.Text.Parts
import AccessHarness.Text.Percent

/-!
# Domains in ASCII

A domain in the one form in which domains are compared.  Its characters are replaced or
dropped as the tables say (`Domain.mapped?`), letters take up their marks
(`Domain.composed`), and each label is written in ASCII (`Domain.Label`).

Main definition: `Domain.toAscii?`.
-/

namespace AccessHarness.Domain

/-- ASCII characters that no domain may hold. -/
def isForbidden (c : Char) : Bool :=
  c.toNat ≤ 0x20 || c.toNat == 0x7f || "%#/:<>?@[\\]^|".toList.contains c

/-- The text of bytes that are the UTF-8 form of one. -/
def utf8Chars? (bs : List UInt8) : Option (List Char) :=
  (String.fromUTF8? ⟨bs.toArray⟩).map String.toList

/-- The labels of a domain. -/
def labels? (l : List Char) : Option (List Label) :=
  (mapped? l).bind fun cs => (Text.parts (· == '.') (composed cs)).mapM Label.of?

/-- **The ASCII form of a domain**, after its percent-encoding is undone. -/
def toAscii? (l : List Char) : Option (List Char) :=
  let decoded := if l.contains '%' then utf8Chars? (Text.Percent.decodeBytes l) else some l
  match decoded.bind labels? with
  | none => none
  | some labels =>
    let ascii := Text.join '.' (labels.map (·.written))
    if ascii.any isForbidden || !readsOneWay (labels.map (·.read)) then none else some ascii

end AccessHarness.Domain
