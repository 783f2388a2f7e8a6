import AccessHarness.Json.Token

/-!
# Reading JSON

A document is read by a machine with a stack: the open arrays and objects, and what must
come next.  Both machines, the one for tokens and the one for documents, take one step
per character, so reading is one fold over the text and needs no bound.

Main definition: `Json.read?`.
-/

namespace AccessHarness.Json

/-- An array or object that is still open, its finished parts last first. -/
inductive Frame where
  /-- The items so far. -/
  | items (done : List Json)
  /-- The fields so far, and the name whose value is being read; an unreadable name is
  none. -/
  | fields (done : List (Option String × Json)) (name : Option String)

/-- What must come next. -/
inductive Await where
  /-- A value. -/
  | value
  /-- The first item of an array, or its end. -/
  | firstItem
  /-- The first name of an object, or its end. -/
  | firstName
  /-- The next name of an object. -/
  | name (done : List (Option String × Json))
  /-- The colon after a name. -/
  | colon (done : List (Option String × Json)) (name : Option String)
  /-- After a finished value: a comma, the end of what holds it, or the end of all. -/
  | delimiter (v : Json)

/-- The state of the document machine. -/
structure Parse where
  /-- The open arrays and objects, innermost first. -/
  stack : List Frame
  /-- What must come next. -/
  await : Await

namespace Parse

/-- Before the first token. -/
def start : Parse := ⟨[], .value⟩

/-- The document of a word. -/
def wordValue? (letters : List Char) : Option Json :=
  if letters = ['n', 'u', 'l', 'l'] then some .null
  else if letters = ['t', 'r', 'u', 'e'] then some (.bool true)
  else if letters = ['f', 'a', 'l', 's', 'e'] then some (.bool false)
  else none

/-- A token where a value must come. -/
def beginValue (stack : List Frame) : Token → Option Parse
  | .openArray => some ⟨stack, .firstItem⟩
  | .openObject => some ⟨stack, .firstName⟩
  | .word w => (wordValue? w).map fun v => ⟨stack, .delimiter v⟩
  | .numeral n => some ⟨stack, .delimiter (.num n)⟩
  | .text s => some ⟨stack, .delimiter (.str s)⟩
  | .unreadable => some ⟨stack, .delimiter .unreadable⟩
  | _ => none

/-- A token after a finished value. -/
def afterValue (v : Json) : List Frame → Token → Option Parse
  | .items done :: stack, .comma => some ⟨.items (v :: done) :: stack, .value⟩
  | .items done :: stack, .closeArray =>
    some ⟨stack, .delimiter (.arr (done.reverse ++ [v]))⟩
  | .fields done k :: stack, .comma => some ⟨stack, .name ((k, v) :: done)⟩
  | .fields done k :: stack, .closeObject =>
    some ⟨stack, .delimiter (.ofFields (done.reverse ++ [(k, v)]))⟩
  | _, _ => none

/-- A token where a name must come. -/
def takeName (stack : List Frame) (done : List (Option String × Json)) : Token → Option Parse
  | .text k => some ⟨stack, .colon done (some k)⟩
  | .unreadable => some ⟨stack, .colon done none⟩
  | _ => none

/-- One token. -/
def accept (p : Parse) (t : Token) : Option Parse :=
  match p.await with
  | .value => beginValue p.stack t
  | .firstItem =>
    if t = .closeArray then some ⟨p.stack, .delimiter (.arr [])⟩
    else beginValue (.items [] :: p.stack) t
  | .firstName =>
    if t = .closeObject then some ⟨p.stack, .delimiter (.obj [])⟩
    else takeName p.stack [] t
  | .name done => takeName p.stack done t
  | .colon done k =>
    if t = .colon then some ⟨.fields done k :: p.stack, .value⟩ else none
  | .delimiter v => afterValue v p.stack t

/-- The finished document. -/
def result? (p : Parse) : Option Json :=
  match p.stack, p.await with
  | [], .delimiter v => some v
  | _, _ => none

end Parse

/-- The two machines side by side. -/
structure Reader where
  /-- The token machine. -/
  scan : Scan
  /-- The document machine. -/
  parse : Parse

namespace Reader

/-- Before the first character. -/
def start : Reader := ⟨.between, .start⟩

/-- Hand tokens to the document machine. -/
def feedTokens (p : Parse) (ts : List Token) : Option Parse := ts.foldlM Parse.accept p

/-- One character. -/
def feed (r : Reader) (c : Char) : Option Reader :=
  match r.scan.step c with
  | none => none
  | some (ts, scan) => (feedTokens r.parse ts).map fun p => ⟨scan, p⟩

/-- The end of the text. -/
def finish (r : Reader) : Option Json :=
  match r.scan.finish with
  | none => none
  | some ts => (feedTokens r.parse ts).bind Parse.result?

end Reader

/-- **The document that a text is**, if it is one. -/
def read? (l : List Char) : Option Json := (l.foldlM Reader.feed .start).bind Reader.finish

end AccessHarness.Json
