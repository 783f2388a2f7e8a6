import AccessHarness.Url.File

/-!
# Reading URLs

A text is read as a URL, on its own or against a base.  The scheme decides how: a network
scheme has an authority after any slashes, a file has a path (`Url.fileUrl`), and under any
other scheme a text without slash in front is one flat path.

* `Url.parse?` reads a text on its own.
* `Url.join?` reads it against a base.
* `Url.joinBelow?` reads it below the base's path taken as a directory.
-/

namespace AccessHarness.Url

/-- A URL from the text after its scheme. -/
def afterScheme (base : Option Url) (scheme : List Char) (rest : List Char) :
    Except UrlFault Url :=
  let c := cut rest
  match Scheme.kind scheme with
  | .file => fileUrl (base.filter fun b => b.scheme == scheme) c
  | .special =>
    let slashes := c.main.takeWhile isSlash
    match base with
    | some b =>
      if slashes.length < 2 && b.scheme == scheme then
        match b.path with
        | .rooted segments => relative b segments c
        | .flat _ => .error .relativeWithFlatBase
      else afterSlashes scheme (c.main.dropWhile isSlash) c
    | none => afterSlashes scheme (c.main.dropWhile isSlash) c
  | .plain =>
    match c.main with
    | '/' :: '/' :: main => afterSlashes scheme main c
    | '/' :: main => .ok (withTail scheme none (.rooted (Path.under false [] main)) c)
    | main => .ok (withTail scheme none (.flat (encodeFlat main)) c)

/-- Read a text as a URL, against a base if there is one. -/
def resolve? (base : Option Url) (l : List Char) : Except UrlFault Url :=
  let l := clean l
  match splitScheme l with
  | some (scheme, rest) => afterScheme base scheme rest
  | none =>
    match base with
    | none => .error .relativeWithoutBase
    | some b =>
      match l with
      | '#' :: rest => .ok { b with fragment := some (encodeFragment rest) }
      | _ =>
        match b.path with
        | .flat _ => .error .relativeWithFlatBase
        | .rooted segments =>
          if Scheme.kind b.scheme = .file then fileUrl (some b) (cut l)
          else relative b segments (cut l)

/-- Read a text as a URL. -/
def parse? (s : String) : Except UrlFault Url := resolve? none s.toList

/-- Read a text against a base. -/
def join? (base : Url) (s : String) : Except UrlFault Url := resolve? (some base) s.toList

/-- The base with its path taken as a directory: a slash is added where none ends it, and
with it a drive gets its colon. -/
def asDirectory (u : Url) : Url :=
  match u.path with
  | .rooted segments =>
    if segments.getLast? = some [] then u
    else
      let below := segments ++ [[]]
      { u with
        path := .rooted
          (if Scheme.kind u.scheme = .file then below.modifyHead Path.withColon else below) }
  | .flat text =>
    if text.getLast? = some '/' then u
    else if text.isEmpty then { u with path := .flat ['%', '2', 'F'] }
    else { u with path := .flat (text ++ ['/']) }

/-- **Below the base.**  Slashes in front of the text do not lead to the root. -/
def joinBelow? (base : Url) (s : String) : Except UrlFault Url :=
  resolve? (some base.asDirectory) (s.toList.dropWhile (· == '/'))

end AccessHarness.Url
