import AccessHarness.Url.Authority

/-!
# References

A reference is a text without a scheme.  It keeps of its base everything in front of the
first part that it gives itself: an authority, a path from the root, segments in place of
the last one, a query, a fragment.

Main definitions: `Url.afterSlashes`, `Url.relative`.
-/

namespace AccessHarness.Url

/-- The segments of the text after an authority. -/
def rootedPath (special : Bool) (l : List Char) : UrlPath :=
  match l with
  | [] => .rooted (if special then [[]] else [])
  | c :: rest => .rooted (Path.under special [] (if Path.isSeparator special c then rest else l))

/-- Assemble a URL from its front and the query and fragment of a text. -/
def withTail (scheme : List Char) (a : Option Authority) (path : UrlPath) (c : Cut) : Url :=
  let special := Scheme.isSpecial scheme
  { scheme
    username := (a.map (·.username)).getD []
    password := a.bind (·.password)
    host := a.map (·.host)
    port := a.bind (·.port)
    path
    query := c.query.map (encodeQuery special)
    fragment := c.fragment.map encodeFragment }

/-- A URL from the text after its double slash. -/
def afterSlashes (scheme : List Char) (main : List Char) (c : Cut) : Except UrlFault Url :=
  let special := Scheme.isSpecial scheme
  let isEnd := Path.isSeparator special
  let path := main.dropWhile fun c => !isEnd c
  let atEnd := path.isEmpty && c.query.isNone && c.fragment.isNone
  match authority? scheme atEnd (main.takeWhile fun c => !isEnd c) with
  | .error e => .error e
  | .ok (a, left) => .ok (withTail scheme (some a) (rootedPath special (left ++ path)) c)

/-- A URL with another path, and the query and fragment of a text. -/
def withPath (u : Url) (path : UrlPath) (c : Cut) : Url :=
  { u with
    path
    query := c.query.map (encodeQuery (Scheme.isSpecial u.scheme))
    fragment := c.fragment.map encodeFragment }

/-- A reference without path: the path of the base stays, and its query too unless there
is another. -/
def withoutPath (base : Url) (c : Cut) : Url :=
  match c.query with
  | none => { base with fragment := c.fragment.map encodeFragment }
  | some _ => base.withPath base.path c

/-- **A reference resolved against a base** of the same scheme: a new authority after two
slashes, a path from the root after one, otherwise segments in place of the last of the
base. -/
def relative (base : Url) (segments : List (List Char)) (c : Cut) : Except UrlFault Url :=
  let under (directory : List (List Char)) (l : List Char) : Url :=
    base.withPath (.rooted (Path.under (Scheme.isSpecial base.scheme) directory l)) c
  match lead c.main with
  | .nothing => .ok (base.withoutPath c)
  | .segment => .ok (under segments.dropLast c.main)
  | .slash rest => .ok (under [] rest)
  | .slashes rest =>
    afterSlashes base.scheme
      (if c.main.take 2 = ['/', '/'] then rest else rest.dropWhile isSlash) c

end AccessHarness.Url
