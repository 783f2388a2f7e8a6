import AccessHarness.Url.Reference

/-!
# The URLs of files

A file lies under a host or, mostly, under none, and it has no port.  Its path may begin
with a drive, which is written with a colon, takes the place of a host, and is kept by a
path from the root.

Main definition: `Url.fileUrl`.
-/

namespace AccessHarness.Url

/-- The segments of a file's path on top of a directory, before empty ones in front are
dropped: a drive at the root has its colon. -/
def fileSegments (directory : List (List Char)) (l : List Char) : List (List Char) :=
  match directory, Path.under true directory l with
  | d :: _, segments =>
    if Path.isDrive d then segments else segments.modifyHead Path.withColon
  | [], segments => segments.modifyHead Path.withColon

/-- The path of a file: empty segments in front are dropped. -/
def filePath (segments : List (List Char)) : UrlPath :=
  match segments.dropWhile List.isEmpty with
  | [] => .rooted [[]]
  | kept => .rooted kept

/-- A file under a host. -/
def fileUnder (host : Host) (segments : List (List Char)) (c : Cut) : Url :=
  withTail ['f', 'i', 'l', 'e'] (some ⟨[], none, host, none⟩) (filePath segments) c

/-- The host of a file; `localhost` is none. -/
def fileHost? (l : List Char) : Except UrlFault Host :=
  if l.isEmpty then .ok (.domain [])
  else match Host.ofChars? l with
    | .ok (.domain ['l', 'o', 'c', 'a', 'l', 'h', 'o', 's', 't']) => .ok (.domain [])
    | r => r

/-- A file from the text after two slashes: a host and its path, where a drive takes the
place of the host. -/
def fileAfterSlashes (l : List Char) (c : Cut) : Except UrlFault Url :=
  if Path.startsWithDrive l then .ok (fileUnder (.domain []) (fileSegments [] l) c)
  else
    let path := l.dropWhile fun c => !isSlash c
    match fileHost? (l.takeWhile fun c => !isSlash c) with
    | .error e => .error e
    | .ok (.domain []) => .ok (fileUnder (.domain []) (fileSegments [] path) c)
    | .ok host =>
      let segments := fileSegments [] (path.drop 1)
      let onDrive := (segments.head?.map Path.isDrive).getD false
      .ok (fileUnder (if onDrive then .domain [] else host) segments c)

/-- A file from the text after one slash: from the root of the base, on the base's drive or
under its host. -/
def fileAfterSlash (base : Option (Host × List (List Char))) (l : List Char) (c : Cut) : Url :=
  if Path.startsWithDrive l then fileUnder (.domain []) (fileSegments [] l) c
  else match base with
    | none => fileUnder (.domain []) (fileSegments [] l) c
    | some (host, segments) =>
      match segments.head? with
      | some [d, ':'] =>
        if d.isAlpha then fileUnder (.domain []) (fileSegments [[d, ':']] l) c
        else fileUnder host (fileSegments [] l) c
      | _ => fileUnder host (fileSegments [] l) c

/-- The segments in front of the last one; a drive has none behind it. -/
def fileDirectory (segments : List (List Char)) : List (List Char) :=
  match segments.getLast? with
  | some [d, ':'] => if d.isAlpha then segments else segments.dropLast
  | _ => segments.dropLast

/-- **A file**, from the text after its scheme or from a reference to the base. -/
def fileUrl (base : Option Url) (c : Cut) : Except UrlFault Url :=
  let place := base.bind fun b =>
    match b.host, b.path with
    | some host, .rooted segments => some (host, segments)
    | _, _ => none
  match lead c.main, place with
  | .nothing, _ => .ok (match base with
    | some b => b.withoutPath c
    | none => fileUnder (.domain []) [[]] c)
  | .slashes rest, _ => fileAfterSlashes rest c
  | .slash rest, _ => .ok (fileAfterSlash place rest c)
  | .segment, none => .ok (fileUnder (.domain []) (fileSegments [] c.main) c)
  | .segment, some (host, segments) =>
    .ok (if Path.startsWithDrive c.main then
        fileUnder (.domain []) (fileSegments [] c.main) c
      else fileUnder host (fileSegments (fileDirectory segments) c.main) c)

end AccessHarness.Url
