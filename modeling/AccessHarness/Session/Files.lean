import AccessHarness.Text.Parts
import AccessHarness.Text.Percent

/-!
# Files

The file system as a tree, and what comes of reading a file by its path.

A path is followed name by name, from the root or from the working directory.  An empty
name and `.` stay, `..` goes up and stays at the root; whatever follows a file, even an
empty name after a final slash, finds no directory there.  A name is looked up only once
everything in front of it was found, so the first thing that is wrong is the one that is
reported.

Main definitions: `FileTree.insert`, `FileTree.follow`, `FileSystem.content`.
-/

namespace AccessHarness

/-- Why a file cannot be read. -/
inductive FileFault where
  /-- A name is not in its directory. -/
  | missing
  /-- Something is looked up in a file. -/
  | notDirectory
  /-- The path leads to a directory. -/
  | isDirectory
  /-- A name, or the whole path, is longer than any may be. -/
  | nameTooLong
  /-- The path holds a NUL, which ends a path. -/
  | nullInPath
  deriving DecidableEq, Repr

/-- The wording of a fault. -/
def FileFault.message : FileFault → String
  | .missing => "No such file or directory (os error 2)"
  | .notDirectory => "Not a directory (os error 20)"
  | .isDirectory => "Is a directory (os error 21)"
  | .nameTooLong => "File name too long (os error 36)"
  | .nullInPath => "file name contained an unexpected NUL byte"

/-- A file, or a directory; of entries of one name the first counts. -/
inductive FileTree where
  | file (content : List UInt8)
  | directory (entries : List (List Char × FileTree))

namespace FileTree

/-- A directory without entries. -/
def empty : FileTree := .directory []

/-- The entries of a directory; a file has none. -/
def entries : FileTree → List (List Char × FileTree)
  | .file _ => []
  | .directory es => es

/-- Put a tree somewhere, with the directories that lead there. -/
def insert (t : FileTree) (names : List (List Char)) (new : FileTree) : FileTree :=
  match names with
  | [] => new
  | name :: rest =>
    .directory ((name, insert ((t.entries.lookup name).getD empty) rest new) :: t.entries)

/-- The most bytes of one name. -/
def nameLimit : Nat := 255

/-- Follow names from a tree; `above` holds the directories around it, innermost
first. -/
def follow (above : List FileTree) (t : FileTree) : List (List Char) → Except FileFault FileTree
  | [] => .ok t
  | name :: rest =>
    match t with
    | .file _ => .error .notDirectory
    | .directory es =>
      if name = [] ∨ name = ['.'] then follow above t rest
      else if name = ['.', '.'] then
        match above with
        | [] => follow [] t rest
        | up :: more => follow more up rest
      else if nameLimit < (Text.Percent.utf8 name).length then .error .nameTooLong
      else match es.lookup name with
        | none => .error .missing
        | some next => follow (t :: above) next rest

end FileTree

/-- **The files within reach.** -/
structure FileSystem where
  /-- Everything, from the root. -/
  root : FileTree
  /-- The directory where paths without a slash in front start. -/
  working : List (List Char)

namespace FileSystem

/-- No files at all. -/
def empty : FileSystem := ⟨.empty, []⟩

/-- The names of a path from the root. -/
def names (path : String) : List (List Char) :=
  (Text.parts (· == '/') path.toList).filter fun name => !name.isEmpty

/-- The file system with these directories and files, each given by its path from the
root. -/
def ofPaths (working : String) (directories : List String)
    (files : List (String × List UInt8)) : FileSystem :=
  let bare := (working :: directories).foldl (fun t d => t.insert (names d) .empty) .empty
  ⟨files.foldl (fun t f => t.insert (names f.1) (.file f.2)) bare, names working⟩

/-- The bytes that are too many for a path. -/
def pathLimit : Nat := 4096

/-- **The content of the file at a path.** -/
def content (fs : FileSystem) (path : String) : Except FileFault (List UInt8) :=
  let l := path.toList
  if l.contains '\x00' then .error .nullInPath
  else if pathLimit ≤ path.utf8ByteSize then .error .nameTooLong
  else
    let names := Text.parts (· == '/') l
    match fs.root.follow [] (if l.head? = some '/' then names else fs.working ++ names) with
    | .ok (.file bytes) => .ok bytes
    | .ok (.directory _) => .error .isDirectory
    | .error e => .error e

end FileSystem

end AccessHarness
