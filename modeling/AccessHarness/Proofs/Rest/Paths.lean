import AccessHarness.Proofs.Rest.Places

/-!
# Paths can be read back

A path is written from a list of segments, and the list can be read off it: the slashes of a path
are those between its segments, and a written segment decodes to the name it was written from.

* `Text.Percent.decode?` — the text that a piece stands for, if its bytes are one.
* `Route.read?` — the segments that a path stands for.
* `Route.Spelled` — texts of unreserved characters, escapes and slashes.
* `Route.read?_path` — what was written is what is read.
* `Route.path_reversible` — so paths are spelled like that, and those of programs, datasets and
  streams tell them apart.

### What is load-bearing

**A slash in a name is escaped.**  Cutting at slashes knows nothing of what was between them, so no
segment may hold one (`Route.parts_written`).  This is what keeps a segment with slashes from being
read as several, and an empty one from vanishing: it is a piece with nothing in it.
-/

namespace AccessHarness

namespace Text.Percent

/-- **The text that a piece stands for**, if its bytes are the UTF-8 form of one. -/
def decode? (piece : List Char) : Option String :=
  String.fromUTF8? (decodeBytes piece).toByteArray

end Text.Percent

namespace Route

/-- **What a path stands for**: cut at its slashes it is nothing, then `v3`, then its segments. -/
def read? (text : String) : Option (List String) :=
  match Text.parts (· == '/') text.toList with
  | [] :: ['v', '3'] :: pieces => pieces.mapM Text.Percent.decode?
  | _ => none

/-- The characters that stand for themselves. -/
def unreserved : List Char :=
  "ABCDEFGHIJKLMNOPQRSTUVWXYZabcdefghijklmnopqrstuvwxyz0123456789-_.~".toList

/-- The digits of an escape. -/
def digits : List Char := "0123456789ABCDEF".toList

/-- **A text of unreserved characters, escapes and slashes.** -/
inductive Spelled : List Char → Prop
  | nil : Spelled []
  | slash {rest : List Char} : Spelled rest → Spelled ('/' :: rest)
  | unreserved {c : Char} {rest : List Char} : c ∈ unreserved → Spelled rest → Spelled (c :: rest)
  | escape {high low : Char} {rest : List Char} :
      high ∈ digits → low ∈ digits → Spelled rest → Spelled ('%' :: high :: low :: rest)

/-! ### Reading -/

/-- A written segment decodes to the name it was written from. -/
theorem decode?_encoded (s : String) : Text.Percent.decode? (encoded s) = some s := by
  have bytes : (Text.Percent.utf8 s.toList).toByteArray = s.toByteArray := String.utf8Encode_toList
  rw [Text.Percent.decode?, decodeBytes_encoded, bytes, String.fromUTF8?, dif_pos s.isValidUTF8]
  rfl

/-- Cut at its slashes a path is nothing, then `v3`, then its written segments. -/
theorem parts_path (segments : List String) :
    Text.parts (· == '/') (path segments).toList = [] :: ['v', '3'] :: segments.map encoded := by
  have slash : (· == '/') = Path.isSeparator false := by
    funext c
    exact (Bool.or_false _).symm
  have empty : ∀ c ∈ ([] : List Char), Path.isSeparator false c = false := nofun
  have begins := Text.parts_append_cons (written "v3" segments) empty
    (rfl : Path.isSeparator false '/' = true)
  rw [List.nil_append] at begins
  rw [slash, toList_path, begins, parts_written, List.map_cons, encoded_v3]

theorem mapM_decode?_encoded (segments : List String) :
    (segments.map encoded).mapM Text.Percent.decode? = some segments := by
  induction segments with
  | nil => rfl
  | cons s rest ih =>
    rw [List.map_cons, List.mapM_cons, decode?_encoded, ih]
    rfl

/-- **What was written is what is read.** -/
theorem read?_path (segments : List String) : read? (path segments) = some segments := by
  rw [read?, parts_path]
  exact mapM_decode?_encoded segments

/-- **A path is written from one list of segments.** -/
theorem path_inj {segments segments' : List String} :
    path segments = path segments' ↔ segments = segments' := by
  refine ⟨?_, congrArg path⟩
  intro same
  have read := congrArg read? same
  rwa [read?_path, read?_path, Option.some.injEq] at read

/-! ### Spelling -/

theorem Spelled.append {a b : List Char} (first : Spelled a) (second : Spelled b) :
    Spelled (a ++ b) := by
  induction first with
  | nil => exact second
  | slash _ ih => exact ih.slash
  | unreserved mem _ ih => exact ih.unreserved mem
  | escape high low _ ih => exact ih.escape high low

theorem mem_digits {n : Nat} (small : n < 16) : Text.Percent.upperHex n ∈ digits := by
  have all : ∀ n < 16, Text.Percent.upperHex n ∈ digits := by decide
  exact all n small

/-- Only unreserved characters stand for themselves. -/
theorem mem_unreserved {n : Nat} (ascii : n < 128)
    (own : Text.Percent.isUnreserved (Char.ofNat n) = true) : Char.ofNat n ∈ unreserved := by
  have all : ∀ n < 128, Text.Percent.isUnreserved (Char.ofNat n) = true →
      Char.ofNat n ∈ unreserved := by
    decide +kernel
  exact all n ascii own

/-- A byte is spelled by itself or by an escape. -/
theorem spelled_encodeByte (b : UInt8) : Spelled (Text.Percent.encodeByte b) := by
  have byte : b.toNat < 256 := b.toNat_lt
  simp only [Text.Percent.encodeByte]
  split
  · rename_i plain
    obtain ⟨ascii, own⟩ := Bool.and_eq_true_iff.1 plain
    exact Spelled.nil.unreserved (mem_unreserved (of_decide_eq_true ascii) own)
  · exact Spelled.nil.escape (mem_digits (by omega)) (mem_digits (by omega))

theorem spelled_encoded (s : String) : Spelled (encoded s) := by
  unfold encoded Text.Percent.encodeBytes
  induction Text.Percent.utf8 s.toList with
  | nil => exact .nil
  | cons b bytes ih =>
    rw [List.flatMap_cons]
    exact (spelled_encodeByte b).append ih

/-- **A path is spelled** with unreserved characters, escapes and slashes. -/
theorem spelled_path (segments : List String) : Spelled (path segments).toList := by
  rw [toList_path, written]
  refine .slash (.append (spelled_encoded "v3") ?_)
  induction segments with
  | nil => exact .nil
  | cons s rest ih =>
    rw [List.flatMap_cons, List.cons_append]
    exact ((spelled_encoded s).append ih).slash

/-! ### What a path is about -/

theorem category_inj {t t' : ProgramType} : t.category = t'.category ↔ t = t' := by
  cases t <;> cases t' <;> decide

/-- **Paths can be read back**, whatever their segments hold; so each program, dataset and stream
has paths of its own, one for each thing that is asked about it. -/
theorem path_reversible :
    (∀ segments : List String,
      read? (path segments) = some segments ∧ Spelled (path segments).toList) ∧
    (∀ (p p' : ProgramId) (tail tail' : String), program p tail = program p' tail' ↔
      p.ns = p'.ns ∧ p.application.name = p'.application.name ∧ p.type = p'.type ∧
        p.name = p'.name ∧ tail = tail') ∧
    (∀ (d d' : DatasetId) (tail tail' : List String),
      dataset d tail = dataset d' tail' ↔ d = d' ∧ tail = tail') ∧
    (∀ (s s' : StreamId) (tail tail' : List String),
      stream s tail = stream s' tail' ↔ s = s' ∧ tail = tail') := by
  refine ⟨fun segments => ⟨read?_path segments, spelled_path segments⟩, ?_, ?_, ?_⟩
  · rintro ⟨⟨⟨space⟩, application⟩, type, name⟩ ⟨⟨⟨space'⟩, application'⟩, type', name'⟩ tail tail'
    rw [program, program, path_inj, ← category_inj]
    simp [ProgramId.ns]
  · rintro ⟨⟨space⟩, name⟩ ⟨⟨space'⟩, name'⟩ tail tail'
    rw [dataset, dataset, path_inj]
    simp [and_assoc]
  · rintro ⟨⟨space⟩, name⟩ ⟨⟨space'⟩, name'⟩ tail tail'
    rw [stream, stream, path_inj]
    simp [and_assoc]

end Route

end AccessHarness
