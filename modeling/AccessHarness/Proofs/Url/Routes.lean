import AccessHarness.Rest.Route
import AccessHarness.Text.Blank
import AccessHarness.Url.Parse

/-!
# Where a route leads

A route is a path of percent-encoded segments, and a client resolves it below its base.
Reading a reference is a matter of many cases; for a route only one of them occurs, because
nothing in it is a blank, a colon, a question mark or a number sign
(`isSegmentChar_of_mem_encoded`).  A query that may follow it is kept as it is, if it is written
plainly (`Route.IsQuery`).

* `Url.directory` — the segments of a base taken as a directory.
* `Url.resolve?_written_of_isWeb` — where written segments lead from a web address, whatever the
  first of them is.
* `Url.joinBelow?_route` — below a web address a route leads to the segments of the directory
  followed by those of the route, except that dot segments are resolved (`Path.walk`).
* `Url.isWeb_of_resolve?_written` — from nowhere else do they lead to a web address.
* `Url.exists_joinBelow?_of_rooted`, `Url.joinBelow?_of_flat` — below any base with segments they
  lead somewhere, and below a flat path nowhere.
* `Url.GoesAlong` — what all of that comes to: the path of the result ends in the segments.
-/

namespace AccessHarness

namespace Route

/-- A segment as a route writes it. -/
def encoded (s : String) : List Char := Text.Percent.encodeBytes (Text.Percent.utf8 s.toList)

/-- Characters of a written segment. -/
def isSegmentChar (c : Char) : Bool := Text.Percent.isUnreserved c || c == '%'

private theorem isSegmentChar_upperHex {n : Nat} (h : n < 16) :
    isSegmentChar (Text.Percent.upperHex n) = true := by
  match n, h with
  | 0, _ | 1, _ | 2, _ | 3, _ | 4, _ | 5, _ | 6, _ | 7, _
  | 8, _ | 9, _ | 10, _ | 11, _ | 12, _ | 13, _ | 14, _ | 15, _ => decide
  | _ + 16, h => omega

/-- **A written segment holds nothing that a reference could be cut at.** -/
theorem isSegmentChar_of_mem_encoded {s : String} {c : Char} (h : c ∈ encoded s) :
    isSegmentChar c = true := by
  obtain ⟨b, -, hc⟩ := List.mem_flatMap.1 h
  have small : b.toNat < 256 := b.toNat_lt
  simp only [Text.Percent.encodeByte] at hc
  split at hc
  · rename_i plain
    rw [List.mem_singleton] at hc
    rw [Bool.and_eq_true] at plain
    simp [isSegmentChar, hc, plain.2]
  · simp only [Text.Percent.escapeByte, List.mem_cons, List.not_mem_nil, or_false] at hc
    rcases hc with rfl | rfl | rfl
    · decide
    · exact isSegmentChar_upperHex (by omega)
    · exact isSegmentChar_upperHex (by omega)

/-- A range of printed characters holds nothing else. -/
private theorem toNat_of_range {lo hi c : Char} (hlo : 0x20 < lo.toNat) (hhi : hi.toNat < 0x7f)
    (h : lo.val ≤ c.val ∧ c.val ≤ hi.val) : 0x20 < c.toNat ∧ c.toNat < 0x7f :=
  ⟨Nat.lt_of_lt_of_le hlo (UInt32.le_iff_toNat_le.1 h.1),
    Nat.lt_of_le_of_lt (UInt32.le_iff_toNat_le.1 h.2) hhi⟩

theorem toNat_of_isSegmentChar {c : Char} (h : isSegmentChar c = true) :
    0x20 < c.toNat ∧ c.toNat < 0x7f := by
  have named {d : Char} (hd : 0x20 < d.toNat ∧ d.toNat < 0x7f) (e : (c == d) = true) :
      0x20 < c.toNat ∧ c.toNat < 0x7f := by
    rwa [beq_iff_eq.1 e]
  unfold isSegmentChar Text.Percent.isUnreserved at h
  simp only [Bool.or_eq_true] at h
  rcases h with ((((h | h) | h) | h) | h) | h
  · change (decide ('A'.val ≤ c.val ∧ c.val ≤ 'Z'.val) ||
      (decide ('a'.val ≤ c.val) && decide (c.val ≤ 'z'.val)) ||
      (decide ('0'.val ≤ c.val) && decide (c.val ≤ '9'.val))) = true at h
    simp only [Bool.or_eq_true, Bool.and_eq_true, decide_eq_true_eq] at h
    rcases h with (upper | lower) | digit
    · exact toNat_of_range (by decide) (by decide) upper
    · exact toNat_of_range (by decide) (by decide) lower
    · exact toNat_of_range (by decide) (by decide) digit
  all_goals exact named (by decide) h

theorem isSeparator_of_isSegmentChar {special : Bool} {c : Char} (h : isSegmentChar c = true) :
    Path.isSeparator special c = false := by
  have slash : c ≠ '/' := by
    rintro rfl
    exact absurd h (by decide)
  have backslash : c ≠ '\\' := by
    rintro rfl
    exact absurd h (by decide)
  simp [Path.isSeparator, slash, backslash]

/-- None of the marks that cannot stand in a segment does. -/
theorem contains_eq_false_of_isSegmentChar {marks : List Char}
    (outside : (marks.all fun m => !isSegmentChar m) = true) {c : Char}
    (h : isSegmentChar c = true) : marks.contains c = false := by
  refine Bool.eq_false_iff.2 ?_
  intro mem
  have other := List.all_eq_true.1 outside c (List.contains_iff_mem.1 mem)
  rw [h] at other
  cases other

/-- A URL holds the characters of a segment in its query as well. -/
theorem isQueryPlain_of_isSegmentChar {c : Char} (h : isSegmentChar c = true) :
    Url.isQueryPlain true c = true := by
  obtain ⟨above, below⟩ := toNat_of_isSegmentChar h
  have unmarked : "\"#<>".toList.contains c = false :=
    contains_eq_false_of_isSegmentChar (by decide) h
  have unquoted : ['\''].contains c = false :=
    contains_eq_false_of_isSegmentChar (by decide) h
  rw [Url.isQueryPlain, unmarked, decide_eq_true above, decide_eq_true below]
  simpa using unquoted

/-- Segments as a route writes them: one in front, every other after a slash. -/
def written (first : String) (segments : List String) : List Char :=
  encoded first ++ segments.flatMap fun s => '/' :: encoded s

/-- A query after its question mark, if there is one. -/
def queryChars : Option (List Char) → List Char
  | none => []
  | some q => '?' :: q

/-- **A query that a URL holds as it is.** -/
def IsQuery (query : Option (List Char)) : Prop :=
  ∀ q ∈ query, ∀ ch ∈ q, Url.isQueryPlain true ch = true

theorem isQuery_none : IsQuery none := nofun

theorem encoded_v3 : encoded "v3" = ['v', '3'] := by
  decide

theorem toList_path (segments : List String) :
    (path segments).toList = '/' :: written "v3" segments := by
  rw [written, encoded_v3]
  simp [path, chars, encoded]

theorem dropWhile_path (segments : List String) (rest : List Char) :
    ((path segments).toList ++ rest).dropWhile (· == '/') = written "v3" segments ++ rest := by
  rw [toList_path, written, encoded_v3]
  rfl

theorem mem_written {first : String} {segments : List String} {c : Char}
    (h : c ∈ written first segments) : isSegmentChar c = true ∨ c = '/' := by
  rcases List.mem_append.1 h with h | h
  · exact .inl (isSegmentChar_of_mem_encoded h)
  · obtain ⟨s, -, h⟩ := List.mem_flatMap.1 h
    rcases List.mem_cons.1 h with rfl | h
    · exact .inr rfl
    · exact .inl (isSegmentChar_of_mem_encoded h)

/-- Cut at its slashes a written route gives its segments back. -/
theorem parts_written (special : Bool) (first : String) (segments : List String) :
    Text.parts (Path.isSeparator special) (written first segments) =
      (first :: segments).map encoded := by
  induction segments generalizing first with
  | nil =>
    rw [written, List.flatMap_nil, List.append_nil]
    exact Text.parts_of_none fun c mem =>
      isSeparator_of_isSegmentChar (isSegmentChar_of_mem_encoded mem)
  | cons s rest ih =>
    rw [written, List.flatMap_cons, List.cons_append, Text.parts_append_cons _
      (fun c mem => isSeparator_of_isSegmentChar (isSegmentChar_of_mem_encoded mem)) rfl]
    exact congrArg (encoded first :: ·) (ih s)

end Route

namespace Path

/-- What stands for itself is held as it is. -/
theorem flatMap_encodeChar {p : Char → Bool} {l : List Char} (plain : ∀ c ∈ l, p c = true) :
    l.flatMap (encodeChar p) = l := by
  induction l with
  | nil => rfl
  | cons c l ih =>
    rw [List.forall_mem_cons] at plain
    rw [List.flatMap_cons, encodeChar, if_pos plain.1]
    exact congrArg (c :: ·) (ih plain.2)

/-- A segment with others after it. -/
theorem walk_cons (above : List (List Char)) (seg : List Char) {rest : List (List Char)}
    (more : rest ≠ []) :
    walk above (seg :: rest) =
      if isUp seg then walk (leave above) rest
      else if isHere seg then walk above rest
      else walk (encodeSegment seg :: above) rest := by
  cases rest with
  | nil => exact absurd rfl more
  | cons next rest => rfl

/-- **A path ends in its last segment**, and in an empty one where that is a dot form. -/
theorem getLast?_walk_concat (above segments : List (List Char)) (last : List Char) :
    (walk above (segments ++ [last])).getLast? =
      some (if isUp last || isHere last then [] else encodeSegment last) := by
  induction segments generalizing above with
  | nil =>
    rw [List.nil_append, walk]
    by_cases up : isUp last = true
    · simp [up]
    · by_cases here : isHere last = true <;> simp [up, here]
  | cons seg rest ih =>
    rw [List.cons_append, walk_cons above seg (List.append_ne_nil_of_right_ne_nil _ (by simp))]
    split
    · exact ih _
    · split
      · exact ih _
      · exact ih _

theorem getLast?_walk (above segments : List (List Char)) {last : List Char}
    (hup : isUp last = false) (hhere : isHere last = false) :
    (walk above (segments ++ [last])).getLast? = some (encodeSegment last) := by
  rw [getLast?_walk_concat, hup, hhere]
  rfl

end Path

namespace Url

/-- The segments of a path taken as a directory. -/
def directory (u : Url) : List (List Char) :=
  match u.path with
  | .rooted segments => if segments.getLast? = some [] then segments.dropLast else segments
  | .flat _ => []

/-- Nothing of a text without blanks and controls is cleaned away. -/
theorem clean_of_visible {l : List Char} (visible : ∀ c ∈ l, 0x20 < c.toNat) : clean l = l := by
  have keep {l : List Char} (h : ∀ c ∈ l, 0x20 < c.toNat) :
      l.dropWhile (fun c => decide (c.toNat ≤ 0x20)) = l := by
    cases l with
    | nil => rfl
    | cons c rest =>
      have := h c (by simp)
      rw [List.dropWhile_cons_of_neg]
      simp
      omega
  simp only [clean]
  rw [keep visible, keep fun c h => visible c (List.mem_reverse.1 h), List.reverse_reverse,
    List.filter_eq_self]
  intro c h
  have printed := visible c h
  simp only [Bool.and_eq_true, bne_iff_ne, ne_eq]
  refine ⟨⟨?_, ?_⟩, ?_⟩ <;> rintro rfl <;> exact absurd printed (by decide)

/-- A text is not cut at a mark that it does not hold. -/
theorem cutAt_of_absent {mark : Char} {l : List Char} (absent : ∀ c ∈ l, c ≠ mark) :
    cutAt (· == mark) l = (l, none) := by
  have nowhere : l.dropWhile (fun c => !(c == mark)) = [] := by
    rw [Text.dropWhile_eq_nil_iff_all, List.all_eq_true]
    intro c mem
    simpa using absent c mem
  rw [cutAt, nowhere]

/-- It is cut at the first one. -/
theorem cutAt_append {mark : Char} {front : List Char} (absent : ∀ c ∈ front, c ≠ mark)
    (rest : List Char) : cutAt (· == mark) (front ++ mark :: rest) = (front, some rest) := by
  have stays : ∀ c ∈ front, (!(c == mark)) = true := by
    intro c mem
    simpa using absent c mem
  rw [cutAt, List.dropWhile_append_of_pos stays, List.takeWhile_append_of_pos stays]
  simp

/-- A text with a plain query is cut at its question mark and nowhere else. -/
theorem cut_of_plain {main q : List Char} (unmarked : ∀ c ∈ main, c ≠ '#')
    (unasked : ∀ c ∈ main, c ≠ '?') (plain : ∀ c ∈ q, isQueryPlain true c = true) :
    cut (main ++ '?' :: q) = ⟨main, some q, none⟩ := by
  have whole : ∀ c ∈ main ++ '?' :: q, c ≠ '#' := by
    rw [List.forall_mem_append, List.forall_mem_cons]
    refine ⟨unmarked, by decide, ?_⟩
    rintro c mem rfl
    exact absurd (plain _ mem) (by decide)
  simp only [cut, cutAt_of_absent whole, cutAt_append unasked q]

/-- A plain query is held as it is. -/
theorem encodeQuery_of_plain {q : List Char} (plain : ∀ c ∈ q, isQueryPlain true c = true) :
    encodeQuery true q = q :=
  Path.flatMap_encodeChar plain

section Written

variable (first : String) (segments : List String) {query : Option (List Char)}

/-- Nothing in a route is cleaned away. -/
private theorem clean_written (plain : Route.IsQuery query) :
    clean (Route.written first segments ++ Route.queryChars query) =
      Route.written first segments ++ Route.queryChars query := by
  have visible : ∀ c ∈ Route.written first segments ++ Route.queryChars query, 0x20 < c.toNat := by
    intro c mem
    rcases List.mem_append.1 mem with mem | mem
    · rcases Route.mem_written mem with h | rfl
      · exact (Route.toNat_of_isSegmentChar h).1
      · decide
    · cases query with
      | none => cases mem
      | some q =>
        rcases List.mem_cons.1 mem with rfl | mem
        · decide
        · have held := plain q rfl c mem
          simp only [isQueryPlain, Bool.and_eq_true, decide_eq_true_eq] at held
          exact held.1.1.1
  exact clean_of_visible visible

/-- A route holds no character that is none of a segment. -/
private theorem ne_of_mem_written {d : Char} (hd : Route.isSegmentChar d = false)
    (slash : d ≠ '/') : ∀ c ∈ Route.written first segments, c ≠ d := by
  rintro c mem rfl
  rcases Route.mem_written mem with h | rfl
  · rw [h] at hd
    cases hd
  · exact slash rfl

/-- A route is cut at its query and nowhere else. -/
private theorem cut_written (plain : Route.IsQuery query) :
    cut (Route.written first segments ++ Route.queryChars query) =
      ⟨Route.written first segments, query, none⟩ := by
  have unmarked : ∀ c ∈ Route.written first segments, c ≠ '#' :=
    ne_of_mem_written first segments (by decide) (by decide)
  have unasked : ∀ c ∈ Route.written first segments, c ≠ '?' :=
    ne_of_mem_written first segments (by decide) (by decide)
  cases query with
  | none =>
    simp only [Route.queryChars, List.append_nil, cut, cutAt_of_absent unmarked,
      cutAt_of_absent unasked]
  | some q => exact cut_of_plain unmarked unasked (plain q rfl)

/-- A route has no scheme. -/
private theorem splitScheme_written :
    splitScheme (Route.written first segments ++ Route.queryChars query) = none := by
  have absent : ∀ c ∈ Route.written first segments, c ≠ ':' :=
    ne_of_mem_written first segments (by decide) (by decide)
  -- whatever belongs to a scheme, the question mark does not, and a colon does not come before it
  have stops (p : Char → Bool) (question : p '?' = false) (rest : List Char) :
      (Route.written first segments ++ Route.queryChars query).dropWhile p ≠ ':' :: rest := by
    generalize Route.written first segments = main at absent
    induction main with
    | nil =>
      cases query with
      | none => nofun
      | some q => simp [Route.queryChars, question]
    | cons c main ih =>
      rw [List.forall_mem_cons] at absent
      rw [List.cons_append, List.dropWhile_cons]
      split
      · exact ih absent.2
      · intro same
        exact absent.1 (List.cons.inj same).1
  unfold splitScheme
  split
  · split
    · simp only
      split
      · rename_i rest colon
        exact absurd colon (stops _ (by decide) rest)
      · rfl
    · rfl
  · rfl

/-- A route begins with a segment. -/
private theorem lead_written (named : Route.encoded first ≠ []) :
    lead (Route.written first segments) = .segment := by
  unfold Route.written
  cases front : Route.encoded first with
  | nil => exact absurd front named
  | cons c rest =>
    have held : Route.isSegmentChar c = true :=
      Route.isSegmentChar_of_mem_encoded (s := first) (front ▸ List.mem_cons_self)
    have plain : isSlash c = false := @Route.isSeparator_of_isSegmentChar true c held
    rw [List.cons_append]
    generalize rest ++ _ = more
    cases more <;> simp [lead, plain]

/-- A route is no mere fragment. -/
private theorem written_ne_fragment (named : Route.encoded first ≠ []) (rest : List Char) :
    Route.written first segments ++ Route.queryChars query ≠ '#' :: rest := by
  intro same
  cases front : Route.written first segments with
  | nil => exact named (List.append_eq_nil_iff.1 front).1
  | cons c more =>
    rw [front] at same
    refine ne_of_mem_written first segments (by decide) (by decide) c ?_ (List.cons.inj same).1
    rw [front]
    exact List.mem_cons_self

/-- A route is read against a base with segments. -/
private theorem resolve?_written {b : Url} {d : List (List Char)} (h : b.path = .rooted d)
    (named : Route.encoded first ≠ []) (plain : Route.IsQuery query) :
    resolve? (some b) (Route.written first segments ++ Route.queryChars query) =
      if Scheme.kind b.scheme = .file then
        fileUrl (some b) ⟨Route.written first segments, query, none⟩
      else relative b d ⟨Route.written first segments, query, none⟩ := by
  simp only [resolve?, clean_written first segments plain, splitScheme_written first segments,
    cut_written first segments plain, h]
  split
  · rename_i rest fragment
    exact absurd fragment (written_ne_fragment first segments named rest)
  · rfl

/-- Against any other base it is not read at all. -/
private theorem resolve?_written_of_flat {b : Url} {t : List Char} (h : b.path = .flat t)
    (named : Route.encoded first ≠ []) (plain : Route.IsQuery query) :
    resolve? (some b) (Route.written first segments ++ Route.queryChars query) =
      .error .relativeWithFlatBase := by
  simp only [resolve?, clean_written first segments plain, splitScheme_written first segments, h]
  split
  · rename_i rest fragment
    exact absurd fragment (written_ne_fragment first segments named rest)
  · rfl

/-- A segment in front is put in place of the last segment of the base. -/
private theorem relative_written (b : Url) (d : List (List Char))
    (named : Route.encoded first ≠ []) :
    relative b d ⟨Route.written first segments, query, none⟩ =
      .ok { b with
        path := .rooted (Path.walk d.dropLast.reverse ((first :: segments).map Route.encoded))
        query := query.map (encodeQuery (Scheme.isSpecial b.scheme))
        fragment := none } := by
  simp only [relative, lead_written first segments named, withPath, Path.under,
    Route.parts_written, Option.map_none]

end Written

theorem kind_of_isWeb {u : Url} (h : u.isWeb = true) : Scheme.kind u.scheme = .special := by
  simp only [isWeb, isSecure, Bool.or_eq_true, beq_iff_eq] at h
  rcases h with h | h <;> rw [h] <;> rfl

/-- A web address as a directory ends in an empty segment. -/
theorem asDirectory_of_isWeb {u : Url} {l : List (List Char)} (web : u.isWeb = true)
    (h : u.path = .rooted l) :
    u.asDirectory = { u with path := .rooted (u.directory ++ [[]]) } := by
  have notFile : Scheme.kind u.scheme ≠ .file := by simp [kind_of_isWeb web]
  unfold asDirectory directory
  rw [h]
  simp only
  split
  · rename_i ended
    obtain ⟨front, rfl⟩ := List.getLast?_eq_some_iff.1 ended
    rw [List.dropLast_concat, ← h]
  · rfl

/-- **Where written segments lead from a web address.**  They take the place of the last segment of
the base. -/
theorem resolve?_written_of_isWeb {base : Url} {d : List (List Char)} (web : base.isWeb = true)
    (h : base.path = .rooted d) {first : String} (segments : List String)
    {query : Option (List Char)} (named : Route.encoded first ≠ []) (plain : Route.IsQuery query) :
    resolve? (some base) (Route.written first segments ++ Route.queryChars query) =
      .ok { base with
        path := .rooted (Path.walk d.dropLast.reverse ((first :: segments).map Route.encoded))
        query := query
        fragment := none } := by
  have special : Scheme.kind base.scheme = .special := kind_of_isWeb web
  have notFile : Scheme.kind base.scheme ≠ .file := by simp [special]
  have network : Scheme.isSpecial base.scheme = true := by
    rw [Scheme.isSpecial, special]
    rfl
  have asWritten : query.map (encodeQuery true) = query := by
    cases query with
    | none => rfl
    | some q => exact congrArg some (encodeQuery_of_plain (plain q rfl))
  rw [resolve?_written first segments h named plain, if_neg notFile,
    relative_written first segments base d named, network, asWritten]

/-- **Where a route leads below a web address**, with a query or without. -/
theorem joinBelow?_written {base : Url} {l : List (List Char)} (web : base.isWeb = true)
    (h : base.path = .rooted l) (segments : List String) {query : Option (List Char)}
    (plain : Route.IsQuery query) {text : String}
    (path : text.toList = (Route.path segments).toList ++ Route.queryChars query) :
    base.joinBelow? text =
      .ok { base with
        path := .rooted (Path.walk base.directory.reverse (("v3" :: segments).map Route.encoded))
        query := query
        fragment := none } := by
  have named : Route.encoded "v3" ≠ [] := by decide
  have webToo : { base with path := .rooted (base.directory ++ [[]]) }.isWeb = true := web
  rw [joinBelow?, path, Route.dropWhile_path, asDirectory_of_isWeb web h,
    resolve?_written_of_isWeb webToo rfl segments named plain, List.dropLast_concat]

theorem joinBelow?_route {base : Url} {l : List (List Char)} (web : base.isWeb = true)
    (h : base.path = .rooted l) (segments : List String) :
    base.joinBelow? (Route.path segments) =
      .ok { base with
        path := .rooted (Path.walk base.directory.reverse
          (['v', '3'] :: segments.map Route.encoded))
        query := none
        fragment := none } := by
  rw [joinBelow?_written web h segments Route.isQuery_none (List.append_nil _).symm, List.map_cons,
    Route.encoded_v3]

/-- Taking a path as a directory changes nothing but the path, and not its kind. -/
private theorem exists_asDirectory_eq (u : Url) :
    (∃ l d, u.path = .rooted l ∧ u.asDirectory = { u with path := .rooted d }) ∨
      ∃ t, u.asDirectory = { u with path := .flat t } := by
  unfold asDirectory
  cases h : u.path with
  | rooted l =>
    simp only
    split
    · exact .inl ⟨l, l, rfl, by rw [← h]⟩
    · exact .inl ⟨l, _, rfl, rfl⟩
  | flat t =>
    simp only
    split
    · exact .inr ⟨t, by rw [← h]⟩
    · split
      · exact .inr ⟨_, rfl⟩
      · exact .inr ⟨_, rfl⟩

section Below

variable {base : Url} {text first : String} {segments : List String}

/-- **Below a flat path nothing can be resolved.** -/
theorem joinBelow?_of_flat {t : List Char} (flat : base.path = .flat t)
    (named : Route.encoded first ≠ [])
    (path : text.toList.dropWhile (· == '/') = Route.written first segments) :
    base.joinBelow? text = .error .relativeWithFlatBase := by
  rcases exists_asDirectory_eq base with ⟨l, -, rooted, -⟩ | ⟨t', directory⟩
  · rw [flat] at rooted
    cases rooted
  · have read := resolve?_written_of_flat first segments (congrArg Url.path directory) named
      Route.isQuery_none
    rw [joinBelow?, path]
    exact (List.append_nil (Route.written first segments)) ▸ read

/-- Segments are read as the path of a file, whatever file they are below. -/
private theorem exists_fileUrl_written (b : Option Url) (named : Route.encoded first ≠ [])
    (query : Option (List Char)) :
    ∃ u, fileUrl b ⟨Route.written first segments, query, none⟩ = .ok u ∧ u.isWeb = false := by
  simp only [fileUrl, lead_written first segments named]
  split
  · rename_i other
    cases other
  · rename_i other
    cases other
  · rename_i other
    cases other
  · exact ⟨_, rfl, rfl⟩
  · refine ⟨_, rfl, ?_⟩
    split <;> rfl

/-- **Below a path of segments every route can be resolved**, whatever the scheme. -/
theorem exists_joinBelow?_of_rooted {l : List (List Char)} (rooted : base.path = .rooted l)
    (named : Route.encoded first ≠ [])
    (path : text.toList.dropWhile (· == '/') = Route.written first segments) :
    ∃ u, base.joinBelow? text = .ok u := by
  have below : ∃ d, base.asDirectory.path = .rooted d := by
    unfold asDirectory
    rw [rooted]
    simp only
    split
    · exact ⟨l, rooted⟩
    · exact ⟨_, rfl⟩
  obtain ⟨d, directory⟩ := below
  have read := resolve?_written first segments directory named Route.isQuery_none
  rw [Route.queryChars, List.append_nil] at read
  rw [joinBelow?, path, read]
  split
  · obtain ⟨u, file, -⟩ := exists_fileUrl_written base.asDirectory named none
    exact ⟨u, file⟩
  · exact ⟨_, relative_written first segments _ d named⟩

end Below

section Web

variable {first : String} {segments : List String} {query : Option (List Char)}

/-- Segments below a file lead to a file. -/
private theorem isWeb_of_fileUrl_written {b : Option Url} {u : Url}
    (named : Route.encoded first ≠ [])
    (h : fileUrl b ⟨Route.written first segments, query, none⟩ = .ok u) : u.isWeb = false := by
  obtain ⟨file, read, noWeb⟩ := exists_fileUrl_written b named query
  rw [read] at h
  cases h
  exact noWeb

/-- **Only from a web address do written segments lead to one.** -/
theorem isWeb_of_resolve?_written {b u : Url} (named : Route.encoded first ≠ [])
    (plain : Route.IsQuery query)
    (h : resolve? (some b) (Route.written first segments ++ Route.queryChars query) = .ok u)
    (web : u.isWeb = true) : b.isWeb = true ∧ ∃ d, b.path = .rooted d := by
  cases path : b.path with
  | flat t =>
    rw [resolve?_written_of_flat first segments path named plain] at h
    cases h
  | rooted d =>
    refine ⟨?_, d, rfl⟩
    rw [resolve?_written first segments path named plain] at h
    split at h
    · rw [isWeb_of_fileUrl_written named h] at web
      cases web
    · rw [relative_written first segments _ d named] at h
      cases h
      exact web

/-- **Only below a web address does a route lead to one.** -/
theorem isWeb_of_joinBelow? {base u : Url} (plain : Route.IsQuery query) {text : String}
    (path : text.toList = (Route.path segments).toList ++ Route.queryChars query)
    (h : base.joinBelow? text = .ok u) (web : u.isWeb = true) :
    base.isWeb = true ∧ ∃ l, base.path = .rooted l := by
  have named : Route.encoded "v3" ≠ [] := by decide
  rw [joinBelow?, path, Route.dropWhile_path] at h
  obtain ⟨asWeb, d, rooted⟩ := isWeb_of_resolve?_written named plain h web
  rcases exists_asDirectory_eq base with ⟨l, d', hl, hd⟩ | ⟨t, ht⟩
  · rw [hd] at asWeb
    exact ⟨asWeb, l, hl⟩
  · rw [ht] at rooted
    cases rooted

theorem isWeb_of_joinBelow?_route {base u : Url}
    (h : base.joinBelow? (Route.path segments) = .ok u) (web : u.isWeb = true) :
    base.isWeb = true ∧ ∃ l, base.path = .rooted l :=
  isWeb_of_joinBelow? Route.isQuery_none (List.append_nil _).symm h web

/-- **A URL that goes along segments** in the end, wherever it started. -/
def GoesAlong (u : Url) (segments : List String) : Prop :=
  ∃ above, u.path = .rooted (Path.walk above (segments.map Route.encoded))

theorem goesAlong_of_resolve? {b u : Url} (named : Route.encoded first ≠ [])
    (plain : Route.IsQuery query)
    (h : resolve? (some b) (Route.written first segments ++ Route.queryChars query) = .ok u)
    (web : u.isWeb = true) : u.GoesAlong (first :: segments) := by
  obtain ⟨baseWeb, d, path⟩ := isWeb_of_resolve?_written named plain h web
  rw [resolve?_written_of_isWeb baseWeb path segments named plain, Except.ok.injEq] at h
  refine ⟨d.dropLast.reverse, ?_⟩
  rw [← h]

theorem goesAlong_of_joinBelow? {base u : Url} (plain : Route.IsQuery query) {text : String}
    (path : text.toList = (Route.path segments).toList ++ Route.queryChars query)
    (h : base.joinBelow? text = .ok u) (web : u.isWeb = true) :
    u.GoesAlong ("v3" :: segments) := by
  rw [joinBelow?, path, Route.dropWhile_path] at h
  exact goesAlong_of_resolve? (by decide) plain h web

/-- **The last segment of such a URL**, unless that is a dot form. -/
theorem GoesAlong.getLast? {u : Url} {front : List String} {last : String}
    (h : u.GoesAlong (front ++ [last])) :
    ∃ l, u.path = .rooted l ∧ l.getLast? = some (
      if Path.isUp (Route.encoded last) || Path.isHere (Route.encoded last) then []
      else Path.encodeSegment (Route.encoded last)) := by
  obtain ⟨above, path⟩ := h
  refine ⟨_, path, ?_⟩
  rw [List.map_append, List.map_singleton, Path.getLast?_walk_concat]

end Web

end Url

end AccessHarness
