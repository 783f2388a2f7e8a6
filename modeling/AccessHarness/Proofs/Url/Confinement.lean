import AccessHarness.Access.Model
import AccessHarness.Proofs.Rest.Requests
import AccessHarness.Proofs.Url.References
import AccessHarness.Settings
import Mathlib.Logic.Function.Iterate

/-!
# Below the base

A path is resolved below the base of a client, but it is a text like any other: it may name a
scheme, bring an authority, begin at the root, or climb.  Whether it stays below the base can be
told from its text.

* `Url.IsBelow` — of the origin of a base, and below the base's path taken as a directory.
* `Path.left` — what of a directory the segments of a text climb out of.
* `Url.StaysBelow` — what the text of a path has to be like.
* `RestClient.url_isBelow_iff` — exactly the paths like that stay below the base.
* `AccessModel.invalidate_escapes` — a path that the settings accept need not.

### What is load-bearing

**Climbing is counted apart from what is kept** (`Path.walk_append`).  The segments of a text are
read twice: on top of the directory, and on top of nothing.  Both readings end in the same
segments, and the first has lost as many segments of the directory as the second found nothing to
climb out of.  So a text comes back below the directory exactly if it spells again what it left.

**Prefixes of paths are prefixes of segments** (`Path.chars_prefix_iff`), because no segment of a
parsed URL holds a slash.
-/

namespace AccessHarness

/-! ### Segments below a directory -/

namespace Text

/-- No part holds a separator. -/
theorem not_of_mem_parts {p : Char → Bool} {l part : List Char} (h : part ∈ parts p l) :
    ∀ ch ∈ part, p ch = false := by
  induction l generalizing part with
  | nil =>
    rw [parts, List.mem_singleton] at h
    rw [h]
    exact fun ch mem => absurd mem List.not_mem_nil
  | cons c rest ih =>
    rw [parts] at h
    by_cases separates : p c = true
    · rw [if_pos separates] at h
      rcases List.mem_cons.1 h with rfl | later
      · exact fun ch mem => absurd mem List.not_mem_nil
      · exact ih later
    · rw [if_neg separates] at h
      cases others : parts p rest with
      | nil => exact absurd others (parts_ne_nil p rest)
      | cons first more =>
        rw [others] at h ih
        rcases List.mem_cons.1 h with rfl | later
        · rw [List.forall_mem_cons]
          exact ⟨Bool.eq_false_iff.2 separates, ih List.mem_cons_self⟩
        · exact ih (List.mem_cons_of_mem _ later)

/-- Two texts that both end at a slash are compared piece by piece. -/
theorem append_slash_prefix_iff {d s x y : List Char} (hd : '/' ∉ d) (hs : '/' ∉ s)
    (hy : ∀ ch ∈ y.head?, ch = '/') : d ++ '/' :: x <+: s ++ y ↔ d = s ∧ '/' :: x <+: y := by
  induction d generalizing s with
  | nil =>
    cases s with
    | nil => simp
    | cons ch s =>
      refine iff_of_false ?_ (by simp)
      intro pre
      rw [List.nil_append, List.cons_append, List.cons_prefix_cons] at pre
      exact hs (pre.1 ▸ List.mem_cons_self)
  | cons a d ih =>
    cases s with
    | nil =>
      refine iff_of_false ?_ (by simp)
      intro pre
      cases y with
      | nil => exact absurd pre (by simp)
      | cons b y =>
        rw [List.cons_append, List.nil_append, List.cons_prefix_cons] at pre
        have slash : b = '/' := hy b rfl
        exact hd (slash ▸ pre.1 ▸ List.mem_cons_self)
    | cons b s =>
      rw [List.cons_append, List.cons_append, List.cons_prefix_cons, List.cons.injEq, and_assoc,
        ih (fun mem => hd (List.mem_cons_of_mem a mem)) fun mem => hs (List.mem_cons_of_mem b mem)]

end Text

namespace Path

/-- **Below a directory**: a path begins with the directory's segments and goes on. -/
def Within (directory segments : List (List Char)) : Prop :=
  directory <+: segments ∧ directory.length < segments.length

instance (directory segments : List (List Char)) : Decidable (Within directory segments) :=
  inferInstanceAs (Decidable (_ ∧ _))

/-- How often segments climb out of what they are read on top of; `kept` are the segments they
kept so far, last first. -/
def climbs : List (List Char) → List (List Char) → Nat
  | _, [] => 0
  | kept, seg :: rest =>
    if isUp seg then
      match kept with
      | [] => climbs [] rest + 1
      | _ :: _ => climbs (leave kept) rest
    else if isHere seg then climbs kept rest
    else climbs (encodeSegment seg :: kept) rest

/-- **What segments climb out of**, of the directory they are read in. -/
def left (directory segments : List (List Char)) : List (List Char) :=
  directory.drop (leave^[climbs [] segments] directory.reverse).length

/-- What is kept shields the directory. -/
private theorem leave_append {kept : List (List Char)} (above : List (List Char))
    (h : kept ≠ []) : leave (kept ++ above) = leave kept ++ above := by
  cases kept with
  | nil => exact absurd rfl h
  | cons seg kept =>
    simp only [List.cons_append, leave]
    split <;> rfl

/-- **Climbing is counted apart from what is kept.** -/
theorem walk_append (kept above segments : List (List Char)) :
    walk (kept ++ above) segments =
      (leave^[climbs kept segments] above).reverse ++ walk kept segments := by
  induction segments generalizing kept above with
  | nil => simp [walk, climbs]
  | cons seg rest ih =>
    by_cases up : isUp seg = true
    · cases kept with
      | nil =>
        -- nothing is kept, so the segment leads out of the directory
        have out := ih [] (leave above)
        cases rest with
        | nil => simp [walk, climbs, up, leave]
        | cons next rest =>
          simpa [walk, climbs, up, leave] using out
      | cons last kept =>
        have shielded := leave_append above (List.cons_ne_nil last kept)
        have inside := ih (leave (last :: kept)) above
        cases rest with
        | nil =>
          simp only [walk, climbs, up, if_true, shielded]
          simp
        | cons next rest => simpa only [walk, climbs, up, if_true, shielded] using inside
    · rw [Bool.not_eq_true] at up
      by_cases here : isHere seg = true
      · have stays := ih kept above
        cases rest with
        | nil => simp [walk, climbs, up, here]
        | cons next rest => simpa [walk, climbs, up, here] using stays
      · rw [Bool.not_eq_true] at here
        rw [walk_keep up here, walk_keep up here, ← List.cons_append, ih]
        simp [climbs, up, here]

theorem leave_suffix (above : List (List Char)) : leave above <:+ above := by
  cases above with
  | nil => exact List.suffix_refl []
  | cons seg above =>
    rw [leave]
    split
    · exact List.suffix_refl _
    · exact List.suffix_cons seg above

theorem iterate_leave_suffix (k : Nat) (above : List (List Char)) : leave^[k] above <:+ above := by
  induction k generalizing above with
  | zero => exact List.suffix_refl above
  | succ k ih => exact (ih (leave above)).trans (leave_suffix above)

/-- **A text stays below a directory if it spells again what it left.** -/
theorem within_walk_iff (directory segments : List (List Char)) :
    Within directory (walk directory.reverse segments) ↔
      Within (left directory segments) (walk [] segments) := by
  have apart := walk_append [] directory.reverse segments
  rw [List.nil_append] at apart
  obtain ⟨gone, split⟩ := iterate_leave_suffix (climbs [] segments) directory.reverse
  rw [apart, left]
  generalize leave^[climbs [] segments] directory.reverse = above at *
  have whole : directory = above.reverse ++ gone.reverse := by
    rw [← List.reverse_append, split, List.reverse_reverse]
  have dropped : directory.drop above.length = gone.reverse := by
    rw [whole, ← List.length_reverse, List.drop_left]
  rw [dropped, whole, Within, Within, List.prefix_append_right_inj, List.length_append,
    List.length_append, Nat.add_lt_add_iff_left]

/-! ### Texts of paths -/

/-- Whether no segment holds a slash. -/
def IsFlat (segments : List (List Char)) : Prop := ∀ seg ∈ segments, '/' ∉ seg

theorem head?_chars (segments : List (List Char)) : ∀ ch ∈ (chars segments).head?, ch = '/' := by
  cases segments with
  | nil => simp
  | cons seg rest => simp [chars]

/-- **Prefixes of paths are prefixes of segments.** -/
theorem chars_prefix_iff {directory segments : List (List Char)} (hd : IsFlat directory)
    (hs : IsFlat segments) :
    chars (directory ++ [[]]) <+: chars segments ↔ Within directory segments := by
  have slash : chars [[]] = ['/'] := rfl
  induction directory generalizing segments with
  | nil =>
    cases segments with
    | nil => simp [slash, Within]
    | cons seg rest => simp [chars, Within]
  | cons d directory ih =>
    have flat := List.forall_mem_cons.1 hd
    cases segments with
    | nil => simp [chars, Within]
    | cons seg rest =>
      have flat' := List.forall_mem_cons.1 hs
      have first : ∃ x, chars (directory ++ [[]]) = '/' :: x := by
        cases directory with
        | nil => exact ⟨_, slash⟩
        | cons d' directory => exact ⟨_, rfl⟩
      obtain ⟨x, first⟩ := first
      have text (s : List Char) (more : List (List Char)) :
          chars (s :: more) = '/' :: (s ++ chars more) := rfl
      rw [List.cons_append, text, text, List.cons_prefix_cons, first,
        Text.append_slash_prefix_iff flat.1 flat'.1 (head?_chars rest), ← first]
      have below : chars (directory ++ [[]]) <+: chars rest ↔ Within directory rest :=
        ih flat.2 flat'.2
      rw [below]
      simp [Within, and_assoc]

/-- What a character is written as has no slash, if the character is none. -/
private theorem slash_notMem_encodeChar {ch : Char} (h : ch ≠ '/') :
    '/' ∉ encodeChar isPlain ch := by
  have hex {n : Nat} (small : n < 16) : '/' ≠ Text.Percent.upperHex n := by
    intro slash
    have value := Text.Percent.hexValue?_upperHex n small
    rw [← slash] at value
    have none : Text.Percent.hexValue? '/' = none := by decide
    exact absurd (none.symm.trans value) (by simp)
  unfold encodeChar
  split
  · exact fun mem => h (List.mem_singleton.1 mem).symm
  · intro mem
    obtain ⟨b, -, mem⟩ := List.mem_flatMap.1 mem
    have small : b.toNat < 256 := b.toNat_lt
    simp only [Text.Percent.escapeByte, List.mem_cons, List.not_mem_nil, or_false] at mem
    rcases mem with percent | high | low
    · exact absurd percent (by decide)
    · exact hex (by omega) high
    · exact hex (by omega) low

theorem slash_notMem_encodeSegment {seg : List Char} (h : '/' ∉ seg) :
    '/' ∉ encodeSegment seg := by
  intro mem
  obtain ⟨ch, source, written⟩ := List.mem_flatMap.1 mem
  refine slash_notMem_encodeChar ?_ written
  rintro rfl
  exact h source

/-- Reading segments makes no slash. -/
theorem IsFlat.walk {above segments : List (List Char)} (ha : IsFlat above)
    (hs : IsFlat segments) : IsFlat (walk above segments) := by
  have out {above : List (List Char)} (h : IsFlat above) : IsFlat (leave above) :=
    fun seg mem => h seg ((leave_suffix above).subset mem)
  have ended {above : List (List Char)} {seg : List Char} (h : IsFlat above) (hseg : '/' ∉ seg) :
      IsFlat (seg :: above).reverse := by
    intro other mem
    rcases List.mem_cons.1 (List.mem_reverse.1 mem) with rfl | mem
    · exact hseg
    · exact h other mem
  induction segments generalizing above with
  | nil => exact fun seg mem => ha seg (List.mem_reverse.1 mem)
  | cons seg rest ih =>
    have flat := List.forall_mem_cons.1 hs
    by_cases up : isUp seg = true
    · cases rest with
      | nil => simpa only [Path.walk, up, if_true] using ended (out ha) List.not_mem_nil
      | cons next rest => simpa only [Path.walk, up, if_true] using ih (out ha) flat.2
    · rw [Bool.not_eq_true] at up
      by_cases here : isHere seg = true
      · cases rest with
        | nil => simpa [Path.walk, up, here] using ended ha List.not_mem_nil
        | cons next rest => simpa [Path.walk, up, here] using ih ha flat.2
      · rw [Bool.not_eq_true] at here
        rw [walk_keep up here]
        exact ih (List.forall_mem_cons.2 ⟨slash_notMem_encodeSegment flat.1, ha⟩) flat.2

theorem IsFlat.under {directory : List (List Char)} (h : IsFlat directory) (text : List Char) :
    IsFlat (under true directory text) := by
  refine IsFlat.walk (fun seg mem => h seg (List.mem_reverse.1 mem)) ?_
  intro seg mem slash
  have inside := Text.not_of_mem_parts mem '/' slash
  exact absurd inside (by decide)

end Path

/-! ### Below the base -/

namespace Url

/-- Scheme, host and port of a URL are those of a base. -/
def SameOrigin (u base : Url) : Prop :=
  u.scheme = base.scheme ∧ u.host = base.host ∧ u.port = base.port

/-- **A URL below a base**: of its origin, and with a path that begins with the base's path taken
as a directory. -/
def IsBelow (u base : Url) : Prop :=
  u.SameOrigin base ∧ base.asDirectory.pathChars <+: u.pathChars

instance (u base : Url) : Decidable (u.SameOrigin base) := inferInstanceAs (Decidable (_ ∧ _))

instance (u base : Url) : Decidable (u.IsBelow base) := inferInstanceAs (Decidable (_ ∧ _))

/-- **What keeps a reference below its base**, told from its text: what it climbs out of it spells
again, and so does a path from the root; an authority is that of the base. -/
def KeepsBelow (base u : Url) (c : Cut) : Prop :=
  match lead c.main with
  | .nothing => True
  | .segment =>
    let segments := Text.parts isSlash c.main
    Path.Within (Path.left base.directory segments) (Path.walk [] segments)
  | .slash rest => Path.Within base.directory (Path.under true [] rest)
  | .slashes _ =>
    (u.host = base.host ∧ u.port = base.port) ∧
      Path.Within base.directory (Path.under true [] (pathAfterAuthority c.main))

/-- **A path that stays below the base** it is resolved against, `u` being what it is resolved to:
it names no scheme but the base's, and otherwise keeps below the base. -/
def StaysBelow (base u : Url) (path : String) : Prop :=
  ∃ c, sameScheme? base.scheme (reference path) = some c ∧ base.KeepsBelow u c

/-- A web address is read with a path whose segments hold no slash. -/
theorem path_of_parse? {raw : String} {base : Url} (parsed : parse? raw = .ok base)
    (web : base.isWeb = true) : ∃ l, base.path = .rooted l ∧ Path.IsFlat l := by
  unfold parse? resolve? at parsed
  simp only at parsed
  split at parsed
  · rename_i scheme rest read
    have own : base.scheme = scheme := scheme_of_afterScheme parsed (by simp)
    have special : Scheme.kind scheme = .special := own ▸ kind_of_isWeb web
    simp only [afterScheme, special] at parsed
    refine ⟨_, path_of_afterSlashes special parsed, Path.IsFlat.under ?_ _⟩
    exact fun seg mem => absurd mem List.not_mem_nil
  · cases parsed

theorem isFlat_directory {base : Url} {l : List (List Char)} (rooted : base.path = .rooted l)
    (flat : Path.IsFlat l) : Path.IsFlat base.directory := by
  simp only [directory, rooted]
  split
  · exact fun seg mem => flat seg ((List.dropLast_sublist l).subset mem)
  · exact flat

/-- Being below a base is a matter of segments. -/
theorem isBelow_iff_within {base u : Url} {l segments : List (List Char)}
    (web : base.isWeb = true) (rooted : base.path = .rooted l) (flat : Path.IsFlat l)
    (path : u.path = .rooted segments) (flat' : Path.IsFlat segments) :
    u.IsBelow base ↔ u.SameOrigin base ∧ Path.Within base.directory segments := by
  have text : base.asDirectory.pathChars = Path.chars (base.directory ++ [[]]) := by
    rw [asDirectory_of_isWeb web rooted]
    rfl
  have text' : u.pathChars = Path.chars segments := by
    rw [pathChars, path]
  rw [IsBelow, text, text', Path.chars_prefix_iff (isFlat_directory rooted flat) flat']

/-- **Which paths stay below a web address.** -/
theorem isBelow_iff_staysBelow {raw path : String} {base u : Url}
    (parsed : parse? raw = .ok base) (web : base.isWeb = true)
    (ok : base.joinBelow? path = .ok u) : u.IsBelow base ↔ base.StaysBelow u path := by
  obtain ⟨l, rooted, flat⟩ := path_of_parse? parsed web
  have special : Scheme.kind base.scheme = .special := kind_of_isWeb web
  have network : Scheme.isSpecial base.scheme = true := by
    rw [Scheme.isSpecial, special]
    rfl
  have top : Path.IsFlat [] := fun seg mem => absurd mem List.not_mem_nil
  have directoryFlat := isFlat_directory rooted flat
  rw [joinBelow?, asDirectory_of_isWeb web rooted] at ok
  generalize here : { base with path := .rooted (base.directory ++ [[]]) } = b at ok
  have webHere : b.isWeb = true := here ▸ web
  have rootedHere : b.path = .rooted (base.directory ++ [[]]) := here ▸ rfl
  have scheme : b.scheme = base.scheme := here ▸ rfl
  have origin (path : UrlPath) (c : Cut) : (b.withPath path c).SameOrigin base := by
    subst here
    exact ⟨rfl, rfl, rfl⟩
  unfold StaysBelow
  rw [← scheme]
  cases same : sameScheme? b.scheme (reference path) with
  | none =>
    refine iff_of_false ?_ (by simp)
    rintro ⟨⟨own, -⟩, -⟩
    exact scheme_ne_of_resolve? same ok (own.trans scheme.symm)
  | some c =>
    simp only [Option.some.injEq, exists_eq_left']
    cases begins : lead c.main with
    | nothing =>
      rw [resolve?_eq_relative webHere rootedHere same (by simp [begins]), relative] at ok
      simp only [begins] at ok
      cases ok
      -- the path of the directory itself, with another query perhaps
      have kept : (b.withoutPath c).path = b.path ∧ (b.withoutPath c).SameOrigin base := by
        subst here
        unfold withoutPath
        split
        · exact ⟨rfl, rfl, rfl, rfl⟩
        · exact ⟨rfl, origin _ c⟩
      have ended : Path.IsFlat (base.directory ++ [[]]) := by
        intro seg mem
        rcases List.mem_append.1 mem with mem | mem
        · exact directoryFlat seg mem
        · rw [List.mem_singleton.1 mem]
          exact List.not_mem_nil
      rw [isBelow_iff_within web rooted flat (kept.1.trans rootedHere) ended]
      simp only [KeepsBelow, begins, iff_true]
      exact ⟨kept.2, List.prefix_append _ _, by simp⟩
    | segment =>
      rw [resolve?_eq_relative webHere rootedHere same (by simp [begins]), relative] at ok
      simp only [begins, scheme, network, List.dropLast_concat] at ok
      cases ok
      rw [isBelow_iff_within web rooted flat rfl (directoryFlat.under _), Path.under,
        Path.isSeparator_true, Path.within_walk_iff]
      simp only [KeepsBelow, begins]
      exact and_iff_right (origin _ _)
    | slash rest =>
      rw [resolve?_eq_relative webHere rootedHere same (by simp [begins]), relative] at ok
      simp only [begins, scheme, network] at ok
      cases ok
      rw [isBelow_iff_within web rooted flat rfl (top.under _)]
      simp only [KeepsBelow, begins]
      exact and_iff_right (origin _ _)
    | slashes rest =>
      have read := afterSlashes_of_resolve? webHere rootedHere same begins ok
      have own := scheme_of_afterSlashes read
      have path := path_of_afterSlashes (scheme ▸ special) read
      rw [isBelow_iff_within web rooted flat path (top.under _)]
      simp only [KeepsBelow, begins, SameOrigin, own, scheme, true_and]
      rfl

end Url

/-- **Which paths a client resolves below its base.**  One that climbs out has to come back by the
same segments, and one that brings a scheme or an authority has to bring those of the base. -/
theorem RestClient.url_isBelow_iff {raw path : String} {c : RestClient} {u : Url}
    (parsed : Url.parse? raw = .ok c.base) (web : c.base.isWeb = true)
    (resolved : c.url path = .ok u) : u.IsBelow c.base ↔ c.base.StaysBelow u path :=
  Url.isBelow_iff_staysBelow parsed web (url_eq_ok_iff.1 resolved)

/-- A path that leads out of a prefix and back again. -/
theorem RestClient.url_isBelow_iff_return :
    let c : RestClient :=
      ⟨⟨"https".toList, [], none, some (.domain "gateway.test".toList), none,
        .rooted ["cdap".toList], none, none⟩, none⟩
    let u : Url := { c.base with path := .rooted ["cdap".toList, "v3".toList] }
    (Url.parse? "https://gateway.test/cdap" = .ok c.base ∧ c.base.isWeb = true ∧
      c.url "/../cdap/v3" = .ok u) ∧
    (u.IsBelow c.base ↔ c.base.StaysBelow u "/../cdap/v3") ∧ c.base.StaysBelow u "/../cdap/v3" := by
  intro c u
  have parsed : Url.parse? "https://gateway.test/cdap" = .ok c.base := by rfl
  have web : c.base.isWeb = true := by rfl
  have resolved : c.url "/../cdap/v3" = .ok u := by rfl
  have iff := RestClient.url_isBelow_iff parsed web resolved
  exact ⟨⟨parsed, web, resolved⟩, iff, iff.1 (by decide +kernel)⟩

/-- **A path that the settings accept can lead to another host**, and with the request goes the
token of the administrator. -/
theorem AccessModel.invalidate_escapes :
    let lookup (key : String) : Option String :=
      if key = "CDAP_CACHE_INVALIDATE_PATH" then some "/http://evil.test/steal" else none
    let base : Url := ⟨"http".toList, [], none, some (.domain "localhost".toList), some 11015,
      .rooted [[]], none, none⟩
    let admin : RestClient := ⟨base, some "admin"⟩
    let elsewhere : Url := ⟨"http".toList, [], none, some (.domain "evil.test".toList), none,
      .rooted ["steal".toList], none, none⟩
    let env : Environment := .replying fun _ _ => .answered ⟨200, ""⟩
    (Settings.ofLookup lookup).toOption.map
        (fun s => (RestClient.ofToken s.endpoint (some "admin"), s.invalidatePath)) =
          some (admin, "/http://evil.test/steal") ∧
      base.isWeb = true ∧ admin.url "/http://evil.test/steal" = .ok elsewhere ∧
      ¬ elsewhere.IsBelow base ∧
      ((AccessModel.mk admin .invalidateOnMutation "/http://evil.test/steal").refresh env []).2 =
        [.exchanged ⟨"POST", elsewhere, [("authorization", "Bearer admin")], .empty⟩
          (.answered ⟨200, ""⟩)] := by
  intro lookup base admin elsewhere env
  refine ⟨?_, rfl, rfl, ?_, ?_⟩
  · decide +kernel
  · decide +kernel
  · decide +kernel

end AccessHarness
