import AccessHarness.Proofs.Url.Routes

/-!
# Reading against a web address

A text is read against a web address in one of three ways, and which one can be told from the
text.

* `Url.sameScheme?` — what a text says under the scheme of its base, or that it names another.
* `Url.scheme_ne_of_resolve?` — a text that names another scheme leads to a URL of that scheme.
* `Url.afterSlashes_of_resolve?` — one with two slashes brings an authority of its own, and a path
  from the root (`Url.path_of_afterSlashes`).
* `Url.resolve?_eq_relative` — any other is a reference: all but path, query and fragment are those
  of the base.

That a text repeats the scheme of its base makes no difference to where it leads.  With the scheme
more than two slashes count as two; without it they are refused, because the host between them is
empty (`Url.dropWhile_of_afterSlashes`).
-/

namespace AccessHarness

theorem Path.isSeparator_true : Path.isSeparator true = Url.isSlash := by
  funext ch
  rfl

namespace Url

/-- The reference that a path is read as. -/
def reference (path : String) : List Char := clean (path.toList.dropWhile (· == '/'))

/-- **What a reference says under the scheme of its base**; nothing where it names another. -/
def sameScheme? (scheme l : List Char) : Option Cut :=
  match splitScheme l with
  | none => some (cut l)
  | some (own, rest) => if own = scheme then some (cut rest) else none

/-- The path that a text gives after its authority. -/
def pathAfterAuthority (main : List Char) : List Char :=
  ((main.dropWhile isSlash).dropWhile fun ch => !isSlash ch).drop 1

theorem scheme_of_fileUrl {c : Cut} {u : Url} (h : fileUrl none c = .ok u) :
    u.scheme = ['f', 'i', 'l', 'e'] := by
  have slashed (rest : List Char) : (fileAfterSlash none rest c).scheme = ['f', 'i', 'l', 'e'] := by
    unfold fileAfterSlash
    split <;> rfl
  unfold fileUrl at h
  cases begins : lead c.main with
  | nothing =>
    rw [begins] at h
    cases h
    rfl
  | segment =>
    rw [begins] at h
    cases h
    rfl
  | slash rest =>
    rw [begins] at h
    cases h
    exact slashed rest
  | slashes rest =>
    simp only [begins, fileAfterSlashes] at h
    split at h
    · cases h
      rfl
    · split at h
      · cases h
      · cases h
        rfl
      · cases h
        rfl

theorem scheme_of_afterSlashes {scheme main : List Char} {c : Cut} {u : Url}
    (h : afterSlashes scheme main c = .ok u) : u.scheme = scheme := by
  unfold afterSlashes at h
  simp only at h
  split at h
  · cases h
  · cases h
    rfl

/-- A text that names a scheme other than that of the base is read under that scheme. -/
theorem scheme_of_afterScheme {base : Option Url} {scheme rest : List Char} {u : Url}
    (h : afterScheme base scheme rest = .ok u) (other : ∀ b ∈ base, b.scheme ≠ scheme) :
    u.scheme = scheme := by
  have unlike : base.filter (fun b => b.scheme == scheme) = none := by
    cases base with
    | none => rfl
    | some b => simp [other b rfl]
  unfold afterScheme at h
  cases kind : Scheme.kind scheme with
  | file =>
    have file : scheme = ['f', 'i', 'l', 'e'] := by
      unfold Scheme.kind at kind
      split at kind
      · cases kind
      · split at kind
        · assumption
        · cases kind
    simp only [kind, unlike] at h
    rw [scheme_of_fileUrl h, file]
  | special =>
    simp only [kind] at h
    cases base with
    | none => exact scheme_of_afterSlashes h
    | some b =>
      have apart : (b.scheme == scheme) = false := beq_false_of_ne (other b rfl)
      simp only [apart, Bool.and_false, Bool.false_eq_true, if_false] at h
      exact scheme_of_afterSlashes h
  | plain =>
    simp only [kind] at h
    split at h
    · exact scheme_of_afterSlashes h
    · cases h
      rfl
    · cases h
      rfl

/-- Nothing is left of an authority without backslash. -/
theorem left_of_authority? {scheme l left : List Char} {atEnd : Bool} {a : Authority}
    (h : authority? scheme atEnd l = .ok (a, left)) (plain : '\\' ∉ l) : left = [] := by
  have host (inside : Bool) (l : List Char) : (takeHost inside l).2 <:+ l := by
    induction l generalizing inside with
    | nil => exact List.suffix_refl []
    | cons ch rest ih =>
      rw [takeHost]
      split
      · exact List.suffix_refl _
      · exact (ih _).trans (List.suffix_cons ch rest)
  have after : (splitCredentials l).2 ⊆ l := by
    unfold splitCredentials
    simp only
    split
    · exact List.Subset.refl l
    · intro ch mem
      exact List.mem_reverse.1 ((List.takeWhile_sublist _).subset (List.mem_reverse.1 mem))
  have nowhere : '\\' ∉ (takeHost false (splitCredentials l).2).2 :=
    fun mem => plain (after ((host false _).subset mem))
  simp only [authority?] at h
  split at h
  · cases h
  · generalize hostAndPort _ _ _ _ _ = read at h
    cases read with
    | error e => cases h
    | ok a' =>
      cases h
      rw [takePort, Text.dropWhile_eq_nil_iff_all, List.all_eq_true]
      intro ch mem
      refine bne_iff_ne.2 ?_
      rintro rfl
      exact nowhere mem

/-- No host is read where another slash follows. -/
theorem dropWhile_of_afterSlashes {scheme main : List Char} {c : Cut} {u : Url}
    (special : Scheme.kind scheme = .special) (h : afterSlashes scheme main c = .ok u) :
    main.dropWhile isSlash = main := by
  have network : Scheme.isSpecial scheme = true := by
    rw [Scheme.isSpecial, special]
    rfl
  cases main with
  | nil => rfl
  | cons ch rest =>
    rw [List.dropWhile_cons_of_neg]
    intro slash
    have nothing : (ch :: rest).takeWhile (fun c => !isSlash c) = [] := by
      rw [List.takeWhile_cons_of_neg]
      simp [slash]
    have hostless (atEnd : Bool) : authority? scheme atEnd [] = .error .emptyHost := by
      simp [authority?, splitCredentials, takeHost, takePort, credentials, hostAndPort, needsHost,
        network, Except.map]
    simp only [afterSlashes, network, Path.isSeparator_true, nothing, hostless] at h
    cases h

/-- **What follows two slashes**: an authority, and a path from the root. -/
theorem path_of_afterSlashes {scheme main : List Char} {c : Cut} {u : Url}
    (special : Scheme.kind scheme = .special) (h : afterSlashes scheme main c = .ok u) :
    u.path = .rooted (Path.under true [] ((main.dropWhile fun ch => !isSlash ch).drop 1)) := by
  have network : Scheme.isSpecial scheme = true := by
    rw [Scheme.isSpecial, special]
    rfl
  simp only [afterSlashes, network, Path.isSeparator_true] at h
  split at h
  · cases h
  · rename_i a left read
    cases h
    have plain : '\\' ∉ main.takeWhile fun ch => !isSlash ch := by
      intro mem
      have kept := List.all_eq_true.1 List.all_takeWhile _ mem
      exact absurd kept (by decide)
    rw [left_of_authority? read plain, List.nil_append]
    show rootedPath true _ = _
    cases path : main.dropWhile fun ch => !isSlash ch with
    | nil => rfl
    | cons ch rest =>
      have slash : isSlash ch = true := by
        have stops := List.head?_dropWhile_not (fun ch => !isSlash ch) main
        rw [path] at stops
        simpa using stops
      rw [rootedPath, Path.isSeparator_true, if_pos slash]
      rfl

/-- A reference with two slashes in front. -/
theorem lead_eq_slashes {main rest : List Char} (h : lead main = .slashes rest) :
    ∃ a b, main = a :: b :: rest ∧ isSlash a = true ∧ isSlash b = true := by
  unfold lead at h
  split at h
  · cases h
  · split at h <;> cases h
  · rename_i a b rest'
    split at h
    · cases h
    · rename_i first
      split at h
      · rename_i second
        cases h
        exact ⟨a, b, rfl, by simpa using first, second⟩
      · cases h

/-- Two slashes in front are what is counted. -/
theorem length_takeWhile_isSlash {main : List Char} (h : ∀ rest, lead main ≠ .slashes rest) :
    (main.takeWhile isSlash).length < 2 := by
  match main with
  | [] => decide
  | [a] =>
    exact Nat.lt_succ_of_le (List.takeWhile_sublist _).length_le
  | a :: b :: rest =>
    by_cases first : isSlash a = true
    · by_cases second : isSlash b = true
      · refine absurd ?_ (h rest)
        simp [lead, first, second]
      · simp [first, second]
    · simp [first]

variable {b u : Url} {d : List (List Char)} {text : List Char} {c : Cut}

/-- **A text under the scheme of its base is a reference**, unless it brings an authority. -/
theorem resolve?_eq_relative (web : b.isWeb = true) (rooted : b.path = .rooted d)
    (same : sameScheme? b.scheme (clean text) = some c)
    (plain : ∀ rest, lead c.main ≠ .slashes rest) : resolve? (some b) text = relative b d c := by
  have special : Scheme.kind b.scheme = .special := kind_of_isWeb web
  have network : Scheme.kind b.scheme ≠ .file := by simp [special]
  unfold sameScheme? at same
  unfold resolve?
  cases scheme : splitScheme (clean text) with
  | none =>
    rw [scheme] at same
    cases same
    simp only [scheme]
    split
    · -- a mere fragment
      rename_i rest fragment
      rw [fragment]
      rfl
    · simp only [rooted, if_neg network]
  | some named =>
    obtain ⟨own, rest⟩ := named
    simp only [scheme] at same ⊢
    split at same
    · rename_i agrees
      subst agrees
      cases same
      have few := length_takeWhile_isSlash plain
      simp [afterScheme, special, rooted, few]
    · cases same

/-- **A text under the scheme of its base that brings an authority.** -/
theorem afterSlashes_of_resolve? (web : b.isWeb = true) (rooted : b.path = .rooted d)
    (same : sameScheme? b.scheme (clean text) = some c) {rest : List Char}
    (slashes : lead c.main = .slashes rest) (ok : resolve? (some b) text = .ok u) :
    afterSlashes b.scheme (c.main.dropWhile isSlash) c = .ok u := by
  have special : Scheme.kind b.scheme = .special := kind_of_isWeb web
  have network : Scheme.kind b.scheme ≠ .file := by simp [special]
  obtain ⟨s, s', main, first, second⟩ := lead_eq_slashes slashes
  have dropped : c.main.dropWhile isSlash = rest.dropWhile isSlash := by
    simp [main, first, second]
  rw [dropped]
  unfold sameScheme? at same
  unfold resolve? at ok
  cases scheme : splitScheme (clean text) with
  | none =>
    rw [scheme] at same
    cases same
    simp only [scheme] at ok
    split at ok
    · rename_i rest' fragment
      rw [fragment] at main
      cases main
    · simp only [rooted, if_neg network, relative, slashes] at ok
      split at ok
      · rwa [dropWhile_of_afterSlashes special ok]
      · exact ok
  | some named =>
    obtain ⟨own, after⟩ := named
    simp only [scheme] at same ok
    split at same
    · rename_i agrees
      subst agrees
      cases same
      have many : ¬ ((cut after).main.takeWhile isSlash).length < 2 := by
        simp [main, first, second]
      simpa [afterScheme, special, many, dropped] using ok
    · cases same

/-- **A text under another scheme** leads to a URL of that scheme. -/
theorem scheme_ne_of_resolve? (other : sameScheme? b.scheme (clean text) = none)
    (ok : resolve? (some b) text = .ok u) : u.scheme ≠ b.scheme := by
  unfold sameScheme? at other
  unfold resolve? at ok
  split at other
  · cases other
  · rename_i own rest scheme
    simp only [scheme] at ok
    split at other
    · cases other
    · rename_i differs
      have unlike : ∀ base ∈ some b, base.scheme ≠ own := by
        rintro base mem rfl
        cases mem
        exact differs rfl
      rw [scheme_of_afterScheme ok unlike]
      exact differs

end Url

end AccessHarness
