import AccessHarness.Proofs.Url.References

/-!
# Queries

A URL is put together as a text, from a host that was read before and from names that may be
anything, and the text is read again.  What the query says then is what it was written to say.

* `Url.parameters` — what a query says: names and values, percent-decoded.
* `Url.writtenQuery` — names and values as a query, percent-encoded.
* `Url.query_of_parse?` — a text with a scheme of the web and a plain query is read with that query.
* `Url.parameters_of_writtenQuery` — a written query says again what it was written for.

### What is load-bearing

**A query begins at the first question mark and ends at the first number sign**, wherever they come
from.  So what stands in front of the query must hold neither (`Url.isFront`).  The host is the only
part of it that was not written here; but it was read, and whatever it was read from, no host of a
web address holds one of the two (`Url.isFront_of_mem_hostText`).

**A written name holds no separator**: encoded, it has only unreserved characters and percent signs
(`Route.isSegmentChar_of_mem_encoded`), so a query is cut at the marks that were put between the
names and at no others.
-/

namespace AccessHarness

namespace Text

theorem mem_join {separator ch : Char} {l : List (List Char)} (h : ch ∈ join separator l) :
    ch = separator ∨ ∃ part ∈ l, ch ∈ part := by
  induction l with
  | nil => cases h
  | cons part rest ih =>
    cases rest with
    | nil => exact .inr ⟨part, List.mem_singleton_self part, h⟩
    | cons next rest =>
      rw [join_cons_of_ne_nil _ _ (List.cons_ne_nil next rest), List.mem_append,
        List.mem_cons] at h
      rcases h with here | between | later
      · exact .inr ⟨part, List.mem_cons_self, here⟩
      · exact .inl between
      · rcases ih later with between | ⟨part', mem, here⟩
        · exact .inl between
        · exact .inr ⟨part', List.mem_cons_of_mem part mem, here⟩

end Text

namespace Url

/-- Whether a character can stand in front of a query: it is neither a blank nor a mark at which a
text is cut. -/
def isFront (ch : Char) : Bool := 0x20 < ch.toNat && ch != '#' && ch != '?'

/-- The characters of a written name can. -/
theorem isFront_of_isSegmentChar {ch : Char} (h : Route.isSegmentChar ch = true) :
    isFront ch = true := by
  have visible : 0x20 < ch.toNat := (Route.toNat_of_isSegmentChar h).1
  have unmarked : ['#', '?'].contains ch = false :=
    Route.contains_eq_false_of_isSegmentChar (by decide) h
  simp only [List.contains_cons, List.contains_nil, Bool.or_false, Bool.or_eq_false_iff] at unmarked
  simp [isFront, visible, bne, unmarked]

end Url

open Url (isFront)

/-! ### What a host is written with -/

/-- A digit to any base is one, or the star that stands for too great a digit. -/
theorem isFront_digitChar : ∀ n : Nat, isFront n.digitChar = true
  | 0 | 1 | 2 | 3 | 4 | 5 | 6 | 7 | 8 | 9 | 10 | 11 | 12 | 13 | 14 | 15 => by decide
  | n + 16 => by
    have star : (n + 16).digitChar = '*' := by simp [Nat.digitChar]
    rw [star]
    decide

theorem isFront_of_mem_toDigits {b n : Nat} (hb : 1 < b) {ch : Char} (h : ch ∈ b.toDigits n) :
    isFront ch = true := by
  induction n using Nat.strongRecOn with
  | ind n ih =>
    rw [Nat.toDigits_eq_if hb] at h
    split at h
    · rw [List.mem_singleton.1 h]
      exact isFront_digitChar n
    · rename_i large
      rcases List.mem_append.1 h with more | last
      · exact ih _ (Nat.div_lt_self (by omega) hb) more
      · rw [List.mem_singleton.1 last]
        exact isFront_digitChar (n % b)

theorem Ipv4.isFront_of_mem_chars {n : Nat} {ch : Char} (h : ch ∈ Ipv4.chars n) :
    isFront ch = true := by
  have digits {m : Nat} (mem : ch ∈ Nat.toDigits 10 m) : isFront ch = true :=
    isFront_of_mem_toDigits (by decide) mem
  simp only [Ipv4.chars, List.cons_append, List.append_assoc, List.mem_append,
    List.mem_cons] at h
  rcases h with h | rfl | h | rfl | h | rfl | h
  · exact digits h
  · decide
  · exact digits h
  · decide
  · exact digits h
  · decide
  · exact digits h

theorem Ipv6.isFront_of_mem_chars {pieces : List Nat} {ch : Char} (h : ch ∈ Ipv6.chars pieces) :
    isFront ch = true := by
  have groups {l : List Nat} (mem : ch ∈ Ipv6.joinGroups l) : isFront ch = true := by
    rcases Text.mem_join mem with rfl | ⟨part, among, here⟩
    · decide
    · obtain ⟨piece, -, rfl⟩ := List.mem_map.1 among
      exact isFront_of_mem_toDigits (by decide) here
  unfold Ipv6.chars at h
  split at h
  · exact groups h
  · rw [List.mem_append, List.mem_cons, List.mem_cons] at h
    rcases h with front | rfl | rfl | back
    · exact groups front
    · decide
    · decide
    · exact groups back

/-- What no domain may hold includes everything that cannot stand in front of a query. -/
theorem Domain.isFront_of_toAscii? {l ascii : List Char} (h : Domain.toAscii? l = some ascii)
    {ch : Char} (mem : ch ∈ ascii) : isFront ch = true := by
  unfold Domain.toAscii? at h
  simp only at h
  split at h
  · cases h
  · split at h
    · cases h
    · rename_i permitted
      cases h
      rw [Bool.not_eq_true, Bool.or_eq_false_iff, List.any_eq_false] at permitted
      have allowed : isForbidden ch = false := Bool.eq_false_iff.2 (permitted.1 ch mem)
      simp only [isForbidden, Bool.or_eq_false_iff, decide_eq_false_iff_not, Nat.not_le] at allowed
      obtain ⟨⟨visible, -⟩, unlisted⟩ := allowed
      have apart (mark : Char) (listed : mark ∈ "%#/:<>?@[\\]^|".toList) : ch ≠ mark := by
        rintro rfl
        rw [List.contains_iff_mem.2 listed] at unlisted
        cases unlisted
      simp [isFront, visible, apart '#' (by decide), apart '?' (by decide)]

namespace Host

/-- Brackets hold an address of pieces. -/
theorem exists_of_bracketed? {l : List Char} {h : Host} (read : bracketed? l = some (.ok h)) :
    ∃ pieces, h = .ipv6 pieces := by
  unfold bracketed? at read
  split at read
  · split at read
    · split at read
      · rename_i pieces _
        cases read
        exact ⟨pieces, rfl⟩
      · cases read
    · cases read
  · cases read

/-- **A host of a web address holds nothing at which a text is cut**, whatever it was read from. -/
theorem isFront_of_ofChars? {l : List Char} {h : Host} (read : ofChars? l = .ok h) {ch : Char}
    (mem : ch ∈ h.chars) : isFront ch = true := by
  unfold ofChars? at read
  split at read
  · rename_i bracketed
    rw [read] at bracketed
    obtain ⟨pieces, rfl⟩ := exists_of_bracketed? bracketed
    rcases List.mem_append.1 mem with mem | closing
    · rcases List.mem_cons.1 mem with rfl | inside
      · decide
      · exact Ipv6.isFront_of_mem_chars inside
    · rw [List.mem_singleton.1 closing]
      decide
  · split at read
    · cases read
    · cases read
    · rename_i name domain
      split at read
      · split at read
        · split at read
          · cases read
            exact Ipv4.isFront_of_mem_chars mem
          · cases read
        · cases read
      · cases read
        exact Domain.isFront_of_toAscii? domain mem

end Host

namespace Url

/-- The host in an authority of a web address was read from a text. -/
theorem exists_host_of_authority? {scheme l left : List Char} {atEnd : Bool} {a : Authority}
    (special : Scheme.isSpecial scheme = true) (h : authority? scheme atEnd l = .ok (a, left)) :
    ∃ text, Host.ofChars? text = .ok a.host := by
  unfold authority? hostAndPort at h
  simp only [special, if_true] at h
  split at h
  · cases h
  · split at h
    · cases h
    · split at h
      · cases h
      · rename_i host read
        split at h
        · cases h
        · cases h
          exact ⟨_, read⟩

/-- **The host of a web address was read as one.** -/
theorem exists_host_of_parse? {raw : String} {u : Url} (parsed : parse? raw = .ok u)
    (web : u.isWeb = true) : ∃ host text, u.host = some host ∧ Host.ofChars? text = .ok host := by
  unfold parse? resolve? at parsed
  simp only at parsed
  split at parsed
  · rename_i scheme rest read
    have own : u.scheme = scheme := scheme_of_afterScheme parsed (by simp)
    have special : Scheme.kind scheme = .special := own ▸ kind_of_isWeb web
    have network : Scheme.isSpecial scheme = true := by
      rw [Scheme.isSpecial, special]
      rfl
    simp only [afterScheme, special, afterSlashes] at parsed
    split at parsed
    · cases parsed
    · rename_i a left authority
      cases parsed
      obtain ⟨text, host⟩ := exists_host_of_authority? network authority
      exact ⟨a.host, text, rfl, host⟩
  · cases parsed

/-- **What a web address gives as its host can stand in front of a query.** -/
theorem isFront_of_mem_hostText {raw : String} {u : Url} (parsed : parse? raw = .ok u)
    (web : u.isWeb = true) {ch : Char} (mem : ch ∈ (u.hostText?.getD "localhost").toList) :
    isFront ch = true := by
  obtain ⟨host, text, given, read⟩ := exists_host_of_parse? parsed web
  unfold hostText? at mem
  rw [given] at mem
  simp only at mem
  split at mem
  · have among : "localhost".toList.all isFront = true := by decide
    exact List.all_eq_true.1 among ch mem
  · rw [Option.getD_some, String.toList_ofList] at mem
    exact Host.isFront_of_ofChars? read mem

/-! ### Reading a query -/

/-- **A text with a scheme of the web and a plain query is read with that query.** -/
theorem query_of_parse? {scheme front q : List Char}
    (web : scheme = ['h', 't', 't', 'p'] ∨ scheme = ['h', 't', 't', 'p', 's'])
    (ahead : ∀ ch ∈ front, isFront ch = true) (plain : ∀ ch ∈ q, isQueryPlain true ch = true)
    {raw : String} (text : raw.toList = scheme ++ ':' :: (front ++ '?' :: q)) {u : Url}
    (parsed : parse? raw = .ok u) : u.query = some q := by
  have front' {ch : Char} (mem : ch ∈ front) : 0x20 < ch.toNat ∧ ch ≠ '#' ∧ ch ≠ '?' := by
    have held := ahead ch mem
    simp only [isFront, Bool.and_eq_true, decide_eq_true_eq, bne_iff_ne] at held
    exact ⟨held.1.1, held.1.2, held.2⟩
  have visible : ∀ ch ∈ raw.toList, 0x20 < ch.toNat := by
    rw [text, List.forall_mem_append, List.forall_mem_cons, List.forall_mem_append,
      List.forall_mem_cons]
    refine ⟨?_, by decide, fun ch mem => (front' mem).1, by decide, ?_⟩
    · intro ch mem
      have letters : scheme.all (fun ch => decide (0x20 < ch.toNat)) = true := by
        rcases web with rfl | rfl <;> decide
      exact of_decide_eq_true (List.all_eq_true.1 letters ch mem)
    · intro ch mem
      have held := plain ch mem
      simp only [isQueryPlain, Bool.and_eq_true, decide_eq_true_eq] at held
      exact held.1.1.1
  have named : splitScheme raw.toList = some (scheme, front ++ '?' :: q) := by
    rw [text]
    rcases web with rfl | rfl <;> rfl
  have special : Scheme.kind scheme = .special := by
    rcases web with rfl | rfl <;> rfl
  have network : Scheme.isSpecial scheme = true := by
    rw [Scheme.isSpecial, special]
    rfl
  have parts : cut (front ++ '?' :: q) = ⟨front, some q, none⟩ :=
    cut_of_plain (fun ch mem => (front' mem).2.1) (fun ch mem => (front' mem).2.2) plain
  rw [parse?, resolve?, clean_of_visible visible] at parsed
  simp only [named, afterScheme, special, parts, afterSlashes] at parsed
  split at parsed
  · cases parsed
  · cases parsed
    show some (encodeQuery (Scheme.isSpecial scheme) q) = some q
    rw [network, encodeQuery_of_plain plain]

/-! ### What a query says -/

/-- **What a query says**: its parts are separated by ampersands, each is a name with a value after
the first equals sign, and both are percent-decoded. -/
def parameters (u : Url) : List (List UInt8 × List UInt8) :=
  match u.query with
  | none => []
  | some q => (Text.parts (· == '&') q).map fun part =>
    let (name, value) := cutAt (· == '=') part
    (Text.Percent.decodeBytes name, Text.Percent.decodeBytes (value.getD []))

/-- Names and values as a query. -/
def writtenQuery (pairs : List (String × String)) : List Char :=
  Text.join '&' (pairs.map fun p => Route.encoded p.1 ++ '=' :: Route.encoded p.2)

/-- A written name holds no mark that separates. -/
theorem ne_of_mem_encoded {name : String} {mark : Char} (other : Route.isSegmentChar mark = false) :
    ∀ ch ∈ Route.encoded name, ch ≠ mark := by
  rintro ch mem rfl
  rw [Route.isSegmentChar_of_mem_encoded mem] at other
  cases other

/-- A written query is a plain one. -/
theorem isQueryPlain_of_mem_writtenQuery {pairs : List (String × String)} {ch : Char}
    (h : ch ∈ writtenQuery pairs) : isQueryPlain true ch = true := by
  have name {s : String} (mem : ch ∈ Route.encoded s) : isQueryPlain true ch = true :=
    Route.isQueryPlain_of_isSegmentChar (Route.isSegmentChar_of_mem_encoded mem)
  rcases Text.mem_join h with rfl | ⟨part, among, here⟩
  · decide
  · obtain ⟨pair, -, rfl⟩ := List.mem_map.1 among
    rcases List.mem_append.1 here with first | rest
    · exact name first
    · rcases List.mem_cons.1 rest with rfl | second
      · decide
      · exact name second

/-- **A written query says what it was written for**, whatever the names and values are. -/
theorem parameters_of_writtenQuery {u : Url} {pairs : List (String × String)} (more : pairs ≠ [])
    (h : u.query = some (writtenQuery pairs)) :
    u.parameters = pairs.map fun p =>
      (Text.Percent.utf8 p.1.toList, Text.Percent.utf8 p.2.toList) := by
  have whole : ∀ part ∈ pairs.map (fun p => Route.encoded p.1 ++ '=' :: Route.encoded p.2),
      '&' ∉ part := by
    rw [List.forall_mem_map]
    intro pair _ inside
    rcases List.mem_append.1 inside with first | rest
    · exact ne_of_mem_encoded (by decide) '&' first rfl
    · rcases List.mem_cons.1 rest with separator | second
      · exact absurd separator (by decide)
      · exact ne_of_mem_encoded (by decide) '&' second rfl
  have decoded (s : String) : Text.Percent.decodeBytes (Route.encoded s) =
      Text.Percent.utf8 s.toList := by
    have round := Text.Percent.decodeBytes_encodeBytes (Text.Percent.utf8 s.toList) []
    rwa [List.append_nil, Text.Percent.decodeBytes, List.append_nil] at round
  rw [parameters, h]
  simp only [writtenQuery]
  rw [Text.parts_join (by simpa using more) whole, List.map_map]
  refine List.map_congr_left ?_
  intro pair _
  have named : ∀ ch ∈ Route.encoded pair.1, ch ≠ '=' := ne_of_mem_encoded (by decide)
  simp only [Function.comp_apply, cutAt_append named, Option.getD_some, decoded]

end Url

end AccessHarness
