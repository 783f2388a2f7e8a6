import AccessHarness.Proofs.Rest.Requests

/-!
# Where a request leads

The path of a sent request ends in the route it was made from, and the route can be read off it:
no two routes with the same number of segments are written alike.

* `Route.encoded_inj` — a written segment stands for one name.
* `Route.IsName` — names that a path can end in: anything but the two dot forms.
* `Request.LeadsTo` — the path of a request ends in a route, whatever the base was.
* `Request.LeadsTo.suffix_or_suffix` — it does not end in two routes that have nothing to do with
  each other.
* `RestClient.leadsTo_of_request` — the route of a call is where its request leads.

### What is load-bearing

**Dots are counted in what a segment stands for.**  A segment is a dot form if it is made of dots,
each of them written as such or as `%2e`.  In both spellings it decodes to the same byte
(`Path.decodeBytes_of_dots`), so a written name is a dot form only if the name is one.
-/

namespace AccessHarness

namespace Text.Percent

theorem utf8_inj {l l' : List Char} : utf8 l = utf8 l' ↔ l = l' := by
  refine ⟨?_, congrArg utf8⟩
  intro same
  have bytes : l.utf8Encode = l'.utf8Encode := congrArg List.toByteArray same
  have decoded := congrArg ByteArray.utf8Decode? bytes
  rw [List.utf8Decode?_utf8Encode, List.utf8Decode?_utf8Encode, Option.some.injEq] at decoded
  exact List.toArray_inj decoded

theorem encodeBytes_inj {bs bs' : List UInt8} : encodeBytes bs = encodeBytes bs' ↔ bs = bs' := by
  refine ⟨?_, congrArg encodeBytes⟩
  intro same
  have decoded := congrArg decodeBytes same
  rw [← List.append_nil (encodeBytes bs), ← List.append_nil (encodeBytes bs'),
    decodeBytes_encodeBytes, decodeBytes_encodeBytes] at decoded
  simpa [decodeBytes] using decoded

end Text.Percent

/-- **A written segment stands for one name.** -/
@[simp] theorem Route.encoded_inj {s s' : String} : encoded s = encoded s' ↔ s = s' := by
  unfold encoded
  rw [Text.Percent.encodeBytes_inj, Text.Percent.utf8_inj, String.toList_inj]

/-- **A written segment decodes to its name.** -/
theorem Route.decodeBytes_encoded (s : String) :
    Text.Percent.decodeBytes (encoded s) = Text.Percent.utf8 s.toList := by
  have decoded := Text.Percent.decodeBytes_encodeBytes (Text.Percent.utf8 s.toList) []
  rwa [Text.Percent.decodeBytes, List.append_nil, List.append_nil] at decoded

namespace Path

/-- A dot form decodes to dots, however they are written. -/
theorem decodeBytes_of_dots {l : List Char} {k : Nat} (h : dots l = some k) :
    Text.Percent.decodeBytes l = Text.Percent.utf8 (List.replicate k '.') := by
  have dot : String.utf8EncodeChar '.' = [0x2e] := by decide
  fun_induction dots l generalizing k with
  | case1 =>
    cases h
    rfl
  | case2 rest ih =>
    obtain ⟨k', rest', rfl⟩ := Option.map_eq_some_iff.1 h
    rw [Text.Percent.decodeBytes, ih rest', List.replicate_succ]
    · rfl
    · exact fun a b r other => absurd other (by simp)
  | case3 rest ih =>
    obtain ⟨k', rest', rfl⟩ := Option.map_eq_some_iff.1 h
    have two : Text.Percent.hexValue? '2' = some 2 := by decide
    have small : Text.Percent.hexValue? 'e' = some 14 := by decide
    simp only [Text.Percent.decodeBytes, two, small, ih rest', List.replicate_succ,
      Text.Percent.utf8, List.flatMap_cons, dot]
    rfl
  | case4 rest ih =>
    obtain ⟨k', rest', rfl⟩ := Option.map_eq_some_iff.1 h
    have two : Text.Percent.hexValue? '2' = some 2 := by decide
    have large : Text.Percent.hexValue? 'E' = some 14 := by decide
    simp only [Text.Percent.decodeBytes, two, large, ih rest', List.replicate_succ,
      Text.Percent.utf8, List.flatMap_cons, dot]
    rfl
  | case5 => cases h

/-- A name is written with dots only if it is made of dots. -/
theorem toList_of_dots_encoded {s : String} {k : Nat} (h : dots (Route.encoded s) = some k) :
    s.toList = List.replicate k '.' := by
  have decoded := decodeBytes_of_dots h
  rwa [Route.decodeBytes_encoded, Text.Percent.utf8_inj] at decoded

end Path

namespace Route

/-- **A name that a path can hold**: not one of the dot forms. -/
def IsName (s : String) : Prop := s ≠ "." ∧ s ≠ ".."

instance (s : String) : Decidable (IsName s) := inferInstanceAs (Decidable (_ ∧ _))

/-- A name with anything but dots in it. -/
theorem isName_of_mem {s : String} {ch : Char} (mem : ch ∈ s.toList) (other : ch ≠ '.') :
    IsName s := by
  constructor
  · rintro rfl
    exact other (List.mem_singleton.1 mem)
  · rintro rfl
    have dot : ch ∈ ['.', '.'] := mem
    simp only [List.mem_cons, List.not_mem_nil, or_false, or_self] at dot
    exact other dot

theorem not_dots_of_isName {s : String} (h : IsName s) :
    Path.isUp (encoded s) = false ∧ Path.isHere (encoded s) = false := by
  have written {k : Nat} (form : Path.dots (encoded s) = some k) :
      s = String.ofList (List.replicate k '.') := by
    rw [← Path.toList_of_dots_encoded form, String.ofList_toList]
  unfold Path.isUp Path.isHere
  constructor
  · refine beq_false_of_ne ?_
    intro two
    exact h.2 (written two)
  · refine beq_false_of_ne ?_
    intro one
    exact h.1 (written one)

/-- A path holds a written segment as it is. -/
theorem encodeSegment_encoded (s : String) : Path.encodeSegment (encoded s) = encoded s := by
  refine Path.flatMap_encodeChar ?_
  intro ch mem
  have segment := isSegmentChar_of_mem_encoded mem
  obtain ⟨above, below⟩ := toNat_of_isSegmentChar segment
  have unmarked : "\"<>`#?\x7b\x7d".toList.contains ch = false :=
    contains_eq_false_of_isSegmentChar (by decide) segment
  rw [Path.isPlain, unmarked, decide_eq_true above, decide_eq_true below]
  rfl

/-- **Names are kept by a path**, one after the other. -/
theorem walk_encoded (above : List (List Char)) {segments : List String}
    (names : ∀ s ∈ segments, IsName s) :
    Path.walk above (segments.map encoded) = above.reverse ++ segments.map encoded := by
  induction segments generalizing above with
  | nil => simp [Path.walk]
  | cons s rest ih =>
    obtain ⟨up, here⟩ := not_dots_of_isName (names s List.mem_cons_self)
    rw [List.map_cons, Path.walk_keep up here, encodeSegment_encoded,
      ih _ fun x mem => names x (List.mem_cons_of_mem s mem)]
    simp

end Route

/-- **A request leads to a route**: that is what its path ends in. -/
def Request.LeadsTo (r : Request) (segments : List String) : Prop :=
  ∃ l, r.url.path = .rooted l ∧ ("v3" :: segments).map Route.encoded <:+ l

instance (r : Request) (segments : List String) : Decidable (r.LeadsTo segments) :=
  match path : r.url.path with
  | .rooted l => decidable_of_iff (("v3" :: segments).map Route.encoded <:+ l)
      ⟨fun ends => ⟨l, path, ends⟩,
        fun ⟨_, path', ends⟩ => by cases path.symm.trans path'; exact ends⟩
  | .flat _ => isFalse fun ⟨_, path', _⟩ => by cases path.symm.trans path'

/-- **Of two routes that a request leads to, one ends in the other.** -/
theorem Request.LeadsTo.suffix_or_suffix {r : Request} {segments segments' : List String}
    (h : r.LeadsTo segments) (h' : r.LeadsTo segments') :
    "v3" :: segments <:+ "v3" :: segments' ∨ "v3" :: segments' <:+ "v3" :: segments := by
  have injective : Function.Injective Route.encoded := fun _ _ => Route.encoded_inj.1
  obtain ⟨l, path, ends⟩ := h
  obtain ⟨l', path', ends'⟩ := h'
  rw [path, UrlPath.rooted.injEq] at path'
  subst path'
  rcases List.suffix_or_suffix_of_suffix ends ends' with short | long
  · exact .inl ((List.suffix_map_iff_of_injective injective).1 short)
  · exact .inr ((List.suffix_map_iff_of_injective injective).1 long)

/-- The route of a call is where its request leads. -/
theorem RestClient.leadsTo_of_request {c : RestClient} {method : String} {segments : List String}
    {body : Body} {r : Request} (sent : c.request method (Route.path segments) body = .ok r)
    (names : ∀ s ∈ segments, Route.IsName s) : r.LeadsTo segments := by
  have version : ['v', '3'] = Route.encoded "v3" := by
    decide
  refine ⟨_, path_of_request_route sent, c.base.directory, ?_⟩
  rw [version, ← List.map_cons, Route.walk_encoded, List.reverse_reverse]
  rw [List.forall_mem_cons]
  exact ⟨by decide, names⟩

end AccessHarness
