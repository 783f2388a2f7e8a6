import AccessHarness.Proofs.Rest.Requests
import AccessHarness.Settings

/-!
# Settings that can be used

Reading the settings refuses what is no URL.  Later, paths are resolved below the two addresses that
were read; this file says for which settings that never fails.

* `Settings.endpoint_of_ofLookup` — the addresses are what two texts are read as.
* `Url.IsFlatText` — texts whose scheme is none of those with an authority or with files, and in
  which no slash follows the colon.
* `Url.isFlat_iff_of_parse?` — from no other text a flat path is read.
* `Settings.Serves` — every route and the place of tokens can be resolved.
* `Settings.serves_iff` — they can exactly if neither address is written like that.
* `Settings.ofLookup_accepts_unusable` — such addresses are accepted.

### What is load-bearing

**Resolving fails for one reason only.**  A route is a reference that begins with a segment, under
any scheme (`Url.exists_joinBelow?_of_rooted`), so all that matters of a base is whether it has
segments itself.  That can be told from its text without reading it: a host with a port and no
scheme in front of them reads as a scheme with a flat path.
-/

namespace AccessHarness

namespace Url

/-! ### Texts with a flat path -/

/-- **A text that is read with a flat path**: its scheme is neither a network scheme nor that of
files, and no slash follows the colon. -/
def IsFlatText (raw : String) : Prop :=
  ∃ read, splitScheme (clean raw.toList) = some read ∧
    Scheme.kind read.1 = .plain ∧ read.2.head? ≠ some '/'

instance (raw : String) : Decidable (IsFlatText raw) :=
  match h : splitScheme (clean raw.toList) with
  | none => .isFalse fun ⟨_, found, _⟩ => nomatch h.symm.trans found
  | some read =>
    decidable_of_iff (Scheme.kind read.1 = .plain ∧ read.2.head? ≠ some '/')
      ⟨fun flat => ⟨read, h, flat⟩, fun ⟨_, found, flat⟩ =>
        Option.some.inj (h.symm.trans found) ▸ flat⟩

/-- What is cut off begins at the first element that is looked for. -/
theorem cutAt_fst (p : Char → Bool) (l : List Char) :
    (cutAt p l).1 = l.takeWhile fun c => !p c := by
  unfold cutAt
  split
  · rename_i nowhere
    have whole := List.takeWhile_append_dropWhile (p := fun c => !p c) (l := l)
    rw [nowhere, List.append_nil] at whole
    exact whole.symm
  · rfl

/-- The main part of a text begins with a slash if the text does. -/
theorem head?_cut_main (l : List Char) :
    (cut l).main.head? = some '/' ↔ l.head? = some '/' := by
  have head {p : Char → Bool} (apart : p '/' = false) (l : List Char) :
      (cutAt p l).1.head? = some '/' ↔ l.head? = some '/' := by
    rw [cutAt_fst]
    cases l with
    | nil => rfl
    | cons c rest =>
      rw [List.takeWhile_cons]
      constructor
      · intro begins
        split at begins
        · exact begins
        · cases begins
      · intro begins
        cases begins
        rw [apart]
        rfl
  exact (head (by decide) _).trans (head (by decide) l)

theorem isRooted_of_afterSlashes {scheme main : List Char} {c : Cut} {u : Url}
    (h : afterSlashes scheme main c = .ok u) : ∃ l, u.path = .rooted l := by
  unfold afterSlashes at h
  simp only at h
  split at h
  · cases h
  · cases h
    simp only [withTail, rootedPath]
    split <;> exact ⟨_, rfl⟩

theorem isRooted_of_fileUrl {c : Cut} {u : Url} (h : fileUrl none c = .ok u) :
    ∃ l, u.path = .rooted l := by
  have under (host : Host) (segments : List (List Char)) :
      ∃ l, (fileUnder host segments c).path = .rooted l := by
    simp only [fileUnder, withTail, filePath]
    split <;> exact ⟨_, rfl⟩
  unfold fileUrl at h
  cases begins : lead c.main with
  | nothing =>
    rw [begins] at h
    cases h
    exact under _ _
  | segment =>
    rw [begins] at h
    cases h
    exact under _ _
  | slash rest =>
    rw [begins] at h
    cases h
    simp only [fileAfterSlash]
    split <;> exact under _ _
  | slashes rest =>
    simp only [begins, fileAfterSlashes] at h
    split at h
    · cases h
      exact under _ _
    · split at h
      · cases h
      · cases h
        exact under _ _
      · cases h
        exact under _ _

/-- **Which texts are read with a flat path.** -/
theorem isFlat_iff_of_parse? {raw : String} {u : Url} (parsed : parse? raw = .ok u) :
    (∃ t, u.path = .flat t) ↔ IsFlatText raw := by
  have neither (rooted : ∃ l, u.path = .rooted l) : ¬ ∃ t, u.path = .flat t := by
    rintro ⟨t, flat⟩
    obtain ⟨l, rooted⟩ := rooted
    rw [rooted] at flat
    cases flat
  unfold parse? resolve? at parsed
  simp only at parsed
  cases scheme : splitScheme (clean raw.toList) with
  | none =>
    rw [scheme] at parsed
    cases parsed
  | some read =>
    obtain ⟨own, rest⟩ := read
    have told : IsFlatText raw ↔ Scheme.kind own = .plain ∧ rest.head? ≠ some '/' := by
      unfold IsFlatText
      rw [scheme]
      simp
    rw [told]
    simp only [scheme, afterScheme] at parsed
    cases kind : Scheme.kind own with
    | file =>
      simp only [kind] at parsed
      exact iff_of_false (neither (isRooted_of_fileUrl parsed)) (by simp)
    | special =>
      simp only [kind] at parsed
      exact iff_of_false (neither (isRooted_of_afterSlashes parsed)) (by simp)
    | plain =>
      simp only [kind] at parsed
      rw [and_iff_right rfl, Ne, ← head?_cut_main]
      split at parsed
      · rename_i main begins
        refine iff_of_false (neither (isRooted_of_afterSlashes parsed)) ?_
        rw [begins]
        simp
      · rename_i main other begins
        cases parsed
        refine iff_of_false (neither ⟨_, rfl⟩) ?_
        rw [begins]
        simp
      · rename_i two one
        cases parsed
        refine iff_of_true ⟨_, rfl⟩ ?_
        intro begins
        obtain ⟨main, slash⟩ : ∃ main, (cut rest).main = '/' :: main :=
          List.head?_eq_some_iff.1 begins
        exact one main slash

end Url

/-- What is made of two outcomes is made of both. -/
theorem Outcome.exists_of_bind_eq_ok {α β : Type} {first : Outcome α} {next : α → Outcome β}
    {b : β} (h : first >>= next = .ok b) : ∃ a, first = .ok a ∧ next a = .ok b := by
  cases first with
  | error f => cases h
  | ok a => exact ⟨a, rfl, h⟩

namespace Settings

/-! ### The two addresses -/

/-- The text of the platform's address. -/
def instanceText (lookup : String → Option String) : String :=
  (value? lookup "CDAP_INSTANCE_URI").getD "http://localhost:11015"

/-- The text of the address where tokens are issued. -/
def authText (lookup : String → Option String) : String :=
  (value? lookup "CDAP_AUTH_URI").getD (instanceText lookup)

variable {lookup : String → Option String} {s : Settings}

theorem exists_of_toBool (accepted : (ofLookup lookup).toBool = true) :
    ∃ s, ofLookup lookup = .ok s := by
  cases read : ofLookup lookup with
  | error f =>
    rw [read] at accepted
    cases accepted
  | ok s => exact ⟨s, rfl⟩

theorem parse?_of_readUrl {what raw : String} {u : Url} (h : readUrl what raw = .ok u) :
    Url.parse? raw = .ok u := by
  unfold readUrl at h
  split at h
  · rename_i parsed
    cases h
    exact parsed
  · cases h

/-- A setting that may be left out stands for what is read in its place. -/
theorem parse?_of_url? {key what fallback : String} {u : Option Url} {other : Url}
    (h : url? lookup key what = .ok u) (parsed : Url.parse? fallback = .ok other) :
    Url.parse? ((value? lookup key).getD fallback) = .ok (u.getD other) := by
  unfold url? at h
  cases text : value? lookup key with
  | none =>
    rw [text] at h
    cases h
    exact parsed
  | some raw =>
    simp only [text] at h
    cases own : readUrl what raw with
    | error f =>
      rw [own] at h
      cases h
    | ok v =>
      rw [own] at h
      cases h
      exact parse?_of_readUrl own

/-- **The addresses of accepted settings are what their texts are read as.** -/
theorem endpoint_of_ofLookup (h : ofLookup lookup = .ok s) :
    Url.parse? (instanceText lookup) = .ok s.endpoint.instanceUrl ∧
      Url.parse? (authText lookup) = .ok s.endpoint.authUrl := by
  unfold ofLookup at h
  obtain ⟨endpoint, platform, h⟩ := Outcome.exists_of_bind_eq_ok h
  obtain ⟨auth, issuer, h⟩ := Outcome.exists_of_bind_eq_ok h
  obtain ⟨timeout, -, h⟩ := Outcome.exists_of_bind_eq_ok h
  obtain ⟨staleness, -, h⟩ := Outcome.exists_of_bind_eq_ok h
  obtain ⟨instanceUrl, read, whole⟩ := Outcome.exists_of_bind_eq_ok platform
  cases whole
  have parsed := parse?_of_readUrl read
  simp only at h
  split at h
  · cases h
  · cases h
    exact ⟨parsed, parse?_of_url? issuer parsed⟩

/-! ### Settings with which nothing fails later -/

/-- **Settings with which addresses can be made**: below the platform every route can be resolved,
whoever asks, and so can the place where tokens are issued. -/
structure Serves (s : Settings) : Prop where
  route : ∀ (token : Option String) (segments : List String),
    ∃ u, (RestClient.ofToken s.endpoint token).url (Route.path segments) = .ok u
  token : ∃ u, resolveBelow s.endpoint.authUrl "token" = .ok u

/-- The fault of a path below an address with a flat path. -/
def unresolved (path : String) : Fault :=
  .configuration ("invalid path '" ++ path ++ "': " ++ UrlFault.message .relativeWithFlatBase)

/-- **A reference is resolved below an address unless that has a flat path.** -/
theorem resolveBelow_cases {raw path first : String} {segments : List String} {base : Url}
    (parsed : Url.parse? raw = .ok base) (named : Route.encoded first ≠ [])
    (written : path.toList.dropWhile (· == '/') = Route.written first segments) :
    (¬ Url.IsFlatText raw ∧ ∃ u, resolveBelow base path = .ok u) ∨
      (Url.IsFlatText raw ∧ resolveBelow base path = .error (unresolved path)) := by
  have flat := Url.isFlat_iff_of_parse? parsed
  unfold resolveBelow
  cases kind : base.path with
  | rooted l =>
    obtain ⟨u, joined⟩ := Url.exists_joinBelow?_of_rooted kind named written
    refine .inl ⟨?_, u, ?_⟩
    · rw [← flat, kind]
      nofun
    · rw [joined]
  | flat t =>
    refine .inr ⟨flat.1 ⟨t, kind⟩, ?_⟩
    rw [Url.joinBelow?_of_flat kind named written]
    rfl

/-- Routes and the place of tokens are references that begin with a segment. -/
theorem dropWhile_route (segments : List String) :
    (Route.path segments).toList.dropWhile (· == '/') = Route.written "v3" segments := by
  have whole := Route.dropWhile_path segments []
  rwa [List.append_nil, List.append_nil] at whole

theorem dropWhile_token : "token".toList.dropWhile (· == '/') = Route.written "token" [] := by
  decide

/-- **Which accepted settings serve**: those of which neither address is read with a flat path.  With
the others every route, or the place of tokens, is a fault later on. -/
theorem serves_iff (read : ofLookup lookup = .ok s) :
    (s.Serves ↔ ¬ Url.IsFlatText (instanceText lookup) ∧ ¬ Url.IsFlatText (authText lookup)) ∧
    (Url.IsFlatText (instanceText lookup) → ∀ token segments,
      (RestClient.ofToken s.endpoint token).url (Route.path segments) =
        .error (unresolved (Route.path segments))) ∧
    (Url.IsFlatText (authText lookup) →
      resolveBelow s.endpoint.authUrl "token" = .error (unresolved "token")) := by
  obtain ⟨platform, issuer⟩ := endpoint_of_ofLookup read
  have route (segments : List String) :=
    resolveBelow_cases platform (by decide) (dropWhile_route segments)
  have token := resolveBelow_cases issuer (by decide) dropWhile_token
  refine ⟨⟨?_, ?_⟩, ?_, ?_⟩
  · rintro ⟨routes, u, resolved⟩
    obtain ⟨u', served⟩ := routes none []
    constructor
    · rcases route [] with ⟨rooted, -⟩ | ⟨-, failed⟩
      · exact rooted
      · exact nomatch served.symm.trans failed
    · rcases token with ⟨rooted, -⟩ | ⟨-, failed⟩
      · exact rooted
      · exact nomatch resolved.symm.trans failed
  · rintro ⟨rooted, rooted'⟩
    exact ⟨fun _ segments => ((route segments).resolve_right fun flat => rooted flat.1).2,
      (token.resolve_right fun flat => rooted' flat.1).2⟩
  · intro flat _ segments
    exact ((route segments).resolve_left fun rooted => rooted.1 flat).2
  · intro flat
    exact (token.resolve_left fun rooted => rooted.1 flat).2

/-- The settings nobody changed serve; with an address of tokens that leaves its scheme out the
platform is still served and tokens are not. -/
theorem serves_iff_defaults :
    let lookup (key : String) : Option String :=
      if key = "CDAP_AUTH_URI" then some " auth.test:11080 " else none
    (∃ s, ofLookup (fun _ => none) = .ok s ∧ s.Serves) ∧
      ∃ s, ofLookup lookup = .ok s ∧ ¬ s.Serves ∧
        resolveBelow s.endpoint.authUrl "token" = .error (unresolved "token") := by
  intro lookup
  obtain ⟨s, read⟩ : ∃ s, ofLookup (fun _ => none) = .ok s :=
    exists_of_toBool (by decide +kernel)
  obtain ⟨s', read'⟩ : ∃ s, ofLookup lookup = .ok s := exists_of_toBool (by decide +kernel)
  have served := serves_iff read
  have refused := serves_iff read'
  have flat : Url.IsFlatText (authText lookup) := by decide +kernel
  exact ⟨⟨s, read, served.1.2 (by decide +kernel)⟩, s', read',
    fun serves => (refused.1.1 serves).2 flat, refused.2.2 flat⟩

/-- **Settings are accepted with which nothing can be asked**: an address without a scheme reads as
one whose scheme is the host, and neither a route nor the place of tokens is below it. -/
theorem ofLookup_accepts_unusable :
    let lookup (key : String) : Option String :=
      if key = "CDAP_INSTANCE_URI" then some "localhost:11015" else none
    ∃ s, ofLookup lookup = .ok s ∧ ¬ s.Serves ∧
      (∀ token, (RestClient.ofToken s.endpoint token).url (Route.path ["version"]) =
        .error (.configuration
          "invalid path '/v3/version': relative URL with a cannot-be-a-base base")) ∧
      resolveBelow s.endpoint.authUrl "token" =
        .error (.configuration
          "invalid path 'token': relative URL with a cannot-be-a-base base") := by
  intro lookup
  obtain ⟨s, read⟩ : ∃ s, ofLookup lookup = .ok s := exists_of_toBool (by decide +kernel)
  obtain ⟨platform, issuer⟩ := endpoint_of_ofLookup read
  have base : Url.parse? "localhost:11015" =
      .ok ⟨"localhost".toList, [], none, none, none, .flat "11015".toList, none, none⟩ := by rfl
  have instanceUrl := Except.ok.inj (platform.symm.trans base)
  have authUrl := Except.ok.inj (issuer.symm.trans base)
  have route (token : Option String) :
      (RestClient.ofToken s.endpoint token).url (Route.path ["version"]) =
        .error (.configuration
          "invalid path '/v3/version': relative URL with a cannot-be-a-base base") := by
    rw [RestClient.url, RestClient.ofToken, instanceUrl]
    rfl
  refine ⟨s, read, ?_, route, ?_⟩
  · intro serves
    obtain ⟨u, resolved⟩ := serves.route none ["version"]
    exact nomatch resolved.symm.trans (route none)
  · rw [authUrl]
    rfl

end Settings

end AccessHarness
