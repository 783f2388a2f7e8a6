import AccessHarness.Json.Printer
import AccessHarness.Json.Reader

/-!
# What is written is read back

A document without numbers is the document that its compact text is (`read?_written`).

The reader takes one character at a time, so reading is described by what it makes of a
text that *begins* with what was written: `Reader.completes r l` is the document that a
machine makes of the rest `l`, and each lemma turns `completes r (part ++ l)` into
`completes r' l`.

### What is load-bearing

**A word ends at the next character.**  `null` is complete only when something that is no
letter follows, so a document is read as such only in front of a rest that does not go on
a word (`EndsWord`).  In a document nothing else ever follows: the rest is empty, or
starts with a comma or a bracket.

**An open array is in one of two states.**  Before its first item the machine would also
take the end of the array, after a comma it would not.  `TakesValue` and `TakesName` say
what both states share, and what is proved for them is proved once.
-/

namespace AccessHarness.Json

/-! ### Documents without numbers -/

mutual
/-- Whether a document is made without numbers, and without texts that have no
characters. -/
def Plain : Json → Prop
  | .null | .bool _ | .str _ => True
  | .num _ | .unreadable => False
  | .arr items => PlainItems items
  | .obj fields => PlainFields fields
/-- Whether every item is made so. -/
def PlainItems : List Json → Prop
  | [] => True
  | v :: rest => v.Plain ∧ PlainItems rest
/-- Whether every value of a field is made so. -/
def PlainFields : List (String × Json) → Prop
  | [] => True
  | (_, v) :: rest => v.Plain ∧ PlainFields rest
end

theorem plainItems_iff {items : List Json} : PlainItems items ↔ ∀ v ∈ items, v.Plain := by
  induction items with
  | nil => simp [PlainItems]
  | cons v rest ih => simp [PlainItems, ih]

theorem plainFields_iff {fields : List (String × Json)} :
    PlainFields fields ↔ ∀ f ∈ fields, f.2.Plain := by
  induction fields with
  | nil => simp [PlainFields]
  | cons f rest ih => simp [PlainFields, ih]

/-- Readable names make an object. -/
theorem ofFields_readable (fields : List (String × Json)) :
    ofFields (fields.map fun f => (some f.1, f.2)) = .obj fields := by
  have named : (fields.map fun f => (some f.1, f.2)).mapM
      (fun f : Option String × Json => f.1.map fun name => (name, f.2)) = some fields := by
    induction fields with
    | nil => rfl
    | cons f rest ih => simp [ih]
  rw [ofFields, named]

/-! ### Characters -/

/-- A character is never half of a surrogate pair. -/
theorem joinSurrogates_toNat (cs : List Char) : joinSurrogates (cs.map Char.toNat) = some cs := by
  have whole : ∀ c : Char, ¬ (0xd800 ≤ c.toNat ∧ c.toNat < 0xe000) := by
    intro c
    have valid : c.toNat < 0xd800 ∨ 0xdfff < c.toNat ∧ c.toNat < 0x110000 := c.valid
    omega
  induction cs with
  | nil => rfl
  | cons c rest ih =>
    have out := whole c
    cases rest with
    | nil => simp [joinSurrogates, out]
    | cons d rest =>
      have high : ¬ (0xd800 ≤ c.toNat ∧ c.toNat < 0xdc00) := by omega
      have low : ¬ (0xdc00 ≤ c.toNat ∧ c.toNat < 0xe000) := by omega
      simp only [List.map_cons] at ih ⊢
      rw [joinSurrogates, if_neg high, if_neg low, ih]
      simp

/-- A text is the token of its characters. -/
theorem Scan.textToken_toNat (s : String) :
    Scan.textToken (s.toList.map Char.toNat).reverse = .text s := by
  rw [textToken, List.reverse_reverse, joinSurrogates_toNat]
  simp

theorem Scan.hexValue?_lowerHex : ∀ n < 16, hexValue? (lowerHex n) = some n := by decide

/-! ### The rest of a text -/

/-- Whether a word that stands before this text ends there. -/
def EndsWord (l : List Char) : Prop := ∀ c ∈ l.head?, c.isLower = false

theorem endsWord_nil : EndsWord [] := by simp [EndsWord]

theorem endsWord_cons {c : Char} {l : List Char} (h : c.isLower = false) : EndsWord (c :: l) := by
  simpa [EndsWord] using h

namespace Reader

variable {p : Parse} {scan : Scan} {seen : List Nat} {l : List Char}

/-- **The document that a machine makes of the rest of a text**, if it makes one. -/
def completes (r : Reader) (l : List Char) : Option Json := (l.foldlM feed r).bind finish

theorem completes_cons (r : Reader) (c : Char) (l : List Char) :
    completes r (c :: l) = (r.feed c).bind fun r' => completes r' l := by
  simp only [completes, List.foldlM_cons]
  exact Option.bind_assoc _ _ _

/-- A character that completes tokens hands them over. -/
theorem completes_step (next : Scan) {ts : List Token} {c : Char}
    (h : scan.step c = some (ts, next)) :
    completes ⟨scan, p⟩ (c :: l) =
      (feedTokens p ts).bind fun p' => completes ⟨next, p'⟩ l := by
  rw [completes_cons, feed]
  simp only [h, Option.bind_map]
  rfl

/-- A character inside a token completes none. -/
theorem completes_quiet (next : Scan) {c : Char} (h : scan.step c = some ([], next)) :
    completes ⟨scan, p⟩ (c :: l) = completes ⟨next, p⟩ l :=
  completes_step next h

/-- A character that is a token of its own. -/
theorem completes_mark {c : Char} {t : Token} (h : Scan.start c = some ([t], .between)) :
    completes ⟨.between, p⟩ (c :: l) =
      (p.accept t).bind fun p' => completes ⟨.between, p'⟩ l := by
  have step : Scan.between.step c = some ([t], .between) := h
  rw [completes_step _ step]
  simp [feedTokens]

/-! ### Texts -/

/-- A character after a backslash. -/
theorem completes_escaped {c : Char} {n : Nat} (h : Scan.escaped? c = some n) :
    completes ⟨.inText seen, p⟩ ('\\' :: c :: l) = completes ⟨.inText (n :: seen), p⟩ l := by
  have letter : c ≠ 'u' := by
    rintro rfl
    cases h
  rw [completes_quiet (.afterBackslash seen) rfl]
  refine completes_quiet _ ?_
  simp [Scan.step, letter, h]

/-- A hexadecimal digit of a code point, not the last. -/
theorem completes_digit {c : Char} {d left value : Nat} (h : Scan.hexValue? c = some d)
    (more : 1 < left) :
    completes ⟨.inCode seen left value, p⟩ (c :: l) =
      completes ⟨.inCode seen (left - 1) (value * 16 + d), p⟩ l := by
  refine completes_quiet _ ?_
  simp [Scan.step, h, Nat.not_le.2 more]

/-- The last hexadecimal digit of a code point. -/
theorem completes_lastDigit {c : Char} {d value : Nat} (h : Scan.hexValue? c = some d) :
    completes ⟨.inCode seen 1 value, p⟩ (c :: l) =
      completes ⟨.inText ((value * 16 + d) :: seen), p⟩ l := by
  refine completes_quiet _ ?_
  simp [Scan.step, h]

/-- A control character, written as its code point. -/
theorem completes_control {n : Nat} (h : n < 0x20) :
    completes ⟨.inText seen, p⟩
        (['\\', 'u', '0', '0', lowerHex (n / 16), lowerHex (n % 16)] ++ l) =
      completes ⟨.inText (n :: seen), p⟩ l := by
  have zero : Scan.hexValue? '0' = some 0 := rfl
  have high : Scan.hexValue? (lowerHex (n / 16)) = some (n / 16) :=
    Scan.hexValue?_lowerHex _ (by omega)
  have low : Scan.hexValue? (lowerHex (n % 16)) = some (n % 16) :=
    Scan.hexValue?_lowerHex _ (by omega)
  have value : (n / 16) * 16 + n % 16 = n := by omega
  simp only [List.cons_append, List.nil_append]
  rw [completes_quiet (.afterBackslash seen) rfl,
    completes_quiet (.inCode seen 4 0) rfl, completes_digit zero (by decide),
    completes_digit zero (by decide), completes_digit high (by decide), completes_lastDigit low]
  simp only [Nat.zero_mul, Nat.zero_add, value]

/-- **A written character is that character**, whichever way it is written. -/
theorem completes_writtenChar (c : Char) :
    completes ⟨.inText seen, p⟩ (writtenChar c ++ l) =
      completes ⟨.inText (c.toNat :: seen), p⟩ l := by
  unfold writtenChar
  split
  · next h => subst h; exact completes_escaped rfl
  split
  · next h => subst h; exact completes_escaped rfl
  split
  · next h => subst h; exact completes_escaped rfl
  split
  · next h => subst h; exact completes_escaped rfl
  split
  · next h => subst h; exact completes_escaped rfl
  split
  · next h => rw [h]; exact completes_escaped rfl
  split
  · next h => rw [h]; exact completes_escaped rfl
  split
  · next h => exact completes_control h
  · next quote slash _ _ _ _ _ control =>
    -- every other character stands for itself
    refine completes_quiet _ ?_
    simp only [Scan.step, if_neg quote, if_neg slash, if_neg control]

theorem completes_writtenChars (cs : List Char) :
    completes ⟨.inText seen, p⟩ (cs.flatMap writtenChar ++ l) =
      completes ⟨.inText ((cs.map Char.toNat).reverse ++ seen), p⟩ l := by
  induction cs generalizing seen with
  | nil => rfl
  | cons c rest ih =>
    rw [List.flatMap_cons, List.append_assoc, completes_writtenChar, ih]
    simp

/-- A written text is one token. -/
theorem completes_writtenText (s : String) :
    completes ⟨.between, p⟩ (writtenText s ++ l) =
      (p.accept (.text s)).bind fun p' => completes ⟨.between, p'⟩ l := by
  simp only [writtenText, List.cons_append, List.append_assoc, List.nil_append]
  have closed : (Scan.inText (s.toList.map Char.toNat).reverse).step '"' =
      some ([.text s], .between) := by
    simp [Scan.step, Scan.textToken_toNat]
  rw [completes_quiet (.inText []) rfl, completes_writtenChars, List.append_nil,
    completes_step _ closed]
  simp [feedTokens]

/-! ### Words -/

theorem completes_letters {cs seen : List Char} (h : cs.all Char.isLower = true) :
    completes ⟨.inWord seen, p⟩ (cs ++ l) = completes ⟨.inWord (cs.reverse ++ seen), p⟩ l := by
  induction cs generalizing seen with
  | nil => rfl
  | cons c rest ih =>
    rw [List.all_cons, Bool.and_eq_true] at h
    have step : (Scan.inWord seen).step c = some ([], .inWord (c :: seen)) := by
      simp [Scan.step, h.1]
    rw [List.cons_append, completes_quiet _ step, ih h.2]
    simp

/-- A word that ends is one token, and what follows it is read as after any other. -/
theorem completes_inWord {seen : List Char} (h : EndsWord l) :
    completes ⟨.inWord seen, p⟩ l =
      (p.accept (.word seen.reverse)).bind fun p' => completes ⟨.between, p'⟩ l := by
  cases l with
  | nil =>
    simp only [completes, List.foldlM_nil, Option.bind_eq_bind, Option.pure_def, Option.bind_some,
      finish, Scan.finish, feedTokens, List.foldlM_cons, Option.bind_fun_some]
  | cons c l =>
    have other : c.isLower = false := h c rfl
    simp only [completes_cons, feed, Scan.step, other, Bool.false_eq_true, if_false]
    -- the character stands between tokens once the word is handed over
    cases Scan.start c with
    | none => simp
    | some r =>
      simp only [Option.map_some, feedTokens, List.foldlM_cons, Option.bind_eq_bind]
      cases p.accept (.word seen.reverse) <;> rfl

/-- A word made of letters is one token. -/
theorem completes_word {c : Char} {cs : List Char} (first : Scan.start c = some ([], .inWord [c]))
    (letters : cs.all Char.isLower = true) (h : EndsWord l) :
    completes ⟨.between, p⟩ (c :: cs ++ l) =
      (p.accept (.word (c :: cs))).bind fun p' => completes ⟨.between, p'⟩ l := by
  have step : Scan.between.step c = some ([], .inWord [c]) := first
  rw [List.cons_append, completes_quiet _ step, completes_letters letters, completes_inWord h]
  simp

/-! ### Documents -/

/-- Whether a machine takes the beginning of a value that belongs on `stack`. -/
def TakesValue (p : Parse) (stack : List Frame) : Prop :=
  ∀ t ≠ .closeArray, p.accept t = Parse.beginValue stack t

theorem takesValue_value (stack : List Frame) : TakesValue ⟨stack, .value⟩ stack :=
  fun _ _ => rfl

theorem takesValue_firstItem (stack : List Frame) :
    TakesValue ⟨stack, .firstItem⟩ (.items [] :: stack) := by
  intro t h
  simp [Parse.accept, h]

/-- Whether a machine takes the name of a field that comes after the fields `done`. -/
def TakesName (p : Parse) (stack : List Frame) (done : List (Option String × Json)) : Prop :=
  ∀ t ≠ .closeObject, p.accept t = Parse.takeName stack done t

theorem takesName_name (stack : List Frame) (done : List (Option String × Json)) :
    TakesName ⟨stack, .name done⟩ stack done :=
  fun _ _ => rfl

theorem takesName_firstName (stack : List Frame) : TakesName ⟨stack, .firstName⟩ stack [] := by
  intro t h
  simp [Parse.accept, h]

/-- A name with its colon, in front of the value. -/
theorem completes_name {stack : List Frame} {done : List (Option String × Json)}
    (h : TakesName p stack done) (k : String) :
    completes ⟨.between, p⟩ (writtenText k ++ ':' :: l) =
      completes ⟨.between, ⟨.fields done (some k) :: stack, .value⟩⟩ l := by
  rw [completes_writtenText, h _ (by simp)]
  simp only [Parse.takeName, Option.bind_some]
  rw [completes_mark (t := .colon) rfl]
  rfl

mutual
/-- **What was written is read as the value it was written from**, wherever a value may
stand. -/
theorem completes_written {p : Parse} {stack : List Frame} {l : List Char} :
    ∀ j : Json, j.Plain → TakesValue p stack → EndsWord l →
      completes ⟨.between, p⟩ (written j ++ l) =
        completes ⟨.between, ⟨stack, .delimiter j⟩⟩ l
  | .null, _, open_, ends => by
    rw [written, completes_word rfl rfl ends, open_ _ (by simp)]
    rfl
  | .bool true, _, open_, ends => by
    rw [written, completes_word rfl rfl ends, open_ _ (by simp)]
    rfl
  | .bool false, _, open_, ends => by
    rw [written, completes_word rfl rfl ends, open_ _ (by simp)]
    rfl
  | .str s, _, open_, _ => by
    rw [written, completes_writtenText, open_ _ (by simp)]
    rfl
  | .num n, plain, _, _ => plain.elim
  | .unreadable, plain, _, _ => plain.elim
  | .arr [], _, open_, _ => by
    rw [written, List.cons_append, List.cons_append, completes_mark (t := .openArray) rfl,
      open_ _ (by simp)]
    exact completes_mark (t := .closeArray) rfl
  | .arr (v :: rest), plain, open_, _ => by
    rw [written, List.cons_append, List.cons_append, List.append_assoc,
      completes_mark (t := .openArray) rfl, open_ _ (by simp)]
    -- the array that was opened lies on the stack once its first item begins
    exact completes_writtenItems (v :: rest) (by simp) plain (takesValue_firstItem stack)
  | .obj [], _, open_, _ => by
    rw [written, List.cons_append, List.cons_append, completes_mark (t := .openObject) rfl,
      open_ _ (by simp)]
    exact completes_mark (t := .closeObject) rfl
  | .obj (f :: rest), plain, open_, _ => by
    simp only [written, List.cons_append, List.append_assoc, List.nil_append]
    rw [completes_mark (t := .openObject) rfl, open_ _ (by simp)]
    refine (completes_writtenFields (f :: rest) (by simp) plain (takesName_firstName stack)).trans ?_
    rw [List.reverse_nil, List.nil_append, ofFields_readable]

/-- The items that are left of an array, with its end. -/
theorem completes_writtenItems {p : Parse} {stack : List Frame} {l : List Char}
    {done : List Json} :
    ∀ items : List Json, items ≠ [] → PlainItems items → TakesValue p (.items done :: stack) →
      completes ⟨.between, p⟩ (writtenItems items ++ ']' :: l) =
        completes ⟨.between, ⟨stack, .delimiter (.arr (done.reverse ++ items))⟩⟩ l
  | [], filled, _, _ => (filled rfl).elim
  | [v], _, plain, open_ => by
    rw [writtenItems, completes_written v plain.1 open_ (endsWord_cons rfl)]
    exact completes_mark (t := .closeArray) rfl
  | v :: w :: rest, _, plain, open_ => by
    rw [writtenItems, List.append_assoc, List.cons_append,
      completes_written v plain.1 open_ (endsWord_cons rfl),
      completes_mark (t := .comma) rfl]
    refine (completes_writtenItems (w :: rest) (by simp) plain.2 (takesValue_value _)).trans ?_
    simp

/-- The fields that are left of an object, with its end. -/
theorem completes_writtenFields {p : Parse} {stack : List Frame} {l : List Char}
    {done : List (Option String × Json)} :
    ∀ fields : List (String × Json), fields ≠ [] → PlainFields fields → TakesName p stack done →
      completes ⟨.between, p⟩ (writtenFields fields ++ '\x7d' :: l) =
        completes ⟨.between, ⟨stack, .delimiter
          (.ofFields (done.reverse ++ fields.map fun f => (some f.1, f.2)))⟩⟩ l
  | [], filled, _, _ => (filled rfl).elim
  | [(k, v)], _, plain, open_ => by
    rw [writtenFields, List.append_assoc, List.cons_append, completes_name open_,
      completes_written v plain.1 (takesValue_value _) (endsWord_cons rfl)]
    exact completes_mark (t := .closeObject) rfl
  | (k, v) :: w :: rest, _, plain, open_ => by
    simp only [writtenFields, List.append_assoc, List.cons_append]
    rw [completes_name open_,
      completes_written v plain.1 (takesValue_value _) (endsWord_cons rfl),
      completes_mark (t := .comma) rfl]
    refine (completes_writtenFields (w :: rest) (by simp) plain.2 (takesName_name _ _)).trans ?_
    simp
end

end Reader

/-- **A document without numbers is read back from its text.** -/
theorem read?_written {j : Json} (plain : j.Plain) : read? (written j) = some j := by
  have read := Reader.completes_written (l := []) j plain (Reader.takesValue_value []) endsWord_nil
  rw [List.append_nil] at read
  exact read

end AccessHarness.Json
