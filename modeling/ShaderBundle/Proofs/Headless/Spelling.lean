import ShaderBundle.Proofs.Headless.Asking
import ShaderBundle.Proofs.Headless.Lifting

/-!
# Comments and spacing

Declarations are recognised on the lines of a source as they stand. A comment is not told from code
there, and a line is cut up at its blanks. So a declaration with a comment behind it is overlooked,
one that is commented out is taken for one, and the name of an array is lost when a blank stands in
front of its bracket.

Where two sources read alike, they are laid out alike, and only there. This module names what makes
them read alike: comments that stand on lines of their own and do not look like declarations, and
declarations that end in a name, or that ask for a binding.

## Comments

A source is compared with its masked copy. A line makes no difference if it is code to the end. If
there is a comment on it, then it has to be nothing but comment, and the words of the comment must
not be readable as a declaration or as a layout: a remark that begins with a slash never is, and for
a line within a longer comment one has to look (`Undisturbed`).

## Spacing

A line is spelled with tokens, and the same tokens can be spelled with other blanks between them
(`Spaced`). A declaration is found in every spelling, since the words in front of the name are
names, which blanks separate, and the semicolon is found at the end. What is not found in every
spelling is the name. It is taken from the last word, up to a bracket; if there is a blank in front
of the bracket then the last word is the bracket's, or what stands in it. A uniform has no use for
its name, so this concerns the others only, and `Settled` lists the declarations for which all is
well.

## Refutation and proof

`spelling_alike` has the exact condition and the two sufficient ones. `not_spelling_alike` has a
source for each way in which they can fail, with what comes out of it.

## Main definitions

* `Undisturbed`: masking a line does not change what is read on it.
* `Spaced`: a line is spelled with some tokens, and blanks between them.
* `Settled`: tokens of a declaration that is read in one way however it is spaced.

## Main results

* `Settled.asks?_eq`: what such a declaration asks for.
* `spelling_alike`: when comments and spacing do not matter.
* `not_spelling_alike`: that they can matter.
-/

namespace ShaderBundle.Headless

open Allocation

variable {table : Varyings} {stage : Stage} {line line' : Text} {source source' : Text} {k : Nat}

/-! ### Line by line -/

/-- Sources read alike if their lines do. -/
theorem readsAlike_of_map_eq (hasks : source.pieces.map asks? = source'.pieces.map asks?)
    (hwritten : source.pieces.map explicitLocation? = source'.pieces.map explicitLocation?) :
    ReadsAlike source source' := by
  have hat : ∀ source k, askedAt source k = ((source.pieces.map asks?)[k]?).join :=
    fun source k => by
    rw [askedAt, List.getElem?_map]
    cases source.pieces[k]? <;> rfl
  have hnumbers : ∀ source side, writtenAt source side =
      (source.pieces.map explicitLocation?).filterMap fun found? => found?.bind fun found =>
        if found.1 = side.storage then some found.2 else none := fun source side => by
    rw [List.filterMap_map]
    refine List.filterMap_congr fun line _ => ?_
    change locationAt? side line = _
    rw [locationAt?, Function.comp_apply]
    cases explicitLocation? line <;> rfl
  refine ⟨fun k => by rw [hat, hat, hasks], fun side m _ => ?_⟩
  rw [hnumbers, hnumbers, hwritten]

/-! ### Comments

The zone that a line begins in is that of the whole text, so a line within a comment that runs over
several lines is known to be one. -/

/-- Nothing is read on a line that begins with a slash. -/
theorem asks?_of_slash (h : line.trimStart.head? = some '/') :
    asks? line = none ∧ explicitLocation? line = none := by
  constructor
  · rw [asks?, Option.map_eq_none_iff]
    cases hbare : Declaration.bare? line with
    | none => rfl
    | some declaration =>
      obtain ⟨word, others, hwords, hmem⟩ := exists_word_of_bare? hbare
      have hother : ∀ word ∈ declarationWords, word.head? ≠ some '/' := by decide +kernel
      exact absurd ((Text.head?_trim_of_words hwords).1.symm.trans h) (hother word hmem)
  · obtain ⟨rest, hstart⟩ : ∃ rest : Text, line.trimStart = '/' :: rest := by
      cases hstart : line.trimStart with
      | nil => simp [hstart] at h
      | cons c rest => exact ⟨rest, by rw [hstart] at h; rw [Option.some.inj h]⟩
    have htrim : line.trim = '/' :: rest.trimEnd := by
      rw [Text.trim, hstart, Text.trimEnd_cons_of_not_isBlank (by decide)]
    have hlayout : "layout".toList = 'l' :: "ayout".toList := by simp
    rw [explicitLocation?, htrim, hlayout]
    rfl

/-- Nothing is read on a blank line. -/
theorem asks?_of_blanks (h : ∀ c ∈ line, isBlank c = true) :
    asks? line = none ∧ explicitLocation? line = none := by
  have htrim : line.trim = [] := by
    rw [Text.trim, ← List.append_nil line, Text.trimStart_append h]
    rfl
  rw [asks?, Declaration.bare?, explicitLocation?, htrim]
  decide +kernel

/-- Masking a line that begins in a zone does not change what is read on it: there is no comment on
it, or nothing else than a comment, in which nothing is read. -/
inductive Undisturbed (zone : Zone) (line : Text) : Prop where
  | code (h : maskFrom zone line = line)
  | remark (hblank : ∀ c ∈ maskFrom zone line, isBlank c = true)
    (hslash : line.trimStart.head? = some '/')
  | inner (hblank : ∀ c ∈ maskFrom zone line, isBlank c = true) (hasks : asks? line = none)
    (hwritten : explicitLocation? line = none)

theorem Undisturbed.reads_eq {zone : Zone} (h : Undisturbed zone line) :
    asks? (maskFrom zone line) = asks? line ∧
      explicitLocation? (maskFrom zone line) = explicitLocation? line := by
  cases h with
  | code h => rw [h]; exact ⟨rfl, rfl⟩
  | remark hblank hslash =>
    rw [(asks?_of_blanks hblank).1, (asks?_of_blanks hblank).2, (asks?_of_slash hslash).1,
      (asks?_of_slash hslash).2]
    exact ⟨rfl, rfl⟩
  | inner hblank hasks hwritten =>
    rw [(asks?_of_blanks hblank).1, (asks?_of_blanks hblank).2, hasks, hwritten]
    exact ⟨rfl, rfl⟩

theorem readsAlike_mask (h : ∀ (k : Nat) (line : Text), source.pieces[k]? = some line →
    Undisturbed (zoneAt source.pieces k) line) : ReadsAlike source (mask source) := by
  have hread : ∀ {α : Type} (read : Text → α), (∀ (k : Nat) (line : Text),
      source.pieces[k]? = some line → read (maskFrom (zoneAt source.pieces k) line) = read line) →
        source.pieces.map read = (mask source).pieces.map read := by
    intro α read hread
    refine List.ext_getElem? fun k => ?_
    rw [List.getElem?_map, List.getElem?_map, mask, pieces_maskFrom, getElem?_maskLines, ← zoneAt]
    cases hline : source.pieces[k]? with
    | none => rfl
    | some line => exact congrArg some (hread k line hline).symm
  exact readsAlike_of_map_eq (hread asks? fun k line hline => (h k line hline).reads_eq.1)
    (hread explicitLocation? fun k line hline => (h k line hline).reads_eq.2)

/-! ### Spacing

Tokens are names, numbers and single marks, and two names do not touch. Whether a line is spelled
with given tokens can be decided, so that examples are checked by evaluation. -/

/-- Letters, digits and underscores, at least one. -/
def IsName (token : Text) : Prop :=
  token ≠ [] ∧ ∀ c ∈ token, isWordChar c = true

/-- A name or a number, or a single mark. -/
inductive IsToken : Text → Prop where
  | name {token : Text} (h : IsName token) : IsToken token
  | mark {c : Char} (hblank : isBlank c = false) (hword : isWordChar c = false) : IsToken [c]

/-- A line is spelled with some tokens in a row, and blanks in front of them, between them and
behind them. Two names do not touch. -/
inductive Spaced : List Text → Text → Prop where
  | nil {gap : Text} (hgap : ∀ c ∈ gap, isBlank c = true) : Spaced [] gap
  | cons {gap token rest : Text} {tokens : List Text} (hgap : ∀ c ∈ gap, isBlank c = true)
    (htoken : IsToken token) (hrest : Spaced tokens rest)
    (hapart : IsName token → ∀ c, rest.head? = some c → isWordChar c = false) :
    Spaced (token :: tokens) (gap ++ (token ++ rest))

theorem isName_iff {token : Text} :
    IsName token ↔ token ≠ [] ∧ token.all isWordChar = true :=
  and_congr_right' List.all_eq_true.symm

instance (token : Text) : Decidable (IsName token) :=
  decidable_of_iff _ isName_iff.symm

theorem isToken_iff {token : Text} : IsToken token ↔ IsName token ∨
    token.length = 1 ∧ (token.all fun c => !isBlank c && !isWordChar c) = true := by
  constructor
  · rintro (h | ⟨hblank, hword⟩)
    · exact .inl h
    · exact .inr ⟨rfl, by simp [hblank, hword]⟩
  · rintro (h | ⟨hone, h⟩)
    · exact .name h
    · obtain ⟨c, rfl⟩ := List.length_eq_one_iff.mp hone
      obtain ⟨hblank, hword⟩ : isBlank c = false ∧ isWordChar c = false := by simpa using h
      exact .mark hblank hword

instance (token : Text) : Decidable (IsToken token) :=
  decidable_of_iff _ isToken_iff.symm

theorem IsName.not_isBlank {token : Text} (h : IsName token) : ∀ c ∈ token, isBlank c = false :=
  fun c hc => not_isBlank_of_isWordChar (h.2 c hc)

variable {token name : Text} {tokens names : List Text}

theorem IsToken.exists_cons (h : IsToken token) :
    ∃ c rest, token = c :: rest ∧ isBlank c = false := by
  cases h with
  | name h =>
    obtain ⟨c, rest, rfl⟩ := List.exists_cons_of_ne_nil h.1
    exact ⟨c, rest, rfl, h.not_isBlank c List.mem_cons_self⟩
  | @mark c hblank _ => exact ⟨c, [], rfl, hblank⟩

theorem spaced_nil_iff : Spaced [] line ↔ line.all isBlank = true := by
  rw [List.all_eq_true]
  exact ⟨fun h => by cases h with | nil hgap => exact hgap, .nil⟩

/-- The first token of a line stands behind blanks. -/
theorem spaced_cons_iff : Spaced (token :: tokens) line ↔ IsToken token ∧
    token.isPrefixOf line.trimStart = true ∧
    (IsName token → (line.trimStart.drop token.length).head?.all (!isWordChar ·) = true) ∧
    Spaced tokens (line.trimStart.drop token.length) := by
  constructor
  · rintro (_ | @⟨gap, _, rest, _, hgap, htoken, hrest, hapart⟩)
    obtain ⟨c, others, rfl, hc⟩ := htoken.exists_cons
    have hstart : Text.trimStart (gap ++ (c :: others ++ rest)) = c :: others ++ rest := by
      rw [Text.trimStart_append hgap, List.cons_append, Text.trimStart_cons hc]
    rw [hstart, List.drop_left]
    exact ⟨htoken, List.isPrefixOf_iff_prefix.mpr (List.prefix_append _ _),
      by simpa [Option.all_eq_true] using hapart, hrest⟩
  · rintro ⟨htoken, hbegins, hapart, hrest⟩
    obtain ⟨rest, hrest'⟩ := List.isPrefixOf_iff_prefix.mp hbegins
    obtain ⟨gap, hgap, hline⟩ := Text.exists_blanks_append_trimStart line
    rw [← hrest', List.drop_left] at hapart hrest
    rw [hline, ← hrest']
    exact .cons hgap htoken hrest (by simpa [Option.all_eq_true] using hapart)

instance decidableSpaced : (tokens : List Text) → (line : Text) → Decidable (Spaced tokens line)
  | [], _ => decidable_of_iff _ spaced_nil_iff.symm
  | token :: tokens, line =>
    have := decidableSpaced tokens (line.trimStart.drop token.length)
    decidable_of_iff _ spaced_cons_iff.symm

/-- Between two names there is a blank. -/
theorem Spaced.exists_blank (h : Spaced (name :: token :: tokens) line) (hname : IsName name)
    (htoken : IsName token) : ∃ gap c rest, line = gap ++ (name ++ c :: rest) ∧
      (∀ c ∈ gap, isBlank c = true) ∧ isBlank c = true ∧ Spaced (token :: tokens) rest := by
  cases h with
  | @cons gap _ rest _ hgap _ hrest hapart =>
    cases hrest with
    | @cons gap' _ rest' _ hgap' htoken' hrest' hapart' =>
      cases gap' with
      | nil =>
        -- the names would touch
        obtain ⟨c, token, rfl⟩ := List.exists_cons_of_ne_nil htoken.1
        have hc := hapart hname c rfl
        rw [htoken.2 c List.mem_cons_self] at hc
        cases hc
      | cons c gap' =>
        exact ⟨gap, c, gap' ++ (token ++ rest'), rfl, hgap, hgap' c List.mem_cons_self,
          .cons (fun d hd => hgap' d (List.mem_cons_of_mem c hd)) htoken' hrest' hapart'⟩

/-- Names in front of a name are words of the line. -/
theorem Spaced.exists_front (h : Spaced (names ++ name :: tokens) line)
    (hnames : ∀ name ∈ names, IsName name) (hname : IsName name) :
    ∃ front back, line = front ++ back ∧ Spaced (name :: tokens) back ∧
      ∀ s, Text.words (front ++ s) = names ++ Text.words s := by
  induction names generalizing line with
  | nil => exact ⟨[], line, rfl, h, fun _ => rfl⟩
  | cons first names ih =>
    obtain ⟨hfirst, hrest⟩ := List.forall_mem_cons.mp hnames
    -- what comes next is a name in either case, so a blank stands in front of it
    obtain ⟨next, following, hnext, heq⟩ : ∃ next following, IsName next ∧
        names ++ name :: tokens = next :: following := by
      cases names with
      | nil => exact ⟨name, tokens, hname, rfl⟩
      | cons second names => exact ⟨second, _, hrest second List.mem_cons_self, rfl⟩
    rw [List.cons_append, heq] at h
    obtain ⟨gap, c, rest, rfl, hgap, hc, hspaced⟩ := h.exists_blank hfirst hnext
    rw [← heq] at hspaced
    obtain ⟨front, back, rfl, hback, hwords⟩ := ih hspaced hrest
    refine ⟨gap ++ (first ++ c :: front), back, by simp, hback, fun s => ?_⟩
    rw [List.append_assoc, List.append_assoc, List.cons_append, Text.words_append_of_blanks hgap,
      Text.words_word_append hfirst.1 hfirst.not_isBlank hc, hwords]
    rfl

/-- A mark at the end. -/
theorem Spaced.exists_end {c : Char} (h : Spaced (tokens ++ [[c]]) line) :
    ∃ body gap, line = body ++ c :: gap ∧ (∀ d ∈ gap, isBlank d = true) ∧ Spaced tokens body := by
  induction tokens generalizing line with
  | nil =>
    cases h with
    | @cons gap _ rest _ hgap _ hrest _ =>
      cases hrest with
      | nil hgap' => exact ⟨gap, rest, rfl, hgap', .nil hgap⟩
  | cons token tokens ih =>
    cases h with
    | @cons gap _ rest _ hgap htoken hrest hapart =>
      obtain ⟨body, gap', rfl, hgap', hbody⟩ := ih hrest
      refine ⟨gap ++ (token ++ body), gap', by simp, hgap', .cons hgap htoken hbody ?_⟩
      intro hname d hd
      refine hapart hname d ?_
      rw [List.head?_append, hd, Option.some_or]

/-- What is on the line is blank, or it is in one of the tokens. -/
theorem Spaced.mem (h : Spaced tokens line) {c : Char} (hc : c ∈ line) :
    isBlank c = true ∨ ∃ token ∈ tokens, c ∈ token := by
  induction h with
  | nil hgap => exact .inl (hgap c hc)
  | cons hgap _ _ _ ih =>
    rcases List.mem_append.mp hc with hc | hc
    · exact .inl (hgap c hc)
    rcases List.mem_append.mp hc with hc | hc
    · exact .inr ⟨_, List.mem_cons_self, hc⟩
    · rcases ih hc with hblank | ⟨token, htoken, hc⟩
      · exact .inl hblank
      · exact .inr ⟨token, List.mem_cons_of_mem _ htoken, hc⟩

theorem Spaced.words_ne_nil (h : Spaced (name :: tokens) line) (hname : IsName name) :
    Text.words line ≠ [] := by
  cases h with
  | @cons gap _ rest _ hgap _ _ _ =>
    obtain ⟨c, name, rfl⟩ := List.exists_cons_of_ne_nil hname.1
    rw [Text.words_append_of_blanks hgap, List.cons_append]
    exact Text.words_cons_ne_nil (hname.not_isBlank c List.mem_cons_self) _

theorem Spaced.words_singleton (h : Spaced [name] line) (hname : IsName name) :
    Text.words line = [name] := by
  cases h with
  | @cons gap _ rest _ hgap _ hrest _ =>
    cases hrest with
    | nil hgap' =>
      rw [Text.words_append_of_blanks hgap, Text.words_append_blanks hgap',
        Text.words_of_solid hname.1 hname.not_isBlank]

/-! ### Declarations

The reader of declarations tries the head of a block first, then a variable. For a line with none of
the marks that make it something else, what it finds depends on the words of the line alone. -/

/-- A semicolon in front of blanks is found. -/
theorem exists_dropSemicolon? (body : Text) {gap : Text} (hgap : ∀ c ∈ gap, isBlank c = true) :
    ∃ kept, dropSemicolon? (Text.trim (body ++ ';' :: gap)) = some kept ∧
      Text.words kept = Text.words body := by
  obtain ⟨indent, hindent, hbody⟩ := Text.exists_blanks_append_trimStart body
  have hstart : Text.trimStart (body ++ ';' :: gap) = body.trimStart ++ ';' :: gap := by
    rw [hbody, List.append_assoc, Text.trimStart_append hindent, Text.trimStart_append hindent]
    rcases Text.trimStart_cases body with hnil | ⟨c, rest, hcons, hc⟩
    · rw [hnil]
      exact Text.trimStart_cons (by decide) gap
    · rw [hcons, List.cons_append, Text.trimStart_cons hc, Text.trimStart_cons hc]
      rfl
  have htrim : Text.trim (body ++ ';' :: gap) = body.trimStart ++ [';'] := by
    rw [Text.trim, hstart, List.append_cons, Text.trimEnd]
    refine Text.dropEndWhile_append (fun c hc => ?_) hgap
    obtain rfl : ';' = c := by simpa using hc
    decide
  refine ⟨body.trimStart, by rw [htrim, dropSemicolon?]; simp, ?_⟩
  conv => rhs; rw [hbody, Text.words_append_of_blanks hindent]

theorem isName_of_mem_declarationWords {word : Text} (h : word ∈ declarationWords) :
    IsName word := by
  have hall : ∀ word ∈ declarationWords, IsName word := by decide +kernel
  exact hall word h

/-- None of the marks that a declaration on one line cannot have. -/
def IsPlain (token : Text) : Prop :=
  ∀ c ∈ token, c ≠ '(' ∧ c ≠ ')' ∧ c ≠ '{'

theorem IsName.isPlain (h : IsName token) : IsPlain token := by
  intro c hc
  have hword := h.2 c hc
  refine ⟨?_, ?_, ?_⟩ <;> rintro rfl <;> exact absurd hword (by decide)

theorem Spaced.isPlain (h : Spaced tokens line) (hplain : ∀ token ∈ tokens, IsPlain token) :
    IsPlain line := by
  intro c hc
  rcases h.mem hc with hblank | ⟨token, htoken, hc⟩
  · refine ⟨?_, ?_, ?_⟩ <;> rintro rfl <;> exact absurd hblank (by decide)
  · exact hplain token htoken c hc

variable {skipped types more : List Text} {storage : Storage}

/-- How a variable is read off the words of its line. -/
theorem bare?_of_words {rest : List Text} {kept last : Text} (hplain : IsPlain line)
    (hskipped : ∀ word ∈ skipped, word ∈ interpolations)
    (hwords : Text.words line = skipped ++ storage.word :: rest) (hrest : 2 ≤ rest.length)
    (hdrop : dropSemicolon? line.trim = some kept)
    (hlast : (Text.words kept).getLast? = some last) :
    Declaration.bare? line = some ⟨storage, last.takeWhile (· ≠ '[')⟩ := by
  -- none of the marks that would make the line something else
  have htrim : IsPlain line.trim := fun c hc =>
    hplain c (List.dropWhile_subset _ (Text.dropEndWhile_subset _ _ hc))
  have hkept : '{' ∉ kept := fun h => by
    rw [dropSemicolon?] at hdrop
    split at hdrop
    · exact (htrim _ (List.dropLast_subset _ (Option.some.inj hdrop ▸ h))).2.2 rfl
    · cases hdrop
  -- the line begins with a word of a declaration, and none of these begins like a layout
  have hlayout : "layout".toList.isPrefixOf line.trim = false := by
    by_contra hlayout
    rw [Bool.not_eq_false] at hlayout
    obtain ⟨tail, htail⟩ := List.isPrefixOf_iff_prefix.mp hlayout
    obtain ⟨word, others, hfirst, hmem⟩ : ∃ word others,
        skipped ++ storage.word :: rest = word :: others ∧ word ∈ declarationWords := by
      cases skipped with
      | nil => exact ⟨_, rest, rfl, word_mem_declarationWords storage⟩
      | cons word skipped =>
        exact ⟨word, _, rfl, List.mem_append_left _ (hskipped word List.mem_cons_self)⟩
    have hhead := (Text.head?_trim_of_words (hwords.trans hfirst)).2
    have hword : "layout".toList = 'l' :: "ayout".toList := by simp
    rw [← htail, hword, List.cons_append, List.head?_cons] at hhead
    have hother : ∀ word ∈ declarationWords, word.head? ≠ some 'l' := by decide +kernel
    exact hother word hmem hhead.symm
  have hopen : line.trim.contains '(' = false := by
    simpa using fun h => (htrim _ h).1 rfl
  have hclose : line.trim.contains ')' = false := by
    simpa using fun h => (htrim _ h).2.1 rfl
  have hstorage : ¬interpolations.contains storage.word = true := by
    cases storage <;> decide +kernel
  -- behind the words of interpolation the storage comes first
  have hdropped : line.trim.words.dropWhile interpolations.contains = storage.word :: rest := by
    rw [Text.words_trim, hwords, List.dropWhile_append_of_pos fun word hword => by
      simpa using hskipped word hword, List.dropWhile_cons_of_neg hstorage]
  have hlong : ¬rest.length < 2 := Nat.not_lt.mpr hrest
  rw [Declaration.bare?]
  simp only [hlayout, hopen, hclose, Bool.or_self, Bool.false_eq_true, if_false, hdropped,
    ofWord?_word, hdrop]
  rw [if_neg (by simp [hlong, hkept]), hlast]
  rfl

/-- **A variable is read off its line**, whatever it asks for: its name is what stands in front of a
bracket in the last word, and that word is part of what begins with the name. -/
theorem bare?_of_spaced (hskipped : ∀ word ∈ skipped, word ∈ interpolations) (htypes : types ≠ [])
    (hnames : ∀ type ∈ types, IsName type) (hname : IsName name)
    (hmore : ∀ token ∈ more, IsPlain token)
    (h : Spaced ((skipped ++ storage.word :: types) ++ name :: (more ++ [[';']])) line) :
    ∃ back last, Spaced (name :: more) back ∧ (Text.words back).getLast? = some last ∧
      Declaration.bare? line = some ⟨storage, last.takeWhile (· ≠ '[')⟩ := by
  have hfront : ∀ word ∈ skipped ++ storage.word :: types, IsName word := by
    intro word hword
    rcases List.mem_append.mp hword with hword | hword
    · exact isName_of_mem_declarationWords (List.mem_append_left _ (hskipped word hword))
    rcases List.mem_cons.mp hword with rfl | hword
    · exact isName_of_mem_declarationWords (word_mem_declarationWords storage)
    · exact hnames word hword
  have hplain : IsPlain line := by
    refine h.isPlain fun token htoken => ?_
    rcases List.mem_append.mp htoken with htoken | htoken
    · exact (hfront token htoken).isPlain
    rcases List.mem_cons.mp htoken with rfl | htoken
    · exact hname.isPlain
    rcases List.mem_append.mp htoken with htoken | htoken
    · exact hmore token htoken
    · rw [List.mem_singleton.mp htoken]
      exact Text.forall_mem (by decide)
  -- the words of the line, and those in front of the semicolon
  obtain ⟨front, back, hline, hback, hwords⟩ := h.exists_front hfront hname
  have hends : Spaced (((skipped ++ storage.word :: types) ++ name :: more) ++ [[';']]) line := by
    simpa using h
  obtain ⟨body, gap, hbody, hgap, hspaced⟩ := hends.exists_end
  obtain ⟨front', back', hfront', hback', hwords'⟩ := hspaced.exists_front hfront hname
  obtain ⟨kept, hdrop, hkept⟩ := exists_dropSemicolon? body hgap
  have hne := hback'.words_ne_nil hname
  have hlast := List.getLast?_eq_some_getLast hne
  refine ⟨back', (Text.words back').getLast hne, hback', hlast, ?_⟩
  have hfirst : Text.words line = skipped ++ storage.word :: (types ++ Text.words back) := by
    rw [hline, hwords, List.append_assoc, List.cons_append]
  refine bare?_of_words hplain hskipped hfirst ?_ (hbody ▸ hdrop) ?_
  · have htype := List.length_pos_iff.mpr htypes
    have hword := List.length_pos_iff.mpr (hback.words_ne_nil hname)
    rw [List.length_append]
    omega
  · rw [hkept, hfront', hwords', List.getLast?_append, hlast, Option.some_or]

/-- Declarations that are read in one way however they are spaced, and what they ask for: those of
uniforms, with anything behind the name, and those of other variables that end in the name. -/
inductive Settled : List Text → Asked → Prop where
  | uniform {skipped types more : List Text} {name : Text}
    (hskipped : ∀ word ∈ skipped, word ∈ interpolations) (htypes : types ≠ [])
    (hnames : ∀ type ∈ types, IsName type) (hname : IsName name)
    (hmore : ∀ token ∈ more, IsPlain token) :
    Settled ((skipped ++ Storage.uniform.word :: types) ++ name :: (more ++ [[';']])) .binding
  | located {skipped types : List Text} {name : Text} (side : Side)
    (hskipped : ∀ word ∈ skipped, word ∈ interpolations) (htypes : types ≠ [])
    (hnames : ∀ type ∈ types, IsName type) (hname : IsName name) :
    Settled ((skipped ++ side.storage.word :: types) ++ [name, [';']]) (.location side name)

theorem Settled.exists_bare? {asked : Asked} (hsettled : Settled tokens asked)
    (h : Spaced tokens line) :
    ∃ declaration, Declaration.bare? line = some declaration ∧ declaration.asks = asked := by
  cases hsettled with
  | uniform hskipped htypes hnames hname hmore =>
    obtain ⟨back, last, -, -, hbare⟩ := bare?_of_spaced hskipped htypes hnames hname hmore h
    exact ⟨_, hbare, rfl⟩
  | @located _ _ name side hskipped htypes hnames hname =>
    obtain ⟨back, last, hback, hlast, hbare⟩ :=
      bare?_of_spaced hskipped htypes hnames hname (List.forall_mem_nil _) h
    rw [hback.words_singleton hname] at hlast
    obtain rfl : name = last := Option.some.inj hlast
    -- the last word is the name itself, and has no bracket
    have hbracket : name.takeWhile (· ≠ '[') = name := by
      rw [List.takeWhile_eq_self_iff]
      intro c hc
      have hword := hname.2 c hc
      refine decide_eq_true ?_
      rintro rfl
      exact absurd hword (by decide)
    rw [hbracket] at hbare
    exact ⟨_, hbare, by cases side <;> rfl⟩

/-- **What such a declaration asks for does not depend on its spacing.** -/
theorem Settled.asks?_eq {asked : Asked} (hsettled : Settled tokens asked)
    (h : Spaced tokens line) : asks? line = some asked ∧ explicitLocation? line = none := by
  obtain ⟨declaration, hbare, hasks⟩ := hsettled.exists_bare? h
  rw [asks?, hbare, Option.map_some, hasks]
  exact ⟨rfl, explicitLocation?_of_bare? hbare⟩

/-- A line is the same, or it is the same declaration with other blanks between its tokens. -/
def Respaced (line line' : Text) : Prop :=
  line = line' ∨ ∃ tokens asked, Settled tokens asked ∧ Spaced tokens line ∧ Spaced tokens line'

theorem Respaced.reads_eq (h : Respaced line line') :
    asks? line = asks? line' ∧ explicitLocation? line = explicitLocation? line' := by
  rcases h with rfl | ⟨tokens, asked, hsettled, hline, hline'⟩
  · exact ⟨rfl, rfl⟩
  · rw [(hsettled.asks?_eq hline).1, (hsettled.asks?_eq hline).2, (hsettled.asks?_eq hline').1,
      (hsettled.asks?_eq hline').2]
    exact ⟨rfl, rfl⟩

theorem readsAlike_of_respaced (h : List.Forall₂ Respaced source.pieces source'.pieces) :
    ReadsAlike source source' := by
  refine readsAlike_of_map_eq ?_ ?_
  · rw [← List.forall₂_eq_eq_eq, List.forall₂_map_left_iff, List.forall₂_map_right_iff]
    exact h.imp fun _ _ hline => hline.reads_eq.1
  · rw [← List.forall₂_eq_eq_eq, List.forall₂_map_left_iff, List.forall₂_map_right_iff]
    exact h.imp fun _ _ hline => hline.reads_eq.2

/-! ### When spelling does not matter -/

/-- **When comments and spacing do not matter.** Two sources are laid out alike exactly if they read
alike. A source reads like itself with its comments blanked out if every line of it stays
undisturbed, and it reads like any source that is spaced otherwise in declarations that are settled.
Each of those gets the layout for what it asks. -/
theorem spelling_alike (source : Text) :
    (∀ source', InsertsAlike source source' ↔ ReadsAlike source source') ∧
    ((∀ (k : Nat) (line : Text), source.pieces[k]? = some line →
      Undisturbed (zoneAt source.pieces k) line) → InsertsAlike source (mask source)) ∧
    (∀ source', List.Forall₂ Respaced source.pieces source'.pieces →
      InsertsAlike source source') ∧
    ∀ (k : Nat) (line : Text) (tokens : List Text) (asked : Asked),
      source.pieces[k]? = some line → Settled tokens asked → Spaced tokens line →
        ∀ (table : Varyings) (stage : Stage), Inserts table stage source k
          (layoutFor table stage (writtenAt source) (askedBefore source k) asked) := by
  refine ⟨fun _ => insertsAlike_iff, fun h => insertsAlike_iff.mpr (readsAlike_mask h),
    fun _ h => insertsAlike_iff.mpr (readsAlike_of_respaced h), ?_⟩
  intro k line tokens asked hline hsettled hspaced table stage
  refine inserts_iff.mpr ⟨asked, ?_, rfl⟩
  rw [askedAt, hline, Option.bind_some, (hsettled.asks?_eq hspaced).1]

/-- A source with a comment on a line of its own. -/
def tidy : Text :=
  "// uniform mat4 old;\nuniform mat4 m;\nout vec3 v;".toList

/-- The same source with other blanks. -/
def spread : Text :=
  "// uniform mat4 old;\n  uniform  mat4 m ;\nout vec3\tv ;".toList

/-- Its comment and its spacing do not matter. -/
theorem spelling_alike_tidy : InsertsAlike tidy (mask tidy) ∧ InsertsAlike tidy spread ∧
    Inserts {} .vertex tidy 1 (bindingLayout 0) := by
  obtain ⟨-, hmask, hspread, hinserts⟩ := spelling_alike tidy
  have hpieces : tidy.pieces =
      ["// uniform mat4 old;".toList, "uniform mat4 m;".toList, "out vec3 v;".toList] := by
    decide +kernel
  have hpieces' : spread.pieces =
      ["// uniform mat4 old;".toList, "  uniform  mat4 m ;".toList, "out vec3\tv ;".toList] := by
    decide +kernel
  have hmatrix : Settled (([] ++ Storage.uniform.word :: ["mat4".toList]) ++
      ['m'] :: ([] ++ [[';']])) .binding :=
    .uniform nofun nofun (by decide +kernel) (by decide +kernel) nofun
  have hvector : Settled (([] ++ Side.output.storage.word :: ["vec3".toList]) ++ [['v'], [';']])
      (.location .output ['v']) :=
    .located .output nofun nofun (by decide +kernel) (by decide +kernel)
  refine ⟨hmask fun k line hline => ?_, hspread spread ?_, ?_⟩
  · rw [hpieces] at hline ⊢
    rcases k with _ | _ | _ | k
    · obtain rfl := Option.some.inj hline
      exact .remark (Text.forall_mem (by decide +kernel)) (by decide +kernel)
    · obtain rfl := Option.some.inj hline
      exact .code (by decide +kernel)
    · obtain rfl := Option.some.inj hline
      exact .code (by decide +kernel)
    · cases hline
  · rw [hpieces, hpieces']
    exact .cons (.inl rfl) (.cons (.inr ⟨_, _, hmatrix, by decide +kernel, by decide +kernel⟩)
      (.cons (.inr ⟨_, _, hvector, by decide +kernel, by decide +kernel⟩) .nil))
  · have hline : tidy.pieces[1]? = some "uniform mat4 m;".toList := by rw [hpieces]; rfl
    have hearlier : askedBefore tidy 1 = [] := by decide +kernel
    have hbinding := hinserts 1 _ _ _ hline hmatrix (by decide +kernel) {} .vertex
    rwa [layoutFor, hearlier] at hbinding

/-- A declaration with a remark behind it. -/
def remarked : Text :=
  "uniform mat4 m; // the model".toList

/-- A declaration that is commented out, in front of one that is not. -/
def crossedOut : Text :=
  "/*\nuniform mat4 old;\n*/\nuniform mat4 m;".toList

/-- Two arrays with a blank in front of their brackets. -/
def bracketed : Text :=
  "out vec3 a [2];\nout vec3 b [2];".toList

/-- The same without the blank. -/
def unbracketed : Text :=
  "out vec3 a[2];\nout vec3 b[2];".toList

/-- **Comments and spacing can matter.** The first declaration is overlooked, the second one gets
the binding of the one behind it, and the two arrays get one location. -/
theorem not_spelling_alike :
    ((assign {} .vertex remarked).1 = remarked ∧ ¬InsertsAlike remarked (mask remarked)) ∧
    ((assign {} .vertex crossedOut).1 = ("/*\nlayout(set = 0, binding = 0) uniform mat4 old;\n" ++
        "*/\nlayout(set = 0, binding = 1) uniform mat4 m;").toList ∧
      ¬InsertsAlike crossedOut (mask crossedOut)) ∧
    ((assign {} .vertex bracketed).1 =
        "layout(location = 0) out vec3 a [2];\nlayout(location = 0) out vec3 b [2];".toList ∧
      List.Forall₂ (fun line line' => ∃ tokens, Spaced tokens line ∧ Spaced tokens line')
        bracketed.pieces unbracketed.pieces ∧
      ¬InsertsAlike bracketed unbracketed) := by
  have hapart : ∀ {source source' : Text} (k : Nat), askedAt source k ≠ askedAt source' k →
      ¬InsertsAlike source source' := fun k hne h => hne ((insertsAlike_iff.mp h).asked k)
  refine ⟨⟨by decide +kernel, hapart 0 (by decide +kernel)⟩,
    ⟨by decide +kernel, hapart 1 (by decide +kernel)⟩,
    by decide +kernel, ?_, hapart 0 (by decide +kernel)⟩
  have hpieces : bracketed.pieces = ["out vec3 a [2];".toList, "out vec3 b [2];".toList] := by
    decide +kernel
  have hpieces' : unbracketed.pieces = ["out vec3 a[2];".toList, "out vec3 b[2];".toList] := by
    decide +kernel
  rw [hpieces, hpieces']
  refine .cons ⟨["out".toList, "vec3".toList, ['a'], ['['], ['2'], [']'], [';']], ?_, ?_⟩
    (.cons ⟨["out".toList, "vec3".toList, ['b'], ['['], ['2'], [']'], [';']], ?_, ?_⟩ .nil)
  all_goals decide +kernel

end ShaderBundle.Headless
