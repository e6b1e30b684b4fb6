import Mathlib.Data.List.TakeWhile
import ShaderBundle.Bundle.Entry

/-!
# The grammar of entry declarations

An entry mark is the sign `@entry` that no letter, digit or underscore continues. Behind it the
splitter wants the beginning of a function definition:

```text
type name ( parameters ) {
```

with blanks allowed between any two of these, with parentheses balanced among the parameters, and
with `type` and `name` identifiers that are read as far as they go. This file says so without a
scanner and shows that the scanner agrees, about what it accepts and about what it misses first.

## Scope

The grammar is what the splitter looks for and not what a compiler would accept. A type is one
identifier, so an entry function that returns an array has none; parameters are any text with
balanced parentheses; and nothing is said of what stands behind the brace. The scanner reads masked
text, so a comment between two parts counts as blanks, and the grammar need not mention comments at
all.

## What is missing first

A text that begins with no definition lacks one of five things, and the scanner reports the first.
`Lacks` has a constructor for each, and each constructor has the parts that were found before it. So
a cause is reported together with the proof that everything in front of it is there, and no two
causes can apply to one text. That every text has a definition or lacks something is
`lacks_or_declares`, and this alone makes equivalences of the two implications about the scanner.

## Implementation notes

`ReadsWord` and `ReadsSign` are structures that cut a text in three, since each part of a
declaration is found behind blanks and leaves a rest to read on in. Longest match is the field
`ends`. Without it a name could be read in several ways, and the scanner would agree with the
grammar about one of them only.

`Balanced` is an inductive predicate and the scanner has a counter. The counter says how many
parentheses are open, the predicate is about a text in which none is; the two meet in
`closeOthers?`, which is what is left to do for a counter that is not at its end.

## Main definitions

* `Entry.MarkAt s front`: a mark stands in `s` behind `front`.
* `Entry.Balanced`: parentheses match.
* `Entry.Declares lead name back`: the text `lead ++ name ++ back` begins with a definition of
  `name`.
* `Entry.Lacks s cause`: what is missing first, if no definition begins.

## Main results

* `Entry.marks_eq_fronts`: the positions of the marks.
* `Entry.scan_eq_ok_iff`, `Entry.scan_eq_error_iff`: the scanner and the grammar.
-/

namespace ShaderBundle.Entry

/-- A letter, digit or underscore comes first. -/
def StartsWord (s : Text) : Prop :=
  ∃ c rest, s = c :: rest ∧ isWordChar c = true

/-! ### Marks

The splitter knows a mark by the number of bytes in front of it. What stands in front of it is a
better name for the place, since it can be taken apart and put together; `fronts` lists these, in
the order of the marks. -/

/-- A mark stands in the text behind `front`. -/
def MarkAt (s front : Text) : Prop :=
  ∃ rest, s = front ++ sign ++ rest ∧ ¬StartsWord rest

/-- The parts of a text in front of its marks, in order. -/
def fronts : Text → List Text
  | [] => []
  | c :: rest =>
    if startsWithMark (c :: rest) then [] :: (fronts rest).map (c :: ·)
    else (fronts rest).map (c :: ·)

theorem not_startsWord_iff (s : Text) :
    ¬StartsWord s ↔ (match s with
      | [] => true
      | next :: _ => !isWordChar next) = true := by
  cases s with
  | nil => simp [StartsWord]
  | cons c rest => simp [StartsWord]

theorem startsWithMark_iff (s : Text) :
    startsWithMark s = true ↔ ∃ rest, s = sign ++ rest ∧ ¬StartsWord rest := by
  unfold startsWithMark
  rw [Bool.and_eq_true, List.isPrefixOf_iff_prefix]
  constructor
  · rintro ⟨⟨rest, rfl⟩, h⟩
    rw [List.drop_left] at h
    exact ⟨rest, rfl, (not_startsWord_iff rest).mpr h⟩
  · rintro ⟨rest, rfl, h⟩
    rw [List.drop_left]
    exact ⟨⟨rest, rfl⟩, (not_startsWord_iff rest).mp h⟩

theorem mem_fronts {s front : Text} : front ∈ fronts s ↔ MarkAt s front := by
  induction s generalizing front with
  | nil =>
    simp only [fronts, List.not_mem_nil, false_iff]
    rintro ⟨rest, h, -⟩
    simp [sign] at h
  | cons c rest ih =>
    -- a mark behind the first character is one of the rest
    have htail : front ∈ (fronts rest).map (c :: ·) ↔ front ≠ [] ∧ MarkAt (c :: rest) front := by
      rw [List.mem_map]
      constructor
      · rintro ⟨f, hf, rfl⟩
        obtain ⟨r, rfl, hr⟩ := ih.mp hf
        exact ⟨by simp, r, rfl, hr⟩
      · rintro ⟨hne, r, h, hr⟩
        cases front with
        | nil => exact absurd rfl hne
        | cons d f =>
          rw [List.cons_append, List.cons_append, List.cons.injEq] at h
          exact ⟨f, ih.mpr ⟨r, h.2, hr⟩, by rw [h.1]⟩
    -- a mark at the first character is what the scanner looks for
    have hhead : startsWithMark (c :: rest) = true ↔ MarkAt (c :: rest) [] :=
      startsWithMark_iff _
    rw [fronts]
    split
    · next h =>
      rw [List.mem_cons, htail]
      by_cases hne : front = []
      · simp [hne, hhead.mp h]
      · simp [hne]
    · next h =>
      rw [htail]
      by_cases hne : front = []
      · simpa [hne] using mt hhead.mpr h
      · simp [hne]

/-- The marks come in order. -/
theorem pairwise_fronts (s : Text) : (fronts s).Pairwise fun f g => f.length < g.length := by
  induction s with
  | nil => exact List.Pairwise.nil
  | cons c rest ih =>
    have htail : ((fronts rest).map (c :: ·)).Pairwise fun f g => f.length < g.length := by
      rw [List.pairwise_map]
      exact ih.imp fun h => Nat.succ_lt_succ h
    rw [fronts]
    split
    · refine List.pairwise_cons.mpr ⟨fun g hg => ?_, htail⟩
      obtain ⟨f, -, rfl⟩ := List.mem_map.mp hg
      exact Nat.succ_pos _
    · exact htail

theorem marksFrom_eq_fronts (position : Nat) (s : Text) :
    marksFrom position s = (fronts s).map fun front => position + front.size := by
  induction s generalizing position with
  | nil => rfl
  | cons c rest ih =>
    have htail : marksFrom (position + width c) rest =
        ((fronts rest).map (c :: ·)).map fun front => position + Text.size front := by
      rw [ih, List.map_map]
      refine List.map_congr_left fun front _ => ?_
      simp only [Function.comp_apply, Text.size_cons]
      omega
    rw [marksFrom, fronts, htail]
    split <;> simp

/-- The position of a mark is the size of what comes before it. -/
theorem marks_eq_fronts (s : Text) : marks s = (fronts s).map Text.size := by
  rw [marks, marksFrom_eq_fronts]
  simp

theorem marks_eq_nil_iff {s : Text} : marks s = [] ↔ ∀ front, ¬MarkAt s front := by
  rw [marks_eq_fronts, List.map_eq_nil_iff, List.eq_nil_iff_forall_not_mem]
  exact forall_congr' fun front => not_congr mem_fronts

/-! ### Identifiers and signs behind blanks

Blanks between the parts of a declaration are the five characters that the scanner skips, fewer than
those at which lines are trimmed. None of them continues an identifier, so it makes no difference
whether a blank or a sign ends one. -/

/-- An identifier: a letter or underscore, then letters, digits and underscores. -/
def IsWord (w : Text) : Prop :=
  ∃ c cs, w = c :: cs ∧ (c.isAlpha || c = '_') = true ∧ ∀ d ∈ cs, isWordChar d = true

/-- The blanks allowed between the parts of a declaration. -/
def IsGap (gap : Text) : Prop :=
  ∀ c ∈ gap, isScanBlank c = true

/-- Behind blanks an identifier comes, read as far as it goes. -/
structure ReadsWord (s gap w rest : Text) : Prop where
  /-- What the text consists of. -/
  text_eq : s = gap ++ w ++ rest
  /-- Nothing but blanks comes first. -/
  gap : IsGap gap
  /-- Then the identifier. -/
  word : IsWord w
  /-- The rest does not continue it. -/
  ends : ¬StartsWord rest

/-- Behind blanks a sign comes. -/
structure ReadsSign (s gap : Text) (c : Char) (rest : Text) : Prop where
  /-- What the text consists of. -/
  text_eq : s = gap ++ c :: rest
  /-- Nothing but blanks comes first. -/
  gap : IsGap gap

theorem isScanBlank_eq_false_of_isWordChar {c : Char} (h : isWordChar c = true) :
    isScanBlank c = false := by
  by_contra hblank
  rw [Bool.not_eq_false, isScanBlank] at hblank
  simp only [Bool.or_eq_true, decide_eq_true_eq] at hblank
  rcases hblank with (((rfl | rfl) | rfl) | rfl) | rfl <;> revert h <;> decide

theorem isWordChar_of_isAlpha {c : Char} (h : (c.isAlpha || c = '_') = true) :
    isWordChar c = true := by
  rw [Bool.or_eq_true] at h
  rw [isWordChar, Bool.or_eq_true, Char.isAlphanum, Bool.or_eq_true]
  exact h.imp Or.inl id

theorem skip_gap_append {gap : Text} (h : IsGap gap) (s : Text) : skip (gap ++ s) = skip s := by
  rw [skip, skip, List.dropWhile_append_of_pos h]

theorem skip_cons {c : Char} (h : isScanBlank c = false) (s : Text) : skip (c :: s) = c :: s := by
  rw [skip, List.dropWhile_cons_of_neg (by simp [h])]

theorem exists_gap_append_skip (s : Text) : ∃ gap, IsGap gap ∧ s = gap ++ skip s :=
  ⟨s.takeWhile isScanBlank, fun _ hc => List.mem_takeWhile_imp hc,
    (List.takeWhile_append_dropWhile ..).symm⟩

theorem not_startsWord_dropWhile (s : Text) : ¬StartsWord (s.dropWhile isWordChar) := by
  rintro ⟨c, rest, hs, hc⟩
  have := List.head?_dropWhile_not isWordChar s
  rw [hs, List.head?_cons] at this
  exact absurd (hc.symm.trans this) (by decide)

theorem takeWhile_of_not_startsWord {s : Text} (h : ¬StartsWord s) :
    s.takeWhile isWordChar = [] ∧ s.dropWhile isWordChar = s := by
  cases s with
  | nil => exact ⟨rfl, rfl⟩
  | cons c rest =>
    have hc : ¬isWordChar c = true := fun hc => h ⟨c, rest, rfl, hc⟩
    exact ⟨List.takeWhile_cons_of_neg hc, List.dropWhile_cons_of_neg hc⟩

theorem identifier?_eq_some_iff {s w rest : Text} :
    identifier? s = some (w, rest) ↔ s = w ++ rest ∧ IsWord w ∧ ¬StartsWord rest := by
  constructor
  · intro h
    cases s with
    | nil => simp [identifier?] at h
    | cons c s =>
      rw [identifier?] at h
      split at h
      · next hc =>
        rw [Option.some.injEq, Prod.mk.injEq] at h
        obtain ⟨rfl, rfl⟩ := h
        refine ⟨?_, ⟨c, s.takeWhile isWordChar, rfl, hc, ?_⟩, not_startsWord_dropWhile s⟩
        · rw [List.cons_append, List.takeWhile_append_dropWhile]
        · exact fun d hd => List.mem_takeWhile_imp hd
      · simp at h
  · rintro ⟨rfl, ⟨c, cs, rfl, hc, hcs⟩, hrest⟩
    obtain ⟨htake, hdrop⟩ := takeWhile_of_not_startsWord hrest
    rw [List.cons_append, identifier?, if_pos hc, List.takeWhile_append_of_pos hcs,
      List.dropWhile_append_of_pos hcs, htake, hdrop, List.append_nil]

/-- The scanner reads an identifier behind blanks just where there is one. -/
theorem identifier?_skip_iff {s w rest : Text} :
    identifier? (skip s) = some (w, rest) ↔ ∃ gap, ReadsWord s gap w rest := by
  constructor
  · intro h
    obtain ⟨gap, hgap, hs⟩ := exists_gap_append_skip s
    obtain ⟨htext, hword, hends⟩ := identifier?_eq_some_iff.mp h
    refine ⟨gap, ⟨?_, hgap, hword, hends⟩⟩
    rw [List.append_assoc, ← htext]
    exact hs
  · rintro ⟨gap, rfl, hgap, hword, hends⟩
    obtain ⟨c, cs, rfl, hc, hcs⟩ := hword
    have hblank := isScanBlank_eq_false_of_isWordChar (isWordChar_of_isAlpha hc)
    rw [List.append_assoc, skip_gap_append hgap, List.cons_append, skip_cons hblank]
    exact identifier?_eq_some_iff.mpr ⟨rfl, ⟨c, cs, rfl, hc, hcs⟩, hends⟩

theorem identifier?_skip_eq_none_iff {s : Text} :
    identifier? (skip s) = none ↔ ∀ gap w rest, ¬ReadsWord s gap w rest := by
  rw [Option.eq_none_iff_forall_ne_some]
  constructor
  · exact fun h gap w rest hread => h (w, rest) (identifier?_skip_iff.mpr ⟨gap, hread⟩)
  · rintro h ⟨w, rest⟩ hread
    obtain ⟨gap, hread⟩ := identifier?_skip_iff.mp hread
    exact h gap w rest hread

/-- The scanner finds a sign behind blanks just where there is one. -/
theorem skip_eq_cons_iff {c : Char} (hc : isScanBlank c = false) {s rest : Text} :
    skip s = c :: rest ↔ ∃ gap, ReadsSign s gap c rest := by
  constructor
  · intro h
    obtain ⟨gap, hgap, hs⟩ := exists_gap_append_skip s
    rw [h] at hs
    exact ⟨gap, hs, hgap⟩
  · rintro ⟨gap, rfl, hgap⟩
    rw [skip_gap_append hgap, skip_cons hc]

/-! ### Parentheses

The scanner looks for the parenthesis that closes the one it has passed. What lies before it is
balanced, and conversely behind a balanced text the first parenthesis that closes is the one that is
looked for. -/

/-- Every parenthesis in the text is closed in it. -/
inductive Balanced : Text → Prop where
  | nil : Balanced []
  | other {c : Char} {s : Text} (hopen : c ≠ '(') (hclose : c ≠ ')') (h : Balanced s) :
    Balanced (c :: s)
  | nest {s t : Text} (hs : Balanced s) (ht : Balanced t) : Balanced ('(' :: s ++ ')' :: t)

theorem closeParens?_open (depth : Nat) (s : Text) :
    closeParens? depth ('(' :: s) = closeParens? (depth + 1) s := by
  cases depth <;> simp [closeParens?]

/-- What is left of a text when one of `depth + 1` open parenthesis has been closed before it. -/
def closeOthers? : Nat → Text → Option Text
  | 0, s => some s
  | outer + 1, s => closeParens? outer s

theorem closeParens?_close (depth : Nat) (s : Text) :
    closeParens? depth (')' :: s) = closeOthers? depth s := by
  cases depth <;> simp [closeParens?, closeOthers?]

theorem closeParens?_other {c : Char} (hopen : c ≠ '(') (hclose : c ≠ ')') (depth : Nat)
    (s : Text) : closeParens? depth (c :: s) = closeParens? depth s := by
  cases depth <;> simp [closeParens?, hopen, hclose]

/-- What the scanner finds behind a balanced text and a closing parenthesis. -/
theorem closeParens?_balanced_append {p : Text} (h : Balanced p) (depth : Nat) (s : Text) :
    closeParens? depth (p ++ ')' :: s) = closeOthers? depth s := by
  induction h generalizing depth s with
  | nil => exact closeParens?_close depth s
  | other hopen hclose _ ih => rw [List.cons_append, closeParens?_other hopen hclose, ih]
  | @nest p q _ _ ihp ihq =>
    have hassoc : '(' :: p ++ ')' :: q ++ ')' :: s = '(' :: (p ++ ')' :: (q ++ ')' :: s)) := by
      simp
    rw [hassoc, closeParens?_open, ihp]
    exact ihq depth s

/-- Whatever the scanner closes is balanced. The text is cut at its first parenthesis that is closed
in it, so the induction is on its length. -/
theorem exists_balanced_of_closeParens? {depth : Nat} {s rest : Text}
    (h : closeParens? depth s = some rest) :
    ∃ p t, Balanced p ∧ s = p ++ ')' :: t ∧ closeOthers? depth t = some rest := by
  obtain ⟨n, hn⟩ : ∃ n, s.length = n := ⟨_, rfl⟩
  induction n using Nat.strong_induction_on generalizing depth s with
  | _ n ih =>
  cases s with
  | nil => simp [closeParens?] at h
  | cons c s =>
    rw [List.length_cons] at hn
    -- an open parenthesis: what closes it, and then what closes the one before
    by_cases hopen : c = '('
    · subst hopen
      rw [closeParens?_open] at h
      obtain ⟨p, t, hp, rfl, ht⟩ := ih s.length (by omega) h rfl
      rw [List.length_append, List.length_cons] at hn
      obtain ⟨q, u, hq, rfl, hu⟩ := ih t.length (by omega) ht rfl
      exact ⟨'(' :: p ++ ')' :: q, u, .nest hp hq, by simp, hu⟩
    -- a closing one ends the search, anything else belongs to the balanced text
    · by_cases hclose : c = ')'
      · subst hclose
        rw [closeParens?_close] at h
        exact ⟨[], s, .nil, rfl, h⟩
      · rw [closeParens?_other hopen hclose] at h
        obtain ⟨p, t, hp, rfl, ht⟩ := ih s.length (by omega) h rfl
        exact ⟨c :: p, t, .other hopen hclose hp, rfl, ht⟩

theorem closeParens?_eq_some_iff {s rest : Text} :
    closeParens? 0 s = some rest ↔ ∃ p, Balanced p ∧ s = p ++ ')' :: rest := by
  constructor
  · intro h
    obtain ⟨p, t, hp, hs, ht⟩ := exists_balanced_of_closeParens? h
    rw [closeOthers?, Option.some.injEq] at ht
    exact ⟨p, hp, ht ▸ hs⟩
  · rintro ⟨p, hp, rfl⟩
    exact closeParens?_balanced_append hp 0 rest

theorem closeParens?_eq_none_iff {s : Text} :
    closeParens? 0 s = none ↔ ∀ p rest, Balanced p → s ≠ p ++ ')' :: rest := by
  rw [Option.eq_none_iff_forall_ne_some]
  constructor
  · exact fun h p rest hp hs => h rest (closeParens?_eq_some_iff.mpr ⟨p, hp, hs⟩)
  · intro h rest hs
    obtain ⟨p, hp, hs⟩ := closeParens?_eq_some_iff.mp hs
    exact h p rest hp hs

/-! ### Definitions

The parts are read one after the other, each where the one before it left off. The names of the
parts in `Declares` and in `Lacks` are the same, so that a proof can go from one to the other. -/

/-- What stands behind a mark begins with the definition of a function: `lead` is the type with
blanks around it, and `back` is the parameters and the brace that opens the body. -/
def Declares (lead name back : Text) : Prop :=
  ∃ gap₁ type gap₂ gap₃ inner params after gap₄ body,
    lead = gap₁ ++ type ++ gap₂ ∧
      ReadsWord (lead ++ name ++ back) gap₁ type (gap₂ ++ name ++ back) ∧
      ReadsWord (gap₂ ++ name ++ back) gap₂ name back ∧
      ReadsSign back gap₃ '(' inner ∧
      Balanced params ∧ inner = params ++ ')' :: after ∧
      ReadsSign after gap₄ '{' body

/-- What is missing first behind a mark, if no function is defined there. -/
inductive Lacks (s : Text) : EntryFault → Prop where
  | noDeclaration (htype : ∀ gap w rest, ¬ReadsWord s gap w rest) : Lacks s .noDeclaration
  | noName {gap₁ type afterType : Text} (htype : ReadsWord s gap₁ type afterType)
    (hname : ∀ gap w rest, ¬ReadsWord afterType gap w rest) : Lacks s .noName
  | noParameters {gap₁ type afterType gap₂ name afterName : Text}
    (htype : ReadsWord s gap₁ type afterType) (hname : ReadsWord afterType gap₂ name afterName)
    (hopen : ∀ gap rest, ¬ReadsSign afterName gap '(' rest) : Lacks s .noParameters
  | openParameters {gap₁ type afterType gap₂ name afterName gap₃ inner : Text}
    (htype : ReadsWord s gap₁ type afterType) (hname : ReadsWord afterType gap₂ name afterName)
    (hopen : ReadsSign afterName gap₃ '(' inner)
    (hclose : ∀ params rest, Balanced params → inner ≠ params ++ ')' :: rest) :
    Lacks s .openParameters
  | noBody {gap₁ type afterType gap₂ name afterName gap₃ inner params after : Text}
    (htype : ReadsWord s gap₁ type afterType) (hname : ReadsWord afterType gap₂ name afterName)
    (hopen : ReadsSign afterName gap₃ '(' inner)
    (hclose : Balanced params ∧ inner = params ++ ')' :: after)
    (hbody : ∀ gap rest, ¬ReadsSign after gap '{' rest) : Lacks s .noBody

theorem skip_ne_cons {c : Char} (hc : isScanBlank c = false) {s : Text}
    (h : ∀ gap rest, ¬ReadsSign s gap c rest) : ∀ rest, skip s ≠ c :: rest := by
  intro rest hs
  obtain ⟨gap, hread⟩ := (skip_eq_cons_iff hc).mp hs
  exact h gap rest hread

theorem scan_of_lacks {s : Text} {cause : EntryFault} (h : Lacks s cause) :
    scan s = .error cause := by
  cases h with
  | noDeclaration htype => rw [scan, identifier?_skip_eq_none_iff.mpr htype]
  | noName htype hname =>
    rw [scan, identifier?_skip_iff.mpr ⟨_, htype⟩]
    simp only [identifier?_skip_eq_none_iff.mpr hname]
  | noParameters htype hname hopen =>
    rw [scan, identifier?_skip_iff.mpr ⟨_, htype⟩]
    simp only [identifier?_skip_iff.mpr ⟨_, hname⟩]
    split
    · next rest hskip => exact absurd hskip (skip_ne_cons (by decide) hopen rest)
    · rfl
  | openParameters htype hname hopen hclose =>
    rw [scan, identifier?_skip_iff.mpr ⟨_, htype⟩]
    simp only [identifier?_skip_iff.mpr ⟨_, hname⟩, (skip_eq_cons_iff (by decide)).mpr ⟨_, hopen⟩,
      closeParens?_eq_none_iff.mpr hclose]
  | noBody htype hname hopen hclose hbody =>
    rw [scan, identifier?_skip_iff.mpr ⟨_, htype⟩]
    simp only [identifier?_skip_iff.mpr ⟨_, hname⟩, (skip_eq_cons_iff (by decide)).mpr ⟨_, hopen⟩,
      closeParens?_eq_some_iff.mpr ⟨_, hclose⟩]
    split
    · next rest hskip => exact absurd hskip (skip_ne_cons (by decide) hbody rest)
    · rfl

/-- Where a function is defined the scanner finds its name. -/
theorem scan_of_declares {lead name back : Text} (h : Declares lead name back) :
    scan (lead ++ name ++ back) = .ok ⟨lead.size, name⟩ := by
  obtain ⟨gap₁, type, gap₂, gap₃, inner, params, after, gap₄, body, hlead, htype, hname, hopen,
    hparams, hinner, hbody⟩ := h
  have hskip : skip (gap₂ ++ name ++ back) = name ++ back := by
    obtain ⟨c, cs, rfl, hc, -⟩ := hname.word
    rw [List.append_assoc, skip_gap_append hname.gap, List.cons_append,
      skip_cons (isScanBlank_eq_false_of_isWordChar (isWordChar_of_isAlpha hc))]
  have hread : identifier? (name ++ back) = some (name, back) := by
    rw [← hskip]
    exact identifier?_skip_iff.mpr ⟨_, hname⟩
  rw [scan, identifier?_skip_iff.mpr ⟨_, htype⟩]
  simp only [hskip, hread, (skip_eq_cons_iff (by decide)).mpr ⟨_, hopen⟩,
    closeParens?_eq_some_iff.mpr ⟨_, hparams, hinner⟩,
    (skip_eq_cons_iff (by decide)).mpr ⟨_, hbody⟩, Text.size_append]
  congr 2
  omega

/-- A definition begins behind a mark, or something is missing first. -/
theorem lacks_or_declares (s : Text) :
    (∃ cause, Lacks s cause) ∨
      ∃ lead name back, s = lead ++ name ++ back ∧ Declares lead name back := by
  by_cases htype : ∀ gap w rest, ¬ReadsWord s gap w rest
  · exact Or.inl ⟨_, .noDeclaration htype⟩
  simp only [not_forall, not_not] at htype
  obtain ⟨gap₁, type, afterType, htype⟩ := htype
  by_cases hname : ∀ gap w rest, ¬ReadsWord afterType gap w rest
  · exact Or.inl ⟨_, .noName htype hname⟩
  simp only [not_forall, not_not] at hname
  obtain ⟨gap₂, name, back, hname⟩ := hname
  by_cases hopen : ∀ gap rest, ¬ReadsSign back gap '(' rest
  · exact Or.inl ⟨_, .noParameters htype hname hopen⟩
  simp only [not_forall, not_not] at hopen
  obtain ⟨gap₃, inner, hopen⟩ := hopen
  by_cases hclose : ∀ params rest, Balanced params → inner ≠ params ++ ')' :: rest
  · exact Or.inl ⟨_, .openParameters htype hname hopen hclose⟩
  simp only [not_forall, not_not] at hclose
  obtain ⟨params, after, hparams, hinner⟩ := hclose
  by_cases hbody : ∀ gap rest, ¬ReadsSign after gap '{' rest
  · exact Or.inl ⟨_, .noBody htype hname hopen ⟨hparams, hinner⟩ hbody⟩
  simp only [not_forall, not_not] at hbody
  obtain ⟨gap₄, body, hbody⟩ := hbody
  -- nothing is missing: the parts, put together again
  have hafter := hname.text_eq
  subst hafter
  have hs : s = gap₁ ++ type ++ gap₂ ++ name ++ back := by
    rw [htype.text_eq]
    simp only [List.append_assoc]
  rw [hs] at htype
  exact Or.inr ⟨gap₁ ++ type ++ gap₂, name, back, hs, gap₁, type, gap₂, gap₃, inner, params, after,
    gap₄, body, rfl, htype, hname, hopen, hparams, hinner, hbody⟩

/-- **The scanner accepts the definitions of the grammar.** -/
theorem scan_eq_ok_iff {s : Text} {found : Name} :
    scan s = .ok found ↔ ∃ lead back, s = lead ++ found.text ++ back ∧ found.lead = lead.size ∧
      Declares lead found.text back := by
  constructor
  · intro h
    rcases lacks_or_declares s with ⟨cause, hlacks⟩ | ⟨lead, name, back, rfl, hdeclares⟩
    · rw [scan_of_lacks hlacks] at h
      simp at h
    · rw [scan_of_declares hdeclares, Except.ok.injEq] at h
      subst h
      exact ⟨lead, back, rfl, rfl, hdeclares⟩
  · rintro ⟨lead, back, rfl, hlead, hdeclares⟩
    rw [scan_of_declares hdeclares, ← hlead]

/-- **Otherwise it says what is missing first.** -/
theorem scan_eq_error_iff {s : Text} {cause : EntryFault} :
    scan s = .error cause ↔ Lacks s cause := by
  refine ⟨fun h => ?_, scan_of_lacks⟩
  rcases lacks_or_declares s with ⟨cause', hlacks⟩ | ⟨lead, name, back, rfl, hdeclares⟩
  · rw [scan_of_lacks hlacks, Except.error.injEq] at h
    exact h ▸ hlacks
  · rw [scan_of_declares hdeclares] at h
    simp at h

end ShaderBundle.Entry
