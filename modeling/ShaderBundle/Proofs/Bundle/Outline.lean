import Mathlib.Data.List.TakeWhile
import Mathlib.Data.Nat.Find
import ShaderBundle.Bundle.Outline
import ShaderBundle.Proofs.Text.Words

/-!
# What an outline knows

The outline of a file is gathered in one pass over its masked lines. Here it is compared with what
the lines themselves say: which of them open a stage, which of those come first for their stage, and
which pragmas are out of place.

`Outline.Knows options lines n outline` is the invariant of the pass, for an outline of the first
`n` lines. It is restored by every line (`Knows.addLine`) and so holds of the whole file
(`knows_ofLines`).

## Which pragma is to blame

Two things can be wrong with a pragma. It repeats a stage, or it is unknown and the options do not
let it through. Only one of them is ever reported, the first in file order. The invariant has to say
this with an equivalence, `problem`: that a problem is recorded exactly if a first pragma out of
place exists. From the equivalence one gets both what an error means and that a file without such a
pragma has none, and the step lemma gets no harder than with one direction. A line can deserve one
error only (`Misplaced.unique`), or it would matter which one is recorded.

## Lines that open a stage

`Opens` speaks of any line with the pragma of a stage, `OpensFirst` of the first one for its stage.
An outline has a marker for the latter only; the two coincide when no pragma is out of place
(`Opens.first_of_not_misplaced`), and then the markers are all the lines that open a stage.

## Implementation notes

Lines are addressed by index, so that a statement about the first `n` of them can be about the same
list of lines for every `n`. An invariant about the lines that were read would have another list in
each step.

The reader of directives drops blanks and compares prefixes. `IsDirective` says what it accepts as a
concatenation, which is the form in which pragmas are used in all later modules.

## Main definitions

* `Directive.IsPragma`, `Directive.IsVersion`: directives, said without a scanner.
* `Opens`, `OpensFirst`: a line opens a stage, and does so before all others.
* `HeaderEnds`: where the header of a file ends.
* `Misplaced`: a pragma is out of place, with the error it deserves.

## Main results

* `Outline.knows_ofLines`: the outline of a file knows the file.
* `Outline.Knows.mem_markers_iff`, `Outline.Knows.headerEnds`, `Outline.mem_missing_iff`: what is
  then read off it.
-/

namespace ShaderBundle

/-! ### Directives

Behind the name of a pragma comes a blank or nothing, so `#pragmatic` is none and `#pragma` alone is
one with an empty argument. Behind the name of a version directive comes a blank. The two differ in
the reader, and so they do here. -/

namespace Directive

/-- A number sign behind blanks, the name of the directive behind more blanks, and the rest. -/
def IsDirective (name line rest : Text) : Prop :=
  ∃ indent gap, line = indent ++ '#' :: (gap ++ name ++ rest) ∧
    (∀ c ∈ indent, isBlank c = true) ∧ ∀ c ∈ gap, isBlank c = true

/-- A pragma with its argument. The name has to end where it ends. -/
def IsPragma (line argument : Text) : Prop :=
  ∃ rest, IsDirective ['p', 'r', 'a', 'g', 'm', 'a'] line rest ∧
    (∀ c, rest.head? = some c → isBlank c = true) ∧ argument = rest.trim

/-- A version directive: the name and then a blank. -/
def IsVersion (line : Text) : Prop :=
  ∃ c rest, IsDirective ['v', 'e', 'r', 's', 'i', 'o', 'n'] line (c :: rest) ∧ isBlank c = true

/-- The reader of directives finds just what is there. -/
theorem after?_eq_some_iff {n : Char} {name : Text} (hn : isBlank n = false) {line rest : Text} :
    after? (n :: name) line = some rest ↔ IsDirective (n :: name) line rest := by
  constructor
  · intro h
    -- what is found: the blanks dropped on either side of the sign are the indent and the gap
    obtain ⟨indent, hindent, hline⟩ := Text.exists_blanks_append_trimStart line
    rw [after?] at h
    split at h
    · next behind htrim =>
      obtain ⟨gap, hgap, hbehind⟩ := Text.exists_blanks_append_trimStart behind
      simp only at h
      split at h
      · next hbegins =>
        obtain ⟨tail, htail⟩ := List.isPrefixOf_iff_prefix.mp hbegins
        rw [Option.some.injEq, ← htail, List.drop_left] at h
        refine ⟨indent, gap, ?_, hindent, hgap⟩
        rw [hline, htrim, hbehind, ← htail, h, List.append_assoc]
      · simp at h
    · simp at h
  -- what is there is found: each time blanks are dropped, the next character is none
  · rintro ⟨indent, gap, rfl, hindent, hgap⟩
    have hname : Text.trimStart (gap ++ n :: name ++ rest) = n :: name ++ rest := by
      rw [List.append_assoc, Text.trimStart_append hgap, List.cons_append, Text.trimStart_cons hn]
    rw [after?, Text.trimStart_append hindent, Text.trimStart_cons (by decide)]
    simp only [hname, List.drop_left]
    rw [if_pos (List.isPrefixOf_iff_prefix.mpr ⟨rest, rfl⟩)]

theorem pragma?_eq_some_iff {line argument : Text} :
    pragma? line = some argument ↔ IsPragma line argument := by
  have hafter : ∀ rest, after? ['p', 'r', 'a', 'g', 'm', 'a'] line = some rest ↔
      IsDirective ['p', 'r', 'a', 'g', 'm', 'a'] line rest :=
    fun rest => after?_eq_some_iff (by decide)
  constructor
  · intro h
    rw [pragma?] at h
    split at h
    · next hsome =>
      refine ⟨[], (hafter _).mp hsome, by simp, ?_⟩
      rw [Option.some.injEq] at h
      rw [← h]
      rfl
    · next c rest hsome =>
      split at h
      · next hc =>
        rw [Option.some.injEq] at h
        exact ⟨c :: rest, (hafter _).mp hsome, by simpa using hc, h.symm⟩
      · simp at h
    · simp at h
  · rintro ⟨rest, hdirective, hblank, rfl⟩
    rw [pragma?, (hafter rest).mpr hdirective]
    cases rest with
    | nil => rfl
    | cons c rest => exact if_pos (hblank c rfl)

theorem isVersion_iff {line : Text} : isVersion line = true ↔ IsVersion line := by
  have hafter : ∀ rest, after? ['v', 'e', 'r', 's', 'i', 'o', 'n'] line = some rest ↔
      IsDirective ['v', 'e', 'r', 's', 'i', 'o', 'n'] line rest :=
    fun rest => after?_eq_some_iff (by decide)
  constructor
  · intro h
    rw [isVersion] at h
    split at h
    · next c rest hsome => exact ⟨c, rest, (hafter _).mp hsome, h⟩
    · simp at h
  · rintro ⟨c, rest, hdirective, hc⟩
    rw [isVersion, (hafter _).mpr hdirective]
    exact hc

theorem IsPragma.unique {line a b : Text} (ha : IsPragma line a) (hb : IsPragma line b) :
    a = b := by
  rw [← pragma?_eq_some_iff] at ha hb
  exact Option.some.inj (ha.symm.trans hb)

end Directive

/-! ### Lines that open a stage -/

theorem Stage.ofName?_eq_some_iff {argument : Text} {stage : Stage} :
    Stage.ofName? argument = some stage ↔ argument = stage.name.toList := by
  constructor
  · intro h
    have := List.find?_some h
    exact (eq_of_beq this).symm
  · rintro rfl
    exact Stage.ofName?_name stage

theorem Stage.name_injective {a b : Stage} (h : a.name.toList = b.name.toList) : a = b := by
  have hb := Stage.ofName?_name b
  rw [← h, Stage.ofName?_name, Option.some.injEq] at hb
  exact hb

/-- The line with index `i` opens a stage. -/
def Opens (lines : List Text) (i : Nat) (stage : Stage) : Prop :=
  ∃ line, lines[i]? = some line ∧ Directive.IsPragma line stage.name.toList

/-- The line with index `i` opens a stage that no line before it opens. -/
def OpensFirst (lines : List Text) (i : Nat) (stage : Stage) : Prop :=
  Opens lines i stage ∧ ∀ j < i, ¬Opens lines j stage

/-- The pragma on the line with index `i` is out of place: it repeats a stage, or it neither names a
stage nor is let through. -/
inductive Misplaced (options : SplitOptions) (lines : List Text) (i : Nat) : SplitError → Prop where
  | duplicate {first : Nat} {stage : Stage} (hfirst : OpensFirst lines first stage)
    (hlt : first < i) (hopens : Opens lines i stage) :
    Misplaced options lines i (.malformed (some stage) (.spanning (first + 1) (i + 1))
      (.duplicate stage (first + 1)))
  | unknown {line argument : Text} (hline : lines[i]? = some line)
    (hpragma : Directive.IsPragma line argument)
    (hname : ∀ stage : Stage, argument ≠ stage.name.toList)
    (hrefused : ¬(options.nativePragmas = true ∧ Directive.isForCompiler argument = true)) :
    Misplaced options lines i (.malformed none (.single (i + 1)) (.unknownPragma argument))

/-- The first pragma out of place among the first `n` lines. -/
def FirstMisplaced (options : SplitOptions) (lines : List Text) (n : Nat) (e : SplitError) : Prop :=
  ∃ i < n, Misplaced options lines i e ∧ ∀ j < i, ∀ e', ¬Misplaced options lines j e'

/-- The header is the first `n` lines: the next line opens a stage, and none of them does. -/
def HeaderEnds (lines : List Text) (n : Nat) : Prop :=
  (∃ stage, Opens lines n stage) ∧ ∀ i < n, ∀ stage, ¬Opens lines i stage

variable {options : SplitOptions} {lines : List Text}

theorem Opens.lt_length {i : Nat} {stage : Stage} (h : Opens lines i stage) : i < lines.length := by
  obtain ⟨line, hline, -⟩ := h
  exact (List.getElem?_eq_some_iff.mp hline).1

theorem Misplaced.lt_length {i : Nat} {e : SplitError} (h : Misplaced options lines i e) :
    i < lines.length := by
  cases h with
  | duplicate hfirst hlt hopens => exact hopens.lt_length
  | unknown hline hpragma hname hrefused => exact (List.getElem?_eq_some_iff.mp hline).1

theorem Opens.unique {i : Nat} {a b : Stage} (ha : Opens lines i a) (hb : Opens lines i b) :
    a = b := by
  obtain ⟨line, hline, hpragma⟩ := ha
  obtain ⟨line', hline', hpragma'⟩ := hb
  rw [hline, Option.some.injEq] at hline'
  subst hline'
  exact Stage.name_injective (hpragma.unique hpragma')

theorem OpensFirst.unique {i j : Nat} {stage : Stage} (hi : OpensFirst lines i stage)
    (hj : OpensFirst lines j stage) : i = j := by
  rcases Nat.lt_trichotomy i j with h | h | h
  · exact absurd hi.1 (hj.2 i h)
  · exact h
  · exact absurd hj.1 (hi.2 j h)

theorem HeaderEnds.unique {m n : Nat} (hm : HeaderEnds lines m) (hn : HeaderEnds lines n) :
    m = n := by
  obtain ⟨⟨stage, hstage⟩, hbefore⟩ := hm
  obtain ⟨⟨stage', hstage'⟩, hbefore'⟩ := hn
  rcases Nat.lt_trichotomy m n with h | h | h
  · exact absurd hstage (hbefore' m h stage)
  · exact h
  · exact absurd hstage' (hbefore n h stage')

/-- A pragma out of place deserves one error only. -/
theorem Misplaced.unique {i : Nat} {e e' : SplitError} (h : Misplaced options lines i e)
    (h' : Misplaced options lines i e') : e = e' := by
  cases h with
  | duplicate hfirst hlt hopens =>
    cases h' with
    | duplicate hfirst' hlt' hopens' =>
      obtain rfl := hopens.unique hopens'
      rw [hfirst.unique hfirst']
    | unknown hline hpragma hname hrefused =>
      obtain ⟨line, hline', hpragma'⟩ := hopens
      rw [hline, Option.some.injEq] at hline'
      subst hline'
      exact absurd (hpragma.unique hpragma') (hname _)
  | unknown hline hpragma hname hrefused =>
    cases h' with
    | duplicate hfirst hlt hopens =>
      obtain ⟨line, hline', hpragma'⟩ := hopens
      rw [hline, Option.some.injEq] at hline'
      subst hline'
      exact absurd (hpragma.unique hpragma') (hname _)
    | unknown hline' hpragma' hname' hrefused' =>
      rw [hline, Option.some.injEq] at hline'
      subst hline'
      rw [hpragma.unique hpragma']

/-- A pragma is the first one out of place among one more line if it was before, or if it is on that
line. -/
theorem firstMisplaced_succ_iff {n : Nat} {e : SplitError} :
    FirstMisplaced options lines (n + 1) e ↔
      FirstMisplaced options lines n e ∨
        Misplaced options lines n e ∧ ∀ i < n, ∀ e', ¬Misplaced options lines i e' := by
  constructor
  · rintro ⟨i, hi, hmisplaced, hbefore⟩
    rcases Nat.lt_succ_iff_lt_or_eq.mp hi with hlt | rfl
    · exact Or.inl ⟨i, hlt, hmisplaced, hbefore⟩
    · exact Or.inr ⟨hmisplaced, hbefore⟩
  · rintro (⟨i, hi, hmisplaced, hbefore⟩ | ⟨hmisplaced, hbefore⟩)
    · exact ⟨i, Nat.lt_succ_of_lt hi, hmisplaced, hbefore⟩
    · exact ⟨n, Nat.lt_succ_self n, hmisplaced, hbefore⟩

/-- If no pragma is the first one out of place, then none is out of place at all. -/
theorem not_misplaced_of_not_first {n : Nat} (h : ∀ e, ¬FirstMisplaced options lines n e) :
    ∀ i < n, ∀ e, ¬Misplaced options lines i e := by
  intro i
  induction i using Nat.strong_induction_on with
  | _ i ih =>
    intro hi e hmisplaced
    exact h e ⟨i, hi, hmisplaced, fun j hj => ih j hj (Nat.lt_trans hj hi)⟩

/-- A line that is the first to open its stage is in place. -/
theorem OpensFirst.not_misplaced {i : Nat} {stage : Stage} (h : OpensFirst lines i stage)
    (e : SplitError) : ¬Misplaced options lines i e := by
  rintro (⟨hfirst, hlt, hopens⟩ | ⟨hline, hpragma, hname, -⟩)
  · obtain rfl := hopens.unique h.1
    exact h.2 _ hlt hfirst.1
  · obtain ⟨line, hline', hpragma'⟩ := h.1
    rw [hline, Option.some.injEq] at hline'
    subst hline'
    exact hname stage (hpragma.unique hpragma')

/-- Without a pragma out of place, every line that opens a stage is the first to do so. -/
theorem Opens.first_of_not_misplaced {i : Nat} {stage : Stage} (h : Opens lines i stage)
    (hnone : ∀ e, ¬Misplaced options lines i e) : OpensFirst lines i stage := by
  have hex : ∃ j, Opens lines j stage := ⟨i, h⟩
  classical
  have hfirst : OpensFirst lines (Nat.find hex) stage :=
    ⟨Nat.find_spec hex, fun j hj => Nat.find_min hex hj⟩
  rcases Nat.lt_or_eq_of_le (Nat.find_min' hex h) with hlt | heq
  · exact absurd (.duplicate hfirst hlt h) (hnone _)
  · rwa [heq] at hfirst

/-! ### The invariant of the pass

A line does one of three things to an outline: nothing, a marker more, or a problem if there is none
yet. There is one lemma for each, which does not look at the line but has what it needs to know of
it as a hypothesis. `Knows.addPragma` then only decides which of the three applies. -/

namespace Outline

/-- What an outline knows that was gathered from the first `n` lines. -/
structure Knows (options : SplitOptions) (lines : List Text) (n : Nat) (outline : Outline) :
    Prop where
  /-- A marker is the first line to open its stage. -/
  marker : ∀ m ∈ outline.markers, m.line < n ∧ OpensFirst lines m.line m.stage
  /-- Every stage that a line opens has a marker. -/
  found : ∀ i < n, ∀ stage, Opens lines i stage → ∃ m ∈ outline.markers, m.stage = stage
  /-- Markers are in file order. -/
  sorted : outline.markers.Pairwise fun m m' => m.line < m'.line
  /-- The problem is the first pragma out of place. -/
  problem : ∀ e, outline.problem = some e ↔ FirstMisplaced options lines n e

variable {n : Nat} {outline : Outline}

theorem knows_empty : Knows options lines 0 {} where
  marker m hm := by simp at hm
  found i hi := by omega
  sorted := List.Pairwise.nil
  problem e := by simp [FirstMisplaced]

/-- A line that opens no stage and is not out of place leaves the outline as it is. -/
theorem Knows.pass (h : Knows options lines n outline) (hopens : ∀ stage, ¬Opens lines n stage)
    (hplaced : ∀ e, ¬Misplaced options lines n e) : Knows options lines (n + 1) outline where
  marker m hm := ⟨Nat.lt_succ_of_lt (h.marker m hm).1, (h.marker m hm).2⟩
  found i hi stage hstage := by
    rcases Nat.lt_succ_iff_lt_or_eq.mp hi with hlt | rfl
    · exact h.found i hlt stage hstage
    · exact absurd hstage (hopens stage)
  sorted := h.sorted
  problem e := by
    rw [h.problem, firstMisplaced_succ_iff]
    simp [hplaced]

/-- A line that is out of place is reported, and opens no stage that was not open before. -/
theorem Knows.report (h : Knows options lines n outline) {e : SplitError}
    (hmisplaced : Misplaced options lines n e)
    (hopens : ∀ stage, Opens lines n stage → ∃ m ∈ outline.markers, m.stage = stage) :
    Knows options lines (n + 1) (outline.report e) where
  marker m hm := ⟨Nat.lt_succ_of_lt (h.marker m hm).1, (h.marker m hm).2⟩
  found i hi stage hstage := by
    rcases Nat.lt_succ_iff_lt_or_eq.mp hi with hlt | rfl
    · exact h.found i hlt stage hstage
    · exact hopens stage hstage
  sorted := h.sorted
  problem e' := by
    rw [firstMisplaced_succ_iff, ← h.problem]
    cases hproblem : outline.problem with
    -- An earlier pragma is to blame already, and stays so.
    | some earlier =>
      obtain ⟨i, hi, hearlier, -⟩ := (h.problem earlier).mp hproblem
      have hbefore : ¬∀ i < n, ∀ e', ¬Misplaced options lines i e' :=
        fun hnone => hnone i hi earlier hearlier
      simp [Outline.report, hproblem, hbefore]
    -- None is, so none of the lines before was out of place, and this one is the first.
    | none =>
      have hbefore : ∀ i < n, ∀ e', ¬Misplaced options lines i e' :=
        not_misplaced_of_not_first fun e' he' => by simpa [hproblem] using (h.problem e').mpr he'
      have hunique : e = e' ↔ Misplaced options lines n e' :=
        ⟨fun heq => heq ▸ hmisplaced, hmisplaced.unique⟩
      simpa [Outline.report, hproblem, hunique] using fun _ => hbefore

/-- A line that is the first to open its stage becomes a marker. -/
theorem Knows.addMarker (h : Knows options lines n outline) {stage : Stage}
    (hfirst : OpensFirst lines n stage) :
    Knows options lines (n + 1) { outline with markers := outline.markers ++ [⟨stage, n⟩] } where
  marker m hm := by
    rcases List.mem_append.mp hm with hold | hnew
    · exact ⟨Nat.lt_succ_of_lt (h.marker m hold).1, (h.marker m hold).2⟩
    · obtain rfl := List.mem_singleton.mp hnew
      exact ⟨Nat.lt_succ_self n, hfirst⟩
  found i hi stage' hstage := by
    rcases Nat.lt_succ_iff_lt_or_eq.mp hi with hlt | rfl
    · obtain ⟨m, hm, hname⟩ := h.found i hlt stage' hstage
      exact ⟨m, List.mem_append_left _ hm, hname⟩
    · exact ⟨⟨stage, i⟩, by simp, hfirst.1.unique hstage⟩
  sorted := by
    refine List.pairwise_append.mpr ⟨h.sorted, List.pairwise_singleton .., fun m hm m' hm' => ?_⟩
    obtain rfl := List.mem_singleton.mp hm'
    exact (h.marker m hm).1
  problem e := by
    rw [h.problem, firstMisplaced_succ_iff]
    simp [hfirst.not_misplaced]

theorem Knows.addPragma (h : Knows options lines n outline) {content argument : Text}
    (hline : lines[n]? = some content) (hpragma : Directive.IsPragma content argument) :
    Knows options lines (n + 1) (outline.addPragma options n argument) := by
  -- a pragma opens the stage that its argument names, and no other
  have hopens : ∀ stage, Opens lines n stage ↔ argument = stage.name.toList := by
    intro stage
    constructor
    · rintro ⟨content', hline', hpragma'⟩
      rw [hline, Option.some.injEq] at hline'
      exact hpragma.unique (hline' ▸ hpragma')
    · exact fun hname => ⟨content, hline, hname ▸ hpragma⟩
  rw [Outline.addPragma]
  split
  · next stage hname =>
    have hstage : Opens lines n stage := (hopens stage).mpr (Stage.ofName?_eq_some_iff.mp hname)
    split
    -- the stage has a marker: it was opened before
    · next first hfind =>
      have hmem := List.mem_of_find?_eq_some hfind
      obtain rfl : first.stage = stage := by simpa using List.find?_some hfind
      obtain ⟨hlt, hfirst⟩ := h.marker first hmem
      exact h.report (.duplicate hfirst hlt hstage) fun stage' hstage' =>
        ⟨first, hmem, hstage.unique hstage'⟩
    -- it has none, so this line is the first to open it
    · next hfind =>
      refine h.addMarker ⟨hstage, fun i hi hi' => ?_⟩
      obtain ⟨m, hm, hname'⟩ := h.found i hi stage hi'
      simpa [hname'] using List.find?_eq_none.mp hfind m hm
  · next hname =>
    have hnone : ∀ stage : Stage, argument ≠ stage.name.toList := by
      rintro stage rfl
      simp [Stage.ofName?_name] at hname
    -- the argument names no stage, so the line opens none
    have hclosed : ∀ stage, ¬Opens lines n stage := fun stage hstage =>
      hnone stage ((hopens stage).mp hstage)
    split
    · next hlet =>
      refine h.pass hclosed ?_
      rintro e (⟨-, -, hstage⟩ | ⟨hline', hpragma', -, hrefused⟩)
      · exact hclosed _ hstage
      · rw [hline, Option.some.injEq] at hline'
        subst hline'
        obtain rfl := hpragma.unique hpragma'
        exact hrefused (by simpa using hlet)
    · next hrefused =>
      exact h.report (.unknown hline hpragma hnone (by simpa using hrefused)) fun stage hstage =>
        absurd hstage (hclosed stage)

/-- **Every line restores the invariant.** -/
theorem Knows.addLine (h : Knows options lines n outline) {content : Text}
    (hline : lines[n]? = some content) :
    Knows options lines (n + 1) (outline.addLine options n content) := by
  rw [Outline.addLine]
  split
  · next argument hsome => exact h.addPragma hline (Directive.pragma?_eq_some_iff.mp hsome)
  · next hnone =>
    have hno : ∀ argument, ¬Directive.IsPragma content argument := fun argument hpragma => by
      simp [Directive.pragma?_eq_some_iff.mpr hpragma] at hnone
    have hclosed : ∀ stage, ¬Opens lines n stage := by
      rintro stage ⟨content', hline', hpragma⟩
      rw [hline, Option.some.injEq] at hline'
      exact hno _ (hline' ▸ hpragma)
    refine h.pass hclosed ?_
    rintro e (⟨-, -, hstage⟩ | ⟨hline', hpragma, -, -⟩)
    · exact hclosed _ hstage
    · rw [hline, Option.some.injEq] at hline'
      exact hno _ (hline' ▸ hpragma)

theorem Knows.extend (h : Knows options lines n outline) {rest : List Text}
    (hrest : lines.drop n = rest) (hn : n ≤ lines.length) :
    Knows options lines lines.length (Outline.extend options outline n rest) := by
  induction rest generalizing n outline with
  | nil =>
    have hlength := congrArg List.length hrest
    rw [List.length_drop, List.length_nil] at hlength
    obtain rfl : n = lines.length := by omega
    exact h
  | cons content rest ih =>
    have hline : lines[n]? = some content := by
      have : (lines.drop n)[0]? = lines[n + 0]? := List.getElem?_drop
      rw [hrest] at this
      simpa using this.symm
    have hlt : n < lines.length := (List.getElem?_eq_some_iff.mp hline).1
    refine ih (h.addLine hline) ?_ hlt
    rw [← List.drop_drop, hrest, List.drop_one, List.tail_cons]

/-- **The outline of a file knows the file.** -/
theorem knows_ofLines (options : SplitOptions) (lines : List Text) :
    Knows options lines lines.length (ofLines options lines) :=
  knows_empty.extend (by simp) (Nat.zero_le _)

/-! ### What is read off the outline

The questions that the splitter has for a finished outline. Missing stages are asked for first, so
what is said about them does not suppose that the pragmas are in place; the rest does. -/

theorem Knows.nodup_stages (h : Knows options lines n outline) :
    (outline.markers.map Marker.stage).Nodup := by
  rw [List.Nodup, List.pairwise_map]
  refine List.Pairwise.imp_of_mem (fun {m m'} hm hm' hlt heq => ?_) h.sorted
  have hfirst := (h.marker m hm).2
  rw [heq] at hfirst
  exact Nat.ne_of_lt hlt (hfirst.unique (h.marker m' hm').2)

/-- Without a problem the markers are all the lines that open a stage. -/
theorem Knows.mem_markers_iff (h : Knows options lines n outline) (hnone : outline.problem = none)
    {m : Marker} : m ∈ outline.markers ↔ m.line < n ∧ Opens lines m.line m.stage := by
  constructor
  · exact fun hm => ⟨(h.marker m hm).1, (h.marker m hm).2.1⟩
  · rintro ⟨hlt, hopens⟩
    have hplaced := not_misplaced_of_not_first fun e he => by
      simpa [hnone] using (h.problem e).mpr he
    have hfirst := hopens.first_of_not_misplaced (hplaced m.line hlt)
    obtain ⟨m', hm', hstage⟩ := h.found m.line hlt m.stage hopens
    have hfirst' := (h.marker m' hm').2
    rw [hstage] at hfirst'
    have : m' = m := by
      cases m
      cases m'
      simp only [Marker.mk.injEq] at hstage ⊢
      exact ⟨hstage, hfirst'.unique hfirst⟩
    exact this ▸ hm'

/-- The first marker comes before all others. -/
theorem first_le {first : Marker} {rest : List Marker}
    (hsorted : (first :: rest).Pairwise fun m m' => m.line < m'.line) :
    ∀ m ∈ first :: rest, first.line ≤ m.line := by
  intro m hm
  rcases List.mem_cons.mp hm with rfl | hm
  · exact Nat.le_refl _
  · exact Nat.le_of_lt ((List.pairwise_cons.mp hsorted).1 m hm)

/-- The first marker ends the header. -/
theorem Knows.headerEnds {outline : Outline} (h : outline.Knows options lines lines.length)
    (hnone : outline.problem = none) {first : Marker} {rest : List Marker}
    (hmarkers : outline.markers = first :: rest) : HeaderEnds lines first.line := by
  refine ⟨⟨first.stage, ?_⟩, fun i hi stage hopens => ?_⟩
  · exact ((h.mem_markers_iff hnone).mp (hmarkers ▸ List.mem_cons_self)).2
  · have hmem : (⟨stage, i⟩ : Marker) ∈ outline.markers :=
      (h.mem_markers_iff hnone).mpr ⟨hopens.lt_length, hopens⟩
    have hle := first_le (hmarkers ▸ h.sorted) _ (hmarkers ▸ hmem)
    simp only at hle
    omega

theorem mem_missing_iff {stage : Stage} :
    stage ∈ (ofLines options lines).missing ↔
      stage.isRequired = true ∧ ∀ i, ¬Opens lines i stage := by
  have h := knows_ofLines options lines
  rw [missing, List.mem_filter, Bool.and_eq_true, Bool.not_eq_true', List.any_eq_false]
  simp only [Stage.mem_all, true_and, decide_eq_true_eq]
  refine and_congr_right fun _ => ⟨fun hnone i hi => ?_, fun hnone m hm hstage => ?_⟩
  · obtain ⟨m, hm, hstage⟩ := h.found i hi.lt_length stage hi
    exact hnone m hm hstage
  · exact hnone m.line (hstage ▸ (h.marker m hm).2.1)

/-- The missing stages are listed in pipeline order. -/
theorem pairwise_missing (outline : Outline) :
    outline.missing.Pairwise fun a b => a.index < b.index := by
  have hall : Stage.all.Pairwise fun a b => a.index < b.index := by decide
  exact hall.filter _

end Outline

end ShaderBundle
