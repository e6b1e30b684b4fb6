import ShaderBundle.Proofs.Bundle.Blocks

/-!
# The verdict on a file

Several things can be wrong with a file at once, and one error is reported. Here the verdict is said
without a splitter, by what the masked lines of the file contain: `Refused` lists the causes in
their order, each with the absence of all causes before it, and `Accepted` is the absence of all of
them.

## The order of the causes

A file is asked for its stages first. If a required one is missing, nothing else is reported, and
all missing ones are reported together. Then come the pragmas, and of these the first one out of
place. Only then is the header looked at, for its version and for an entry mark that does not belong
there, and last the blocks, in the order of the file. So a file with two entry marks in a block may
be refused for something else, and a file without a version directive may be refused for a pragma in
its last line.

A constructor that stands further down has the absence of the earlier causes as hypotheses. They are
said in the positive where that is possible: that no stage is missing is `Complete`, that no pragma
is out of place is `InPlace`. The same two are fields of `Accepted`, and that is why the proof that
the two verdicts exclude each other is a case distinction and no more.

## Why the error is determined

`split_verdict` says that a file is refused with an error exactly if it deserves this error. Since
the splitter has one outcome, it follows that a file deserves at most one error and, together with
the second half, that every file deserves one or follows the grammar. Neither of these is proved by
itself.

## Main definitions

* `VersionAt`, `MarkedAt`: what a line contains.
* `Refused`: a file is refused for a cause.
* `Accepted`: a file follows the grammar.

## Main results

* `Bundle.readBlocks_eq_error_iff`: the first block with a fault decides.
* `Bundle.split_verdict`: the verdict of the splitter is the one that the masked lines deserve.
-/

namespace ShaderBundle

/-! ### What the masked lines contain

The definitions are about a list of lines and options. None of them mentions a marker, an outline, a
zone or the text itself. -/

/-- The line with index `i` is a version directive. -/
def VersionAt (lines : List Text) (i : Nat) : Prop :=
  ∃ line, lines[i]? = some line ∧ Directive.IsVersion line

/-- The line with index `i` has an entry mark. -/
def MarkedAt (lines : List Text) (i : Nat) : Prop :=
  ∃ line, lines[i]? = some line ∧ ∃ front, Entry.MarkAt line front

/-- Every required stage is opened somewhere. -/
def Complete (lines : List Text) : Prop :=
  ∀ stage : Stage, stage.isRequired = true → ∃ i, Opens lines i stage

/-- No pragma is out of place. -/
def InPlace (options : SplitOptions) (lines : List Text) : Prop :=
  ∀ i e, ¬Misplaced options lines i e

/-- The error that a file with the right pragmas deserves for the `n` lines of its header and for
its blocks. The causes come in their order, and each comes with the absence of those before it. -/
inductive RefusedInside (lines : List Text) (n : Nat) : SplitError → Prop where
  | missingVersion (hversion : ∀ i < n, ¬VersionAt lines i) : RefusedInside lines n .missingVersion
  | entryInHeader {i : Nat} (hversion : ∃ i < n, VersionAt lines i) (hi : i < n)
    (hmarked : MarkedAt lines i) (hbefore : ∀ j < i, ¬MarkedAt lines j) :
    RefusedInside lines n (.malformed none (.single (i + 1)) .entryInHeader)
  | block {stage : Stage} {start stop : Nat} {e : SplitError}
    (hversion : ∃ i < n, VersionAt lines i)
    (hunmarked : ∀ i < n, ¬MarkedAt lines i) (hblock : BlockAt lines stage start stop)
    (hfault : BlockFault lines stage start stop e)
    (hbefore : ∀ stage' start' stop', BlockAt lines stage' start' stop' → start' < start →
      ∀ e', ¬BlockFault lines stage' start' stop' e') : RefusedInside lines n e

/-- The error that a file deserves for its masked lines. Again each cause comes with the absence of
those before it. -/
inductive Refused (options : SplitOptions) (lines : List Text) : SplitError → Prop where
  | incomplete {missing : List Stage} (hne : missing ≠ [])
    (horder : missing.Pairwise fun a b => a.index < b.index)
    (hmem : ∀ stage, stage ∈ missing ↔ stage.isRequired = true ∧ ∀ i, ¬Opens lines i stage) :
    Refused options lines (.incomplete missing)
  | misplaced {e : SplitError} (hcomplete : Complete lines)
    (hfirst : FirstMisplaced options lines lines.length e) : Refused options lines e
  | inside {n : Nat} {e : SplitError} (hcomplete : Complete lines) (hplaced : InPlace options lines)
    (hheader : HeaderEnds lines n) (h : RefusedInside lines n e) : Refused options lines e

/-- A file that follows the grammar, by its masked lines. -/
structure Accepted (options : SplitOptions) (lines : List Text) : Prop where
  /-- The required stages are there. -/
  complete : Complete lines
  /-- No pragma is out of place. -/
  placed : InPlace options lines
  /-- There is a header with a version directive and without an entry mark. -/
  header : ∃ n, HeaderEnds lines n ∧ (∃ i < n, VersionAt lines i) ∧ ∀ i < n, ¬MarkedAt lines i
  /-- Every block has one entry mark, with the definition of a function behind it. -/
  entries : ∀ stage start stop, BlockAt lines stage start stop →
    ∃ copy : Entry.Site, bodyText lines start stop = copy.marked ∧ copy.IsEntry

/-! ### What the outline says of them -/

variable {options : SplitOptions} {lines : List Text}

namespace Outline

theorem missing_eq_nil_iff : (ofLines options lines).missing = [] ↔ Complete lines := by
  rw [List.eq_nil_iff_forall_not_mem]
  refine forall_congr' fun stage => ?_
  rw [mem_missing_iff, not_and]
  refine imp_congr_right fun _ => ?_
  rw [not_forall]
  exact exists_congr fun i => not_not

theorem eq_missing {missing : List Stage} (horder : missing.Pairwise fun a b => a.index < b.index)
    (hmem : ∀ stage, stage ∈ missing ↔ stage.isRequired = true ∧ ∀ i, ¬Opens lines i stage) :
    missing = (ofLines options lines).missing := by
  have : Std.Irrefl fun a b : Stage => a.index < b.index := ⟨fun _ => Nat.lt_irrefl _⟩
  have : Std.Antisymm fun a b : Stage => a.index < b.index :=
    ⟨fun _ _ h h' => absurd h (Nat.lt_asymm h')⟩
  exact horder.eq_of_mem_iff (pairwise_missing _) fun stage =>
    (hmem stage).trans mem_missing_iff.symm

theorem problem_eq_none_iff : (ofLines options lines).problem = none ↔ InPlace options lines := by
  have hknows := knows_ofLines options lines
  constructor
  · intro hnone i e hmisplaced
    refine not_misplaced_of_not_first (fun e' he' => ?_) i hmisplaced.lt_length e hmisplaced
    simpa [hnone] using (hknows.problem e').mpr he'
  · intro hplaced
    rw [Option.eq_none_iff_forall_ne_some]
    intro e he
    obtain ⟨i, -, hmisplaced, -⟩ := (hknows.problem e).mp he
    exact hplaced i e hmisplaced

end Outline

namespace Bundle

/-! ### Blocks

The spans are read in order, and the first failure is the outcome. That no block before it has a
fault is a statement about all blocks that begin earlier; so the order of the spans has to be turned
into an order of first lines, in both directions. -/

theorem not_blockFault_of_isEntry {masked : List Text} {stage : Stage} {start stop : Nat}
    {copy : Entry.Site} (hcopy : bodyText masked start stop = copy.marked) (hentry : copy.IsEntry)
    (e : SplitError) : ¬BlockFault masked stage start stop e := by
  have hshows : copy.Shows copy := ⟨Masked.refl _, Masked.refl _, rfl, Masked.refl _⟩
  rintro (hblank | ⟨-, hfault⟩)
  · exact not_isAllBlank_marked copy (List.all_eq_true.mpr (hcopy ▸ hblank))
  · have hmain := Entry.toMain_of_bodyFault hfault copy.marked
    rw [hcopy, Entry.toMain_of_isEntry hshows hentry] at hmain
    simp at hmain

/-- **The first block with a fault decides.** -/
theorem readBlocks_eq_error_iff (header : Text) (n : Nat) {outline : Outline}
    (hknows : outline.Knows options (maskLines .code lines) (maskLines .code lines).length)
    (hnone : outline.problem = none) {e : SplitError} :
    readBlocks lines (maskLines .code lines) header n outline.markers = .error e ↔
      ∃ stage start stop, BlockAt (maskLines .code lines) stage start stop ∧
        BlockFault (maskLines .code lines) stage start stop e ∧
        ∀ stage' start' stop', BlockAt (maskLines .code lines) stage' start' stop' →
          start' < start → ∀ e', ¬BlockFault (maskLines .code lines) stage' start' stop' e' := by
  -- spans are blocks, and a span is refused for a fault of its masked lines
  have hspans : ∀ s : Marker × Nat, s ∈ spans lines.length outline.markers ↔
      BlockAt (maskLines .code lines) s.1.stage s.1.line s.2 := by
    intro s
    rw [← length_maskLines .code lines]
    exact mem_spans_iff_blockAt hknows hnone
  have hread : ∀ s ∈ spans lines.length outline.markers, ∀ e,
      readBlock lines (maskLines .code lines) header n s.1 s.2 = .error e ↔
        BlockFault (maskLines .code lines) s.1.stage s.1.line s.2 e := fun s hs e =>
    readBlock_eq_error_iff (masked_bodyText lines ((hspans s).mp hs).lt)
  have hsorted := pairwise_spans (n := lines.length) hknows.sorted
  rw [readBlocks_eq_mapM, mapM_eq_error_iff]
  constructor
  · rintro ⟨before, s, after, heq, hbefore, hs⟩
    have hmem : s ∈ spans lines.length outline.markers := by simp [heq]
    refine ⟨s.1.stage, s.1.line, s.2, (hspans s).mp hmem, (hread s hmem e).mp hs, ?_⟩
    intro stage start stop hblock hlt e' hfault
    have hmem' : (⟨⟨stage, start⟩, stop⟩ : Marker × Nat) ∈ spans lines.length outline.markers :=
      (hspans _).mpr hblock
    have herror := (hread _ hmem' e').mpr hfault
    rw [heq] at hmem' hsorted
    -- a block that begins earlier is read before, and those were read without a fault
    rcases List.mem_append.mp hmem' with hin | hin
    · obtain ⟨block, hok⟩ := hbefore _ hin
      simp [hok] at herror
    · rcases List.mem_cons.mp hin with rfl | hin
      · exact Nat.lt_irrefl _ hlt
      · have hlater := (List.pairwise_cons.mp (List.pairwise_append.mp hsorted).2.1).1 _ hin
        exact Nat.lt_asymm hlt hlater
  · rintro ⟨stage, start, stop, hblock, hfault, hbefore⟩
    have hmem : (⟨⟨stage, start⟩, stop⟩ : Marker × Nat) ∈ spans lines.length outline.markers :=
      (hspans _).mpr hblock
    obtain ⟨before, after, heq⟩ := List.append_of_mem hmem
    refine ⟨before, _, after, heq, fun s hs => ?_, (hread _ hmem e).mpr hfault⟩
    have hs' : s ∈ spans lines.length outline.markers := by simp [heq, hs]
    rw [heq] at hsorted
    -- conversely, what is read before begins earlier
    have hlt := (List.pairwise_append.mp hsorted).2.2 s hs _ List.mem_cons_self
    cases hok : readBlock lines (maskLines .code lines) header n s.1 s.2 with
    | ok block => exact ⟨block, rfl⟩
    | error e' =>
      exact absurd ((hread s hs' e').mp hok) (hbefore _ _ _ ((hspans s).mp hs') hlt e')

/-! ### The header

The header is the first `n` lines. The splitter looks for the first line of a kind in it; what is
said here is about lines of the file with an index below `n`. -/

theorem version?_eq_none_iff {ls ms : List Text} (h : ls.length = ms.length) :
    version? ls ms = none ↔ ∀ m ∈ ms, ¬Directive.IsVersion m := by
  induction ls generalizing ms with
  | nil =>
    obtain rfl := List.eq_nil_of_length_eq_zero h.symm
    simp [version?]
  | cons l ls ih =>
    cases ms with
    | nil => simp at h
    | cons m ms =>
      have hlength : ls.length = ms.length := Nat.succ.inj h
      rw [version?, List.forall_mem_cons, ← ih hlength, ← Directive.isVersion_iff]
      cases Directive.isVersion m <;> simp

/-- What holds of every line of the header, said by index. -/
theorem forall_mem_take_iff {lines : List Text} {n : Nat} {p : Text → Prop} :
    (∀ line ∈ lines.take n, ¬p line) ↔ ∀ i < n, ¬∃ line, lines[i]? = some line ∧ p line := by
  constructor
  · rintro h i hi ⟨line, hline, hp⟩
    refine h line (List.mem_iff_getElem?.mpr ⟨i, ?_⟩) hp
    rw [List.getElem?_take_of_lt hi]
    exact hline
  · rintro h line hline hp
    obtain ⟨i, hi⟩ := List.mem_iff_getElem?.mp hline
    rw [List.getElem?_take] at hi
    split at hi
    · next hlt => exact h i hlt ⟨line, hi, hp⟩
    · simp at hi

theorem version?_take_eq_none_iff {n : Nat} :
    version? (lines.take n) ((maskLines .code lines).take n) = none ↔
      ∀ i < n, ¬VersionAt (maskLines .code lines) i := by
  rw [version?_eq_none_iff (by simp), forall_mem_take_iff]
  rfl

theorem isEmpty_marks_iff {line : Text} :
    (!(Entry.marks line).isEmpty) = true ↔ ∃ front, Entry.MarkAt line front := by
  rw [Bool.not_eq_true', ← Bool.not_eq_true, List.isEmpty_iff, Entry.marks_eq_nil_iff, not_forall]
  exact exists_congr fun front => not_not

theorem findIdx?_marks_take_eq_none_iff {masked : List Text} {n : Nat} :
    ((masked.take n).findIdx? fun line => !(Entry.marks line).isEmpty) = none ↔
      ∀ i < n, ¬MarkedAt masked i := by
  have hmarked : (∀ line ∈ masked.take n, ¬∃ front, Entry.MarkAt line front) ↔
      ∀ i < n, ¬MarkedAt masked i := forall_mem_take_iff
  rw [List.findIdx?_eq_none_iff]
  simp only [← Bool.not_eq_true, isEmpty_marks_iff]
  exact hmarked

theorem findIdx?_marks_take_eq_some_iff {masked : List Text} {n i : Nat} :
    ((masked.take n).findIdx? fun line => !(Entry.marks line).isEmpty) = some i ↔
      i < n ∧ MarkedAt masked i ∧ ∀ j < i, ¬MarkedAt masked j := by
  -- a mark among the first `n` lines is one of the file
  have hat : ∀ j (hj : j < (masked.take n).length),
      MarkedAt masked j ↔ ∃ front, Entry.MarkAt (masked.take n)[j] front := by
    intro j hj
    have hget : masked[j]? = some (masked.take n)[j] := by
      rw [List.getElem_take, List.getElem?_eq_getElem]
    rw [MarkedAt, hget]
    simp
  rw [List.findIdx?_eq_some_iff_getElem]
  simp only [isEmpty_marks_iff]
  constructor
  · rintro ⟨hi, hmarked, hbefore⟩
    refine ⟨?_, (hat i hi).mpr hmarked, fun j hj hmarked' => hbefore j hj ?_⟩
    · rw [List.length_take] at hi
      omega
    · exact (hat j (Nat.lt_trans hj hi)).mp hmarked'
  · rintro ⟨hi, hmarked, hbefore⟩
    have hlength : i < (masked.take n).length := by
      obtain ⟨line, hline, -⟩ := hmarked
      have := (List.getElem?_eq_some_iff.mp hline).1
      rw [List.length_take]
      omega
    exact ⟨hlength, (hat i hlength).mp hmarked, fun j hj hmarked' =>
      hbefore j hj ((hat j (Nat.lt_trans hj hlength)).mpr hmarked')⟩

/-! ### The verdict

From the inside out: the header and the blocks of a file whose outline is in order, then the
outline. -/

theorem version?_take_ne_none_iff {n : Nat} :
    version? (lines.take n) ((maskLines .code lines).take n) ≠ none ↔
      ∃ i < n, VersionAt (maskLines .code lines) i := by
  rw [Ne, version?_take_eq_none_iff, not_forall]
  refine exists_congr fun i => ?_
  rw [Classical.not_imp, not_not]

/-- What is wrong with a file whose outline is in order. -/
theorem ofOutline_eq_error_iff {outline : Outline} {name : Text} {first : Marker}
    {rest : List Marker} {e : SplitError}
    (hknows : outline.Knows options (maskLines .code lines) (maskLines .code lines).length)
    (hnone : outline.problem = none) (hmarkers : outline.markers = first :: rest) :
    ofOutline name lines (maskLines .code lines) outline.markers = .error e ↔
      RefusedInside (maskLines .code lines) first.line e := by
  have hread := readBlocks_eq_error_iff (Text.unlines (lines.take first.line)) first.line hknows
    hnone (e := e)
  rw [hmarkers] at hread ⊢
  rw [ofOutline]
  simp only
  constructor
  · intro h
    split at h
    · next hversion =>
      rw [Except.error.injEq] at h
      subst h
      exact .missingVersion (version?_take_eq_none_iff.mp hversion)
    · next version hversion =>
      have hversioned := version?_take_ne_none_iff.mp (by rw [hversion]; simp)
      split at h
      · next i hi =>
        rw [Except.error.injEq] at h
        subst h
        obtain ⟨hlt, hmarked, hbefore⟩ := findIdx?_marks_take_eq_some_iff.mp hi
        exact .entryInHeader hversioned hlt hmarked hbefore
      · next hi =>
        have hblocks : readBlocks lines (maskLines .code lines)
            (Text.unlines (lines.take first.line)) first.line (first :: rest) = .error e := by
          revert h
          cases readBlocks lines (maskLines .code lines) (Text.unlines (lines.take first.line))
              first.line (first :: rest) <;>
            simp [bind, Except.bind, pure, Except.pure]
        obtain ⟨stage, start, stop, hblock, hfault, hbefore⟩ := hread.mp hblocks
        exact .block hversioned (findIdx?_marks_take_eq_none_iff.mp hi) hblock hfault hbefore
  · intro h
    cases h with
    | missingVersion hversion => rw [version?_take_eq_none_iff.mpr hversion]
    | entryInHeader hversion hi hmarked hbefore =>
      obtain ⟨version, hsome⟩ := Option.ne_none_iff_exists'.mp
        (version?_take_ne_none_iff.mpr hversion)
      rw [hsome, findIdx?_marks_take_eq_some_iff.mpr ⟨hi, hmarked, hbefore⟩]
    | block hversion hunmarked hblock hfault hbefore =>
      obtain ⟨version, hsome⟩ := Option.ne_none_iff_exists'.mp
        (version?_take_ne_none_iff.mpr hversion)
      rw [hsome, findIdx?_marks_take_eq_none_iff.mpr hunmarked]
      simp only [hread.mpr ⟨_, _, _, hblock, hfault, hbefore⟩]
      rfl

/-- **The error is the one that the file deserves.** -/
theorem split_eq_error_iff_refused {options : SplitOptions} {name text : Text} {e : SplitError} :
    split options name text = .error e ↔ Refused options (Text.lines (mask text)) e := by
  rw [lines_mask, split_eq]
  generalize text.lines = lines
  have hknows := Outline.knows_ofLines options (maskLines .code lines)
  constructor
  · intro h
    split at h
    · next hmissing =>
      rw [Bool.not_eq_true', ← Bool.not_eq_true, List.isEmpty_iff] at hmissing
      rw [Except.error.injEq] at h
      subst h
      exact .incomplete hmissing (Outline.pairwise_missing _) fun stage => Outline.mem_missing_iff
    · next hmissing =>
      rw [Bool.not_eq_true, Bool.not_eq_false', List.isEmpty_iff] at hmissing
      have hcomplete := Outline.missing_eq_nil_iff.mp hmissing
      split at h
      · next problem hproblem =>
        rw [Except.error.injEq] at h
        subst h
        exact .misplaced hcomplete ((hknows.problem _).mp hproblem)
      · next hproblem =>
        obtain ⟨first, rest, hmarkers⟩ := exists_first hmissing
        exact .inside hcomplete (Outline.problem_eq_none_iff.mp hproblem)
          (hknows.headerEnds hproblem hmarkers)
          ((ofOutline_eq_error_iff hknows hproblem hmarkers).mp h)
  · intro h
    cases h with
    | incomplete hne horder hmem =>
      rw [← Outline.eq_missing horder hmem]
      simp [hne]
    | misplaced hcomplete hfirst =>
      rw [Outline.missing_eq_nil_iff.mpr hcomplete, (hknows.problem e).mpr hfirst]
      rfl
    | inside hcomplete hplaced hheader hinside =>
      have hmissing : (Outline.ofLines options (maskLines .code lines)).missing = [] :=
        Outline.missing_eq_nil_iff.mpr hcomplete
      have hproblem := Outline.problem_eq_none_iff.mpr hplaced
      obtain ⟨first, rest, hmarkers⟩ := exists_first hmissing
      obtain rfl := hheader.unique (hknows.headerEnds hproblem hmarkers)
      rw [hmissing, hproblem]
      exact (ofOutline_eq_error_iff hknows hproblem hmarkers).mpr hinside

/-- A file that follows the grammar deserves no error. -/
theorem not_refused_of_accepted {masked : List Text} (h : Accepted options masked)
    (e : SplitError) :
    ¬Refused options masked e := by
  intro hrefused
  cases hrefused with
  | @incomplete missing hne _ hmem =>
    obtain ⟨stage, hstage⟩ := List.exists_mem_of_ne_nil missing hne
    obtain ⟨hrequired, hnever⟩ := (hmem stage).mp hstage
    obtain ⟨i, hopens⟩ := h.complete stage hrequired
    exact hnever i hopens
  | misplaced _ hfirst =>
    obtain ⟨i, -, hmisplaced, -⟩ := hfirst
    exact h.placed i e hmisplaced
  | inside _ _ hheader hinside =>
    obtain ⟨n, hends, ⟨i, hi, hversion⟩, hunmarked⟩ := h.header
    -- there is one header only, and nothing is wrong with it
    obtain rfl := hends.unique hheader
    cases hinside with
    | missingVersion hnone => exact hnone i hi hversion
    | entryInHeader _ hlt hmarked _ => exact hunmarked _ hlt hmarked
    | block _ _ hblock hfault _ =>
      obtain ⟨copy, hcopy, hentry⟩ := h.entries _ _ _ hblock
      exact not_blockFault_of_isEntry hcopy hentry e hfault

/-- A file that can be taken apart follows the grammar. -/
theorem accepted_of_split {options : SplitOptions} {name text : Text} {bundle : Bundle}
    (h : split options name text = .ok bundle) : Accepted options (Text.lines (mask text)) := by
  rw [lines_mask]
  obtain ⟨outline, first, rest, rfl, hmarkers, hmissing, hproblem, -, hassembles⟩ :=
    split_eq_ok_iff.mp h
  have hknows := Outline.knows_ofLines options (maskLines .code text.lines)
  refine ⟨Outline.missing_eq_nil_iff.mp hmissing, Outline.problem_eq_none_iff.mp hproblem,
    ⟨first.line, hknows.headerEnds hproblem hmarkers, ?_, ?_⟩, fun stage start stop hblock => ?_⟩
  · refine version?_take_ne_none_iff.mp ?_
    rw [hassembles.version]
    exact Option.some_ne_none _
  · exact findIdx?_marks_take_eq_none_iff.mp
      (findIdx?_marks_eq_none_iff.mpr hassembles.unmarked)
  · have hmem : (⟨⟨stage, start⟩, stop⟩ : Marker × Nat) ∈
        spans (maskLines .code text.lines).length
          (Outline.ofLines options (maskLines .code text.lines)).markers :=
      (mem_spans_iff_blockAt hknows hproblem).mpr hblock
    rw [length_maskLines] at hmem
    obtain ⟨block, -, hread⟩ := exists_of_forall₂ hassembles.blocks.flip hmem
    obtain ⟨site, copy, hcopy, hentry, -⟩ :=
      (readBlock_eq_ok_iff (masked_bodyText text.lines hblock.lt)).mp hread
    exact ⟨copy, hcopy, hentry⟩

/-- **The verdict on a file is the one that its masked lines deserve**: it is refused with an error
just when it deserves this error, and taken apart just when it follows the grammar. -/
theorem split_verdict (options : SplitOptions) (name text : Text) :
    (∀ e, split options name text = .error e ↔ Refused options (Text.lines (mask text)) e) ∧
      ((∃ bundle, split options name text = .ok bundle) ↔
        Accepted options (Text.lines (mask text))) := by
  refine ⟨fun e => split_eq_error_iff_refused, ?_, fun haccepted => ?_⟩
  · rintro ⟨bundle, hbundle⟩
    exact accepted_of_split hbundle
  · cases hsplit : split options name text with
    | ok bundle => exact ⟨bundle, rfl⟩
    | error e =>
      exact absurd (split_eq_error_iff_refused.mp hsplit) (not_refused_of_accepted haccepted e)

end Bundle

end ShaderBundle
