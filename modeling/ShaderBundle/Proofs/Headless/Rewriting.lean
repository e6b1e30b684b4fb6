import ShaderBundle.Proofs.Headless.Lifting
import ShaderBundle.Proofs.Headless.Numbering

/-!
# Rewriting in place

A source is rewritten twice before the front end reads it: its version is raised, and layouts are
filled in. Both go line by line, so that a number of a line means the same before and behind, and
neither finds anything to do in what comes out.

The second pass finds nothing for two reasons. A line that got a layout begins with the word for it,
and such a line is not taken for a declaration without one. And what is read as the number of a
version is the same on every line before and behind the layouts, since no declaration begins with a
number sign.

## What becomes of a line

There are three possibilities, and which of them applies is fixed by the source. The line whose
version is raised becomes the directive for the new version. Of the others, a line that declares
something without a layout gets one layout behind its indentation, and every other line stays as it
is. `Rewrites` says this line by line, with the first case tied to `IsOldVersion` and the second to
what is recognised as a declaration; so a rewriting that did less, or did it elsewhere, would not
satisfy it.

## Again

Rewriting what comes out changes nothing, at any stage and over any table. This is more than that
the same call is idempotent. The table behind the first rewriting is another one, and a source may
be compiled for several stages; that neither matters is because there is nothing left to be laid
out.

## Main definitions

* `Keeps`: a line as it was, or a declaration with a layout in front.
* `IsOldVersion`: the line whose version is raised.
* `Rewrites`: what becomes of the lines of a source.

## Main results

* `map_versionNumber?_fill`: layouts do not change which versions are read.
* `rewrite_settles`: the lines stay in place, and rewriting again changes nothing.
-/

namespace ShaderBundle.Headless

open Allocation

variable {stage : Stage} {known : Allocation} {ls : List Text} {k : Nat} {line line' : Text}
  {declaration : Declaration} {source : Text}

/-- A line is as it was, if it declares nothing that wants a layout, and otherwise one layout is put
in behind its indentation. -/
inductive Keeps (line : Text) : Text → Prop where
  | same (hbare : Declaration.bare? line = none) : Keeps line line
  | laid {indent rest : Text} (arguments : Text) (hbare : Declaration.bare? line ≠ none)
    (hline : line = indent ++ rest) (hindent : ∀ c ∈ indent, isBlank c = true)
    (hrest : ∀ c, rest.head? = some c → isBlank c = false) :
    Keeps line (indent ++ (layoutWith arguments ++ ' ' :: rest))

/-- The first line on which the number of a version is read, if that version is too old. -/
def IsOldVersion (ls : List Text) (k : Nat) : Prop :=
  (∀ j < k, ∀ line, ls[j]? = some line → versionNumber? line = none) ∧
    ∃ line number, ls[k]? = some line ∧ versionNumber? line = some number ∧ number < oldestVersion

/-- One text is another one with its lines rewritten in place: a version that is too old becomes the
directive for the raised version, there is at most one such line, and the others are kept. -/
structure Rewrites (source text : Text) : Prop where
  /-- There are as many lines. -/
  length : text.pieces.length = source.pieces.length
  /-- What becomes of each. -/
  line : ∃ raised : Option Nat, (∀ k, raised = some k ↔ IsOldVersion source.pieces k) ∧
    ∀ (k : Nat) (line line' : Text), source.pieces[k]? = some line →
      text.pieces[k]? = some line' →
        if raised = some k then line' = liftedVersion else Keeps line line'
  /-- A position in the text is on a line of the source. -/
  position : ∀ before after : Text, text = before ++ after →
    Text.feeds before < source.pieces.length

/-! ### Layouts in front of a line -/

/-- What is given out is a layout. -/
theorem exists_layoutWith (stage : Stage) (known : Allocation) (declaration : Declaration) :
    ∃ arguments, (give stage known declaration).1 = layoutWith arguments := by
  rcases give_cases stage known declaration with ⟨-, n, hn⟩ | ⟨-, n, hn⟩
  · exact ⟨_, hn.trans (bindingLayout_eq n)⟩
  · exact ⟨_, hn.trans (locationLayout_eq n)⟩

theorem keeps_insert (h : Declaration.bare? line ≠ none) (arguments : Text) :
    Keeps line (Allocation.insert (layoutWith arguments) line) := by
  rw [Allocation.insert, List.append_assoc]
  exact .laid arguments h List.takeWhile_append_dropWhile.symm
    (fun c hc => List.mem_takeWhile_imp hc) fun c => Text.not_isBlank_of_head?_trimStart

/-- A line with a layout in front is not taken for a declaration without one. -/
theorem bare?_insert (hline : line.trim ≠ []) (arguments : Text) :
    Declaration.bare? (Allocation.insert (layoutWith arguments) line) = none := by
  have hlayout : "layout".toList.isPrefixOf
      (Allocation.insert (layoutWith arguments) line).trim = true := by
    have hbegins : "layout".toList <+: layoutWith arguments := List.prefix_append _ _
    rw [layoutWith_eq_cons, trim_insert (by decide) _ hline, ← layoutWith_eq_cons]
    exact List.isPrefixOf_iff_prefix.mpr (hbegins.trans (List.prefix_append _ _))
  rw [Declaration.bare?, hlayout]
  rfl

/-- It is not taken for a version directive. -/
theorem versionNumber?_insert (arguments line : Text) :
    versionNumber? (Allocation.insert (layoutWith arguments) line) = none := by
  have hstart : (Allocation.insert (layoutWith arguments) line).trimStart =
      layoutWith arguments ++ ' ' :: line.dropWhile isBlank := by
    rw [Allocation.insert, List.append_assoc,
      Text.trimStart_append fun c hc => List.mem_takeWhile_imp hc, layoutWith_eq_cons,
      List.cons_append, Text.trimStart_cons (by decide)]
  have hword : "#version".toList = '#' :: "version".toList := by simp
  rw [versionNumber?, hstart, layoutWith_eq_cons, hword]
  rfl

/-! ### Declarations and versions

The two passes do not interfere. No declaration is a version directive, with a layout in front or
without, and the raised directive is no declaration. -/

/-- A declaration is not taken for a version directive. -/
theorem versionNumber?_of_bare? (h : Declaration.bare? line = some declaration) :
    versionNumber? line = none := by
  cases hnumber : versionNumber? line with
  | none => rfl
  | some number =>
    obtain ⟨indent, gap, number, tail, hline, hindent, -⟩ := exists_of_versionNumber? hnumber
    have hword : "#version".toList = '#' :: "version".toList := by simp
    have hsign : line.trimStart.head? = some '#' := by
      rw [hline, Text.trimStart_append hindent, hword, List.cons_append,
        Text.trimStart_cons (by decide)]
      rfl
    obtain ⟨word, others, hwords, hmem⟩ := exists_word_of_bare? h
    have hother : ∀ word ∈ declarationWords, word.head? ≠ some '#' := by decide +kernel
    exact absurd ((Text.head?_trim_of_words hwords).1.symm.trans hsign) (hother word hmem)

/-- **Layouts do not change which versions are read.** -/
theorem map_versionNumber?_fill (known : Allocation) (ls : List Text) :
    (fill stage known ls).1.map versionNumber? = ls.map versionNumber? := by
  induction ls generalizing known with
  | nil => rfl
  | cons line ls ih =>
    cases hbare : Declaration.bare? line with
    | none => rw [fill_cons_of_bare?_eq_none hbare, List.map_cons, List.map_cons, ih]
    | some declaration =>
      obtain ⟨arguments, hlayout⟩ := exists_layoutWith stage known declaration
      rw [fill_cons_of_bare? hbare, List.map_cons, List.map_cons, ih, hlayout,
        versionNumber?_insert, versionNumber?_of_bare? hbare]

/-- Which line is replaced depends on the versions that are read. -/
theorem liftedLine?_congr {ls ls' : List Text}
    (h : ls.map versionNumber? = ls'.map versionNumber?) :
    liftedLine? ls = liftedLine? ls' := by
  induction ls generalizing ls' with
  | nil => rw [List.map_eq_nil_iff.mp h.symm]
  | cons line ls ih =>
    obtain ⟨line', rest, rfl, hline, hrest⟩ := List.map_eq_cons_iff.mp h.symm
    rw [liftedLine?, liftedLine?, hline, ih hrest.symm]

/-! ### Nothing is left to do

Of each pass by itself: behind it there is no line that it would change. -/

/-- Behind a version that is raised there is none to raise. -/
theorem liftedLine?_liftLines (ls : List Text) : liftedLine? (liftLines ls) = none := by
  rw [liftLines_eq]
  cases hlifted : liftedLine? ls with
  | none => exact hlifted
  | some k =>
    obtain ⟨hbefore, line, number, hline, -, -⟩ := liftedLine?_eq_some_iff.mp hlifted
    have hlt : k < ls.length := (List.getElem?_eq_some_iff.mp hline).1
    have hnumber : versionNumber? liftedVersion = some 450 := by decide +kernel
    refine liftedLine?_eq_none_of_first (fun j hj other hother => hbefore j hj other ?_)
      (List.getElem?_set_self hlt) hnumber (by decide)
    rwa [Option.elim_some, List.getElem?_set_ne hj.ne'] at hother

theorem fill_of_forall_bare?_eq_none (h : ∀ line ∈ ls, Declaration.bare? line = none)
    (known : Allocation) : fill stage known ls = (ls, known) := by
  induction ls with
  | nil => rfl
  | cons line ls ih =>
    rw [fill_cons_of_bare?_eq_none (h line List.mem_cons_self),
      ih fun l hl => h l (List.mem_cons_of_mem line hl)]

/-- No declaration without a layout comes out. -/
theorem bare?_of_mem_fill (known : Allocation) (ls : List Text) :
    ∀ line ∈ (fill stage known ls).1, Declaration.bare? line = none := by
  induction ls generalizing known with
  | nil => exact nofun
  | cons line ls ih =>
    cases hbare : Declaration.bare? line with
    | none =>
      rw [fill_cons_of_bare?_eq_none hbare]
      exact List.forall_mem_cons.mpr ⟨hbare, ih known⟩
    | some declaration =>
      obtain ⟨arguments, hlayout⟩ := exists_layoutWith stage known declaration
      rw [fill_cons_of_bare? hbare, hlayout]
      exact List.forall_mem_cons.mpr ⟨bare?_insert (trim_ne_nil_of_bare? hbare) arguments, ih _⟩

theorem liftVersion_of_liftedLine?_eq_none (h : liftedLine? source.pieces = none) :
    liftVersion source = source := by
  rw [liftVersion, liftLines_eq, h]
  exact Text.unlines_pieces source

theorem assign_of_forall_bare?_eq_none
    (h : ∀ line ∈ source.pieces, Declaration.bare? line = none) (table : Varyings) (stage : Stage) :
    assign table stage source = (source, table) := by
  rw [assign_eq, fill_of_forall_bare?_eq_none h]
  exact Prod.ext (Text.unlines_pieces source) rfl

/-! ### The rewriting -/

/-- The text that the front end reads. -/
def laidOut (table : Varyings) (stage : Stage) (source : Text) : Text :=
  (assign table stage (liftVersion source)).1

theorem pieces_laidOut (table : Varyings) (stage : Stage) (source : Text) :
    (laidOut table stage source).pieces =
      (fill stage (ofLines table (liftLines source.pieces)) (liftLines source.pieces)).1 := by
  rw [laidOut, pieces_assign, pieces_liftVersion]

theorem keeps_of_getElem?_fill (hline : ls[k]? = some line)
    (hline' : (fill stage known ls).1[k]? = some line') : Keeps line line' := by
  cases hbare : Declaration.bare? line with
  | none =>
    rw [getElem?_fill_of_not_bare? hline hbare] at hline'
    exact Option.some.inj hline' ▸ .same hbare
  | some declaration =>
    obtain ⟨arguments, hlayout⟩ := exists_layoutWith stage (before stage known ls k) declaration
    rw [getElem?_fill_of_bare? hline hbare, hlayout] at hline'
    exact Option.some.inj hline' ▸ keeps_insert (by rw [hbare]; nofun) arguments

theorem length_liftLines (ls : List Text) : (liftLines ls).length = ls.length := by
  rw [liftLines_eq]
  cases liftedLine? ls with
  | none => rfl
  | some k => exact List.length_set

theorem bare?_liftedVersion : Declaration.bare? liftedVersion = none := by
  decide +kernel

theorem rewrites_laidOut (table : Varyings) (stage : Stage) (source : Text) :
    Rewrites source (laidOut table stage source) := by
  have hpieces := pieces_laidOut table stage source
  have hlength : (laidOut table stage source).pieces.length = source.pieces.length := by
    rw [hpieces, length_fill, length_liftLines]
  refine ⟨hlength, ⟨liftedLine? source.pieces, fun k => liftedLine?_eq_some_iff,
    fun k line line' hline hline' => ?_⟩, ?_⟩
  · rw [hpieces] at hline'
    have hlt : k < source.pieces.length := (List.getElem?_eq_some_iff.mp hline).1
    rw [liftLines_eq] at hline'
    cases hlifted : liftedLine? source.pieces with
    -- No version is raised, so every line is kept.
    | none =>
      rw [hlifted] at hline'
      rw [if_neg nofun]
      exact keeps_of_getElem?_fill hline hline'
    -- One is, and the directive that is put in there stays, being no declaration.
    | some raised =>
      rw [hlifted, Option.elim_some] at hline'
      split
      next heq =>
        obtain rfl := Option.some.inj heq
        rw [getElem?_fill_of_not_bare? (List.getElem?_set_self hlt) bare?_liftedVersion] at hline'
        exact (Option.some.inj hline').symm
      next hne =>
        refine keeps_of_getElem?_fill ?_ hline'
        rwa [List.getElem?_set_ne fun heq => hne (congrArg some heq)]
  · intro before after heq
    rw [← hlength, Text.length_pieces, heq, Text.feeds_append]
    omega

/-- **The lines stay in place, and rewriting again changes nothing**, whatever is known by then of
varyings and whatever stage is asked for. -/
theorem rewrite_settles (table : Varyings) (stage : Stage) (source : Text) :
    Rewrites source (laidOut table stage source) ∧
      liftVersion (laidOut table stage source) = laidOut table stage source ∧
      ∀ (table' : Varyings) (stage' : Stage),
        assign table' stage' (liftVersion (laidOut table stage source)) =
          (laidOut table stage source, table') := by
  have hpieces := pieces_laidOut table stage source
  have hlift : liftVersion (laidOut table stage source) = laidOut table stage source := by
    refine liftVersion_of_liftedLine?_eq_none ?_
    rw [hpieces, liftedLine?_congr (map_versionNumber?_fill _ _), liftedLine?_liftLines]
  refine ⟨rewrites_laidOut table stage source, hlift, fun table' stage' => ?_⟩
  rw [hlift]
  refine assign_of_forall_bare?_eq_none ?_ table' stage'
  rw [hpieces]
  exact bare?_of_mem_fill _ _

end ShaderBundle.Headless
