import ShaderBundle.Graphics.Scripted
import ShaderBundle.Proofs.Bundle.Partition
import ShaderBundle.Proofs.Diagnostic.Remap
import ShaderBundle.Proofs.Graphics.Keeps

/-!
# Line numbers that leave their words

Lines are kept in words of 32 bits, and a log may carry any word. The line of the file is found in
three steps, of which the second one adds: the sum is by one larger than the line that it leads to,
so there are lines that fit a word and are not reached.

Which numbers that is depends on the block only, and no number of a line that the source has is one
of them as long as the file's lines can be counted. A log that carries none of them is reported. A
log that carries one ends the job: nothing is reported, and what is left to do is not done.

## What is to be shown

The definition of `Diagnostic.remapBlock?` asks beforehand whether any number of the log is too
large and then remaps the log with the map of numbers. A reader of logs that takes one line after
the other, and for each of them the steps of `Block.fileLine?`, would fail in the middle of the log.
`remapBlock?_eq_mapM` says that it comes to the same, so that the definition may be read either way.

Which logs fail is said by `Carries`, over the forms that a line of a log can have and not over what
a scanner makes of it. `Block.Reports` then collects, for a block of a file that was taken apart,
which numbers have no line, which logs fail over them, and what becomes of the stage that was
refused.

## Both halves are inhabited

`Block.Reports` has a field for the numbers that are found and one for a number that is not. The
second is there for every block of every file, so the failure is not a matter of unusual files. It
is a matter of the log: a compiler that reports lines of the source it was given never causes it, as
the field before says.

## Main definitions

* `Diagnostic.ofLine?` is the diagnostic of a log line under a map that may have no answer.
* `Diagnostic.Carries`: a number stands in a log where a line number stands.
* `Block.Reports`: how the lines of a block are reported.

## Main results

* `Diagnostic.remapBlock?_eq_mapM`, `Diagnostic.remapBlock?_eq_none_iff`: what the steps do to a
  log.
* `Bundle.reports_of_split`: what becomes of a stage of a file that is refused.
* `Diagnostic.remapBlock?_farLine`: a block and a log that cannot be reported.
-/

namespace ShaderBundle

/-! ### What the steps do to a log

The map matters at the numbers of the log only. Where none of them is too large it can be replaced
by the map of numbers, which has an answer everywhere. -/

namespace Diagnostic

open Place

variable {block : Block} {log line s : Text} {n : Nat}

/-- The diagnostic of a log line, if the map has an answer for the number in it. -/
def ofLine? (toFile? : Nat → Option Nat) (line : Text) : Option Diagnostic :=
  match number? line with
  | none => some (ofLine id line)
  | some n => (toFile? n).map fun found => ofLine (fun _ => found) line

/-- The map matters at the number of the line only. -/
theorem ofLine_congr {f g : Nat → Nat} (h : ∀ n, number? line = some n → f n = g n) :
    ofLine f line = ofLine g line := by
  rw [ofLine, ofLine]
  cases hfind : find? line with
  | none => rfl
  | some place =>
    cases hnumber : place.number? with
    | none => simp only [hnumber]
    | some n =>
      have hn : number? line = some n := by rw [number?, hfind]; exact hnumber
      simp only [hnumber, h n hn]

/-- A line is remapped step by step unless its number is too large. -/
theorem ofLine?_fileLine? (block : Block) (line : Text) :
    ofLine? block.fileLine? line =
      if (number? line).any block.overflows then none else some (ofLine block.fileLine line) := by
  rw [ofLine?]
  cases hnumber : number? line with
  | none =>
    rw [if_neg (by simp)]
    exact congrArg some (ofLine_congr fun n hn => by rw [hnumber] at hn; cases hn)
  | some n =>
    simp only [Option.any_some, Block.fileLine?_eq]
    split
    · rfl
    · rw [Option.map_some]
      refine congrArg some (ofLine_congr fun m hm => ?_)
      rw [hnumber] at hm
      rw [Option.some.inj hm]

theorem mapM_ite_none {α β : Type} (p : α → Bool) (f : α → β) (xs : List α) :
    (xs.mapM fun x => if p x then none else some (f x)) =
      if xs.any p then none else some (xs.map f) := by
  induction xs with
  | nil => rfl
  | cons x xs ih =>
    rw [List.mapM_cons, ih, List.any_cons, List.map_cons]
    cases p x with
    | true => rfl
    | false => cases xs.any p <;> rfl

/-- **A log is remapped line by line**, and at the first line whose number is too large that
ends. -/
theorem remapBlock?_eq_mapM (block : Block) (log : Text) :
    remapBlock? block log = (logLines log).mapM (ofLine? block.fileLine?) := by
  rw [remapBlock?, remap, ← mapM_ite_none]
  exact congrArg (List.mapM · (logLines log))
    (funext fun line => (ofLine?_fileLine? block line).symm)

/-- A log line has one of the known forms, and the number in it fits a word. -/
def Carries (log : Text) (n : Nat) : Prop :=
  ∃ line ∈ log.lines, ∃ s place, Strips line s ∧ Spells s place ∧
    digitsValue place.digits = n ∧ n < wordBound

/-- The number that is read off what is left of a line. -/
theorem number?_eq_some_iff {indent : Text} (hindent : ∀ c ∈ indent, isBlank c = true)
    (h : IsTrimmed s) (hne : s ≠ []) : number? (indent ++ s) = some n ↔
      ∃ place, Spells s place ∧ digitsValue place.digits = n ∧ n < wordBound := by
  have hstart := trimStart_append_of_isTrimmed hindent h hne
  rw [number?, Option.bind_eq_some_iff]
  simp only [find?_eq_some_iff, hstart]
  refine exists_congr fun place => and_congr_right fun hspells => ?_
  rw [Place.number?, readWord?_of_isNumeral hspells.isNumeral]
  split
  next hfits =>
    rw [Option.some.injEq]
    exact ⟨fun heq => ⟨heq, heq ▸ hfits⟩, And.left⟩
  next hlarge => exact iff_of_false (by simp) fun hread => hlarge (hread.1 ▸ hread.2)

/-- The numbers that are read off a log are those that it carries. -/
theorem exists_number?_iff : (∃ line ∈ logLines log, number? line = some n) ↔ Carries log n := by
  rw [logLines_eq]
  constructor
  · rintro ⟨_, hmem, hnumber⟩
    -- a line of the log that says something, stripped
    obtain ⟨hmem, hsolid⟩ := List.mem_filter.mp hmem
    obtain ⟨line, hline, rfl⟩ := List.mem_map.mp hmem
    obtain ⟨s, hstrips⟩ := exists_strips line
    obtain ⟨indent, hindent, htrimmed, hcontent⟩ := hstrips.content_eq
    by_cases hne : s = []
    · rw [hcontent, if_pos hne] at hsolid
      cases hsolid
    · rw [hcontent, if_neg hne, number?_eq_some_iff hindent htrimmed hne] at hnumber
      obtain ⟨place, hplace⟩ := hnumber
      exact ⟨line, hline, s, place, hstrips, hplace⟩
  · rintro ⟨line, hline, s, place, hstrips, hspells, hvalue⟩
    obtain ⟨indent, hindent, htrimmed, hcontent⟩ := hstrips.content_eq
    -- a line that carries a number says something
    have hne : s ≠ [] := by
      rintro rfl
      obtain ⟨c, others, hfront, -⟩ := hspells.cases
      have := hspells.eq_append
      rw [hfront] at this
      cases this
    rw [if_neg hne] at hcontent
    refine ⟨content line, List.mem_filter.mpr ⟨List.mem_map.mpr ⟨line, hline, rfl⟩, ?_⟩, ?_⟩
    · rw [hcontent, @not_isAllBlank_append _ indent htrimmed hne]
      rfl
    · rw [hcontent, number?_eq_some_iff hindent htrimmed hne]
      exact ⟨place, hspells, hvalue⟩

/-- **A log is not remapped exactly if it carries a number that is too large.** -/
theorem remapBlock?_eq_none_iff :
    remapBlock? block log = none ↔ ∃ n, Carries log n ∧ block.fileLine? n = none := by
  have hany : ((logLines log).any fun line => (number? line).any block.overflows) = true ↔
      ∃ n, Carries log n ∧ block.fileLine? n = none := by
    simp only [List.any_eq_true, Option.any_eq_true, Block.fileLine?_eq_none_iff,
      ← exists_number?_iff]
    constructor
    · rintro ⟨line, hline, n, hnumber, hlarge⟩
      exact ⟨n, ⟨line, hline, hnumber⟩, hlarge⟩
    · rintro ⟨n, ⟨line, hline, hnumber⟩, hlarge⟩
      exact ⟨line, hline, n, hnumber, hlarge⟩
  rw [remapBlock?, ← hany]
  split <;> simp_all

end Diagnostic

/-! ### A stage that is refused

Compiling a block asks the backend first and remaps its log afterwards. By then the backend may have
changed; that it did, and into what, stands in the outcome in either case. -/

namespace Build

variable {σ : Type}

/-- A refused stage is reported with the diagnostics of the log, or the job ends. -/
theorem run_compileBlock_refused {backend : Backend σ} {block : Block} {s t : σ} {log : Text}
    (h : (backend.compile block.stage block.source).run s = (some (.error log), t)) :
    (compileBlock backend block).run s =
      ((Diagnostic.remapBlock? block log).map fun diagnostics =>
        .error (.compile block.stage (if diagnostics = [] then [silent] else diagnostics)), t) := by
  rw [compileBlock, Job.run_bind, h]
  simp only [Job.run_bind, run_diagnose]
  cases Diagnostic.remapBlock? block log <;> rfl

end Build

/-- How the lines of a block are reported when its source is refused. The file has `n` lines. -/
structure Block.Reports (block : Block) (n : Nat) : Prop where
  /-- A number has no line of the file exactly if it is behind the header and its sum with the first
  line of the body fits no word. -/
  leaves : ∀ line, block.fileLine? line = none ↔
    block.headerLines < line ∧ wordBound ≤ line - block.headerLines + block.body.start
  /-- Of every other word the line of the file is found, and it is a word. -/
  found : ∀ line < wordBound, ∀ found, block.fileLine? line = some found →
    found = block.fileLine line ∧ found < wordBound
  /-- A log is remapped line by line. -/
  stepwise : ∀ log, Diagnostic.remapBlock? block log =
    (Diagnostic.logLines log).mapM (Diagnostic.ofLine? block.fileLine?)
  /-- It is not remapped exactly if it carries a number without a line. -/
  fails : ∀ log, Diagnostic.remapBlock? block log = none ↔
    ∃ line, Diagnostic.Carries log line ∧ block.fileLine? line = none
  /-- A refused stage is reported with the log, or the job ends. -/
  refused : ∀ {σ : Type} (backend : Backend σ) (s t : σ) (log : Text),
    (backend.compile block.stage block.source).run s = (some (.error log), t) →
    (Build.compileBlock backend block).run s =
      ((Diagnostic.remapBlock? block log).map fun diagnostics =>
        .error (.compile block.stage
          (if diagnostics = [] then [Build.silent] else diagnostics)), t)
  /-- The lines that the source has are all found, if the file's lines can be counted. -/
  own : n + 1 < wordBound → ∀ line ≤ block.source.pieces.length,
    block.fileLine? line = some (block.fileLine line)
  /-- But there is a word that is not. -/
  far : n + 1 < wordBound → ∃ line < wordBound, block.fileLine? line = none

namespace Bundle

/-- **A refused stage is reported unless the log carries a number that is too large**, and there are
such numbers for every block of every file. -/
theorem reports_of_split {options : SplitOptions} {name text : Text} {bundle : Bundle}
    (h : split options name text = .ok bundle) {block : Block} (hblock : block ∈ bundle.blocks) :
    block.Reports text.lines.length := by
  obtain ⟨n, hpartition⟩ := split_partition h
  have hkeeps := hpartition.keeps block hblock
  -- the block lies within the file, and behind its header
  have hbounds := hpartition.tiles.bounds.2 block.body (List.mem_map_of_mem hblock)
  have hbody := block.body.start_le_stop
  have hheader := hkeeps.headerLines
  refine {
    leaves := fun line => Block.fileLine?_eq_none_iff.trans Block.overflows_iff
    found := fun line hline found hfound => Block.lt_wordBound_of_fileLine? hline hfound
    stepwise := Diagnostic.remapBlock?_eq_mapM block
    fails := fun log => Diagnostic.remapBlock?_eq_none_iff
    refused := fun backend s t log hrefused => Build.run_compileBlock_refused hrefused
    own := fun hcounted line hline => ?_
    far := fun hcounted => ⟨wordBound - 1, by decide, ?_⟩ }
  · rw [hkeeps.length, LineRange.count] at hline
    have hfits : ¬block.overflows line = true := by
      rw [Block.overflows_iff]
      omega
    rw [Block.fileLine?_eq, if_neg hfits]
  · rw [Block.fileLine?_eq_none_iff, Block.overflows_iff]
    omega

/-- The vertex stage of the short file. -/
def shortVertex : Block where
  stage := .vertex
  source := "#version 410\n       void main(){}".toList
  entry := ['v']
  headerLines := 1
  body := .single 3

/-- A scripted backend that refuses vertex stages over their second line. -/
def refusingVertex : Scripted.State :=
  { script := { compileLogs := [(.vertex, "0:2(8): error: syntax error".toList)] } }

/-- The second line of that stage is the third one of its file. -/
theorem reports_of_split_shortVertex :
    split {} [] shortFile = .ok shortBundle ∧ shortVertex ∈ shortBundle.blocks ∧
      shortVertex.fileLine? 2 = some 3 ∧
      ((Build.compileBlock Scripted.backend shortVertex).run refusingVertex).1 =
        some (.error (.compile .vertex [⟨some 3, "0:3(8): error: syntax error".toList⟩])) := by
  have hblock : shortVertex ∈ shortBundle.blocks := by decide
  have hrefused : (Scripted.backend.compile shortVertex.stage shortVertex.source).run
      refusingVertex = (some (.error "0:2(8): error: syntax error".toList),
        refusingVertex.note (.compile .vertex)) := by decide +kernel
  have hremap : Diagnostic.remapBlock? shortVertex "0:2(8): error: syntax error".toList =
      some [⟨some 3, "0:3(8): error: syntax error".toList⟩] := by decide +kernel
  have hreports := reports_of_split split_shortFile hblock
  refine ⟨split_shortFile, hblock, hreports.own (by decide +kernel) 2 (by decide +kernel), ?_⟩
  rw [hreports.refused _ _ _ _ hrefused, hremap]
  rfl

/-- The line of the file would be the last word, but the sum on the way to it is none. -/
theorem remapBlock?_farLine :
    split {} [] shortFile = .ok shortBundle ∧ shortVertex ∈ shortBundle.blocks ∧
      shortVertex.fileLine 4294967294 = 4294967295 ∧ 4294967295 < wordBound ∧
      Diagnostic.remapBlock? shortVertex "0:4294967294(1): error".toList = none :=
  ⟨split_shortFile, by decide, by decide, by decide, by decide +kernel⟩

end Bundle

end ShaderBundle
