import ShaderBundle.Headless.Layout
import ShaderBundle.Proofs.Bundle.Comments
import ShaderBundle.Proofs.Bundle.Verdict
import ShaderBundle.Proofs.Text.Words

/-!
# Two readers of the version directive

The splitter looks for the version directive among the masked lines of a header. When the headless
backend raises a version, it looks again, among all lines of a stage's source as they stand, and
with a narrower idea of the spelling: no blank may stand between the number sign and the name. So
the line that it replaces can be another one than the splitter's, or none. Where it is the same one,
replacing it takes away a comment that begins on the line and goes on behind it.

This module says exactly when the two agree, and that they do for a directive in code that both can
read and behind which no comment is open.

## What agreement means

Raising a version should change the number on one line and nothing else. `LiftsOnly` spells this out
for a source and a line of it: the other lines stay, and also what is code and what is comment in
them; the line itself is changed exactly if its number is too old, and then it is a directive with a
number that is not. The last two clauses are about the masked text, since a directive in a comment
is none.

## Three ways to go wrong

The reader of numbers takes the first line it can read, in code or not. So a directive in a comment
is taken for the directive of the source, and the search ends there, whether or not its number is
too old. It does not read a directive with a blank behind its sign, and then the version is not
raised, or a later line is changed. And it replaces a line as a whole, so that a comment which
begins there and is closed further down loses its beginning. `liftsOnly_iff` has one clause against
each.

## Legible directives

The equivalence is about lines of the source and zones, and hard to check by eye. `Legible` is a
sufficient condition that is about the header only: no number can be read before the line, the line
begins in code and no comment is open behind it. It survives putting anything behind the header, so
one look at a file settles all its stages.

## Main definitions

* `Outdated`: a masked line is a directive with a number that is too old.
* `liftedLine?` is the line that is replaced.
* `LiftsOnly`: raising the version does what it should to the line of the directive, and nothing
  else.
* `Bundle.FirstVersion`: the line that the splitter takes for the directive.

## Main results

* `directiveNumber?_of_versionNumber?`: in code, what the narrower reader reads is what is there.
* `liftsOnly_iff`: when only the line of the directive is touched.
* `Bundle.lift_agrees_iff`: when the two readers agree, for a stage of a file.
-/

namespace ShaderBundle

namespace Headless

/-! ### Reading the number

The narrower reader is compared with what a masked line says. In code the line is its own copy up to
a comment, and no comment begins within a directive whose number was read. -/

/-- The number in a version directive among masked lines. -/
def directiveNumber? (masked : Text) : Option Nat :=
  match Directive.after? ['v', 'e', 'r', 's', 'i', 'o', 'n'] masked with
  | some rest => rest.words.head?.bind readWord?
  | none => none

/-- The directive has a number that is too old for the front end. -/
def Outdated (masked : Text) : Prop :=
  ∃ number, directiveNumber? masked = some number ∧ number < oldestVersion

/-- How the narrower reader finds a number. -/
theorem exists_of_versionNumber? {line : Text} {number : Nat}
    (h : versionNumber? line = some number) :
    ∃ indent gap word tail, line = indent ++ ("#version".toList ++ (gap ++ (word ++ tail))) ∧
      (∀ c ∈ indent, isBlank c = true) ∧ (∀ c ∈ gap, isBlank c = true) ∧ word ≠ [] ∧
      (∀ c ∈ word, isBlank c = false) ∧ (∀ c, tail.head? = some c → isBlank c = true) ∧
      readWord? word = some number := by
  obtain ⟨indent, hindent, hline⟩ := Text.exists_blanks_append_trimStart line
  rw [versionNumber?] at h
  split at h
  next hbegins =>
    obtain ⟨rest, hrest⟩ := List.isPrefixOf_iff_prefix.mp hbegins
    rw [← hrest, List.drop_left' (by simp)] at h
    split at h
    · cases h
    next word others hwords =>
      obtain ⟨gap, tail, rfl, hgap, hne, hsolid, htail⟩ := Text.exists_of_words_eq_cons hwords
      exact ⟨indent, gap, word, tail, by rw [hrest]; exact hline, hindent, hgap, hne, hsolid, htail,
        h⟩
  next => cases h

/-- **In code, what the narrower reader reads is what is there.** -/
theorem directiveNumber?_of_versionNumber? {line : Text} {number : Nat}
    (h : versionNumber? line = some number) :
    directiveNumber? (maskFrom .code line) = some number := by
  obtain ⟨indent, gap, word, tail, rfl, hindent, hgap, hne, hsolid, htail, hword⟩ :=
    exists_of_versionNumber? h
  have hblank : ∀ c, isBlank c = true → c ≠ '/' := by
    rintro c hc rfl
    exact absurd hc (by decide)
  have hname : "#version".toList = ['#', 'v', 'e', 'r', 's', 'i', 'o', 'n'] := by simp
  have hclean : ∀ c ∈ indent ++ ("#version".toList ++ (gap ++ word)), c ≠ '/' := by
    intro c hc
    simp only [List.mem_append] at hc
    rcases hc with hc | hc | hc | hc
    · exact hblank c (hindent c hc)
    · rw [hname] at hc
      exact Text.forall_mem (p := (· ≠ '/')) (by decide) c hc
    · exact hblank c (hgap c hc)
    · rintro rfl
      exact absurd (eq_plus_or_isDigit_of_readWord? hword hc) (by decide)
  -- nothing of the directive is in a comment, and what is behind the number is not part of it
  have hmask : maskFrom .code (indent ++ ("#version".toList ++ (gap ++ (word ++ tail)))) =
      indent ++ ("#version".toList ++ (gap ++ (word ++ maskFrom .code tail))) := by
    have := maskFrom_code_append hclean tail
    simpa only [List.append_assoc] using this
  have htail' : ∀ c, (maskFrom .code tail).head? = some c → isBlank c = true := by
    cases tail with
    | nil => simp
    | cons d tail =>
      have hd : isBlank d = true := htail d rfl
      rw [maskFrom_code_cons (fun h => absurd h (hblank d hd)) (fun h => absurd h (hblank d hd))]
      simpa using hd
  have hafter : Directive.after? ['v', 'e', 'r', 's', 'i', 'o', 'n']
      (indent ++ ("#version".toList ++ (gap ++ (word ++ maskFrom .code tail)))) =
        some (gap ++ (word ++ maskFrom .code tail)) := by
    refine (Directive.after?_eq_some_iff (by decide)).mpr ⟨indent, [], ?_, hindent, by simp⟩
    rw [hname]
    rfl
  rw [hmask, directiveNumber?, hafter]
  simp only
  rw [Text.words_append_of_blanks hgap, Text.head?_words_append hne hsolid htail', Option.bind_some,
    hword]

/-! ### The line that is replaced -/

/-- The index of the line that is replaced. -/
def liftedLine? : List Text → Option Nat
  | [] => none
  | line :: rest =>
    match versionNumber? line with
    | none => (liftedLine? rest).map (· + 1)
    | some number => if number < oldestVersion then some 0 else none

theorem liftLines_eq (ls : List Text) :
    liftLines ls = (liftedLine? ls).elim ls fun k => ls.set k liftedVersion := by
  induction ls with
  | nil => rfl
  | cons line rest ih =>
    rw [liftLines, liftedLine?]
    cases versionNumber? line with
    | none =>
      simp only [ih]
      cases liftedLine? rest <;> rfl
    | some number =>
      by_cases hold : number < oldestVersion
      · simp only [hold, if_true, Option.elim_some, List.set_cons_zero]
      · simp only [hold, if_false, Option.elim_none]

/-- The line that is replaced is the first one with a number that can be read, if that is too
old. -/
theorem liftedLine?_eq_some_iff {ls : List Text} {k : Nat} :
    liftedLine? ls = some k ↔ (∀ j < k, ∀ line, ls[j]? = some line → versionNumber? line = none) ∧
      ∃ line number, ls[k]? = some line ∧ versionNumber? line = some number ∧
        number < oldestVersion := by
  induction ls generalizing k with
  | nil => simp [liftedLine?]
  | cons head rest ih =>
    rw [liftedLine?]
    cases hhead : versionNumber? head with
    | none =>
      cases k with
      | zero => simp [hhead]
      | succ k =>
        simp only [Option.map_eq_some_iff, Nat.add_right_cancel_iff, exists_eq_right, ih,
          List.getElem?_cons_succ, Nat.forall_lt_succ_left, List.getElem?_cons_zero,
          Option.some.injEq, forall_eq', hhead, true_and]
    | some number =>
      have hstop : ∀ k, ¬∀ j < k + 1, ∀ line, (head :: rest)[j]? = some line →
          versionNumber? line = none := fun k h => by
        have := h 0 (Nat.succ_pos k) head rfl
        rw [hhead] at this
        cases this
      cases k with
      | zero => by_cases hold : number < oldestVersion <;> simp [hhead, hold]
      | succ k =>
        refine iff_of_false ?_ fun h => hstop k h.1
        by_cases hold : number < oldestVersion <;> simp [hold]

theorem liftedLine?_eq_none_of_first {ls : List Text} {k number : Nat} {line : Text}
    (hbefore : ∀ j < k, ∀ line, ls[j]? = some line → versionNumber? line = none)
    (hline : ls[k]? = some line) (hnumber : versionNumber? line = some number)
    (h : ¬number < oldestVersion) : liftedLine? ls = none := by
  cases hlifted : liftedLine? ls with
  | none => rfl
  | some j =>
    obtain ⟨hunread, other, found, hother, hfound, hold⟩ := liftedLine?_eq_some_iff.mp hlifted
    rcases Nat.lt_trichotomy j k with hlt | rfl | hlt
    · rw [hbefore j hlt other hother] at hfound
      cases hfound
    · obtain rfl : other = line := Option.some.inj (hother.symm.trans hline)
      obtain rfl := Option.some.inj (hnumber.symm.trans hfound)
      exact absurd hold h
    · rw [hunread k hlt line hline] at hnumber
      cases hnumber

theorem feed_notMem_liftedVersion : '\n' ∉ liftedVersion := by
  decide +kernel

theorem pieces_liftVersion (source : Text) :
    (liftVersion source).pieces = liftLines source.pieces := by
  rw [liftVersion]
  refine Text.pieces_unlines ?_ ?_
  · rw [liftLines_eq]
    cases liftedLine? source.pieces with
    | none => exact Text.pieces_ne_nil source
    | some k => simpa [List.set_eq_nil_iff] using Text.pieces_ne_nil source
  · intro l hl
    rw [liftLines_eq] at hl
    cases hlifted : liftedLine? source.pieces with
    | none =>
      rw [hlifted] at hl
      exact Text.feed_notMem_of_mem_pieces hl
    | some k =>
      rw [hlifted] at hl
      rcases List.mem_or_eq_of_mem_set hl with hl | rfl
      · exact Text.feed_notMem_of_mem_pieces hl
      · exact feed_notMem_liftedVersion

/-- What is replaced is changed. -/
theorem getElem?_ne_of_liftedLine? {ls : List Text} {k : Nat} (h : liftedLine? ls = some k) :
    ls[k]? ≠ some liftedVersion := by
  obtain ⟨-, line, number, hline, hnumber, hold⟩ := liftedLine?_eq_some_iff.mp h
  rw [hline]
  rintro heq
  have hlifted : versionNumber? liftedVersion = some 450 := by decide +kernel
  rw [Option.some.inj heq, hlifted] at hnumber
  obtain rfl := Option.some.inj hnumber
  exact absurd hold (by decide)

/-! ### Masking around the line that is replaced

Replacing a line changes the zone that the next line begins in, if it changes anything. Lines in
front of it are masked as before. -/

variable {ls : List Text} {source : Text} {k v : Nat} {w : Text}

theorem getElem?_maskLines (zone : Zone) (ls : List Text) (k : Nat) :
    (maskLines zone ls)[k]? = ls[k]?.map (maskFrom (zoneAfterLines zone (ls.take k))) := by
  induction ls generalizing zone k with
  | nil => rfl
  | cons l ls ih =>
    cases k with
    | zero => rfl
    | succ k => rw [maskLines, List.getElem?_cons_succ, ih]; rfl

theorem zoneAt_set_self (h : k < ls.length) (w : Text) :
    zoneAt (ls.set k w) (k + 1) = zoneAfter (zoneAt ls k) (w ++ ['\n']) := by
  rw [zoneAt, List.take_add_one, List.take_set_of_le (Nat.le_refl k), List.getElem?_set_self h,
    zoneAfterLines, List.foldl_append]
  rfl

/-- The other lines are masked as before if those behind the line are. -/
theorem forall_ne_getElem?_maskLines_iff :
    (∀ j, j ≠ k → (maskLines .code (ls.set k w))[j]? = (maskLines .code ls)[j]?) ↔
      maskLines (zoneAt (ls.set k w) (k + 1)) (ls.drop (k + 1)) =
        maskLines (zoneAt ls (k + 1)) (ls.drop (k + 1)) := by
  have hdrop : (ls.set k w).drop (k + 1) = ls.drop (k + 1) :=
    List.drop_set_of_lt (Nat.lt_succ_self k)
  have hbehind := drop_maskLines .code ls (k + 1)
  have hbehind' := drop_maskLines .code (ls.set k w) (k + 1)
  rw [hdrop] at hbehind'
  rw [zoneAt, zoneAt, ← hbehind, ← hbehind']
  constructor
  · intro h
    refine List.ext_getElem? fun i => ?_
    rw [List.getElem?_drop, List.getElem?_drop]
    exact h _ (by omega)
  · intro h j hj
    rcases Nat.lt_or_gt_of_ne hj with hlt | hlt
    -- lines in front of the one that is replaced have the same lines before them
    · rw [getElem?_maskLines, getElem?_maskLines, List.getElem?_set_ne (by omega),
        List.take_set_of_le (Nat.le_of_lt hlt)]
    · have hat := congrArg (fun masked => masked[j - (k + 1)]?) h
      simp only [List.getElem?_drop] at hat
      rwa [show k + 1 + (j - (k + 1)) = j by omega] at hat

/-! ### Raising the version of a source

Whether a line is replaced and whether it should be are compared, and in the case that both agree on
the line, the comments. -/

/-- The directive on the `v`-th line of a source has a number that is too old. -/
def OutdatedAt (source : Text) (v : Nat) : Prop :=
  ∃ masked, (mask source).pieces[v]? = some masked ∧ Outdated masked

/-- Raising the version of a source changes nothing but its `v`-th line, and that only if the number
is too old. -/
structure LiftsOnly (source : Text) (v : Nat) : Prop where
  /-- The other lines stay. -/
  others : ∀ k, k ≠ v → (liftVersion source).pieces[k]? = source.pieces[k]?
  /-- The line is changed if its number is too old. -/
  changed_iff : (liftVersion source).pieces[v]? ≠ source.pieces[v]? ↔ OutdatedAt source v
  /-- Then it becomes a directive with a number that is not. -/
  raised : OutdatedAt source v → ∃ masked, (mask (liftVersion source)).pieces[v]? = some masked ∧
    Directive.IsVersion masked ∧ directiveNumber? masked = some 450
  /-- What is code in the other lines, and what is comment, stays so. -/
  comments : ∀ k, k ≠ v → (mask (liftVersion source)).pieces[k]? = (mask source).pieces[k]?

/-- The line that is put in is a directive where it is not in a comment. -/
theorem isVersion_maskFrom_liftedVersion_iff {zone : Zone} :
    (Directive.IsVersion (maskFrom zone liftedVersion) ∧
      directiveNumber? (maskFrom zone liftedVersion) = some 450) ↔ zone = .code := by
  rw [← Directive.isVersion_iff]
  cases zone <;> decide +kernel

theorem zoneAfter_liftedVersion : zoneAfter .code (liftedVersion ++ ['\n']) = .code := by
  decide +kernel

theorem liftsOnly_iff_of_none (h : liftedLine? source.pieces = none) :
    LiftsOnly source v ↔ ¬OutdatedAt source v := by
  have hsame : liftVersion source = source := by
    rw [liftVersion, liftLines_eq, h]
    exact Text.unlines_pieces source
  constructor
  · intro hlifts hold
    exact hlifts.changed_iff.mpr hold (by rw [hsame])
  · intro hnew
    refine ⟨fun _ _ => by rw [hsame], ?_, fun hold => absurd hold hnew, fun _ _ => by rw [hsame]⟩
    simp [hsame, hnew]

theorem liftsOnly_iff_of_some (h : liftedLine? source.pieces = some v) :
    LiftsOnly source v ↔ OutdatedAt source v ∧ zoneAt source.pieces v = .code ∧
      maskLines .code (source.pieces.drop (v + 1)) =
        maskLines (zoneAt source.pieces (v + 1)) (source.pieces.drop (v + 1)) := by
  obtain ⟨-, line, _, hline, -⟩ := liftedLine?_eq_some_iff.mp h
  have hlt : v < source.pieces.length := (List.getElem?_eq_some_iff.mp hline).1
  have hset : (liftVersion source).pieces = source.pieces.set v liftedVersion := by
    rw [pieces_liftVersion, liftLines_eq, h]
    rfl
  -- the masked source behind the change
  have hmask : (mask (liftVersion source)).pieces =
      maskLines .code (source.pieces.set v liftedVersion) := by
    rw [mask, pieces_maskFrom, hset]
  have hmasked : (mask (liftVersion source)).pieces[v]? =
      some (maskFrom (zoneAt source.pieces v) liftedVersion) := by
    rw [hmask, getElem?_maskLines, List.getElem?_set_self hlt, List.take_set_of_le (Nat.le_refl v)]
    rfl
  have hchanged : (liftVersion source).pieces[v]? ≠ source.pieces[v]? := by
    rw [hset, List.getElem?_set_self hlt]
    exact (getElem?_ne_of_liftedLine? h).symm
  -- the line that is put in leaves no comment open
  have hzone : zoneAt source.pieces v = .code →
      zoneAt (source.pieces.set v liftedVersion) (v + 1) = .code := by
    intro hcode
    rw [zoneAt_set_self hlt, hcode, zoneAfter_liftedVersion]
  have hcomments := @forall_ne_getElem?_maskLines_iff source.pieces v liftedVersion
  rw [← hmask, ← pieces_maskFrom] at hcomments
  constructor
  · intro hlifts
    -- the line is changed, so it had to be; it is a directive, so it begins in code
    have hold := hlifts.changed_iff.mp hchanged
    obtain ⟨masked, hat, hraised⟩ := hlifts.raised hold
    obtain rfl := Option.some.inj (hmasked.symm.trans hat)
    have hcode := isVersion_maskFrom_liftedVersion_iff.mp hraised
    exact ⟨hold, hcode, hzone hcode ▸ hcomments.mp hlifts.comments⟩
  · rintro ⟨hold, hcode, halike⟩
    refine ⟨fun k hk => ?_, iff_of_true hchanged hold, fun _ => ?_, ?_⟩
    · rw [hset, List.getElem?_set_ne (Ne.symm hk)]
    · exact ⟨_, hmasked, isVersion_maskFrom_liftedVersion_iff.mpr hcode⟩
    · exact hcomments.mpr (hzone hcode ▸ halike)

/-- **Only the line of the directive is touched** if and only if it is the one that is replaced,
when its number is too old, and none is replaced when it is not; and if the line begins in code, and
behind it everything is masked as it is behind a line that leaves no comment open. -/
theorem liftsOnly_iff : LiftsOnly source v ↔
    (OutdatedAt source v → liftedLine? source.pieces = some v ∧ zoneAt source.pieces v = .code ∧
      maskLines .code (source.pieces.drop (v + 1)) =
        maskLines (zoneAt source.pieces (v + 1)) (source.pieces.drop (v + 1))) ∧
    (¬OutdatedAt source v → liftedLine? source.pieces = none) := by
  cases hlifted : liftedLine? source.pieces with
  | none => simp [liftsOnly_iff_of_none hlifted]
  | some k =>
    by_cases hk : k = v
    · subst hk
      rw [liftsOnly_iff_of_some hlifted]
      by_cases hold : OutdatedAt source k <;> simp [hold]
    -- another line is replaced, so that one does not stay
    · have hnot : ¬LiftsOnly source v := by
        intro hlifts
        have hother := hlifts.others k hk
        obtain ⟨-, line, _, hline, -⟩ := liftedLine?_eq_some_iff.mp hlifted
        rw [pieces_liftVersion, liftLines_eq, hlifted, Option.elim_some,
          List.getElem?_set_self (List.getElem?_eq_some_iff.mp hline).1] at hother
        exact getElem?_ne_of_liftedLine? hlifted hother.symm
      by_cases hold : OutdatedAt source v <;> simp [hold, hnot, hk]

/-- A directive that both can read: it begins in code, it leaves no comment open, and no line before
it can be taken for one. -/
structure Legible (ls : List Text) (v : Nat) : Prop where
  /-- No number is read before. -/
  unread : ∀ k < v, ∀ line, ls[k]? = some line → versionNumber? line = none
  /-- A number is read. -/
  reads : ∃ line number, ls[v]? = some line ∧ versionNumber? line = some number
  /-- The line begins in code. -/
  code : zoneAt ls v = .code
  /-- No comment is open behind it. -/
  closed : zoneAt ls (v + 1) = .code

/-- Nothing behind the line matters. -/
theorem Legible.of_take {other : List Text} {n : Nat} (hn : v < n)
    (hsame : ls.take n = other.take n) (h : Legible ls v) : Legible other v := by
  have hat : ∀ k ≤ v, other[k]? = ls[k]? := fun k hk => by
    rw [← List.getElem?_take_of_lt (by omega : k < n), ← hsame, List.getElem?_take_of_lt (by omega)]
  have hzone : ∀ k ≤ n, zoneAt other k = zoneAt ls k := fun k hk => by
    rw [zoneAt, zoneAt, ← Nat.min_eq_left hk, ← List.take_take, ← hsame, List.take_take]
  refine ⟨fun k hk line hline => h.unread k hk line (hat k (Nat.le_of_lt hk) ▸ hline), ?_,
    (hzone v (Nat.le_of_lt hn)).trans h.code, (hzone (v + 1) hn).trans h.closed⟩
  rw [hat v (Nat.le_refl v)]
  exact h.reads

/-- A directive that both can read is the only line that is touched. -/
theorem Legible.liftsOnly (h : Legible source.pieces v) : LiftsOnly source v := by
  obtain ⟨line, number, hline, hnumber⟩ := h.reads
  have hmasked : (mask source).pieces[v]? = some (maskFrom .code line) := by
    rw [mask, pieces_maskFrom, getElem?_maskLines, hline, ← zoneAt, h.code]
    rfl
  have hread := directiveNumber?_of_versionNumber? hnumber
  have hiff : OutdatedAt source v ↔ number < oldestVersion := by
    simp [OutdatedAt, Outdated, hmasked, hread]
  rw [liftsOnly_iff, hiff]
  refine ⟨fun hold => ⟨?_, h.code, by rw [h.closed]⟩, fun hnew => ?_⟩
  · exact liftedLine?_eq_some_iff.mpr ⟨h.unread, line, number, hline, hnumber, hold⟩
  · exact liftedLine?_eq_none_of_first h.unread hline hnumber hnew

end Headless

/-! ### The splitter's directive

The bundle keeps the text of the directive and not its line. The line is found again from the
header, in the file and in the source of each stage. -/

namespace Bundle

/-- The line that the splitter takes for the version directive: the first one in the header. -/
structure FirstVersion (lines masked : List Text) (n v : Nat) (version : Text) : Prop where
  /-- It is in the header. -/
  lt : v < n
  /-- It is a directive. -/
  versionAt : VersionAt masked v
  /-- No line before it is one. -/
  first : ∀ k < v, ¬VersionAt masked k
  /-- It is what the bundle has for its version. -/
  version : ∃ line, lines[v]? = some line ∧ version = line.trim

theorem exists_of_version?_eq_some {ls ms : List Text} {version : Text}
    (h : version? ls ms = some version) :
    ∃ v, v < ls.length ∧ VersionAt ms v ∧ (∀ k < v, ¬VersionAt ms k) ∧
      ∃ line, ls[v]? = some line ∧ version = line.trim := by
  induction ls generalizing ms with
  | nil => simp [version?] at h
  | cons line ls ih =>
    cases ms with
    | nil => simp [version?] at h
    | cons masked ms =>
      rw [version?] at h
      split at h
      next hdirective =>
        exact ⟨0, Nat.succ_pos _, ⟨masked, rfl, Directive.isVersion_iff.mp hdirective⟩,
          fun k hk => absurd hk (Nat.not_lt_zero k), line, rfl, (Option.some.inj h).symm⟩
      next hother =>
        obtain ⟨v, hlt, hat, hfirst, hline⟩ := ih h
        refine ⟨v + 1, Nat.succ_lt_succ hlt, hat, fun k hk => ?_, hline⟩
        cases k with
        | zero =>
          rintro ⟨found, hfound, hversion⟩
          obtain rfl : masked = found := Option.some.inj hfound
          exact hother (Directive.isVersion_iff.mpr hversion)
        | succ k => exact hfirst k (Nat.lt_of_succ_lt_succ hk)

theorem versionAt_take_iff {lines : List Text} {n v : Nat} (h : v < n) :
    VersionAt (lines.take n) v ↔ VersionAt lines v := by
  rw [VersionAt, VersionAt, List.getElem?_take_of_lt h]

theorem Assembles.exists_firstVersion {lines masked : List Text} {markers : List Marker} {n : Nat}
    {bundle : Bundle} (h : Assembles lines masked markers n bundle) :
    ∃ v, FirstVersion lines masked n v bundle.version := by
  obtain ⟨v, hlt, hat, hfirst, line, hline, hversion⟩ := exists_of_version?_eq_some h.version
  have hn : v < n := by
    rw [List.length_take] at hlt
    omega
  rw [List.getElem?_take_of_lt hn] at hline
  exact ⟨v, hn, (versionAt_take_iff hn).mp hat,
    fun k hk hversionAt => hfirst k hk ((versionAt_take_iff (by omega)).mpr hversionAt),
    line, hline, hversion⟩

/-- **Raising the version of a stage's source agrees with the splitter** exactly if the line that is
replaced is the one that the splitter takes for the directive, as far as any has to be, and no
comment is lost with it. It does if that line is a directive that both can read. The line is the
same in the source of every stage, and is masked there as it is in the file. -/
theorem lift_agrees_iff {options : SplitOptions} {name text : Text} {bundle : Bundle}
    (h : split options name text = .ok bundle) {block : Block} (hblock : block ∈ bundle.blocks) :
    ∃ v, FirstVersion text.lines (Text.lines (mask text)) block.headerLines v bundle.version ∧
      block.source.pieces[v]? = text.lines[v]? ∧
      (mask block.source).pieces[v]? = (Text.lines (mask text))[v]? ∧
      (Headless.LiftsOnly block.source v ↔
        (Headless.OutdatedAt block.source v → Headless.liftedLine? block.source.pieces = some v ∧
          zoneAt block.source.pieces v = .code ∧
          maskLines .code (block.source.pieces.drop (v + 1)) =
            maskLines (zoneAt block.source.pieces (v + 1)) (block.source.pieces.drop (v + 1))) ∧
        (¬Headless.OutdatedAt block.source v →
          Headless.liftedLine? block.source.pieces = none)) ∧
      (Headless.Legible text.lines v → Headless.LiftsOnly block.source v) := by
  rw [lines_mask]
  obtain ⟨outline, first, rest, rfl, hmarkers, -, hproblem, -, hassembles⟩ := split_eq_ok_iff.mp h
  have hknows := Outline.knows_ofLines options (maskLines .code text.lines)
  obtain ⟨start, stop, site, copy, hmade⟩ :=
    hassembles.exists_madeFrom hknows hproblem hmarkers hblock
  obtain ⟨v, hv⟩ := hassembles.exists_firstVersion
  have htake : text.lines.take first.line = block.source.pieces.take first.line := by
    rw [hmade.pieces_source hassembles.pos fun l hl => Text.feed_notMem_of_mem_lines hl,
      List.take_left' hmade.length_take]
  have hline : block.source.pieces[v]? = text.lines[v]? := by
    rw [← List.getElem?_take_of_lt hv.lt, ← htake, List.getElem?_take_of_lt hv.lt]
  -- a source begins with the header, and a line is masked by what stands before it
  have hmasked : (mask block.source).pieces[v]? = (maskLines .code text.lines)[v]? := by
    rw [mask, pieces_maskFrom, ← List.getElem?_take_of_lt hv.lt, take_maskLines, ← htake,
      ← take_maskLines, List.getElem?_take_of_lt hv.lt]
  exact ⟨v, hmade.headerLines.symm ▸ hv, hline, hmasked, Headless.liftsOnly_iff,
    fun hlegible => (hlegible.of_take hv.lt htake).liftsOnly⟩

/-- The short file with a blank behind the number sign. -/
def spacedFile : Text :=
  "# version 410\n#pragma vertex\n@entry void v(){}\n#pragma fragment\n@entry void f(){}\n".toList

/-- The vertex stage of that file. -/
def spacedVertex : Block where
  stage := .vertex
  source := "# version 410\n       void main(){}".toList
  entry := ['v']
  headerLines := 1
  body := .single 3

/-- That file, taken apart. -/
def spacedBundle : Bundle where
  name := []
  header := "# version 410".toList
  version := "# version 410".toList
  blocks :=
    [spacedVertex,
     { stage := .fragment, source := "# version 410\n       void main(){}".toList, entry := ['f'],
       headerLines := 1, body := .single 5 }]

/-- Its version is too old, and is not raised. -/
theorem not_liftsOnly_spacedFile :
    split {} [] spacedFile = .ok spacedBundle ∧ spacedVertex ∈ spacedBundle.blocks ∧
      FirstVersion spacedFile.lines (Text.lines (mask spacedFile)) 1 0 spacedBundle.version ∧
      Headless.OutdatedAt spacedVertex.source 0 ∧
      Headless.liftVersion spacedVertex.source = spacedVertex.source ∧
      ¬Headless.LiftsOnly spacedVertex.source 0 := by
  have hsplit : split {} [] spacedFile = .ok spacedBundle := by decide +kernel
  have hmasked : (mask spacedVertex.source).pieces[0]? = some "# version 410".toList := by
    decide +kernel
  have hversion : Directive.isVersion "# version 410".toList = true := by decide +kernel
  have hold : Headless.OutdatedAt spacedVertex.source 0 :=
    ⟨_, hmasked, 410, by decide +kernel, by decide⟩
  have hsame : Headless.liftVersion spacedVertex.source = spacedVertex.source := by decide +kernel
  refine ⟨hsplit, List.mem_cons_self, ?_, hold, hsame, fun hlifts => ?_⟩
  · exact ⟨Nat.one_pos, ⟨"# version 410".toList, by decide +kernel,
      Directive.isVersion_iff.mp hversion⟩, fun k hk => absurd hk (Nat.not_lt_zero k),
      "# version 410".toList, by decide +kernel, by decide +kernel⟩
  · exact hlifts.changed_iff.mpr hold (by rw [hsame])

/-- In the short file only the directive is touched. -/
theorem lift_agrees_shortFile :
    split {} [] shortFile = .ok shortBundle ∧
      ∀ block ∈ shortBundle.blocks, Headless.LiftsOnly block.source 0 := by
  refine ⟨split_shortFile, fun block hblock => ?_⟩
  obtain ⟨v, hv, -, -, -, hlegible⟩ := lift_agrees_iff split_shortFile hblock
  have hheader : ∀ block ∈ shortBundle.blocks, block.headerLines = 1 := by decide +kernel
  obtain rfl : v = 0 := by
    have := hv.lt
    rw [hheader block hblock] at this
    omega
  exact hlegible ⟨fun k hk => absurd hk (Nat.not_lt_zero k),
    ⟨"#version 410".toList, 410, by decide +kernel, by decide +kernel⟩,
    by decide +kernel, by decide +kernel⟩

end Bundle

end ShaderBundle
