import ShaderBundle.Proofs.Diagnostic.Place
import ShaderBundle.Proofs.Text.Lines

/-!
# What a remapped log says

A log is read line by line. Each line is stripped of what drivers pad it with, and a line of which
something is left becomes one diagnostic. The relations below say which, with no scanner in them: a
diagnostic has a line of the file if the log line spells a number that fits a word, and then nothing
but the digits of that number is replaced.

Diagnostics that are rendered make a log again. The lines of it are the messages, which are stripped
already, and a number that was put in is read back at the place of the number that it replaced. So a
log can be remapped in several steps or in one.

## Relations for what happens to a line

`Strips` and `Tells` relate a line to what is left of it and to its diagnostic. Both are given by
what the line consists of, and both are shown to be functions: there is a result (`exists_strips`,
`tells_ofLine`), and there is one only (`Strips.unique`, `Tells.unique`). So `Remapped`, which goes
along the lines of a log, determines the diagnostics (`remap_eq_iff`) and may be read as their
definition.

## Padding

Drivers pad with zero characters. These are taken off the end of a line first, then blanks are. If
zeros and blanks alternate, zeros are left behind blanks that were taken off, and a line that is
stripped twice loses more than a line that is stripped once. `NulsLast` excludes this, and it is a
condition on the log and not on the map of lines; it is asked for only where a log is remapped
again.

## Remapping again

Two maps of lines one after the other are one map, provided that what the first one gives is still a
word. Otherwise the number that was put in would not be recognised the second time. The bound is a
hypothesis of `remap_reads` for that reason, and it is the one place where the size of a number
matters here.

## Main definitions

* `Diagnostic.Strips`: a line without its padding.
* `Diagnostic.Tells`: the diagnostic of a stripped line.
* `Diagnostic.Remapped`: the diagnostics of the lines of a log.
* `Diagnostic.NulsLast`: nothing comes behind a padding character but more of them.

## Main results

* `Diagnostic.remap_eq_iff`: the diagnostics of a log.
* `Diagnostic.remap_reads`: also of a log that is rendered again.
-/

namespace ShaderBundle

theorem readWord?_of_isNumeral {digits : Text} (h : Place.IsNumeral digits) :
    readWord? digits =
      if digitsValue digits < wordBound then some (digitsValue digits) else none := by
  obtain ⟨c, others, rfl, hc⟩ := h.cases
  have hall : (c :: others).all isDigit = true := List.all_eq_true.mpr h.isDigit
  rw [readWord?]
  · rw [hall]
    rfl
  · rintro rest heq
    rw [(List.cons.inj heq).1] at hc
    cases hc

namespace Diagnostic

open Place

variable {f g : Nat → Nat} {line s : Text} {ls : List Text} {d d' : Diagnostic}
  {ds ds' : List Diagnostic}

/-! ### Stripping

Taking a line apart happens in two places: when a log is cut into lines the end of each is stripped,
and when a diagnostic is made the beginning is. `content` is what is left in between, a line with
its indentation. -/

/-- Neither end of a text is blank. -/
structure IsTrimmed (s : Text) : Prop where
  /-- It does not begin with a blank. -/
  front : ∀ c, s.head? = some c → isBlank c = false
  /-- It does not end in a blank. -/
  back : ∀ c, s.getLast? = some c → isBlank c = false

/-- What is left of a line without the padding at its end, then without the blanks at its end, and
without those at its beginning. -/
inductive Strips : Text → Text → Prop where
  | intro {indent s gap nuls : Text} (hindent : ∀ c ∈ indent, isBlank c = true)
    (htrimmed : IsTrimmed s) (hgap : ∀ c ∈ gap, isBlank c = true) (hnuls : ∀ c ∈ nuls, c = '\x00')
    (hlast : (indent ++ (s ++ gap)).getLast? ≠ some '\x00') :
    Strips (indent ++ (s ++ gap) ++ nuls) s

/-- A log line as it is taken apart. -/
def content (line : Text) : Text :=
  (line.dropEndWhile (· = '\x00')).trimEnd

theorem logLines_eq (log : Text) :
    logLines log = (log.lines.map content).filter (!·.isAllBlank) :=
  rfl

/-- Every line can be stripped. -/
theorem exists_strips (line : Text) : ∃ s, Strips line s := by
  -- the padding at the end, then the blanks before it, then the blanks in front
  obtain ⟨nuls, hline, hnuls⟩ := Text.dropEndWhile_isInitial (· = '\x00') line
  have hlast : (line.dropEndWhile (· = '\x00')).getLast? ≠ some '\x00' := fun h => by
    simpa using Text.getLast?_dropEndWhile h
  obtain ⟨gap, hkept, hgap⟩ :=
    Text.dropEndWhile_isInitial isBlank (line.dropEndWhile (· = '\x00'))
  obtain ⟨indent, hindent, htrim⟩ := Text.exists_blanks_append_trimStart (content line)
  have hback : ∀ c, (content line).trimStart.getLast? = some c → isBlank c = false := by
    intro c hc
    refine Text.getLast?_dropEndWhile (s := line.dropEndWhile (· = '\x00')) ?_
    change (content line).getLast? = some c
    rw [htrim, List.getLast?_append, hc]
    rfl
  have hparts : line.dropEndWhile (· = '\x00') = indent ++ ((content line).trimStart ++ gap) := by
    rw [← List.append_assoc, ← htrim]
    exact hkept
  rw [hparts] at hline hlast
  have hstrips : Strips (indent ++ ((content line).trimStart ++ gap) ++ nuls)
      (content line).trimStart :=
    .intro hindent ⟨fun _ => Text.not_isBlank_of_head?_trimStart, hback⟩ hgap
      (fun c hc => by simpa using hnuls c hc) hlast
  exact ⟨(content line).trimStart, by rwa [← hline] at hstrips⟩

/-- What is taken apart of a line is what is left of it, behind its indentation. -/
theorem Strips.content_eq (h : Strips line s) :
    ∃ indent, (∀ c ∈ indent, isBlank c = true) ∧ IsTrimmed s ∧
      content line = if s = [] then [] else indent ++ s := by
  obtain ⟨hindent, htrimmed, hgap, hnuls, hlast⟩ := h
  next indent gap nuls =>
  refine ⟨indent, hindent, htrimmed, ?_⟩
  -- the padding is taken off, and nothing before it is padding
  have hkept : Text.dropEndWhile (· = '\x00') (indent ++ (s ++ gap) ++ nuls) =
      indent ++ (s ++ gap) := by
    refine Text.dropEndWhile_append (fun c hc => ?_) fun c hc => by simpa using hnuls c hc
    simp only [decide_eq_false_iff_not]
    rintro rfl
    exact hlast hc
  rw [content, hkept]
  split
  -- nothing is left: all blanks are taken off, the indentation too
  next hnil =>
    subst hnil
    refine Text.trimEnd_of_blanks fun c hc => ?_
    rw [List.nil_append, List.mem_append] at hc
    exact hc.elim (hindent c) (hgap c)
  next hne =>
    rw [← List.append_assoc]
    refine Text.dropEndWhile_append (fun c hc => htrimmed.back c ?_) hgap
    rwa [List.getLast?_append, List.getLast?_eq_some_getLast hne, Option.some_or,
      ← List.getLast?_eq_some_getLast hne] at hc

theorem Strips.subset (h : Strips line s) : s ⊆ line := by
  cases h with
  | intro => exact fun c hc => by simp [hc]

/-! ### Telling

Of a stripped line it is known that neither end is blank, so that trimming it again, as the
diagnostic does, changes nothing. -/

/-- The diagnostic of a line that is stripped: it has a line of the file if there is a number that
fits a word, and then nothing but its digits is replaced. -/
inductive Tells (f : Nat → Nat) : Text → Diagnostic → Prop where
  | located {s : Text} {place : Place} (hspells : Spells s place)
    (hfits : digitsValue place.digits < wordBound) :
    Tells f s ⟨some (f (digitsValue place.digits)),
      place.front ++ (decimal (f (digitsValue place.digits)) ++ place.back)⟩
  | plain {s : Text} (h : ∀ place, Spells s place → ¬digitsValue place.digits < wordBound) :
    Tells f s ⟨none, s⟩

theorem Tells.unique (h : Tells f s d) (h' : Tells f s d') : d = d' := by
  cases h with
  | located hspells hfits =>
    cases h' with
    | located hspells' _ => rw [hspells.unique hspells']
    | plain hnone => exact absurd hfits (hnone _ hspells)
  | plain hnone =>
    cases h' with
    | located hspells hfits => exact absurd hfits (hnone _ hspells)
    | plain => rfl

theorem trimStart_append_of_isTrimmed {indent : Text} (hindent : ∀ c ∈ indent, isBlank c = true)
    (h : IsTrimmed s) (hne : s ≠ []) : Text.trimStart (indent ++ s) = s := by
  obtain ⟨c, others, rfl⟩ := List.exists_cons_of_ne_nil hne
  rw [Text.trimStart_append hindent, Text.trimStart_cons (h.front c rfl)]

theorem trimEnd_of_isTrimmed (h : IsTrimmed s) : s.trimEnd = s := by
  have hnil : ∀ c ∈ ([] : Text), isBlank c = true := nofun
  have := Text.dropEndWhile_append h.back hnil
  rwa [List.append_nil] at this

/-- What is read off a line is what it tells. -/
theorem tells_ofLine {indent : Text} (hindent : ∀ c ∈ indent, isBlank c = true)
    (h : IsTrimmed s) (hne : s ≠ []) (f : Nat → Nat) : Tells f s (ofLine f (indent ++ s)) := by
  have hstart := trimStart_append_of_isTrimmed hindent h hne
  have htrim : Text.trim (indent ++ s) = s := by
    rw [Text.trim, hstart, trimEnd_of_isTrimmed h]
  rw [ofLine, htrim]
  cases hfind : find? (indent ++ s) with
  -- No place was found, so the line spells no number at all.
  | none =>
    refine .plain fun place hspells => ?_
    rw [find?_eq_some_iff.mpr (hstart.symm ▸ hspells)] at hfind
    cases hfind
  -- The place that was found is the only one, and its number fits a word or does not.
  | some place =>
    have hspells : Spells s place := hstart ▸ find?_eq_some_iff.mp hfind
    have hread := readWord?_of_isNumeral hspells.isNumeral
    by_cases hfits : digitsValue place.digits < wordBound
    · rw [if_pos hfits] at hread
      simp only [Place.number?, hread, List.append_assoc]
      exact .located hspells hfits
    · rw [if_neg hfits] at hread
      simp only [Place.number?, hread]
      exact .plain fun other hother => hspells.unique hother ▸ hfits

/-! ### The lines of a log

A relation along the list of lines, with a constructor for lines of which nothing is left and one
for the others. Its proofs are inductions on it with the same three cases. -/

/-- The diagnostics of some lines: one for each line of which something is left. -/
inductive Remapped (f : Nat → Nat) : List Text → List Diagnostic → Prop where
  | nil : Remapped f [] []
  | blank {line : Text} {ls : List Text} {ds : List Diagnostic} (hstrips : Strips line [])
    (hrest : Remapped f ls ds) : Remapped f (line :: ls) ds
  | told {line s : Text} {d : Diagnostic} {ls : List Text} {ds : List Diagnostic}
    (hstrips : Strips line s) (hne : s ≠ []) (htells : Tells f s d) (hrest : Remapped f ls ds) :
    Remapped f (line :: ls) (d :: ds)

theorem not_isAllBlank_append {indent : Text} (h : IsTrimmed s) (hne : s ≠ []) :
    Text.isAllBlank (indent ++ s) = false := by
  obtain ⟨c, others, rfl⟩ := List.exists_cons_of_ne_nil hne
  simp [Text.isAllBlank, h.front c rfl]

/-- There is no other list of diagnostics for the lines. -/
theorem Remapped.eq_map (h : Remapped f ls ds) :
    ds = ((ls.map content).filter (!·.isAllBlank)).map (ofLine f) := by
  induction h with
  | nil => rfl
  | blank hstrips _ ih =>
    obtain ⟨indent, -, -, hcontent⟩ := hstrips.content_eq
    rw [if_pos rfl] at hcontent
    rw [List.map_cons, hcontent, List.filter_cons_of_neg (by decide), ih]
  | told hstrips hne htells _ ih =>
    obtain ⟨indent, hindent, htrimmed, hcontent⟩ := hstrips.content_eq
    rw [if_neg hne] at hcontent
    have hsolid := @not_isAllBlank_append _ indent htrimmed hne
    rw [List.map_cons, hcontent, List.filter_cons_of_pos (by rw [hsolid]; rfl), List.map_cons, ih,
      htells.unique (tells_ofLine hindent htrimmed hne _)]

/-- There is one. -/
theorem exists_remapped (f : Nat → Nat) (ls : List Text) : ∃ ds, Remapped f ls ds := by
  induction ls with
  | nil => exact ⟨[], .nil⟩
  | cons line ls ih =>
    obtain ⟨ds, hds⟩ := ih
    obtain ⟨s, hstrips⟩ := exists_strips line
    by_cases hne : s = []
    · subst hne
      exact ⟨ds, .blank hstrips hds⟩
    · obtain ⟨indent, hindent, htrimmed, -⟩ := hstrips.content_eq
      exact ⟨_, .told hstrips hne (tells_ofLine hindent htrimmed hne f) hds⟩

/-- **The diagnostics of a log** are those of its lines. -/
theorem remap_eq_iff {log : Text} : remap f log = ds ↔ Remapped f log.lines ds := by
  constructor
  · rintro rfl
    obtain ⟨ds, hds⟩ := exists_remapped f log.lines
    rw [remap, logLines_eq, ← hds.eq_map]
    exact hds
  · intro h
    rw [remap, logLines_eq, ← h.eq_map]

/-! ### Remapping again

A message has the ends of the line that it was made from, since a number never stands at an end:
something precedes it, and a mark follows it. So messages are stripped already, and no message holds
a line feed. -/

/-- Nothing comes behind a padding character of a line but more of them. -/
def NulsLast (line : Text) : Prop :=
  ∀ before after, line = before ++ '\x00' :: after → ∀ c ∈ after, c = '\x00'

theorem nulsLast_iff : (line.dropWhile (· ≠ '\x00')).all (· = '\x00') = true ↔ NulsLast line := by
  constructor
  · rintro h before after rfl c hc
    induction before with
    | nil => simpa using List.all_eq_true.mp h c (by simp [hc])
    | cons d before ih =>
      rw [List.cons_append] at h
      by_cases hd : d = '\x00'
      · simpa using List.all_eq_true.mp h c (by simp [hd, hc])
      · rw [List.dropWhile_cons_of_pos (by simpa using hd)] at h
        exact ih h
  · intro h
    have hparts := List.takeWhile_append_dropWhile (p := (· ≠ '\x00')) (l := line)
    rcases Text.dropWhile_cases (· ≠ '\x00') line with hnil | ⟨c, after, hcons, hc⟩
    · rw [hnil]
      rfl
    · obtain rfl : c = '\x00' := by simpa using hc
      have hafter := h _ after (by rw [← hcons, hparts])
      rw [hcons]
      simpa using hafter

instance (line : Text) : Decidable (NulsLast line) :=
  decidable_of_iff _ nulsLast_iff

/-- What is left of such a line does not end in padding. -/
theorem Strips.getLast?_ne (h : Strips line s) (hnuls : NulsLast line) :
    s.getLast? ≠ some '\x00' := by
  obtain ⟨-, -, hgap, -, hlast⟩ := h
  next indent gap nuls =>
  intro hs
  obtain ⟨r, rfl⟩ := List.getLast?_eq_some_iff.mp hs
  cases gap with
  | nil => simp at hlast
  | cons c gap =>
    have hc := hnuls (indent ++ r) (c :: gap ++ nuls) (by simp) c (by simp)
    have hblank := hgap c List.mem_cons_self
    rw [hc] at hblank
    cases hblank

theorem Strips.unique {s' : Text} (h : Strips line s) (h' : Strips line s') : s = s' := by
  obtain ⟨indent, hindent, htrimmed, hcontent⟩ := h.content_eq
  obtain ⟨indent', hindent', htrimmed', hcontent'⟩ := h'.content_eq
  rw [hcontent] at hcontent'
  by_cases hs : s = []
  · by_cases hs' : s' = []
    · rw [hs, hs']
    · simp [hs, hs'] at hcontent'
  · by_cases hs' : s' = []
    · simp [hs, hs'] at hcontent'
    · rw [if_neg hs, if_neg hs'] at hcontent'
      rw [← trimStart_append_of_isTrimmed hindent htrimmed hs, hcontent',
        trimStart_append_of_isTrimmed hindent' htrimmed' hs']

/-- A text that is stripped already stays as it is. -/
theorem strips_self (h : IsTrimmed s) (hlast : s.getLast? ≠ some '\x00') : Strips s s := by
  have hstrips : Strips ([] ++ (s ++ []) ++ []) s :=
    .intro (List.forall_mem_nil _) h (List.forall_mem_nil _) (List.forall_mem_nil _) (by simpa)
  simpa using hstrips

/-- A message begins and ends like the line. -/
theorem Tells.ends (h : Tells f s d) :
    d.message.head? = s.head? ∧ d.message.getLast? = s.getLast? := by
  cases h with
  | plain => exact ⟨rfl, rfl⟩
  | @located place hspells _ =>
    obtain ⟨c, others, hfront, -⟩ := hspells.cases
    have hs := hspells.eq_append
    have hlast : ∀ digits : Text, (place.front ++ (digits ++ place.back)).getLast? =
        place.back.getLast? := fun digits => by
      rw [← List.append_assoc, List.getLast?_append,
        List.getLast?_eq_some_getLast hspells.back_ne_nil, Option.some_or]
    constructor
    · rw [hs, hfront]
      rfl
    · rw [hlast, hs, hlast]

theorem Tells.feed_notMem (h : Tells f s d) (hs : '\n' ∉ s) : '\n' ∉ d.message := by
  cases h with
  | plain => exact hs
  | located hspells _ =>
    rw [hspells.eq_append] at hs
    simp only [List.mem_append, not_or] at hs ⊢
    exact ⟨hs.1, fun h => absurd (isDigit_of_mem_decimal h) (by decide), hs.2.2⟩

/-- **A message tells what the line tells.** The number that was put in stands where the other one
stood. -/
theorem Tells.again (h : Tells f s d) (hf : ∀ n < wordBound, f n < wordBound)
    (h' : Tells (g ∘ f) s d') : Tells g d.message d' := by
  cases h with
  | @located place hspells hfits =>
    have hvalue : ∀ n, digitsValue (decimal n) = n := fun n => Nat.ofDigitChars_ten_toDigits
    have hnew := hspells.replace (isNumeral_decimal (f (digitsValue place.digits)))
    have hfits' : digitsValue (decimal (f (digitsValue place.digits))) < wordBound := by
      rw [hvalue]
      exact hf _ hfits
    have htells := Tells.located (f := g) hnew hfits'
    rw [hvalue] at htells
    rwa [h'.unique (.located hspells hfits)]
  | plain hnone =>
    rw [h'.unique (.plain hnone)]
    exact .plain hnone

/-- The diagnostics of the messages. -/
theorem Remapped.again (h : Remapped f ls ds) (hnuls : ∀ line ∈ ls, NulsLast line)
    (hf : ∀ n < wordBound, f n < wordBound) (h' : Remapped (g ∘ f) ls ds') :
    Remapped g (ds.map message) ds' := by
  induction h generalizing ds' with
  | nil =>
    cases h'
    exact .nil
  | blank hstrips _ ih =>
    have hrest := fun line hline => hnuls line (List.mem_cons_of_mem _ hline)
    cases h' with
    | blank _ hrest' => exact ih hrest hrest'
    -- What is left of the line is the same for both maps. The message made of it with the first map
    -- has its ends, so it is stripped, and it tells what the line tells.
    | told hstrips' hne _ _ => exact absurd (hstrips'.unique hstrips) hne
  | told hstrips hne htells _ ih =>
    have hrest := fun line hline => hnuls line (List.mem_cons_of_mem _ hline)
    cases h' with
    | blank hstrips' _ => exact absurd (hstrips.unique hstrips') hne
    | told hstrips' _ htells' hrest' =>
      obtain rfl := hstrips.unique hstrips'
      obtain ⟨hhead, hlast⟩ := htells.ends
      obtain ⟨-, -, htrimmed, -⟩ := hstrips.content_eq
      refine .told (strips_self ⟨?_, ?_⟩ ?_) ?_ (htells.again hf htells') (ih hrest hrest')
      · rw [hhead]
        exact htrimmed.front
      · rw [hlast]
        exact htrimmed.back
      · rw [hlast]
        exact hstrips.getLast?_ne (hnuls _ List.mem_cons_self)
      · intro hnil
        rw [hnil] at hhead
        exact hne (List.head?_eq_none_iff.mp hhead.symm)

/-- The lines of diagnostics that are rendered are their messages. -/
theorem Remapped.lines_render (h : Remapped f ls ds) (hfeed : ∀ line ∈ ls, '\n' ∉ line) :
    (render ds).lines = ds.map message := by
  refine Text.lines_unlines ?_
  induction h with
  | nil => simp
  | blank _ _ ih => exact ih fun line hline => hfeed line (List.mem_cons_of_mem _ hline)
  | @told line s d ls ds hstrips hne htells _ ih =>
    have hrest := ih fun line hline => hfeed line (List.mem_cons_of_mem _ hline)
    obtain ⟨hhead, hlast⟩ := htells.ends
    obtain ⟨-, -, htrimmed, -⟩ := hstrips.content_eq
    have hline := hfeed line List.mem_cons_self
    refine List.forall_mem_cons.mpr ⟨⟨?_, htells.feed_notMem ?_, ?_⟩, hrest⟩
    · intro hnil
      rw [hnil] at hhead
      exact hne (List.head?_eq_none_iff.mp hhead.symm)
    · exact fun hmem => hline (hstrips.subset hmem)
    · intro hreturn
      rw [hlast] at hreturn
      exact absurd (htrimmed.back _ hreturn) (by decide)

/-- **What a remapped log says**, line by line; and a log whose padding comes last in its lines can
be remapped in two steps or in one. -/
theorem remap_reads (f : Nat → Nat) (log : Text) :
    (∀ ds, remap f log = ds ↔ Remapped f log.lines ds) ∧
    ∀ g : Nat → Nat, (∀ n < wordBound, f n < wordBound) → (∀ line ∈ log.lines, NulsLast line) →
      remap g (render (remap f log)) = remap (g ∘ f) log := by
  refine ⟨fun _ => remap_eq_iff, fun g hf hnuls => ?_⟩
  have hfirst : Remapped f log.lines (remap f log) := remap_eq_iff.mp rfl
  have hboth : Remapped (g ∘ f) log.lines (remap (g ∘ f) log) := remap_eq_iff.mp rfl
  rw [remap_eq_iff, hfirst.lines_render fun _ hline => Text.feed_notMem_of_mem_lines hline]
  exact hfirst.again hnuls hf hboth

/-- A log of two lines, padded at the end. -/
def paddedLog : Text :=
  "ERROR: 0:3: undeclared identifier\nERROR: 1 compilation errors.\n\x00".toList

/-- It can be remapped in two steps. -/
theorem remap_reads_paddedLog :
    (∀ n < wordBound, min (n + 100) 4294967295 < wordBound) ∧
    (∀ line ∈ paddedLog.lines, NulsLast line) ∧
    remap (· / 2) (render (remap (fun n => min (n + 100) 4294967295) paddedLog)) =
      [⟨some 51, "ERROR: 0:51: undeclared identifier".toList⟩,
       ⟨none, "ERROR: 1 compilation errors.".toList⟩] := by
  have hf : ∀ n < wordBound, min (n + 100) 4294967295 < wordBound := fun n _ => by
    unfold wordBound
    omega
  have hnuls : ∀ line ∈ paddedLog.lines, NulsLast line := by decide +kernel
  refine ⟨hf, hnuls, ?_⟩
  rw [(remap_reads (fun n => min (n + 100) 4294967295) paddedLog).2 (· / 2) hf hnuls]
  decide +kernel

end Diagnostic

end ShaderBundle
