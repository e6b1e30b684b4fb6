import ShaderBundle.Proofs.Bundle.Blocks
import ShaderBundle.Proofs.Text.Eraser

/-!
# No cut of the splitter fails

The splitter cuts texts at byte positions, takes ranges of lines, counts parentheses and numbers
lines. Each of these can fail: a position may lie within a character or beyond the end, a range may
end before it begins, a counter may go below zero, a number may be no word of 32 bits. Here the
splitter is written once more with steps that have no result when they fail, and it is shown that it
has a result, and which.

The positions are found in the masked copy and used in the text. That they are positions of the text
too, with the same characters between them, is where masking has to be exact.

## Why the splitter is written twice

`Bundle.split` is total: its cuts, ranges and numbers have a value whatever they are given, which is
what one wants to reason with. It could therefore hide a failure behind a value that happens to be
right. `Bundle.split?` has the same course with steps that can fail, and nothing else; the two are
compared step by step, from the inside out, and each step has one lemma that says it is the total
one. Nothing about files is proved with `Bundle.split?`.

## What may fail, and what cannot

* Cuts, ranges and the counter of parentheses do not fail on any text.
* Numbers of lines are words. An index is cut down to a word and one is added, and the sum is no
  word if the index is the last one; so the lemmas that number a line ask for a line that a word can
  count. `Bundle.split?_eq` asks for a text of fewer lines than there are words, which is the one
  condition that is left in the end.

The number of a line in the *words* of a fault, as in a stage that is declared twice, is not kept in
a word. That is why `Outline.addPragma?` uses the line once in a word and once as it is.

## Main definitions

* `Text.slice?`, `Bundle.range?`, `lineNumber?`: the steps that may fail.
* `Entry.toMain?`, `Bundle.split?`: the editor and the splitter, made of these.

## Main results

* `Text.slice?_eq_some_iff`: a slice is what stands between two positions.
* `Entry.toMain?_eq`, `Bundle.split?_eq`: nothing fails.
* `mask_erases`: all that masking does to a text.
-/

namespace ShaderBundle

/-! ### Steps that may fail

A slice is asked for by two positions of bytes. It is there if both are boundaries of characters, in
order and within the text; and then it is the part between them, which is how `slice?_eq_some_iff`
says it. -/

namespace Text

/-- The characters between two byte positions, unless these are out of order, beyond the end or
within a character. -/
def slice? (start stop : Nat) (s : Text) : Option Text :=
  if start ≤ stop ∧ OnBoundary start s ∧ OnBoundary stop s then some (cut start (cut stop s).1).2
  else none

/-- Of two parts at the front the shorter one is at the front of the other. -/
theorem prefix_of_size_le {p q s : Text} (hp : p <+: s) (hq : q <+: s) (hle : p.size ≤ q.size) :
    p <+: q := by
  rcases List.prefix_or_prefix_of_prefix hp hq with h | ⟨r, rfl⟩
  · exact h
  · rw [size_append] at hle
    cases r with
    | nil => simp
    | cons c r =>
      have := width_pos c
      rw [size_cons] at hle
      omega

/-- A slice stands behind as many bytes as it should, and reaches as far as it should. -/
theorem slice?_eq_some_iff {start stop : Nat} {s t : Text} : slice? start stop s = some t ↔
    ∃ front back, s = front ++ t ++ back ∧ start = front.size ∧ stop = front.size + t.size := by
  constructor
  · intro h
    unfold slice? at h
    split at h
    next hcuts =>
      obtain ⟨hle, hstart, hstop⟩ := hcuts
      -- What is in front of the one cut begins what is in front of the other, and the slice is the
      -- rest.
      obtain ⟨r, hr⟩ : (cut start s).1 <+: (cut stop s).1 :=
        prefix_of_size_le ⟨_, cut_append start s⟩ ⟨_, cut_append stop s⟩
          (by rw [hstart, hstop]; exact hle)
      have hcut : cut start (cut stop s).1 = ((cut start s).1, r) := by
        have := cut_size_append (cut start s).1 r
        rwa [hr, hstart] at this
      rw [hcut] at h
      obtain rfl := Option.some.inj h
      refine ⟨(cut start s).1, (cut stop s).2, ?_, hstart.symm, ?_⟩
      · rw [hr, cut_append]
      · rw [← size_append, hr, hstop]
    next => cases h
  · rintro ⟨front, back, rfl, rfl, rfl⟩
    have hstart : OnBoundary front.size (front ++ t ++ back) := by
      rw [List.append_assoc]
      exact onBoundary_size_append _ _
    have hstop : OnBoundary (front.size + t.size) (front ++ t ++ back) := by
      rw [← size_append]
      exact onBoundary_size_append _ _
    rw [slice?, if_pos ⟨Nat.le_add_right .., hstart, hstop⟩, ← size_append, cut_size_append,
      cut_size_append]

end Text

/-- The number of the line with an index, counted from one in words. -/
def lineNumber? (index : Nat) : Option Nat :=
  Word.add? (Word.cut index) 1

theorem lineNumber?_eq {index : Nat} (h : index + 1 < wordBound) :
    lineNumber? index = some (index + 1) := by
  rw [lineNumber?, Word.cut_of_lt (Nat.lt_of_succ_lt h), Word.add?_of_lt h]

/-- The lines with indices from `start` up to, not including, `stop`, unless the range is none. -/
def Bundle.range? (start stop : Nat) (ls : List Text) : Option (List Text) :=
  if start ≤ stop ∧ stop ≤ ls.length then some (between start stop ls) else none

/-- Steps that do not fail, one after the other. -/
theorem mapM_eq_some_map {α β : Type} {f : α → Option β} {g : α → β} {xs : List α}
    (h : ∀ x ∈ xs, f x = some (g x)) : xs.mapM f = some (xs.map g) := by
  induction xs with
  | nil => rfl
  | cons x xs ih =>
    rw [List.mapM_cons, h x List.mem_cons_self, ih fun y hy => h y (List.mem_cons_of_mem x hy)]
    rfl

/-! ### The outline

The pass over the lines keeps numbers of lines in two places, the marker of a stage and the place of
a fault. Both are one more than an index, and the index is that of a line that is being read. -/

namespace Outline

variable {options : SplitOptions} {outline : Outline} {limit line : Nat}

/-- `addPragma` with numbers of lines in words. The words of the fault, unlike its place, count the
line as it is. -/
def addPragma? (options : SplitOptions) (outline : Outline) (line : Nat)
    (argument : Text) : Option Outline := do
  let number ← lineNumber? line
  match Stage.ofName? argument with
  | some stage =>
    match outline.markers.find? fun marker => marker.stage = stage with
    | some first => do
      let opened ← lineNumber? first.line
      return outline.report (.malformed (some stage) (.spanning opened number)
        (.duplicate stage (first.line + 1)))
    | none => return { outline with markers := outline.markers ++ [⟨stage, line⟩] }
  | none =>
    if options.nativePragmas && Directive.isForCompiler argument then return outline
    else return outline.report (.malformed none (.single number) (.unknownPragma argument))

/-- `addLine` with numbers of lines in words. -/
def addLine? (options : SplitOptions) (outline : Outline) (line : Nat)
    (content : Text) : Option Outline :=
  match Directive.pragma? content with
  | some argument => outline.addPragma? options line argument
  | none => some outline

/-- `extend` with numbers of lines in words. -/
def extend? (options : SplitOptions) (outline : Outline) (line : Nat) :
    List Text → Option Outline
  | [] => some outline
  | content :: rest => do
    let outline ← outline.addLine? options line content
    extend? options outline (line + 1) rest

theorem addLine?_eq (hlimit : limit < wordBound) (hmarkers : ∀ m ∈ outline.markers, m.line < limit)
    (hline : line < limit) (content : Text) :
    outline.addLine? options line content = some (outline.addLine options line content) := by
  have hnumber : lineNumber? line = some (line + 1) := lineNumber?_eq (by omega)
  rw [addLine?, addLine]
  cases Directive.pragma? content with
  | none => rfl
  | some argument =>
    simp only [addPragma?, addPragma, hnumber, Option.bind_eq_bind, Option.bind_some]
    cases Stage.ofName? argument with
    | none =>
      simp only
      split <;> rfl
    | some stage =>
      simp only
      cases hfind : outline.markers.find? fun marker => marker.stage = stage with
      | none => rfl
      | some first =>
        -- The stage was opened on an earlier line, whose number is a word too.
        have hfirst := hmarkers first (List.mem_of_find?_eq_some hfind)
        have hopened : lineNumber? first.line = some (first.line + 1) :=
          lineNumber?_eq (by omega)
        simp only [hopened]
        rfl

theorem line_lt_of_addLine (hmarkers : ∀ m ∈ outline.markers, m.line < limit)
    (hline : line < limit) (content : Text) :
    ∀ m ∈ (outline.addLine options line content).markers, m.line < limit := by
  rw [addLine]
  split
  next argument _ =>
    rw [addPragma]
    split
    · split
      · exact hmarkers
      · intro m hm
        rcases List.mem_append.mp hm with hold | hnew
        · exact hmarkers m hold
        · obtain rfl := List.mem_singleton.mp hnew
          exact hline
    · split <;> exact hmarkers
  next => exact hmarkers

theorem extend?_eq {rest : List Text} (hlimit : limit < wordBound)
    (hmarkers : ∀ m ∈ outline.markers, m.line < limit) (hline : line + rest.length ≤ limit) :
    outline.extend? options line rest = some (outline.extend options line rest) := by
  induction rest generalizing outline line with
  | nil => rfl
  | cons content rest ih =>
    rw [List.length_cons] at hline
    have hlt : line < limit := by omega
    rw [extend?, addLine?_eq hlimit hmarkers hlt, Option.bind_eq_bind, Option.bind_some,
      ih (line_lt_of_addLine hmarkers hlt content) (by omega)]
    rfl

end Outline

/-! ### The entry function

Two loops of the editor look around in the text: behind every sign there is a look for what
continues it, and the scan for a closing parenthesis counts down. The positions come from the masked
copy and are used in the body, so the last lemma of this part is about the two together. -/

namespace Entry

/-- The byte positions of the sign of a mark, whatever follows it. -/
def signsFrom (position : Nat) : Text → List Nat
  | [] => []
  | c :: rest =>
    if sign.isPrefixOf (c :: rest) then position :: signsFrom (position + width c) rest
    else signsFrom (position + width c) rest

/-- The positions at which the sign is a mark, with a look behind it. -/
def standing? (s : Text) : List Nat → Option (List Nat)
  | [] => some []
  | position :: rest => do
    let behind ← s.slice? (position + sign.length) s.size
    let others ← standing? s rest
    return if behind.head?.any isWordChar then others else position :: others

/-- `marks` with slices. -/
def marks? (s : Text) : Option (List Nat) :=
  standing? s (signsFrom 0 s)

theorem standing?_eq (front rest : Text) :
    standing? (front ++ rest) (signsFrom front.size rest) = some (marksFrom front.size rest) := by
  induction rest generalizing front with
  | nil => rfl
  | cons c rest ih =>
    have hnext : standing? (front ++ c :: rest) (signsFrom (front.size + width c) rest) =
        some (marksFrom (front.size + width c) rest) := by
      have := ih (front ++ [c])
      simpa using this
    by_cases hsign : sign.isPrefixOf (c :: rest) = true
    -- There is a sign, so there is a boundary behind it.
    · obtain ⟨behind, hbehind⟩ := List.isPrefixOf_iff_prefix.mp hsign
      have hslice : (front ++ c :: rest).slice? (front.size + sign.length)
          (Text.size (front ++ c :: rest)) = some behind := by
        rw [Text.slice?_eq_some_iff, ← hbehind]
        exact ⟨front ++ sign, [], by simp, by simp [size_sign], by simp [Nat.add_assoc]⟩
      rw [signsFrom, if_pos hsign, standing?, hslice, Option.bind_eq_bind, Option.bind_some, hnext,
        marksFrom]
      have hmark : startsWithMark (c :: rest) = !behind.head?.any isWordChar := by
        rw [startsWithMark, ← hbehind, List.isPrefixOf_iff_prefix.mpr ⟨behind, rfl⟩, List.drop_left]
        cases behind <;> rfl
      rw [hmark]
      cases behind.head?.any isWordChar <;> rfl
    · have hmark : ¬startsWithMark (c :: rest) = true := by
        rw [startsWithMark]
        simp [hsign]
      rw [signsFrom, if_neg hsign, hnext, marksFrom, if_neg hmark]

/-- **Behind every sign there is a place to look.** -/
theorem marks?_eq (s : Text) : marks? s = some (marks s) :=
  standing?_eq [] s

/-- What follows the parenthesis that brings a counter to zero, if there is one, unless the counter
is there already. -/
def closeCounted? : Nat → Text → Option (Option Text)
  | _, [] => some none
  | depth, c :: rest =>
    if c = '(' then closeCounted? (depth + 1) rest
    else if c = ')' then
      match depth with
      | 0 => none
      | 1 => some (some rest)
      | outer + 2 => closeCounted? (outer + 1) rest
    else closeCounted? depth rest

/-- `scan` with a counter of parentheses. -/
def scan? (s : Text) : Option (Except EntryFault Name) :=
  match identifier? (skip s) with
  | none => some (.error .noDeclaration)
  | some (_, afterType) =>
    match identifier? (skip afterType) with
    | none => some (.error .noName)
    | some (name, afterName) =>
      match skip afterName with
      | '(' :: parameters => do
        match ← closeCounted? 0 ('(' :: parameters) with
        | none => return .error .openParameters
        | some afterParameters =>
          match skip afterParameters with
          | '{' :: _ => return .ok ⟨s.size - (skip afterType).size, name⟩
          | _ => return .error .noBody
      | _ => some (.error .noParameters)

theorem closeCounted?_open (depth : Nat) (s : Text) :
    closeCounted? depth ('(' :: s) = closeCounted? (depth + 1) s := by
  rw [closeCounted?.eq_def]
  rfl

/-- Inside a parenthesis the counter is not zero. -/
theorem closeCounted?_eq (depth : Nat) (s : Text) :
    closeCounted? (depth + 1) s = some (closeParens? depth s) := by
  induction s generalizing depth with
  | nil => cases depth <;> rfl
  | cons c s ih =>
    by_cases hopen : c = '('
    · subst hopen
      rw [closeParens?_open, closeCounted?_open, ih]
    · by_cases hclose : c = ')'
      · subst hclose
        rw [closeParens?_close]
        cases depth with
        | zero => rfl
        | succ outer => exact ih outer
      · rw [closeParens?_other hopen hclose, closeCounted?.eq_def]
        simp only [hopen, hclose, if_false]
        exact ih depth

/-- **The counter of parentheses does not go below zero.** -/
theorem scan?_eq (s : Text) : scan? s = some (scan s) := by
  rw [scan?, scan]
  cases identifier? (skip s) with
  | none => rfl
  | some type =>
    simp only
    cases identifier? (skip type.2) with
    | none => rfl
    | some name =>
      simp only
      cases skip name.2 with
      | nil => rfl
      | cons c parameters =>
        by_cases hopen : c = '('
        · subst hopen
          simp only [closeCounted?_open, closeCounted?_eq, Option.bind_eq_bind, Option.bind_some]
          cases closeParens? 0 parameters with
          | none => rfl
          | some afterParameters =>
            simp only
            cases skip afterParameters with
            | nil => rfl
            | cons d behind =>
              by_cases hbody : d = '\x7b'
              · subst hbody
                rfl
              · simp [hbody]
        · simp [hopen]

/-- `lineOf` with a slice and in words. -/
def lineOf? (masked : Text) (first position : Nat) : Option Nat := do
  let front ← masked.slice? 0 position
  Word.add? first (Word.cut front.feeds)

/-- `toMain` with slices and in words. -/
def toMain? (body masked : Text) (first : Nat) :
    Option (Except Fault (Text × Text)) := do
  match ← marks? masked with
  | [] => return .error .noEntry
  | [position] =>
    let behind ← masked.slice? (position + sign.length) masked.size
    match ← scan? behind with
    | .error cause => return .error (.badEntry (← lineOf? masked first position) cause)
    | .ok name =>
      let start := position + sign.length + name.lead
      let stop := start + name.text.size
      let front ← body.slice? 0 position
      let lead ← body.slice? (position + sign.length) start
      let back ← body.slice? stop body.size
      let word ← body.slice? start stop
      return .ok (front ++ List.replicate sign.length ' ' ++ lead ++ mainName ++ back, word)
  | several => return .error (.manyEntries (← several.mapM (lineOf? masked first)))

theorem lineOf?_eq {first : Nat} {masked front : Text} (hfront : front <+: masked)
    (hwords : first + masked.feeds < wordBound) :
    lineOf? masked first front.size = some (lineOf masked first front.size) := by
  obtain ⟨rest, rfl⟩ := hfront
  have hslice : Text.slice? 0 front.size (front ++ rest) = some front :=
    Text.slice?_eq_some_iff.mpr ⟨[], rest, by simp, rfl, by simp⟩
  rw [Text.feeds_append] at hwords
  rw [lineOf?, hslice, Option.bind_eq_bind, Option.bind_some, lineOf_size,
    Word.cut_of_lt (by omega), Word.add?_of_lt (by omega)]

/-- The slices of a text at a site. -/
theorem slices_marked (site : Site) :
    site.marked.slice? 0 site.front.size = some site.front ∧
      site.marked.slice? site.front.size (site.front.size + sign.length) = some sign ∧
      site.marked.slice? (site.front.size + sign.length)
        (site.front.size + sign.length + site.lead.size) = some site.lead ∧
      site.marked.slice? (site.front.size + sign.length + site.lead.size)
        (site.front.size + sign.length + site.lead.size + site.name.size) = some site.name ∧
      site.marked.slice? (site.front.size + sign.length + site.lead.size + site.name.size)
        site.marked.size = some site.back := by
  simp only [Text.slice?_eq_some_iff]
  refine ⟨⟨[], sign ++ site.lead ++ site.name ++ site.back, ?_, ?_, ?_⟩,
    ⟨site.front, site.lead ++ site.name ++ site.back, ?_, ?_, ?_⟩,
    ⟨site.front ++ sign, site.name ++ site.back, ?_, ?_, ?_⟩,
    ⟨site.front ++ sign ++ site.lead, site.back, ?_, ?_, ?_⟩,
    ⟨site.front ++ sign ++ site.lead ++ site.name, [], ?_, ?_, ?_⟩⟩ <;>
    simp [Site.marked, size_sign, Nat.add_assoc]

/-- Where the position of a mark is. -/
theorem exists_of_mem_marks {masked : Text} {position : Nat} (h : position ∈ marks masked) :
    ∃ front rest, masked = front ++ sign ++ rest ∧ position = front.size := by
  rw [marks_eq_fronts] at h
  obtain ⟨front, hfront, rfl⟩ := List.mem_map.mp h
  obtain ⟨rest, hrest, -⟩ := mem_fronts.mp hfront
  exact ⟨front, rest, hrest, rfl⟩

/-- What a scan behind a mark finds is at a site of the copy, and the text has that site too. -/
theorem exists_site_of_scan {body front rest : Text} {name : Name}
    (hmasked : Masked body (front ++ sign ++ rest)) (hscan : scan rest = .ok name) :
    ∃ site copy : Site, body = site.marked ∧ front ++ sign ++ rest = copy.marked ∧
      site.Shows copy ∧ front.size = site.front.size ∧ name = ⟨site.lead.size, site.name⟩ := by
  obtain ⟨lead, back, rfl, hlead, hdeclares⟩ := scan_eq_ok_iff.mp hscan
  have hcopy : front ++ sign ++ (lead ++ name.text ++ back) =
      (Site.mk front lead name.text back).marked := by
    simp [Site.marked]
  rw [hcopy] at hmasked ⊢
  obtain ⟨site, rfl, hshows⟩ := exists_site hmasked hdeclares.isWord
  refine ⟨site, _, rfl, rfl, hshows, hshows.front.size_eq, ?_⟩
  have hname : name.text = site.name := hshows.name
  have hleadSize : lead.size = site.lead.size := hshows.lead.size_eq
  rw [← hname, ← hleadSize, ← hlead]

/-- **No step of the editor fails.** The positions of the mark and of the name are found in the
masked copy, and cut the body at the same places. -/
theorem toMain?_eq {body masked : Text} (hmasked : Masked body masked) {first : Nat}
    (hwords : first + masked.feeds < wordBound) :
    toMain? body masked first = some (toMain body masked first) := by
  -- Marks stand in the copy, and the line of each is counted in the part before it.
  have hline : ∀ position ∈ marks masked,
      lineOf? masked first position = some (lineOf masked first position) := by
    intro position hposition
    obtain ⟨front, rest, hrest, rfl⟩ := exists_of_mem_marks hposition
    exact lineOf?_eq ⟨sign ++ rest, by rw [hrest, List.append_assoc]⟩ hwords
  rw [toMain?, marks?_eq, Option.bind_eq_bind, Option.bind_some, toMain]
  rcases hfound : marks masked with _ | ⟨position, _ | ⟨second, more⟩⟩
  · rfl
  · have hmem : position ∈ marks masked := by simp [hfound]
    have hhere := hline position hmem
    obtain ⟨front, rest, rfl, rfl⟩ := exists_of_mem_marks hmem
    have hslice : Text.slice? (front.size + sign.length) (Text.size (front ++ sign ++ rest))
        (front ++ sign ++ rest) = some rest :=
      Text.slice?_eq_some_iff.mpr ⟨front ++ sign, [], by simp, by simp [size_sign],
        by simp [Nat.add_assoc]⟩
    simp only [hslice, cut_behind_mark, scan?_eq, Option.bind_eq_bind, Option.bind_some]
    cases hscan : scan rest with
    | error cause =>
      simp only [hhere]
      rfl
    | ok name =>
      -- The name was found in the copy, and the text has it at the same place.
      obtain ⟨site, copy, rfl, -, hshows, hfront, rfl⟩ := exists_site_of_scan hmasked hscan
      obtain ⟨hbefore, -, hlead, hname, hback⟩ := slices_marked site
      have hrename : rename site.marked site.front.size ⟨site.lead.size, site.name⟩ =
          site.renamed := by
        rw [← hshows.front.size_eq, ← hshows.lead.size_eq, ← hshows.name, rename_eq_renamed hshows]
      simp only [hfront, hrename, hbefore, hlead, hname, hback, Option.bind_some]
      rfl
  · simp only [mapM_eq_some_map fun position hposition => hline position (hfound ▸ hposition)]
    rfl

end Entry

/-! ### The splitter

A block that is not blank has a line behind its marker, which is what makes its range one. The
remaining steps are those of the parts above, put together in the course of the total splitter. -/

namespace Bundle

variable {lines : List Text} {header : Text} {n : Nat}

/-- `readBlock` with ranges that are there, and in words. -/
def readBlock? (ls masked : List Text) (header : Text) (headerLines : Nat) (marker : Marker)
    (stop : Nat) : Option (Except SplitError Block) := do
  let opened ← lineNumber? marker.line
  let place := LineRange.spanning opened (Word.cut stop)
  let maskedLines ← range? (marker.line + 1) stop masked
  if (Text.unlines maskedLines).isAllBlank then
    return .error (.malformed (some marker.stage) place .emptyBody)
  else
    let bodyLines ← range? (marker.line + 1) stop ls
    let first ← lineNumber? (marker.line + 1)
    match ← Entry.toMain? (Text.unlines bodyLines) (Text.unlines maskedLines) first with
    | .error fault => return .error (.malformed (some marker.stage) place fault)
    | .ok (renamed, entry) =>
      return .ok {
        stage := marker.stage
        source := header ++ '\n' :: renamed
        entry := entry
        headerLines := Word.cut headerLines
        body := .spanning first (Word.cut stop) }

/-- The blocks of some spans, up to the first one with a fault. -/
def readSpans? (ls masked : List Text) (header : Text) (headerLines : Nat) :
    List (Marker × Nat) → Option (Except SplitError (List Block))
  | [] => some (.ok [])
  | span :: rest => do
    match ← readBlock? ls masked header headerLines span.1 span.2 with
    | .error e => return .error e
    | .ok block =>
      let blocks ← readSpans? ls masked header headerLines rest
      return blocks.map (block :: ·)

/-- The first line with an entry mark. -/
def firstMarked? : List Text → Option (Option Nat)
  | [] => some none
  | line :: rest => do
    let marks ← Entry.marks? line
    if marks.isEmpty then
      let index ← firstMarked? rest
      return index.map (· + 1)
    else return some 0

/-- `ofOutline` with ranges that are there, and in words. -/
def ofOutline? (name : Text) (ls masked : List Text) (markers : List Marker) :
    Option (Except SplitError Bundle) := do
  let headerLines := match markers with
    | [] => ls.length
    | first :: _ => first.line
  let front ← range? 0 headerLines ls
  let maskedFront ← range? 0 headerLines masked
  match version? front maskedFront with
  | none => return .error .missingVersion
  | some version =>
    match ← firstMarked? maskedFront with
    | some index =>
      let line ← lineNumber? index
      return .error (.malformed none (.single line) .entryInHeader)
    | none =>
      let header := Text.unlines front
      let blocks ← readSpans? ls masked header headerLines (spans ls.length markers)
      return blocks.map fun blocks => { name, header, version, blocks }

/-- **`split` with steps that may fail**: slices of texts, ranges of lines, the counter of
parentheses, and numbers of lines in words. -/
def split? (options : SplitOptions) (name text : Text) : Option (Except SplitError Bundle) := do
  let ls := text.lines
  let masked := (mask text).lines
  let outline ← Outline.extend? options {} 0 masked
  if !outline.missing.isEmpty then return .error (.incomplete outline.missing)
  else match outline.problem with
    | some problem => return .error problem
    | none => ofOutline? name ls masked outline.markers

theorem range?_eq {start stop : Nat} {ls : List Text} (h : start ≤ stop)
    (hstop : stop ≤ ls.length) :
    range? start stop ls = some (between start stop ls) :=
  if_pos ⟨h, hstop⟩

/-- A block that is not blank has a line behind its marker, and its last line is one of the
file's. -/
theorem le_of_not_isAllBlank {start stop : Nat} (hfeed : ∀ l ∈ lines, '\n' ∉ l)
    (hstop : stop ≤ lines.length)
    (hblank : ¬(bodyText (maskLines .code lines) start stop).isAllBlank = true) :
    start + 2 + (bodyText (maskLines .code lines) start stop).feeds ≤ lines.length := by
  have hlength : (between (start + 1) stop (maskLines .code lines)).length =
    stop - (start + 1) := by
    rw [between, List.length_drop, List.length_take, length_maskLines, Nat.min_eq_left hstop]
  have hne : between (start + 1) stop (maskLines .code lines) ≠ [] := by
    intro hnil
    rw [bodyText, hnil] at hblank
    exact hblank rfl
  have hpos := List.length_pos_iff.mpr hne
  -- Lines are joined by feeds, so there is one feed less than there are lines.
  have hfeeds := Text.feeds_unlines hne fun l hl =>
    feed_notMem_of_mem_maskLines hfeed l (List.mem_of_mem_take (List.mem_of_mem_drop hl))
  rw [bodyText]
  omega

/-- **No step of reading a block fails.** -/
theorem readBlock?_eq {marker : Marker} {stop : Nat} (hcounted : lines.length < wordBound)
    (hn : n ≤ lines.length) (hfeed : ∀ l ∈ lines, '\n' ∉ l) (hlt : marker.line < stop)
    (hstop : stop ≤ lines.length) :
    readBlock? lines (maskLines .code lines) header n marker stop =
      some (readBlock lines (maskLines .code lines) header n marker stop) := by
  have hopened : lineNumber? marker.line = some (marker.line + 1) := lineNumber?_eq (by omega)
  have hlast : Word.cut stop = stop := Word.cut_of_lt (by omega)
  have hheader : Word.cut n = n := Word.cut_of_lt (by omega)
  have hmasked : range? (marker.line + 1) stop (maskLines .code lines) =
      some (between (marker.line + 1) stop (maskLines .code lines)) :=
    range?_eq hlt (by rwa [length_maskLines])
  simp only [readBlock?, readBlock, hopened, hlast, hheader, hmasked, Option.bind_eq_bind,
    Option.bind_some]
  by_cases hblank : (bodyText (maskLines .code lines) marker.line stop).isAllBlank = true
  · exact (if_pos hblank).trans (congrArg some (if_pos hblank).symm)
  -- A line behind the marker is there, and all numbers of the block are those of lines of the file.
  · have hlines := le_of_not_isAllBlank hfeed hstop hblank
    have hbody : range? (marker.line + 1) stop lines =
        some (between (marker.line + 1) stop lines) := range?_eq hlt hstop
    have hfirst : lineNumber? (marker.line + 1) = some (marker.line + 1 + 1) :=
      lineNumber?_eq (by omega)
    have hmain : Entry.toMain? (Text.unlines (between (marker.line + 1) stop lines))
          (Text.unlines (between (marker.line + 1) stop (maskLines .code lines)))
          (marker.line + 1 + 1) =
        some (Entry.toMain (Text.unlines (between (marker.line + 1) stop lines))
          (Text.unlines (between (marker.line + 1) stop (maskLines .code lines)))
          (marker.line + 1 + 1)) :=
      Entry.toMain?_eq (masked_bodyText lines hlt) (Nat.lt_of_le_of_lt hlines hcounted)
    rw [bodyText] at hblank
    simp only [if_neg hblank, hbody, hfirst, hmain, Option.bind_some]
    cases Entry.toMain (Text.unlines (between (marker.line + 1) stop lines))
      (Text.unlines (between (marker.line + 1) stop (maskLines .code lines)))
      (marker.line + 1 + 1) <;> rfl

theorem readSpans?_eq {markers : List (Marker × Nat)} (hcounted : lines.length < wordBound)
    (hn : n ≤ lines.length) (hfeed : ∀ l ∈ lines, '\n' ∉ l)
    (h : ∀ s ∈ markers, s.1.line < s.2 ∧ s.2 ≤ lines.length) :
    readSpans? lines (maskLines .code lines) header n markers =
      some (markers.mapM fun s => readBlock lines (maskLines .code lines) header n s.1 s.2) := by
  induction markers with
  | nil => rfl
  | cons s rest ih =>
    obtain ⟨hlt, hstop⟩ := h s List.mem_cons_self
    rw [readSpans?, readBlock?_eq hcounted hn hfeed hlt hstop, Option.bind_eq_bind,
      Option.bind_some, List.mapM_cons, ih fun s' hs' => h s' (List.mem_cons_of_mem s hs')]
    cases readBlock lines (maskLines .code lines) header n s.1 s.2 with
    | error e => rfl
    | ok block =>
      cases rest.mapM fun s => readBlock lines (maskLines .code lines) header n s.1 s.2 <;> rfl

theorem firstMarked?_eq (masked : List Text) :
    firstMarked? masked = some (masked.findIdx? fun line => !(Entry.marks line).isEmpty) := by
  induction masked with
  | nil => rfl
  | cons line rest ih =>
    rw [firstMarked?, Entry.marks?_eq, Option.bind_eq_bind, Option.bind_some, ih,
      List.findIdx?_cons]
    cases (Entry.marks line).isEmpty <;> rfl

theorem ofOutline?_eq (name : Text) {first : Marker} {rest : List Marker}
    (hcounted : lines.length < wordBound)
    (hfeed : ∀ l ∈ lines, '\n' ∉ l) (hfirst : first.line ≤ lines.length)
    (hspans : ∀ s ∈ spans lines.length (first :: rest), s.1.line < s.2 ∧ s.2 ≤ lines.length) :
    ofOutline? name lines (maskLines .code lines) (first :: rest) =
      some (ofOutline name lines (maskLines .code lines) (first :: rest)) := by
  have hfront : range? 0 first.line lines = some (lines.take first.line) :=
    range?_eq (Nat.zero_le _) hfirst
  have hmasked : range? 0 first.line (maskLines .code lines) =
      some ((maskLines .code lines).take first.line) :=
    range?_eq (Nat.zero_le _) (by rwa [length_maskLines])
  simp only [ofOutline?, ofOutline, hfront, hmasked, Option.bind_eq_bind, Option.bind_some,
    readBlocks_eq_mapM, firstMarked?_eq, readSpans?_eq hcounted hfirst hfeed hspans]
  cases version? (lines.take first.line) ((maskLines .code lines).take first.line) with
  | none => rfl
  | some version =>
    simp only
    cases hfind : ((maskLines .code lines).take first.line).findIdx?
        fun line => !(Entry.marks line).isEmpty with
    | some index =>
      -- A mark in front of the first block is on a line of the file.
      have hindex : index < first.line := by
        have hlt := (List.findIdx?_eq_some_iff_findIdx_eq.mp hfind).1
        rw [List.length_take] at hlt
        omega
      have hline : lineNumber? index = some (index + 1) := lineNumber?_eq (by omega)
      simp only [hline]
      rfl
    | none =>
      simp only
      cases (spans lines.length (first :: rest)).mapM fun s =>
        readBlock lines (maskLines .code lines) (Text.unlines (lines.take first.line)) first.line
          s.1 s.2 <;> rfl

/-- Spans lie within the file. -/
theorem span_bounds {n : Nat} {markers : List Marker}
    (hsorted : markers.Pairwise fun m m' => m.line < m'.line) (hlt : ∀ m ∈ markers, m.line < n) :
    ∀ s ∈ spans n markers, s.1.line < s.2 ∧ s.2 ≤ n := by
  rintro ⟨m, stop⟩ hs
  obtain ⟨-, hstart, -, hstop⟩ := (mem_spans_iff hsorted hlt).mp hs
  refine ⟨hstart, ?_⟩
  rcases hstop with rfl | ⟨m', hm', rfl⟩
  · exact Nat.le_refl _
  · exact Nat.le_of_lt (hlt m' hm')

/-- **No step of the splitter fails on a text whose lines a word can count**, and the numbers that
it keeps in words are the numbers of the lines. -/
theorem split?_eq {text : Text} (hcounted : text.lines.length < wordBound) (options : SplitOptions)
    (name : Text) : split? options name text = some (split options name text) := by
  have hfeed : ∀ l ∈ text.lines, '\n' ∉ l := fun l hl => Text.feed_notMem_of_mem_lines hl
  have hknows := Outline.knows_ofLines options (maskLines .code text.lines)
  rw [length_maskLines] at hknows
  have houtline : Outline.extend? options {} 0 (maskLines .code text.lines) =
      some (Outline.ofLines options (maskLines .code text.lines)) :=
    Outline.extend?_eq hcounted (by simp) (by simp)
  rw [split?, lines_mask, houtline, Option.bind_eq_bind, Option.bind_some, split_eq]
  generalize Outline.ofLines options (maskLines .code text.lines) = outline at hknows
  split
  · rfl
  next hmissing =>
    cases outline.problem with
    | some problem => rfl
    | none =>
      obtain ⟨first, rest, hmarkers⟩ := exists_first (by simpa using hmissing)
      have hlt : ∀ m ∈ outline.markers, m.line < text.lines.length := fun m hm =>
        (hknows.marker m hm).1
      -- Stages are there, so spans are, and they lie within the file.
      have hspans := span_bounds hknows.sorted hlt
      simp only [hmarkers] at hspans hlt ⊢
      exact ofOutline?_eq name hcounted hfeed (Nat.le_of_lt (hlt first List.mem_cons_self)) hspans

end Bundle

/-! ### What masking does -/

/-- What masking does to a text, and what is made of the copy. -/
structure Erases (text : Text) : Prop where
  /-- The copy has as many bytes as the text. -/
  length : (Utf8.encode (mask text)).length = (Utf8.encode text).length
  /-- The text is code and comments in one way. -/
  reads : ∃! lexemes, Lexes text lexemes
  /-- In the copy the bytes of comments are spaces, but for those of line breaks, and all other
  bytes are those of the text. -/
  bytes : ∀ lexemes, Lexes text lexemes →
    Utf8.encode text = (lexemes.flatMap Lexeme.bytes).map Prod.snd ∧
      Utf8.encode (mask text) = (lexemes.flatMap Lexeme.bytes).map erased
  /-- Every line has a line of the copy, with as many bytes. -/
  lines : List.Forall₂
    (fun line masked => (Utf8.encode masked).length = (Utf8.encode line).length)
    text.lines (Text.lines (mask text))
  /-- The copy is its own copy. -/
  again : mask (mask text) = mask text
  /-- A mark that is found in the masked lines of a body stands at the same place in the body. -/
  marks : ∀ start stop, ∀ position ∈ Entry.marks (bodyText (Text.lines (mask text)) start stop),
    (bodyText (Text.lines (mask text)) start stop).slice? position
        (position + Entry.sign.length) = some Entry.sign ∧
      (bodyText text.lines start stop).slice? position
        (position + Entry.sign.length) = some Entry.sign
  /-- So does the name behind a mark. -/
  names : ∀ start stop, ∀ position ∈ Entry.marks (bodyText (Text.lines (mask text)) start stop),
    ∀ name, Entry.scan (Text.cut (position + Entry.sign.length)
        (bodyText (Text.lines (mask text)) start stop)).2 = .ok name →
      (bodyText (Text.lines (mask text)) start stop).slice?
          (position + Entry.sign.length + name.lead)
          (position + Entry.sign.length + name.lead + name.text.size) = some name.text ∧
        (bodyText text.lines start stop).slice?
          (position + Entry.sign.length + name.lead)
          (position + Entry.sign.length + name.lead + name.text.size) = some name.text
  /-- No cut, range or count of the splitter fails, and if a word can count the lines of the text,
  no line number does. -/
  splits : text.lines.length < wordBound → ∀ options name,
    Bundle.split? options name text = some (Bundle.split options name text)

theorem masked_bodyText_mask (text : Text) (start stop : Nat) :
    Masked (bodyText text.lines start stop) (bodyText (Text.lines (mask text)) start stop) := by
  rw [lines_mask]
  by_cases hlt : start < stop
  · exact masked_bodyText text.lines hlt
  · have hnil : ∀ ls : List Text, Bundle.between (start + 1) stop ls = [] := fun ls =>
      List.drop_eq_nil_of_le (by rw [List.length_take]; omega)
    rw [bodyText, bodyText, hnil, hnil]
    exact .nil

namespace Entry

variable {body masked : Text} {position : Nat}

/-- The sign of a mark stands in the copy and in the text. -/
theorem slices_of_mem_marks (hmasked : Masked body masked) (hposition : position ∈ marks masked) :
    masked.slice? position (position + sign.length) = some sign ∧
      body.slice? position (position + sign.length) = some sign := by
  obtain ⟨front, rest, rfl, rfl⟩ := exists_of_mem_marks hposition
  obtain ⟨before, behind, rfl, hbefore, -⟩ :=
    hmasked.exists_of_append sign_ne_nil space_notMem_sign
  rw [Text.slice?_eq_some_iff, Text.slice?_eq_some_iff]
  exact ⟨⟨front, rest, rfl, rfl, by rw [size_sign]⟩,
    ⟨before, behind, rfl, hbefore.size_eq, by rw [hbefore.size_eq, size_sign]⟩⟩

/-- So does the name that a scan behind it finds. -/
theorem slices_of_scan (hmasked : Masked body masked) (hposition : position ∈ marks masked)
    {name : Name} (hscan : scan (Text.cut (position + sign.length) masked).2 = .ok name) :
    masked.slice? (position + sign.length + name.lead)
        (position + sign.length + name.lead + name.text.size) = some name.text ∧
      body.slice? (position + sign.length + name.lead)
        (position + sign.length + name.lead + name.text.size) = some name.text := by
  obtain ⟨front, rest, rfl, rfl⟩ := exists_of_mem_marks hposition
  rw [cut_behind_mark] at hscan
  obtain ⟨site, copy, rfl, hcopy, hshows, hfront, rfl⟩ := exists_site_of_scan hmasked hscan
  obtain ⟨-, -, -, hname, -⟩ := slices_marked site
  obtain ⟨-, -, -, hname', -⟩ := slices_marked copy
  rw [hshows.front.size_eq, hshows.lead.size_eq, hshows.name] at hname'
  rw [hcopy, hfront]
  exact ⟨hname', hname⟩

end Entry

/-- **What masking does to a text.** -/
theorem mask_erases (text : Text) : Erases text where
  length := by rw [Utf8.length_encode, Utf8.length_encode, size_mask]
  reads := existsUnique_lexes text
  bytes _ h := h.encode_eq
  lines := by simpa only [Utf8.length_encode] using forall₂_size_lines_mask text
  again := mask_mask text
  marks start stop _ hposition :=
    Entry.slices_of_mem_marks (masked_bodyText_mask text start stop) hposition
  names start stop _ hposition _ hscan :=
    Entry.slices_of_scan (masked_bodyText_mask text start stop) hposition hscan
  splits hcounted options name := Bundle.split?_eq hcounted options name

end ShaderBundle
