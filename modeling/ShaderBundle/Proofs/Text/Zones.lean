import ShaderBundle.Proofs.Text.Masked

/-!
# Comment zones at the seams of a text

Masking reads a text once from left to right, so a text that is cut in two can be masked part by
part, as long as the second part is read from within the zone that the first one ends in and no
delimiter of a comment is cut in two. A cut at a line ending never does that.

A file is read by lines, with a carriage return dropped before each line feed. Dropping it changes
no zone, so the masked lines of a file are the lines of its masked copy.

## What a seam may do

A delimiter has two characters, and there are three of them. If a text ends in `/` and the next one
begins with `*`, then the two together have a comment that neither of them has. `Loose` excludes
this from one side at a time: either the first text does not end in a slash or a star, or the second
one does not begin with one. That is more than is needed, `*` in front of `*` would do no harm, but
it is decided by looking at one character, and the seams that come up are at line feeds and at
blanks.

## Why lines are masked one by one

The lines of a file are cut out and put together in new ways: a range of them becomes the body of a
stage. What such a range looks like when it is masked depends on the zone in which it begins, and
`maskLines` carries that zone along. A range of masked lines is then `maskLines` of the range, from
within the zone that the lines before it end in, by `take_maskLines` and `drop_maskLines`; no
argument about a body has to go back to the whole file.

## Implementation notes

Inductions here follow the scanner: a zone, and within code or a block comment whether a delimiter
comes next. The lemmas for one character (`maskFrom_code_cons` and its siblings) say what happens
when none does, so that the proofs have three cases a zone and not one for each pattern of the
definition.

## Main definitions

* `zoneAfter` is the zone that a text ends in, `zoneAfterLines` the one that whole lines end in.
* `Loose` says that no delimiter of a comment straddles a seam.
* `maskLines` masks lines one by one.

## Main results

* `maskFrom_append`, `zoneAfter_append`: masking part by part.
* `maskFrom_unlines`, `lines_mask`: masking and cutting into lines commute.
-/

namespace ShaderBundle

/-- The zone in which a scanner of comments stands behind a text that it entered in a zone. -/
def zoneAfter : Zone → Text → Zone
  | zone, [] => zone
  | .code, '/' :: '/' :: rest => zoneAfter .line rest
  | .code, '/' :: '*' :: rest => zoneAfter .block rest
  | .code, _ :: rest => zoneAfter .code rest
  | .line, c :: rest => zoneAfter (if c = '\n' then .code else .line) rest
  | .block, '*' :: '/' :: rest => zoneAfter .code rest
  | .block, _ :: rest => zoneAfter .block rest

attribute [local simp] maskFrom zoneAfter

/-- No delimiter of a comment begins at the end of the first text and ends in the second. -/
def Loose (s t : Text) : Prop :=
  (∀ c, s.getLast? = some c → c ≠ '/' ∧ c ≠ '*') ∨ ∀ c, t.head? = some c → c ≠ '/' ∧ c ≠ '*'

theorem Loose.tail {c : Char} {s t : Text} (h : Loose (c :: s) t) : Loose s t := by
  rcases h with h | h
  · refine Or.inl fun d hd => h d ?_
    cases s with
    | nil => simp at hd
    | cons e s => rwa [List.getLast?_cons_cons]
  · exact Or.inr h

theorem loose_feed (s t : Text) : Loose s ('\n' :: t) := by
  refine Or.inr fun c hc => ?_
  rw [List.head?_cons, Option.some.injEq] at hc
  subst hc
  decide

/-- A comment's delimiter that is not whole within the first text does not become so with the
second one. -/
theorem Loose.append_ne_cons {c d : Char} (hc : c = '/' ∨ c = '*') (hd : d = '/' ∨ d = '*')
    {s t : Text} (h : Loose (c :: s) t) (hs : ∀ rest, s ≠ d :: rest) :
    ∀ rest, s ++ t ≠ d :: rest := by
  intro rest hst
  cases s with
  | nil =>
    rw [List.nil_append] at hst
    rcases h with h | h
    · have := h c rfl
      rcases hc with rfl | rfl <;> simp at this
    · have := h d (by rw [hst]; rfl)
      rcases hd with rfl | rfl <;> simp at this
  | cons e s =>
    rw [List.cons_append, List.cons.injEq] at hst
    exact hs s (by rw [hst.1])

theorem maskFrom_code_cons {c : Char} {s : Text} (hline : c = '/' → ∀ rest, s ≠ '/' :: rest)
    (hblock : c = '/' → ∀ rest, s ≠ '*' :: rest) :
    maskFrom .code (c :: s) = c :: maskFrom .code s := by
  rw [maskFrom]
  · exact fun rest hc hs => hline hc rest hs
  · exact fun rest hc hs => hblock hc rest hs

/-- Code without a slash stays as it is. -/
theorem maskFrom_code_append {w : Text} (hw : ∀ c ∈ w, c ≠ '/') (t : Text) :
    maskFrom .code (w ++ t) = w ++ maskFrom .code t := by
  induction w with
  | nil => rfl
  | cons c w ih =>
    have hc : c ≠ '/' := hw c List.mem_cons_self
    rw [List.cons_append, List.cons_append,
      maskFrom_code_cons (fun h => absurd h hc) (fun h => absurd h hc),
      ih fun d hd => hw d (List.mem_cons_of_mem c hd)]

theorem maskFrom_block_cons {c : Char} {s : Text} (hclose : c = '*' → ∀ rest, s ≠ '/' :: rest) :
    maskFrom .block (c :: s) = blankOut c ++ maskFrom .block s := by
  rw [maskFrom]
  exact fun rest hc hs => hclose hc rest hs

theorem zoneAfter_code_cons {c : Char} {s : Text} (hline : c = '/' → ∀ rest, s ≠ '/' :: rest)
    (hblock : c = '/' → ∀ rest, s ≠ '*' :: rest) :
    zoneAfter .code (c :: s) = zoneAfter .code s := by
  rw [zoneAfter]
  · exact fun rest hc hs => hline hc rest hs
  · exact fun rest hc hs => hblock hc rest hs

theorem zoneAfter_block_cons {c : Char} {s : Text} (hclose : c = '*' → ∀ rest, s ≠ '/' :: rest) :
    zoneAfter .block (c :: s) = zoneAfter .block s := by
  rw [zoneAfter]
  exact fun rest hc hs => hclose hc rest hs

/-! ### Seams

Both theorems are by the same induction. In each case either the delimiter is whole within the first
text, and the seam is not yet reached, or the first text is down to one character, and `Loose` says
that the second one does not complete it. -/

/-- **Masking part by part.** -/
theorem maskFrom_append {s t : Text} (h : Loose s t) (zone : Zone) :
    maskFrom zone (s ++ t) = maskFrom zone s ++ maskFrom (zoneAfter zone s) t := by
  fun_induction zoneAfter zone s with
  | case1 zone => cases zone <;> simp
  | case2 rest ih => simp only [List.cons_append, maskFrom, ih h.tail.tail]
  | case3 rest ih => simp only [List.cons_append, maskFrom, ih h.tail.tail]
  | case4 c rest hline hblock ih =>
    rw [List.cons_append, maskFrom_code_cons (fun hc rest' hs => hline rest' hc hs)
        (fun hc rest' hs => hblock rest' hc hs),
      maskFrom_code_cons
        (fun hc => (hc ▸ h).append_ne_cons (Or.inl rfl) (Or.inl rfl) fun r hs => hline r hc hs)
        (fun hc => (hc ▸ h).append_ne_cons (Or.inl rfl) (Or.inr rfl) fun r hs => hblock r hc hs),
      ih h.tail, List.cons_append]
  | case5 c rest ih =>
    simp only [List.cons_append, maskFrom, List.append_assoc]
    rw [ih h.tail]
  | case6 rest ih => simp only [List.cons_append, maskFrom, ih h.tail.tail]
  | case7 c rest hclose ih =>
    rw [List.cons_append, maskFrom_block_cons (fun hc rest' hs => hclose rest' hc hs),
      maskFrom_block_cons
        (fun hc => (hc ▸ h).append_ne_cons (Or.inr rfl) (Or.inl rfl) fun r hs => hclose r hc hs),
      ih h.tail, List.append_assoc]

theorem zoneAfter_append {s t : Text} (h : Loose s t) (zone : Zone) :
    zoneAfter zone (s ++ t) = zoneAfter (zoneAfter zone s) t := by
  fun_induction zoneAfter zone s with
  | case1 zone => rfl
  | case2 rest ih => simp only [List.cons_append, zoneAfter, ih h.tail.tail]
  | case3 rest ih => simp only [List.cons_append, zoneAfter, ih h.tail.tail]
  | case4 c rest hline hblock ih =>
    rw [List.cons_append, zoneAfter_code_cons
        (fun hc => (hc ▸ h).append_ne_cons (Or.inl rfl) (Or.inl rfl) fun r hs => hline r hc hs)
        (fun hc => (hc ▸ h).append_ne_cons (Or.inl rfl) (Or.inr rfl) fun r hs => hblock r hc hs),
      ih h.tail]
  | case5 c rest ih => rw [List.cons_append, zoneAfter, ih h.tail]
  | case6 rest ih => simp only [List.cons_append, zoneAfter, ih h.tail.tail]
  | case7 c rest hclose ih =>
    rw [List.cons_append, zoneAfter_block_cons
        (fun hc => (hc ▸ h).append_ne_cons (Or.inr rfl) (Or.inl rfl) fun r hs => hclose r hc hs),
      ih h.tail]

/-- The seam of two lines. -/
theorem maskFrom_append_feed (zone : Zone) (s t : Text) :
    maskFrom zone (s ++ '\n' :: t) =
      maskFrom zone s ++ '\n' :: maskFrom (zoneAfter zone (s ++ ['\n'])) t := by
  have hfeed : ∀ zone, maskFrom zone ('\n' :: t) = '\n' :: maskFrom (zoneAfter zone ['\n']) t := by
    intro zone
    cases zone <;> simp [blankOut]
  rw [maskFrom_append (loose_feed s t), hfeed, zoneAfter_append (loose_feed s [])]

/-! ### Lines

A seam between lines is loose, because what follows it is a line feed. A feed also ends a comment of
one line, so the zone behind whole lines is code or a block comment; nothing below needs to know
that. -/

/-- The zone behind whole lines, the last one with its line feed. -/
def zoneAfterLines (zone : Zone) (ls : List Text) : Zone :=
  ls.foldl (fun zone l => zoneAfter zone (l ++ ['\n'])) zone

/-- Lines masked one by one, each from within the zone that the lines before it end in. -/
def maskLines : Zone → List Text → List Text
  | _, [] => []
  | zone, l :: ls => maskFrom zone l :: maskLines (zoneAfter zone (l ++ ['\n'])) ls

@[simp] theorem maskFrom_nil (zone : Zone) : maskFrom zone [] = [] := by
  cases zone <;> rfl

@[simp] theorem length_maskLines (zone : Zone) (ls : List Text) :
    (maskLines zone ls).length = ls.length := by
  induction ls generalizing zone with
  | nil => rfl
  | cons l ls ih => simp [maskLines, ih]

theorem maskLines_ne_nil {ls : List Text} (h : ls ≠ []) (zone : Zone) : maskLines zone ls ≠ [] := by
  cases ls with
  | nil => exact absurd rfl h
  | cons l ls => simp [maskLines]

theorem take_maskLines (zone : Zone) (ls : List Text) (n : Nat) :
    (maskLines zone ls).take n = maskLines zone (ls.take n) := by
  induction ls generalizing zone n with
  | nil => simp [maskLines]
  | cons l ls ih =>
    cases n with
    | zero => rfl
    | succ n => simp [maskLines, ih]

theorem drop_maskLines (zone : Zone) (ls : List Text) (n : Nat) :
    (maskLines zone ls).drop n = maskLines (zoneAfterLines zone (ls.take n)) (ls.drop n) := by
  induction ls generalizing zone n with
  | nil => simp [maskLines]
  | cons l ls ih =>
    cases n with
    | zero => rfl
    | succ n => simp [maskLines, zoneAfterLines, ih]

/-- Masking joined lines and joining masked lines are the same. -/
theorem maskFrom_unlines (zone : Zone) (ls : List Text) :
    maskFrom zone (Text.unlines ls) = Text.unlines (maskLines zone ls) := by
  induction ls generalizing zone with
  | nil => rw [Text.unlines_nil, maskFrom_nil]; rfl
  | cons l ls ih =>
    by_cases h : ls = []
    · subst h
      rw [Text.unlines_singleton]
      exact (Text.unlines_singleton _).symm
    · rw [Text.unlines_cons_of_ne_nil l h, maskFrom_append_feed, ih, maskLines,
        Text.unlines_cons_of_ne_nil _ (maskLines_ne_nil h _)]

theorem feed_notMem_maskFrom {s : Text} (h : '\n' ∉ s) (zone : Zone) :
    '\n' ∉ maskFrom zone s := by
  have hfeeds := (masked_maskFrom zone s).feeds_eq
  unfold Text.feeds at hfeeds
  rw [List.count_eq_zero_of_not_mem h, List.count_eq_zero] at hfeeds
  exact hfeeds

theorem feed_notMem_of_mem_maskLines {zone : Zone} {ls : List Text} (h : ∀ l ∈ ls, '\n' ∉ l) :
    ∀ m ∈ maskLines zone ls, '\n' ∉ m := by
  induction ls generalizing zone with
  | nil => simp [maskLines]
  | cons l ls ih =>
    intro m hm
    rw [maskLines, List.mem_cons] at hm
    rcases hm with rfl | hm
    · exact feed_notMem_maskFrom (h l (List.mem_cons_self ..)) zone
    · exact ih (fun l hl => h l (List.mem_cons_of_mem _ hl)) m hm

theorem pieces_maskFrom (zone : Zone) (s : Text) :
    Text.pieces (maskFrom zone s) = maskLines zone s.pieces := by
  calc Text.pieces (maskFrom zone s)
      = Text.pieces (maskFrom zone (Text.unlines s.pieces)) := by rw [Text.unlines_pieces]
    _ = Text.pieces (Text.unlines (maskLines zone s.pieces)) := by rw [maskFrom_unlines]
    _ = maskLines zone s.pieces :=
        Text.pieces_unlines (maskLines_ne_nil (Text.pieces_ne_nil s) zone)
          (feed_notMem_of_mem_maskLines fun _ hp => Text.feed_notMem_of_mem_pieces hp)

/-- Dropping a carriage return before or after masking is the same, and no zone depends on it. -/
theorem dropReturn_maskFrom (zone : Zone) (s : Text) :
    Text.dropReturn (maskFrom zone s) = maskFrom zone (Text.dropReturn s) ∧
      zoneAfter zone (Text.dropReturn s ++ ['\n']) = zoneAfter zone (s ++ ['\n']) := by
  rcases Text.dropReturn_cases s with ⟨r, rfl, hr⟩ | ⟨hlast, hs⟩
  · have hloose : ∀ t, Loose r ('\r' :: t) := by
      refine fun t => Or.inr fun c hc => ?_
      rw [List.head?_cons, Option.some.injEq] at hc
      subst hc
      decide
    have hmask : ∀ zone, maskFrom zone ['\r'] = ['\r'] := by
      intro zone
      cases zone <;> simp [blankOut]
    have hzone : ∀ zone, zoneAfter zone ['\r', '\n'] = zoneAfter zone ['\n'] := by
      intro zone
      cases zone <;> rfl
    rw [hr, maskFrom_append (hloose []), hmask, Text.dropReturn_append_return]
    refine ⟨rfl, ?_⟩
    rw [List.append_assoc, zoneAfter_append (loose_feed r []), List.singleton_append,
      zoneAfter_append (hloose _), hzone]
  · have hm := (not_congr (masked_maskFrom zone s).getLast?_eq_return_iff).mpr hlast
    rw [hs, Text.dropReturn_of_getLast? hm]
    exact ⟨rfl, rfl⟩

theorem closeLines_maskLines (zone : Zone) (ps : List Text) :
    Text.closeLines (maskLines zone ps) = maskLines zone (Text.closeLines ps) := by
  induction ps generalizing zone with
  | nil => rfl
  | cons p ps ih =>
    cases ps with
    | nil =>
      have hempty : (maskFrom zone p).isEmpty = p.isEmpty := by
        rw [Bool.eq_iff_iff, List.isEmpty_iff, List.isEmpty_iff]
        exact (masked_maskFrom zone p).eq_nil_iff
      simp only [maskLines, Text.closeLines, hempty]
      split <;> rfl
    | cons q qs =>
      obtain ⟨hdrop, hzone⟩ := dropReturn_maskFrom zone p
      have htail := ih (zoneAfter zone (p ++ ['\n']))
      simp only [maskLines, Text.closeLines] at htail ⊢
      rw [hdrop, hzone, htail]

/-- **The lines of the masked copy are the masked lines.** -/
theorem lines_mask (s : Text) : Text.lines (mask s) = maskLines .code s.lines := by
  rw [mask, Text.lines, pieces_maskFrom, closeLines_maskLines, Text.lines]

end ShaderBundle
