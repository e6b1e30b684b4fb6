import Mathlib.Data.List.TakeWhile
import ShaderBundle.Text.Decimal

/-!
# Trimming, words and numbers

What readers of lines do with a text is cut it at its blanks. Blanks in front of a text change
nothing for them, and a text that begins with something else keeps its beginning. A number that is
written in decimal is read back, as long as it fits a word of 32 bits.

## What later modules take from here

Pragmas, version directives and declarations are recognised by their words, and a line that is
rewritten gets something put in front of its first word. So the facts that are wanted are about
seams: what the words of `s ++ t` are when a blank stands at the seam, and what the first word is
when none does. Nothing here says what all the words of a text are. A reader that looks at the first
word only needs to know that word, and that what follows it is a blank or nothing.

Hypotheses about a first character are said with `head?`, as in `∀ c, s.head? = some c → isBlank c =
true`. An empty text fulfils each of them, and so the end of a line is not a case of its own in any
proof that uses them.

## Numbers

Reading numbers in decimal accepts a sign and leading zeros, so it is not the inverse of writing
them; but what is written is read back, and that is the direction in which logs and layouts are
used. What can be read at all is bounded by `wordBound`. This is where line numbers of logs and
locations of layouts get their bound from.

## Main results

* `Text.trim_append`: blanks in front are trimmed away.
* `Text.words_append_of_blanks`, `Text.words_word_append`: the words behind blanks, and behind a
  word.
* `Text.exists_of_words_eq_cons`: where the first word of a text stands.
* `readWord?_decimal`: a number is read back.
* `lt_wordBound_of_readWord?`: what is read fits a word.
-/

namespace ShaderBundle

namespace Text

/-- What holds of all characters of a text can be decided by going through them. -/
theorem forall_mem {w : Text} {p : Char → Prop} [DecidablePred p]
    (h : (w.all fun c => decide (p c)) = true) : ∀ c ∈ w, p c :=
  fun c hc => of_decide_eq_true (List.all_eq_true.mp h c hc)

/-! ### Trimming

`trimEnd` recurses from the front, and whether it keeps a character depends on what is left of the
rest. Its lemmas therefore suppose that something is left (`trimEnd_append`), or that everything is
blank (`trimEnd_of_blanks`). -/

theorem trimStart_append {gap : Text} (h : ∀ c ∈ gap, isBlank c = true) (s : Text) :
    trimStart (gap ++ s) = s.trimStart := by
  rw [trimStart, trimStart, List.dropWhile_append_of_pos h]

theorem trimStart_cons {c : Char} (h : isBlank c = false) (s : Text) :
    trimStart (c :: s) = c :: s := by
  rw [trimStart, List.dropWhile_cons_of_neg (by simp [h])]

theorem exists_blanks_append_trimStart (s : Text) :
    ∃ gap, (∀ c ∈ gap, isBlank c = true) ∧ s = gap ++ s.trimStart :=
  ⟨s.takeWhile isBlank, fun _ hc => List.mem_takeWhile_imp hc,
    (List.takeWhile_append_dropWhile ..).symm⟩

/-- A text without blanks in front is empty or begins with something else. -/
theorem dropWhile_cases (p : Char → Bool) (s : Text) :
    s.dropWhile p = [] ∨ ∃ c rest, s.dropWhile p = c :: rest ∧ p c = false := by
  cases h : s.dropWhile p with
  | nil => exact .inl rfl
  | cons c rest =>
    refine .inr ⟨c, rest, rfl, ?_⟩
    have hne : s.dropWhile p ≠ [] := h ▸ List.cons_ne_nil c rest
    simpa only [h, List.head_cons] using List.head_dropWhile_not p hne

theorem trimStart_cases (s : Text) :
    s.trimStart = [] ∨ ∃ c rest, s.trimStart = c :: rest ∧ isBlank c = false :=
  dropWhile_cases isBlank s

theorem not_isBlank_of_head?_trimStart {s : Text} {c : Char} (h : s.trimStart.head? = some c) :
    isBlank c = false := by
  rcases trimStart_cases s with hnil | ⟨d, rest, hcons, hd⟩
  · rw [hnil] at h
    cases h
  · rw [hcons] at h
    exact Option.some.inj h ▸ hd

theorem trimEnd_cons (c : Char) (s : Text) :
    trimEnd (c :: s) = if s.trimEnd.isEmpty && isBlank c then [] else c :: s.trimEnd := rfl

theorem trimEnd_cons_of_not_isBlank {c : Char} (h : isBlank c = false) (s : Text) :
    trimEnd (c :: s) = c :: s.trimEnd := by
  rw [trimEnd_cons, h, Bool.and_false]
  rfl

/-- What does not end in blanks alone keeps what stands in front of it. -/
theorem trimEnd_append {t : Text} (h : t.trimEnd ≠ []) (s : Text) :
    trimEnd (s ++ t) = s ++ t.trimEnd := by
  induction s with
  | nil => rfl
  | cons c s ih =>
    have hne : (s ++ t.trimEnd).isEmpty = false := by simp [h]
    rw [List.cons_append, trimEnd_cons, ih, hne]
    rfl

theorem trim_append {gap : Text} (h : ∀ c ∈ gap, isBlank c = true) {c : Char}
    (hc : isBlank c = false) (s : Text) : trim (gap ++ c :: s) = trimEnd (c :: s) := by
  rw [trim, trimStart_append h, trimStart_cons hc]

theorem trimEnd_of_blanks {gap : Text} (h : ∀ c ∈ gap, isBlank c = true) : gap.trimEnd = [] := by
  induction gap with
  | nil => rfl
  | cons c gap ih =>
    rw [trimEnd_cons, ih fun d hd => h d (List.mem_cons_of_mem c hd), h c List.mem_cons_self]
    rfl

theorem trimEnd_append_of_blanks {gap : Text} (h : ∀ c ∈ gap, isBlank c = true) (s : Text) :
    trimEnd (s ++ gap) = s.trimEnd := by
  induction s with
  | nil => exact trimEnd_of_blanks h
  | cons c s ih => rw [List.cons_append, trimEnd_cons, trimEnd_cons, ih]

theorem trimEnd_of_solid {s : Text} (h : ∀ c ∈ s, isBlank c = false) : s.trimEnd = s := by
  induction s with
  | nil => rfl
  | cons c s ih =>
    rw [trimEnd_cons_of_not_isBlank (h c List.mem_cons_self),
      ih fun d hd => h d (List.mem_cons_of_mem c hd)]

/-- What stands between blanks is found by trimming. -/
theorem trim_between {gap gap' s : Text} (hgap : ∀ c ∈ gap, isBlank c = true)
    (hgap' : ∀ c ∈ gap', isBlank c = true) (hs : ∀ c ∈ s, isBlank c = false) :
    trim (gap ++ (s ++ gap')) = s := by
  cases s with
  | nil =>
    rw [List.nil_append, trim, trimStart_append hgap, ← List.append_nil gap',
      trimStart_append hgap']
    rfl
  | cons c s =>
    rw [List.cons_append, trim_append hgap (hs c List.mem_cons_self), ← List.cons_append,
      trimEnd_append_of_blanks hgap', trimEnd_of_solid hs]

/-- What is dropped from the end of a text ends in front of the last character that is kept. -/
theorem dropEndWhile_append {p : Char → Bool} {s t : Text}
    (hs : ∀ c, s.getLast? = some c → p c = false) (ht : ∀ c ∈ t, p c = true) :
    dropEndWhile p (s ++ t) = s := by
  have hcons : ∀ (c : Char) (s : Text), dropEndWhile p (c :: s) =
      if (dropEndWhile p s).isEmpty && p c then [] else c :: dropEndWhile p s := fun _ _ => rfl
  induction s with
  | nil =>
    rw [List.nil_append]
    induction t with
    | nil => rfl
    | cons c t ih =>
      rw [hcons, ih fun d hd => ht d (List.mem_cons_of_mem c hd), ht c List.mem_cons_self]
      rfl
  | cons c s ih =>
    rw [List.cons_append, hcons]
    -- Whether a character is kept depends on what is left behind it, so the last one is a case of
    -- its own.
    cases s with
    | nil =>
      rw [hs c rfl, Bool.and_false, ih nofun]
      rfl
    | cons d s =>
      rw [ih fun e he => hs e (by rwa [List.getLast?_cons_cons])]
      rfl

theorem dropEndWhile_subset (p : Char → Bool) (s : Text) : dropEndWhile p s ⊆ s := by
  obtain ⟨dropped, hs, -⟩ := dropEndWhile_isInitial p s
  exact fun c hc => hs ▸ List.mem_append_left _ hc

/-- Whatever is left ends in a character that is kept. -/
theorem getLast?_dropEndWhile {p : Char → Bool} {s : Text} {c : Char}
    (h : (dropEndWhile p s).getLast? = some c) : p c = false := by
  induction s with
  | nil => cases h
  | cons d s ih =>
    change (if (dropEndWhile p s).isEmpty && p d then [] else
      d :: dropEndWhile p s).getLast? = some c at h
    split at h
    next => cases h
    next hkept =>
      cases hrest : dropEndWhile p s with
      | nil =>
        rw [hrest] at h hkept
        obtain rfl : d = c := by simpa using h
        simpa using hkept
      | cons e rest =>
        rw [hrest, List.getLast?_cons_cons, ← hrest] at h
        exact ih h

/-! ### Words

A word has no blank in it and is not empty. The lemmas say so by hypothesis and are about lists of
characters, so they hold of a piece of a line as well as of the whole. -/

theorem words_cons_of_isBlank {c : Char} (h : isBlank c = true) (s : Text) :
    words (c :: s) = words s := by
  cases s <;> simp [words, h]

theorem words_append_of_blanks {gap : Text} (h : ∀ c ∈ gap, isBlank c = true) (s : Text) :
    words (gap ++ s) = words s := by
  induction gap with
  | nil => rfl
  | cons c gap ih =>
    rw [List.cons_append, words_cons_of_isBlank (h c List.mem_cons_self),
      ih fun d hd => h d (List.mem_cons_of_mem c hd)]

theorem words_of_solid {word : Text} (hne : word ≠ []) (h : ∀ c ∈ word, isBlank c = false) :
    words word = [word] := by
  induction word with
  | nil => exact absurd rfl hne
  | cons c word ih =>
    have hc : ¬isBlank c = true := by simp [h c List.mem_cons_self]
    cases word with
    | nil => rw [words, if_neg hc]
    | cons d word =>
      have hd : isBlank d = false := h d (by simp)
      have hrest := ih (List.cons_ne_nil d word) fun x hx => h x (List.mem_cons_of_mem c hx)
      rw [words, if_neg hc]
      simp only [hrest, hd, Bool.false_eq_true, if_false]

theorem words_cons_ne_nil {c : Char} (h : isBlank c = false) (s : Text) : words (c :: s) ≠ [] := by
  have hc : ¬isBlank c = true := by simp [h]
  cases s with
  | nil => simp [words, hc]
  | cons d s =>
    rw [words, if_neg hc]
    split
    · exact nofun
    · split <;> exact nofun

/-- A blank parts words. -/
theorem words_append_cons {c : Char} (hc : isBlank c = true) (s t : Text) :
    words (s ++ c :: t) = words s ++ words t := by
  induction s with
  | nil => exact words_cons_of_isBlank hc t
  | cons d s ih =>
    by_cases hd : isBlank d = true
    · rw [List.cons_append, words_cons_of_isBlank hd, words_cons_of_isBlank hd, ih]
    · have hsolid : ∀ e ∈ [d], isBlank e = false := by simpa using hd
      -- A word is being read. It may end here, at a blank of `s`, or go on.
      cases s with
      | nil =>
        rw [words_of_solid (List.cons_ne_nil d []) hsolid, List.singleton_append, words, if_neg hd,
          words_cons_of_isBlank hc, if_pos hc, List.singleton_append]
      | cons e s =>
        rw [List.cons_append] at ih
        rw [List.cons_append, List.cons_append, words, words, if_neg hd, if_neg hd, ih]
        by_cases he : isBlank e = true
        · simp only [he, if_true, List.cons_append]
        · have hne := words_cons_ne_nil (by simpa using he) s
          obtain ⟨word, others, hwords⟩ := List.exists_cons_of_ne_nil hne
          simp only [hwords, he, Bool.false_eq_true, if_false, List.cons_append]

/-- A word ends at a blank. -/
theorem words_word_append {word : Text} (hne : word ≠ []) (h : ∀ c ∈ word, isBlank c = false)
    {c : Char} (hc : isBlank c = true) (s : Text) : words (word ++ c :: s) = word :: words s := by
  rw [words_append_cons hc, words_of_solid hne h, List.singleton_append]

theorem words_append_blanks {gap : Text} (h : ∀ c ∈ gap, isBlank c = true) (s : Text) :
    words (s ++ gap) = words s := by
  cases gap with
  | nil => rw [List.append_nil]
  | cons c gap =>
    rw [words_append_cons (h c List.mem_cons_self), ← List.append_nil gap,
      words_append_of_blanks fun d hd => h d (List.mem_cons_of_mem c hd)]
    exact List.append_nil _

/-- Blanks at the ends of a text are in no word. -/
theorem words_trim (s : Text) : words s.trim = words s := by
  obtain ⟨gap, hgap, hs⟩ := exists_blanks_append_trimStart s
  obtain ⟨gap', hs', hgap'⟩ := dropEndWhile_isInitial isBlank s.trimStart
  calc words s.trim
    _ = words (s.trim ++ gap') := (words_append_blanks hgap' _).symm
    _ = words s.trimStart := congrArg words hs'.symm
    _ = words (gap ++ s.trimStart) := (words_append_of_blanks hgap _).symm
    _ = words s := congrArg words hs.symm

/-- The first word of a text stands behind blanks, and in front of a blank or of nothing. -/
theorem exists_of_words_eq_cons {s word : Text} {others : List Text}
    (h : words s = word :: others) :
    ∃ gap tail, s = gap ++ (word ++ tail) ∧ (∀ c ∈ gap, isBlank c = true) ∧ word ≠ [] ∧
      (∀ c ∈ word, isBlank c = false) ∧ ∀ c, tail.head? = some c → isBlank c = true := by
  obtain ⟨gap, hgap, hs⟩ := exists_blanks_append_trimStart s
  rw [hs, words_append_of_blanks hgap] at h
  -- The word is taken off the text up to the next blank.
  have hparts := List.takeWhile_append_dropWhile (p := fun c => !isBlank c) (l := s.trimStart)
  have hsolid : ∀ c ∈ s.trimStart.takeWhile (fun c => !isBlank c), isBlank c = false :=
    fun c hc => by simpa using List.mem_takeWhile_imp hc
  have hne : s.trimStart.takeWhile (fun c => !isBlank c) ≠ [] := by
    rcases trimStart_cases s with hnil | ⟨c, rest, hcons, hc⟩
    · rw [hnil] at h
      cases h
    · simp [hcons, hc]
  cases htail : s.trimStart.dropWhile (fun c => !isBlank c) with
  -- The word ends the text.
  | nil =>
    rw [htail, List.append_nil] at hparts
    rw [← hparts, words_of_solid hne hsolid] at h
    obtain ⟨rfl, -⟩ := List.cons.inj h
    exact ⟨gap, [], by rw [List.append_nil, hparts]; exact hs, hgap, hne, hsolid, nofun⟩
  | cons c tail =>
    have hc : isBlank c = true := by
      have := List.head_dropWhile_not (fun c => !isBlank c) (l := s.trimStart) (by simp [htail])
      simpa [htail] using this
    rw [htail] at hparts
    rw [← hparts, words_word_append hne hsolid hc] at h
    obtain ⟨rfl, -⟩ := List.cons.inj h
    exact ⟨gap, c :: tail, by rw [hparts]; exact hs, hgap, hne, hsolid, by simpa using hc⟩

/-- A text that is trimmed begins with its first word. -/
theorem head?_trim_of_words {s word : Text} {others : List Text} (h : words s = word :: others) :
    s.trimStart.head? = word.head? ∧ s.trim.head? = word.head? := by
  obtain ⟨gap, tail, rfl, hgap, hne, hsolid, -⟩ := exists_of_words_eq_cons h
  obtain ⟨c, word, rfl⟩ := List.exists_cons_of_ne_nil hne
  have hc : isBlank c = false := hsolid c List.mem_cons_self
  have hstart : trimStart (gap ++ (c :: word ++ tail)) = c :: (word ++ tail) := by
    rw [trimStart_append hgap, List.cons_append, trimStart_cons hc]
  rw [trim, hstart, trimEnd_cons_of_not_isBlank hc]
  exact ⟨rfl, rfl⟩

theorem head?_words_append {word tail : Text} (hne : word ≠ []) (h : ∀ c ∈ word, isBlank c = false)
    (htail : ∀ c, tail.head? = some c → isBlank c = true) :
    (words (word ++ tail)).head? = some word := by
  cases tail with
  | nil => rw [List.append_nil, words_of_solid hne h, List.head?_cons]
  | cons c tail => rw [words_word_append hne h (htail c rfl), List.head?_cons]

end Text

/-! ### Numbers

The characters of a number lie between the codes of `0` and `9`, and no blank has such a code. The
bounds are those of one lemma for digits, letters and the marks between them, because names of
stages and storage are told from blanks in the same way. -/

theorem decimal_ne_nil (n : Nat) : decimal n ≠ [] := by
  rw [decimal]
  exact Nat.toDigits_ne_nil

theorem isDigit_of_mem_decimal {n : Nat} {c : Char} (h : c ∈ decimal n) : isDigit c = true := by
  have := Nat.isDigit_of_mem_toDigits (by decide) (by decide) h
  simpa [isDigit, Char.isDigit, Char.le_def, UInt32.le_iff_toNat_le] using this

/-- No blank is among the digits and letters, or the marks between them. -/
theorem not_isBlank_of_toNat {c : Char} (hlow : 48 ≤ c.toNat) (hhigh : c.toNat ≤ 122) :
    isBlank c = false := by
  simp only [isBlank, blankRanges, List.any_cons, List.any_nil, Bool.or_false, Bool.or_eq_false_iff,
    Bool.and_eq_false_iff, decide_eq_false_iff_not]
  omega

theorem not_isBlank_of_isDigit {c : Char} (h : isDigit c = true) : isBlank c = false := by
  simp only [isDigit, Bool.and_eq_true, decide_eq_true_eq, Char.le_def,
    UInt32.le_iff_toNat_le] at h
  have hlow : 48 ≤ c.toNat := h.1
  have hhigh : c.toNat ≤ 57 := h.2
  exact not_isBlank_of_toNat hlow (by omega)

theorem not_isBlank_of_isWordChar {c : Char} (h : isWordChar c = true) : isBlank c = false := by
  rw [isWordChar, Bool.or_eq_true, decide_eq_true_eq] at h
  obtain halphanum | rfl := h
  · obtain halpha | hdigit := (@Bool.or_eq_true_iff c.isAlpha c.isDigit).mp halphanum
    · obtain hupper | hlower := (@Bool.or_eq_true_iff c.isUpper c.isLower).mp halpha
      · have hrange : 65 ≤ c.toNat ∧ c.toNat ≤ 90 := of_decide_eq_true hupper
        exact not_isBlank_of_toNat (by omega) (by omega)
      · obtain ⟨hlow, hhigh⟩ := Bool.and_eq_true_iff.mp hlower
        have hlow' : 97 ≤ c.toNat := of_decide_eq_true hlow
        exact not_isBlank_of_toNat (by omega) (of_decide_eq_true hhigh)
    · exact not_isBlank_of_isDigit hdigit
  · decide

/-- A number is read back if it fits a word. -/
theorem readWord?_decimal (n : Nat) :
    readWord? (decimal n) = if n < wordBound then some n else none := by
  have hvalue : digitsValue (decimal n) = n := Nat.ofDigitChars_ten_toDigits
  have hall : (decimal n).all isDigit = true :=
    List.all_eq_true.mpr fun c hc => isDigit_of_mem_decimal hc
  have hunsigned : ∀ rest, decimal n ≠ '+' :: rest := fun rest heq =>
    absurd (isDigit_of_mem_decimal (heq ▸ List.mem_cons_self)) (by decide)
  rw [readWord?]
  · rw [hall, hvalue, if_neg (by simp [decimal_ne_nil])]
  · exact fun rest heq => hunsigned rest heq

/-- What can be read is a run of digits, with a sign in front or none, and fits a word. -/
theorem exists_digits_of_readWord? {s : Text} {n : Nat} (h : readWord? s = some n) :
    ∃ ds, (s = ds ∨ s = '+' :: ds) ∧ (∀ c ∈ ds, isDigit c = true) ∧ n < wordBound := by
  -- With the sign taken off, both cases read a run of digits.
  have hdigits : ∀ ds : Text, (if ds.isEmpty || !ds.all isDigit then none
      else if digitsValue ds < wordBound then some (digitsValue ds) else none) = some n →
        (∀ c ∈ ds, isDigit c = true) ∧ n < wordBound := by
    intro ds h
    split at h
    · cases h
    next hall =>
      rw [Bool.or_eq_true, not_or, Bool.not_eq_true, Bool.not_eq_true, Bool.not_eq_false'] at hall
      split at h
      next hlt => exact ⟨List.all_eq_true.mp hall.2, Option.some.inj h ▸ hlt⟩
      next => cases h
  unfold readWord? at h
  split at h
  next rest => exact ⟨rest, .inr rfl, hdigits rest h⟩
  next => exact ⟨s, .inl rfl, hdigits s h⟩

theorem lt_wordBound_of_readWord? {s : Text} {n : Nat} (h : readWord? s = some n) :
    n < wordBound := by
  obtain ⟨_, -, -, hlt⟩ := exists_digits_of_readWord? h
  exact hlt

/-- Nothing but digits and a sign is read. -/
theorem eq_plus_or_isDigit_of_readWord? {s : Text} {n : Nat} (h : readWord? s = some n) {c : Char}
    (hc : c ∈ s) : c = '+' ∨ isDigit c = true := by
  obtain ⟨ds, rfl | rfl, hdigits, -⟩ := exists_digits_of_readWord? h
  · exact .inr (hdigits c hc)
  · exact (List.mem_cons.mp hc).imp_right (hdigits c)

end ShaderBundle
