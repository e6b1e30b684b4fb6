import ShaderBundle.Diagnostic
import ShaderBundle.Proofs.Text.Words

/-!
# The forms of a log line with a line number

`Place.find?` takes a log line apart from left to right. What it accepts is said here without it, as
the ways to put such a line together: perhaps a severity, the number of the source string, a mark,
the line number, and the mark that the first one calls for. A line can be put together in one way
only, so there is never a choice which number is the line number.

## Three forms in one

Compilers disagree about the marks and about nothing else. A colon in front of the line number is
followed by another colon or by the column in parentheses; a parenthesis in front of it is closed
behind it. So the forms are not told apart by a constructor each: `Spells` has one constructor, and
the pair of marks is a parameter of it.

## Why a line is read in one way

A number ends where something stands that is no digit, and every mark is none, so both numbers are
read as far as they go and no further. A severity begins with a letter and a number with a digit,
and no severity is the beginning of another one, which is checked once over the list of severities.
`Spells.unique` is what the diagnostics of a log rest on: without it, a line could be given several
numbers and the scanner would merely pick one.

## Numbers that are too large

Nothing here says how large a number is. A run of digits of any length is a numeral; whether it fits
a word is asked by whoever wants to use it.

## Main definitions

* `Place.IsLead`, `Place.IsNumeral`, `Place.Marks`: the parts of the front of a log line.
* `Place.Spells`: a text has one of the known forms.

## Main results

* `Place.find?_eq_some_iff`: a place is found exactly where the form has it.
* `Place.Spells.unique`: there is at most one.
* `Place.Spells.replace`: another number in its place leaves the form as it is.
-/

namespace ShaderBundle

namespace Place

/-- What may stand in front of the two numbers: nothing, or a severity and spaces. -/
inductive IsLead : Text → Prop where
  | nothing : IsLead []
  | severity {word spaces : Text} (hword : word ∈ severities) (hspaces : ∀ c ∈ spaces, c = ' ') :
    IsLead (word ++ spaces)

/-- A number as a log has it: at least one digit. -/
structure IsNumeral (digits : Text) : Prop where
  /-- There is a digit. -/
  ne_nil : digits ≠ []
  /-- There is nothing else. -/
  isDigit : ∀ c ∈ digits, isDigit c = true

/-- The marks in front of a line number and behind it. -/
inductive Marks : Char → Char → Prop where
  | colons : Marks ':' ':'
  | column : Marks ':' '('
  | parentheses : Marks '(' ')'

/-- A text has one of the forms that carry a line number, with the number at this place. -/
inductive Spells : Text → Place → Prop where
  | intro {lead string digits rest : Text} {opener closer : Char} (hlead : IsLead lead)
    (hstring : IsNumeral string) (hmarks : Marks opener closer) (hdigits : IsNumeral digits) :
    Spells (lead ++ (string ++ opener :: (digits ++ closer :: rest)))
      ⟨lead ++ (string ++ [opener]), digits, closer :: rest⟩

/-! ### Digits

`spanDigits` takes off digits as long as there are any. The two lemmas about it are its
specification: what is taken off is a number or nothing, and what stands behind a number is not
taken off. -/

theorem IsNumeral.cases {digits : Text} (h : IsNumeral digits) :
    ∃ c others, digits = c :: others ∧ ShaderBundle.isDigit c = true := by
  obtain ⟨c, others, rfl⟩ := List.exists_cons_of_ne_nil h.ne_nil
  exact ⟨c, others, rfl, h.isDigit c List.mem_cons_self⟩

theorem isNumeral_decimal (n : Nat) : IsNumeral (decimal n) :=
  ⟨decimal_ne_nil n, fun _ hc => isDigit_of_mem_decimal hc⟩

/-- A run of digits ends where something else stands. -/
theorem spanDigits_append_cons {digits : Text} (h : ∀ c ∈ digits, isDigit c = true) {c : Char}
    (hc : isDigit c = false) (rest : Text) :
    spanDigits (digits ++ c :: rest) = (digits, c :: rest) := by
  have hstop : ¬isDigit c = true := by simp [hc]
  rw [spanDigits, List.takeWhile_append_of_pos h, List.dropWhile_append_of_pos h,
    List.takeWhile_cons_of_neg hstop, List.dropWhile_cons_of_neg hstop, List.append_nil]

/-- What is taken off the front of a text is a number, or there is none. -/
theorem isNumeral_of_spanDigits {s digits rest : Text} (h : spanDigits s = (digits, rest))
    (hne : digits ≠ []) : IsNumeral digits ∧ s = digits ++ rest := by
  have hsplit := spanDigits_append s
  have hdigits : ∀ c ∈ (spanDigits s).1, isDigit c = true := fun c hc =>
    isDigit_of_mem_spanDigits hc
  rw [h] at hsplit hdigits
  exact ⟨⟨hne, hdigits⟩, hsplit.symm⟩

theorem Marks.not_isDigit {opener closer : Char} (h : Marks opener closer) :
    isDigit opener = false ∧ isDigit closer = false := by
  cases h <;> decide

theorem marks_iff {opener closer : Char} :
    Marks opener closer ↔ (opener = ':' ∨ opener = '(') ∧ closes opener closer = true := by
  constructor
  · intro h
    cases h <;> decide
  · rintro ⟨rfl | rfl, h⟩
    · simp only [closes, if_true, Bool.or_eq_true, decide_eq_true_eq] at h
      rcases h with rfl | rfl
      · exact .colons
      · exact .column
    · have : closer = ')' := by simpa [closes] using h
      exact this ▸ .parentheses

/-! ### Behind the severity -/

/-- The two numbers and their marks are taken apart as they were put together. -/
theorem bare?_eq_some_iff {s : Text} {place : Place} : bare? s = some place ↔
    ∃ string digits rest opener closer, IsNumeral string ∧ Marks opener closer ∧
      IsNumeral digits ∧ s = string ++ opener :: (digits ++ closer :: rest) ∧
      place = ⟨string ++ [opener], digits, closer :: rest⟩ := by
  constructor
  · intro h
    unfold bare? at h
    split at h
    · cases h
    next string opener fromNumber hstring hspan =>
      split at h
      next hopener =>
        split at h
        · cases h
        next digits closer rest hdigits hspan' =>
          split at h
          next hcloser =>
            -- the two numbers that were taken off, with the marks found behind them
            obtain ⟨hnumeral, rfl⟩ := isNumeral_of_spanDigits hspan hstring
            obtain ⟨hnumeral', rfl⟩ := isNumeral_of_spanDigits hspan' hdigits
            have hmarks : Marks opener closer := marks_iff.mpr ⟨by simpa using hopener, hcloser⟩
            exact ⟨string, digits, rest, opener, closer, hnumeral, hmarks, hnumeral', rfl,
              (Option.some.inj h).symm⟩
          next => cases h
        · cases h
      next => cases h
    · cases h
  · rintro ⟨string, digits, rest, opener, closer, hstring, hmarks, hdigits, rfl, rfl⟩
    obtain ⟨hopener, hcloser⟩ := marks_iff.mp hmarks
    have hspan := spanDigits_append_cons hstring.isDigit hmarks.not_isDigit.1
      (digits ++ closer :: rest)
    have hspan' := spanDigits_append_cons hdigits.isDigit hmarks.not_isDigit.2 rest
    obtain ⟨a, as, rfl, -⟩ := hstring.cases
    obtain ⟨b, bs, rfl, -⟩ := hdigits.cases
    have hopener' : (decide (opener = ':') || decide (opener = '(')) = true := by
      simpa using hopener
    simp only [bare?, hspan, hspan', hopener', hcloser, if_true]

/-! ### The severity

Severities are a list of words, and the scanner takes the first of them that the text begins
with. For lists in which no word begins with another one, which of them is listed first does not
matter. -/

/-- A severity begins with a letter, and no severity is the beginning of another one. -/
theorem eq_of_severities_prefix {word word' s : Text} (h : word ∈ severities)
    (h' : word' ∈ severities) (hs : word <+: s) (hs' : word' <+: s) : word = word' := by
  have hapart : ∀ w ∈ severities, ∀ w' ∈ severities, w <+: w' → w = w' := by decide +kernel
  rcases List.prefix_or_prefix_of_prefix hs hs' with hle | hle
  · exact hapart word h word' h' hle
  · exact (hapart word' h' word h hle).symm

theorem severities_cases {word : Text} (h : word ∈ severities) :
    ∃ c others, word = c :: others ∧ isBlank c = false ∧ isDigit c = false := by
  have hall : (severities.all fun w => w.head?.any fun c => !isBlank c && !isDigit c) = true := rfl
  have hword := List.all_eq_true.mp hall word h
  cases word with
  | nil => simp at hword
  | cons c others => exact ⟨c, others, rfl, by simpa using hword⟩

/-- What stands in front of the numbers, taken off. -/
theorem spanSeverity_append {lead : Text} (hlead : IsLead lead) {c : Char}
    (hc : isDigit c = true) (rest : Text) :
    spanSeverity (lead ++ c :: rest) = (lead, c :: rest) := by
  cases hlead with
  | nothing =>
    -- no severity begins with a digit
    have hnone : severities.find? (fun word => word.isPrefixOf (c :: rest)) = none := by
      refine List.find?_eq_none.mpr fun word hword hhead => ?_
      obtain ⟨d, others, rfl, -, hd⟩ := severities_cases hword
      rw [List.isPrefixOf_iff_prefix, List.cons_prefix_cons] at hhead
      rw [hhead.1, hc] at hd
      cases hd
    rw [List.nil_append, spanSeverity, hnone]
  | @severity word spaces hword hspaces =>
    have hbegins : word <+: word ++ spaces ++ c :: rest := by
      rw [List.append_assoc]
      exact List.prefix_append _ _
    -- a severity is found, and it can be no other than the one that is there
    have hfound : severities.find? (fun w => w.isPrefixOf (word ++ spaces ++ c :: rest)) =
        some word := by
      have hsome : (severities.find? fun w =>
          w.isPrefixOf (word ++ spaces ++ c :: rest)).isSome = true :=
        List.find?_isSome.mpr ⟨word, hword, List.isPrefixOf_iff_prefix.mpr hbegins⟩
      obtain ⟨found, hfound⟩ := Option.isSome_iff_exists.mp hsome
      have hstart : found.isPrefixOf (word ++ spaces ++ c :: rest) = true := by
        simpa using List.find?_some hfound
      rw [List.isPrefixOf_iff_prefix] at hstart
      rw [hfound, eq_of_severities_prefix (List.mem_of_find?_eq_some hfound) hword hstart hbegins]
    have hspace : c ≠ ' ' := by
      rintro rfl
      cases hc
    have hall : ∀ d ∈ spaces, decide (d = ' ') = true := fun d hd => decide_eq_true (hspaces d hd)
    simp only [spanSeverity, hfound]
    rw [List.append_assoc, List.drop_left, List.takeWhile_append_of_pos hall,
      List.dropWhile_append_of_pos hall, List.takeWhile_cons_of_neg (by simpa using hspace),
      List.dropWhile_cons_of_neg (by simpa using hspace), List.append_nil]

/-- Whatever is taken off may stand in front of the numbers. -/
theorem isLead_spanSeverity (s : Text) :
    IsLead (spanSeverity s).1 ∧ (spanSeverity s).1 ++ (spanSeverity s).2 = s := by
  rw [spanSeverity]
  split
  · exact ⟨.nothing, rfl⟩
  next word hfound =>
    have hstart : word.isPrefixOf s = true := by simpa using List.find?_some hfound
    obtain ⟨rest, rfl⟩ := List.isPrefixOf_iff_prefix.mp hstart
    refine ⟨.severity (List.mem_of_find?_eq_some hfound) fun c hc => ?_, ?_⟩
    · simpa using List.mem_takeWhile_imp hc
    · rw [List.drop_left, List.append_assoc, List.takeWhile_append_dropWhile]

/-- Neither a severity nor a number begins with a blank. -/
theorem Spells.cases {s : Text} {place : Place} (h : Spells s place) :
    ∃ c others, place.front = c :: others ∧ isBlank c = false := by
  obtain ⟨hlead, hstring, -, -⟩ := h
  obtain ⟨d, ds, rfl, hd⟩ := hstring.cases
  cases hlead with
  | nothing => exact ⟨d, _, rfl, not_isBlank_of_isDigit hd⟩
  | severity hword _ =>
    obtain ⟨c, others, rfl, hc, -⟩ := severities_cases hword
    exact ⟨c, _, rfl, hc⟩

theorem Spells.back_ne_nil {s : Text} {place : Place} (h : Spells s place) : place.back ≠ [] := by
  obtain ⟨-, -, -, -⟩ := h
  exact List.cons_ne_nil _ _

/-- The text is the three parts of the place. -/
theorem Spells.eq_append {s : Text} {place : Place} (h : Spells s place) :
    s = place.front ++ (place.digits ++ place.back) := by
  obtain ⟨-, -, -, -⟩ := h
  simp

theorem Spells.isNumeral {s : Text} {place : Place} (h : Spells s place) :
    IsNumeral place.digits := by
  obtain ⟨-, -, -, hdigits⟩ := h
  exact hdigits

/-- Another number at the place makes another text of the same form. -/
theorem Spells.replace {s : Text} {place : Place} (h : Spells s place) {digits : Text}
    (hdigits : IsNumeral digits) :
    Spells (place.front ++ (digits ++ place.back)) { place with digits } := by
  cases h with
  | @intro lead string _ rest opener closer hlead hstring hmarks _ =>
    have hsplit : lead ++ (string ++ [opener]) ++ (digits ++ closer :: rest) =
        lead ++ (string ++ opener :: (digits ++ closer :: rest)) := by simp
    change Spells (lead ++ (string ++ [opener]) ++ (digits ++ closer :: rest)) _
    rw [hsplit]
    exact .intro hlead hstring hmarks hdigits

theorem find?_eq (line : Text) :
    find? line = (bare? (spanSeverity line.trimStart).2).map fun place =>
      { place with front := (spanSeverity line.trimStart).1 ++ place.front } :=
  rfl

/-- **A place is found exactly where the form has it**, behind the blanks of the line. -/
theorem find?_eq_some_iff {line : Text} {place : Place} :
    find? line = some place ↔ Spells line.trimStart place := by
  constructor
  · intro h
    obtain ⟨hlead, hsplit⟩ := isLead_spanSeverity line.trimStart
    rw [find?_eq] at h
    generalize spanSeverity line.trimStart = parts at h hlead hsplit
    obtain ⟨found, hfound, rfl⟩ := Option.map_eq_some_iff.mp h
    obtain ⟨string, digits, rest, opener, closer, hstring, hmarks, hdigits, hrest, rfl⟩ :=
      bare?_eq_some_iff.mp hfound
    rw [← hsplit, hrest]
    exact .intro hlead hstring hmarks hdigits
  · intro h
    rw [find?]
    generalize line.trimStart = s at h
    cases h with
    | @intro lead string digits rest opener closer hlead hstring hmarks hdigits =>
      have hbare : bare? (string ++ opener :: (digits ++ closer :: rest)) =
          some ⟨string ++ [opener], digits, closer :: rest⟩ :=
        bare?_eq_some_iff.mpr ⟨_, _, _, _, _, hstring, hmarks, hdigits, rfl, rfl⟩
      obtain ⟨c, others, rfl, hc⟩ := hstring.cases
      rw [List.cons_append] at hbare ⊢
      simp only [spanSeverity_append hlead hc, hbare, Option.map_some]

/-- **A text can be read in one way only.** -/
theorem Spells.unique {s : Text} {place place' : Place} (h : Spells s place)
    (h' : Spells s place') : place = place' := by
  have htrim : s.trimStart = s := by
    obtain ⟨c, others, hfront, hc⟩ := h.cases
    rw [h.eq_append, hfront, List.cons_append, Text.trimStart_cons hc]
  have hfind : ∀ {p}, Spells s p → find? s = some p := fun hp =>
    find?_eq_some_iff.mpr (htrim.symm ▸ hp)
  exact Option.some.inj ((hfind h).symm.trans (hfind h'))

end Place

end ShaderBundle
