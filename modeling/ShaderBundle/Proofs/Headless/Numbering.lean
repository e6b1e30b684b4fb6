import ShaderBundle.Proofs.Headless.Layout
import ShaderBundle.Proofs.Headless.Varyings
import ShaderBundle.Proofs.Text.Words

/-!
# Numbers written and numbers given out

Some declarations of a source have a number in a layout of their own, others get one as the layouts
are filled in. What comes out has both, and a line of it can be read like a line of the source. So
there are two ways to say which number a line has, by what was done to it and by what is on it, and
they agree.

Locations and bindings are numbers of this kind. What follows is for either.

## A kind of number

There are locations of inputs, locations of outputs, and bindings. Each has a storage, a way to read
it off a line, a layout in which it is given out and a rule for the next one. `Numbering` is a
structure of these with the facts that connect them: what is given out is read back, a line that
gets a number has none, a line of another storage gets none of this kind. The theorems are proved
from these fields. An instance has to provide them, and it does so with facts about single lines; no
instance is proved by going through a source.

## Reading back

A line that comes out begins with a layout that was put in front of it. To read the number back one
has to cut that layout at its parentheses, commas and equations, pass over it, and find the storage
of the declaration behind it. All of it goes by fixed words and digits, so the lemmas are about
which marks do not occur where.

A number is read as a word of 32 bits. One that is too large is written out in full and not read
back, which is why `writes_filled_iff` has a bound in it and not a hypothesis.

## Distinct numbers

That no two lines of a source have one number in the end is what the claims are about.
`distinct_iff` reduces it: the numbers that are written have to be distinct, those that are given
out as well, and none of the latter may be one of the former. How numbers are given out decides
which of these can fail.

## Main definitions

* `layoutOf?` cuts up a line with a layout.
* `Allocation.before` is what is known when a line is reached.
* `Numbering` is a kind of number: where it is read, and how it is given out.
* `Numbering.Writes`, `Numbering.Gets`, `Numbering.Has`: a line has a number in the source, gets
  one, or has it in the end.

## Main results

* `layoutOf?_insert`: a layout that is put in front of a declaration is read back.
* `Numbering.writes_filled_iff`: the numbers on the lines that come out.
* `Numbering.distinct_iff`: when no two lines have one number.
-/

namespace ShaderBundle.Headless

open Allocation

/-! ### Cutting up a line with a layout

The reader of locations is rewritten as two steps, cutting a line up and looking for a key among the
arguments. Bindings are read with the same first step. -/

theorem splitOnce?_append {sep : Char} {before : Text} (h : sep ∉ before) (after : Text) :
    splitOnce? sep (before ++ sep :: after) = some (before, after) := by
  induction before with
  | nil => simp [splitOnce?]
  | cons c before ih =>
    rw [List.mem_cons, not_or] at h
    rw [List.cons_append, splitOnce?, if_neg (Ne.symm h.1), ih h.2]
    rfl

theorem splitCommas_of_notMem {s : Text} (h : ',' ∉ s) : splitCommas s = [s] := by
  induction s with
  | nil => rfl
  | cons c s ih =>
    rw [List.mem_cons, not_or] at h
    rw [splitCommas, if_neg (Ne.symm h.1), ih h.2]

theorem splitCommas_append {before : Text} (h : ',' ∉ before) (after : Text) :
    splitCommas (before ++ ',' :: after) = before :: splitCommas after := by
  induction before with
  | nil => simp [splitCommas]
  | cons c before ih =>
    rw [List.mem_cons, not_or] at h
    rw [List.cons_append, splitCommas, if_neg (Ne.symm h.1), ih h.2]

/-- The number that an argument of a layout gives to a key. -/
def numberArgument? (key argument : Text) : Option Nat :=
  match splitOnce? '=' argument with
  | none => none
  | some (found, value) => if found.trim = key then readWord? value.trim else none

theorem locationArgument?_eq : locationArgument? = numberArgument? "location".toList :=
  rfl

/-- What stands between a parenthesis at the beginning and the next one that closes, and what stands
behind it. -/
def parenthesized? : Text → Option (Text × Text)
  | '(' :: rest => splitOnce? ')' rest
  | _ => none

/-- The arguments of the layout on a line, and the storage that is asked for behind it. -/
def layoutOf? (line : Text) : Option (List Text × Storage) :=
  if "layout".toList.isPrefixOf line.trim then
    (parenthesized? (Text.trimStart (line.trim.drop 6))).bind fun (arguments, tail) =>
      (tail.words.findSome? Storage.ofWord?).map fun storage => (splitCommas arguments, storage)
  else none

theorem explicitLocation?_eq (line : Text) :
    explicitLocation? line = (layoutOf? line).bind fun (arguments, storage) =>
      (arguments.findSome? (numberArgument? "location".toList)).map fun n => (storage, n) := by
  rw [explicitLocation?, layoutOf?]
  split
  -- a layout with a parenthesis behind its word, or none
  · split
    next rest hrest =>
      rw [hrest, parenthesized?]
      cases splitOnce? ')' rest with
      | none => rfl
      | some parts =>
        obtain ⟨arguments, tail⟩ := parts
        simp only [locationArgument?_eq, Option.bind_some]
        cases tail.words.findSome? Storage.ofWord? <;>
          cases hn : (splitCommas arguments).findSome? (numberArgument? "location".toList) <;>
          simp only [Option.map_none, Option.map_some, Option.bind_none, Option.bind_some, hn]
    next hnot =>
      rw [parenthesized?]
      -- no layout at all
      · rfl
      · exact hnot
  · rfl

theorem lt_wordBound_of_numberArgument? {key argument : Text} {n : Nat}
    (h : numberArgument? key argument = some n) : n < wordBound := by
  rw [numberArgument?] at h
  split at h
  next => cases h
  next =>
    split at h
    next => exact lt_wordBound_of_readWord? h
    next => cases h

/-! ### Reading back a layout

A declaration without a layout begins with a word of interpolation or with the word of its storage.
None of these begins a layout, and the first storage that is found behind an inserted layout is that
of the declaration. -/

/-- The word of interpolation asks for no storage. -/
theorem ofWord?_of_mem_interpolations {word : Text} (h : word ∈ interpolations) :
    Storage.ofWord? word = none := by
  have hall : ∀ word ∈ interpolations, Storage.ofWord? word = none := by decide +kernel
  exact hall word h

@[simp] theorem ofWord?_word (storage : Storage) :
    Storage.ofWord? storage.word = some storage := by
  cases storage <;> decide +kernel

/-- A declaration without a layout has the word for its storage, and in front of it words of
interpolation only. -/
theorem exists_words_of_bare? {line : Text} {declaration : Declaration}
    (h : Declaration.bare? line = some declaration) :
    "layout".toList.isPrefixOf line.trim = false ∧ ∃ skipped rest,
      line.words = skipped ++ declaration.storage.word :: rest ∧
      ∀ word ∈ skipped, word ∈ interpolations := by
  rw [Declaration.bare?] at h
  split at h
  · cases h
  next hlayout =>
  rw [Bool.or_eq_true, Bool.or_eq_true, not_or, not_or, Bool.not_eq_true] at hlayout
  refine ⟨hlayout.1.1, ?_⟩
  split at h
  · cases h
  next word rest hwords =>
  split at h
  · cases h
  next storage hstorage =>
  -- a variable and the head of a block are told apart, and both have the storage that was found
  have hdeclared : declaration.storage = storage := by
    split at h
    · split at h
      · cases h
      · obtain ⟨last, -, rfl⟩ := Option.map_eq_some_iff.mp h
        rfl
    · split at h
      · cases h
        rfl
      · cases h
  have hword : storage.word = word := by simpa using List.find?_some hstorage
  rw [Text.words_trim] at hwords
  refine ⟨line.words.takeWhile interpolations.contains, rest, ?_, fun skipped hskipped => ?_⟩
  · rw [hdeclared, hword, ← hwords, List.takeWhile_append_dropWhile]
  · simpa using List.mem_takeWhile_imp hskipped

/-- The storage of a declaration is the first one among its words. -/
theorem words_of_bare? {line : Text} {declaration : Declaration}
    (h : Declaration.bare? line = some declaration) :
    "layout".toList.isPrefixOf line.trim = false ∧
      line.trim.words.findSome? Storage.ofWord? = some declaration.storage := by
  obtain ⟨hlayout, skipped, rest, hwords, hskipped⟩ := exists_words_of_bare? h
  have hnone : skipped.findSome? Storage.ofWord? = none :=
    List.findSome?_eq_none_iff.mpr fun word hword =>
      ofWord?_of_mem_interpolations (hskipped word hword)
  refine ⟨hlayout, ?_⟩
  rw [Text.words_trim, hwords, List.findSome?_append, hnone, Option.none_or, List.findSome?_cons,
    ofWord?_word]

/-- The words that a declaration without a layout can begin with. -/
def declarationWords : List Text :=
  interpolations ++ [Storage.uniform, .input, .output].map Storage.word

theorem word_mem_declarationWords (storage : Storage) : storage.word ∈ declarationWords :=
  List.mem_append_right _ (by cases storage <;> simp)

theorem exists_word_of_bare? {line : Text} {declaration : Declaration}
    (h : Declaration.bare? line = some declaration) :
    ∃ word others, line.words = word :: others ∧ word ∈ declarationWords := by
  obtain ⟨-, skipped, rest, hwords, hskipped⟩ := exists_words_of_bare? h
  cases skipped with
  | nil =>
    exact ⟨_, rest, hwords, word_mem_declarationWords _⟩
  | cons word skipped =>
    exact ⟨word, _, hwords, List.mem_append_left _ (hskipped word List.mem_cons_self)⟩

theorem trim_ne_nil_of_bare? {line : Text} {declaration : Declaration}
    (h : Declaration.bare? line = some declaration) : line.trim ≠ [] := by
  obtain ⟨word, others, hwords, -⟩ := exists_word_of_bare? h
  rw [← Text.words_trim] at hwords
  rintro hnil
  rw [hnil] at hwords
  cases hwords

theorem layoutOf?_of_bare? {line : Text} {declaration : Declaration}
    (h : Declaration.bare? line = some declaration) : layoutOf? line = none := by
  rw [layoutOf?, (words_of_bare? h).1]
  rfl

/-- What is put in front of a declaration stands in front of it when it is trimmed. -/
theorem trim_insert {c : Char} (hc : isBlank c = false) (layout : Text) {line : Text}
    (hline : line.trim ≠ []) :
    (Allocation.insert (c :: layout) line).trim = c :: layout ++ ' ' :: line.trim := by
  have hend : Text.trimEnd (' ' :: line.trimStart) = ' ' :: line.trim := by
    rw [← List.singleton_append, Text.trimEnd_append hline]
    rfl
  rw [Allocation.insert, List.append_assoc, List.cons_append,
    Text.trim_append (fun d hd => List.mem_takeWhile_imp hd) hc, ← List.cons_append]
  change Text.trimEnd ((c :: layout) ++ ' ' :: line.trimStart) = _
  rw [Text.trimEnd_append (by simp [hend]), hend]

/-- A layout with these arguments. -/
def layoutWith (arguments : Text) : Text :=
  "layout".toList ++ '(' :: (arguments ++ [')'])

theorem layoutWith_eq_cons (arguments : Text) :
    layoutWith arguments = 'l' :: ("ayout".toList ++ '(' :: (arguments ++ [')'])) := by
  have hword : "layout".toList = 'l' :: "ayout".toList := by simp
  change "layout".toList ++ '(' :: (arguments ++ [')']) = _
  rw [hword, List.cons_append]

/-- A layout that is put in front of a declaration is read back. -/
theorem layoutOf?_insert {line : Text} {declaration : Declaration}
    (h : Declaration.bare? line = some declaration) {arguments : Text} (hopen : ')' ∉ arguments) :
    layoutOf? (Allocation.insert (layoutWith arguments) line) =
      some (splitCommas arguments, declaration.storage) := by
  obtain ⟨-, hstorage⟩ := words_of_bare? h
  have htrim : (Allocation.insert (layoutWith arguments) line).trim =
      "layout".toList ++ '(' :: (arguments ++ ')' :: ' ' :: line.trim) := by
    have hword : "layout".toList = 'l' :: "ayout".toList := by simp
    rw [layoutWith_eq_cons, trim_insert (by decide) _ (trim_ne_nil_of_bare? h), hword]
    simp
  have hwords : Text.words (' ' :: line.trim) = line.trim.words :=
    Text.words_cons_of_isBlank (by decide) _
  rw [layoutOf?, htrim, if_pos (List.isPrefixOf_iff_prefix.mpr (List.prefix_append _ _)),
    List.drop_left' (by simp), Text.trimStart_cons (by decide), parenthesized?,
    splitOnce?_append hopen]
  change ((Text.words (' ' :: line.trim)).findSome? Storage.ofWord?).map _ = _
  rw [hwords, hstorage]
  rfl

/-- A key of a layout: nothing in it is blank, or a mark of the layout. -/
def IsKey (key : Text) : Prop :=
  ∀ c ∈ key, isBlank c = false ∧ c ≠ '=' ∧ c ≠ ',' ∧ c ≠ ')'

theorem isKey_location : IsKey "location".toList :=
  Text.forall_mem rfl

theorem isKey_set : IsKey "set".toList :=
  Text.forall_mem rfl

theorem isKey_binding : IsKey "binding".toList :=
  Text.forall_mem rfl

/-- An argument of a layout that gives a number to a key. -/
def equation (key : Text) (n : Nat) : Text :=
  key ++ ' ' :: '=' :: ' ' :: decimal n

/-- An argument that gives a number to a key is read back under the key alone, and if the number
fits a word. -/
theorem numberArgument?_equation {gap key found : Text} (hgap : ∀ c ∈ gap, isBlank c = true)
    (hkey : IsKey found) (n : Nat) : numberArgument? key (gap ++ equation found n) =
      if found = key then if n < wordBound then some n else none else none := by
  have hspace : ∀ c ∈ [' '], isBlank c = true := Text.forall_mem (by decide)
  have hfound : ∀ c ∈ found, isBlank c = false := fun c hc => (hkey c hc).1
  have hgap' : '=' ∉ gap := fun h => absurd (hgap '=' h) (by decide)
  have hfound' : '=' ∉ found := fun h => (hkey '=' h).2.1 rfl
  have hbefore : '=' ∉ gap ++ (found ++ [' ']) := by simp [hgap', hfound']
  have hcut : gap ++ equation found n = (gap ++ (found ++ [' '])) ++ '=' :: ' ' :: decimal n := by
    simp [equation]
  have hvalue : Text.trim (' ' :: decimal n) = decimal n := by
    have hdigits : ∀ c ∈ decimal n, isBlank c = false := fun c hc =>
      not_isBlank_of_isDigit (isDigit_of_mem_decimal hc)
    have htrim := Text.trim_between hspace (List.forall_mem_nil _) hdigits
    rwa [List.append_nil] at htrim
  have htrim : (gap ++ (found ++ [' '])).trim = found := Text.trim_between hgap hspace hfound
  rw [numberArgument?, hcut, splitOnce?_append hbefore]
  simp only [htrim, hvalue, readWord?_decimal]

theorem locationLayout_eq (n : Nat) :
    locationLayout n = layoutWith (equation "location".toList n) := by
  have hword : "layout(location = ".toList = "layout".toList ++ '(' :: ("location".toList ++
      [' ', '=', ' ']) := by simp
  change "layout(location = ".toList ++ decimal n ++ [')'] = "layout".toList ++
    '(' :: (("location".toList ++ ' ' :: '=' :: ' ' :: decimal n) ++ [')'])
  rw [hword]
  simp only [List.append_assoc, List.cons_append, List.nil_append]

theorem bindingLayout_eq (n : Nat) :
    bindingLayout n = layoutWith (equation "set".toList 0 ++
      ',' :: ([' '] ++ equation "binding".toList n)) := by
  have hword : "layout(set = 0, binding = ".toList = "layout".toList ++ '(' :: ("set".toList ++
      ' ' :: '=' :: ' ' :: (decimal 0 ++ ',' :: ' ' :: ("binding".toList ++ [' ', '=', ' ']))) := by
    decide +kernel
  change "layout(set = 0, binding = ".toList ++ decimal n ++ [')'] = "layout".toList ++
    '(' :: ((("set".toList ++ ' ' :: '=' :: ' ' :: decimal 0) ++
      ',' :: ([' '] ++ ("binding".toList ++ ' ' :: '=' :: ' ' :: decimal n))) ++ [')'])
  rw [hword]
  simp only [List.append_assoc, List.cons_append, List.nil_append]

theorem comma_notMem_equation {key : Text} (hkey : IsKey key) (n : Nat) : ',' ∉ equation key n := by
  have hname : ',' ∉ key := fun h => (hkey ',' h).2.2.1 rfl
  have hnumber : ',' ∉ decimal n := fun h => absurd (isDigit_of_mem_decimal h) (by decide)
  simp [equation, hname, hnumber]

theorem close_notMem_equation {key : Text} (hkey : IsKey key) (n : Nat) : ')' ∉ equation key n := by
  have hname : ')' ∉ key := fun h => (hkey ')' h).2.2.2 rfl
  have hnumber : ')' ∉ decimal n := fun h => absurd (isDigit_of_mem_decimal h) (by decide)
  simp [equation, hname, hnumber]

/-- The location that is put in front of a declaration is read back. -/
theorem layoutOf?_locationLayout {line : Text} {declaration : Declaration}
    (h : Declaration.bare? line = some declaration) (n : Nat) :
    layoutOf? (Allocation.insert (locationLayout n) line) =
      some ([equation "location".toList n], declaration.storage) := by
  rw [locationLayout_eq, layoutOf?_insert h (close_notMem_equation isKey_location n),
    splitCommas_of_notMem (comma_notMem_equation isKey_location n)]

/-- So is the binding. -/
theorem layoutOf?_bindingLayout {line : Text} {declaration : Declaration}
    (h : Declaration.bare? line = some declaration) (n : Nat) :
    layoutOf? (Allocation.insert (bindingLayout n) line) =
      some ([equation "set".toList 0, [' '] ++ equation "binding".toList n],
        declaration.storage) := by
  have hopen : ')' ∉ equation "set".toList 0 ++ ',' :: ([' '] ++ equation "binding".toList n) := by
    rw [List.mem_append, List.mem_cons, List.mem_append, List.mem_singleton]
    rintro (h | h | h | h)
    · exact close_notMem_equation isKey_set 0 h
    · exact absurd h (by decide)
    · exact absurd h (by decide)
    · exact close_notMem_equation isKey_binding n h
  have hlast : ',' ∉ [' '] ++ equation "binding".toList n := by
    rw [List.mem_append, List.mem_singleton, not_or]
    exact ⟨by decide, comma_notMem_equation isKey_binding n⟩
  rw [bindingLayout_eq, layoutOf?_insert h hopen,
    splitCommas_append (comma_notMem_equation isKey_set 0), splitCommas_of_notMem hlast]

/-- A uniform gets a binding, anything else a location. -/
theorem give_cases (stage : Stage) (known : Allocation) (declaration : Declaration) :
    (declaration.storage = .uniform ∧ ∃ n, (give stage known declaration).1 = bindingLayout n) ∨
      (declaration.storage ≠ .uniform ∧
        ∃ n, (give stage known declaration).1 = locationLayout n) := by
  unfold give
  cases hstorage : declaration.storage with
  | uniform => exact .inl ⟨rfl, known.binding, rfl⟩
  | input =>
    refine .inr ⟨nofun, ?_⟩
    split
    · exact ⟨_, rfl⟩
    · exact ⟨_, rfl⟩
  | output =>
    refine .inr ⟨nofun, ?_⟩
    split
    · exact ⟨_, rfl⟩
    · exact ⟨_, rfl⟩

/-! ### What is known in front of a line

The pass over the lines is cut at a line: `before` is what the lines in front of it leave. A
statement about the line can then be made without the lines behind it. -/

variable {stage : Stage} {known : Allocation} {ls : List Text} {k : Nat} {line : Text}
  {declaration : Declaration}

/-- What is known in front of the `k`-th line. -/
def Allocation.before (stage : Stage) (known : Allocation) (ls : List Text) (k : Nat) :
    Allocation :=
  (fill stage known (ls.take k)).2

@[simp] theorem before_zero : before stage known ls 0 = known := rfl

theorem before_cons_succ : before stage known (line :: ls) (k + 1) =
    before stage (before stage known (line :: ls) 1) ls k := by
  cases hbare : Declaration.bare? line with
  | none => simp [before, fill, hbare]
  | some declaration => simp [before, fill, hbare]

/-- A declaration without a layout comes out with one, by what is known in front of it. -/
theorem getElem?_fill_of_bare? (hline : ls[k]? = some line)
    (hbare : Declaration.bare? line = some declaration) (known : Allocation) :
    (fill stage known ls).1[k]? =
      some (Allocation.insert (give stage (before stage known ls k) declaration).1 line) := by
  -- on the lines, for whatever is known: behind the first one more is
  induction ls generalizing known k with
  | nil => simp at hline
  | cons head ls ih =>
    cases k with
    | zero =>
      obtain rfl : head = line := by simpa using hline
      rw [fill_cons_of_bare? hbare]
      rfl
    | succ k =>
      rw [before_cons_succ]
      have hrest := ih (by simpa using hline) (before stage known (head :: ls) 1)
      rw [← hrest]
      cases hhead : Declaration.bare? head with
      | none => simp [fill, before, hhead]
      | some other => simp [fill, before, hhead]

/-- Any other line stays as it is. -/
theorem getElem?_fill_of_not_bare? (hline : ls[k]? = some line)
    (hbare : Declaration.bare? line = none) (known : Allocation) :
    (fill stage known ls).1[k]? = some line := by
  induction ls generalizing known k with
  | nil => simp at hline
  | cons head ls ih =>
    cases k with
    | zero =>
      obtain rfl : head = line := by simpa using hline
      rw [fill_cons_of_bare?_eq_none hbare]
      rfl
    | succ k =>
      have hrest := ih (k := k) (by simpa using hline)
      cases hhead : Declaration.bare? head with
      | none => simpa [fill, hhead] using hrest known
      | some other => simpa [fill, hhead] using hrest _

/-- What is known behind a line. Behind the last one nothing is added. -/
theorem before_succ : before stage known ls (k + 1) =
    match ls[k]?.bind Declaration.bare? with
    | some declaration => (give stage (before stage known ls k) declaration).2
    | none => before stage known ls k := by
  induction ls generalizing known k with
  | nil => rw [before, before, List.take_nil, List.take_nil, List.getElem?_nil, Option.bind_none]
  | cons head ls ih =>
    cases k with
    | zero => cases hhead : Declaration.bare? head <;> simp [fill, before, hhead]
    | succ k => rw [before_cons_succ, ih, ← before_cons_succ, List.getElem?_cons_succ]

/-! ### Kinds of numbers

Lines are addressed by their index in the source. The text that comes out has as many lines, so an
index means the same in both. -/

/-- What the entries of a list have is distinct if no two of them have the same. -/
theorem nodup_filterMap_iff {α β : Type} {f : β → Option α} {entries : List β} :
    (entries.filterMap f).Nodup ↔ ∀ {j k : Nat} {b c : β} {a : α}, entries[j]? = some b →
      f b = some a → entries[k]? = some c → f c = some a → j = k := by
  rw [List.Nodup, List.pairwise_filterMap, List.pairwise_iff_getElem]
  constructor
  · intro h j k b c a hb hfb hc hfc
    obtain ⟨hj, rfl⟩ := List.getElem?_eq_some_iff.mp hb
    obtain ⟨hk, rfl⟩ := List.getElem?_eq_some_iff.mp hc
    by_contra hne
    rcases Nat.lt_or_gt_of_ne hne with hlt | hlt
    · exact h j k hj hk hlt a hfb a hfc rfl
    · exact h k j hk hj hlt a hfc a hfb rfl
  · rintro h j k hj hk hlt a hfb a' hfc rfl
    have := h (List.getElem?_eq_getElem hj) hfb (List.getElem?_eq_getElem hk) hfc
    omega

/-- A kind of number that the declarations of a storage have: where a line has it written, and how
it is given out. -/
structure Numbering (α : Type) where
  /-- The storage of the declarations. -/
  storage : Storage
  /-- The number that a line has in a layout. -/
  read? : Text → Option α
  /-- The layout that is given out with a number. -/
  layout : Nat → Text
  /-- What the number in that layout stands for. -/
  place : Nat → α
  /-- The number that the next declaration gets. -/
  next : Stage → Allocation → Declaration → Nat
  /-- Different numbers stand for different things. -/
  place_injective : Function.Injective place
  /-- A layout has one number. -/
  layout_injective : Function.Injective layout
  /-- A declaration gets the next number. -/
  give_eq : ∀ {stage : Stage} {known : Allocation} {declaration : Declaration},
    declaration.storage = storage →
      (give stage known declaration).1 = layout (next stage known declaration)
  /-- What is read fits a word of 32 bits. -/
  lt_of_read? : ∀ {line : Text} {n : Nat}, read? line = some (place n) → n < wordBound
  /-- A line that gets a number has none. -/
  read?_of_bare? : ∀ {line : Text} {declaration : Declaration},
    Declaration.bare? line = some declaration → read? line = none
  /-- The number that a declaration gets is read back. -/
  read?_insert : ∀ {line : Text} {declaration : Declaration},
    Declaration.bare? line = some declaration → declaration.storage = storage →
      ∀ n, read? (Allocation.insert (layout n) line) =
        if n < wordBound then some (place n) else none
  /-- The declarations of the other storages get none. -/
  read?_insert_of_ne : ∀ {line : Text} {declaration : Declaration},
    Declaration.bare? line = some declaration → declaration.storage ≠ storage →
      ∀ (stage : Stage) (known : Allocation),
        read? (Allocation.insert (give stage known declaration).1 line) = none

namespace Numbering

variable {α : Type} (numbering : Numbering α)

/-- The numbers that the lines of a text have, in order. -/
def numbers (text : Text) : List α :=
  text.pieces.filterMap numbering.read?

/-- The `k`-th line of a text has a number. -/
def Writes (text : Text) (k : Nat) (a : α) : Prop :=
  ∃ line, text.pieces[k]? = some line ∧ numbering.read? line = some a

/-- The `k`-th line of a source gets a number: it declares something of the storage without a
layout, and comes out with the layout that has the number. -/
def Gets (filling : Filling) (k n : Nat) : Prop :=
  ∃ line declaration, filling.source.pieces[k]? = some line ∧
    Declaration.bare? line = some declaration ∧ declaration.storage = numbering.storage ∧
    filling.filled.pieces[k]? = some (Allocation.insert (numbering.layout n) line)

/-- The `k`-th line has a number in the end: it had it, or it got it. -/
def Has (filling : Filling) (k : Nat) (a : α) : Prop :=
  numbering.Writes filling.source k a ∨ ∃ n, numbering.Gets filling k n ∧ numbering.place n = a

/-- No two lines have one number in the end. -/
def Distinct (filling : Filling) : Prop :=
  ∀ j k a, numbering.Has filling j a → numbering.Has filling k a → j = k

variable {numbering} {text source : Text} {table : Varyings} {a : α} {j n : Nat}

theorem mem_numbers : a ∈ numbering.numbers text ↔ ∃ k, numbering.Writes text k a := by
  rw [numbers, List.mem_filterMap]
  constructor
  · rintro ⟨line, hline, hread⟩
    obtain ⟨k, hk⟩ := List.mem_iff_getElem?.mp hline
    exact ⟨k, line, hk, hread⟩
  · rintro ⟨k, line, hk, hread⟩
    exact ⟨line, List.mem_of_getElem? hk, hread⟩

theorem nodup_numbers_iff : (numbering.numbers text).Nodup ↔
    ∀ j k a, numbering.Writes text j a → numbering.Writes text k a → j = k := by
  rw [numbers, nodup_filterMap_iff]
  constructor
  · rintro h j k a ⟨line, hline, hread⟩ ⟨line', hline', hread'⟩
    exact h hline hread hline' hread'
  · intro h j k line line' a hline hread hline' hread'
    exact h j k a ⟨line, hline, hread⟩ ⟨line', hline', hread'⟩

theorem writes_iff_of_getElem? (h : text.pieces[k]? = some line) :
    numbering.Writes text k a ↔ numbering.read? line = some a := by
  rw [Writes, h]
  constructor
  · rintro ⟨_, hline, hread⟩
    rwa [Option.some.inj hline]
  · exact fun hread => ⟨line, rfl, hread⟩

/-- A line gets the number that is next when it is reached. -/
theorem gets_iff : numbering.Gets (.onto table stage source) k n ↔
    ∃ line declaration, source.pieces[k]? = some line ∧
      Declaration.bare? line = some declaration ∧ declaration.storage = numbering.storage ∧
      n = numbering.next stage (before stage (ofLines table source.pieces) source.pieces k)
        declaration := by
  simp only [Gets, Filling.onto]
  refine exists_congr fun line => exists_congr fun declaration => and_congr_right fun hline =>
    and_congr_right fun hbare => and_congr_right fun hstorage => ?_
  rw [pieces_assign, getElem?_fill_of_bare? hline hbare, numbering.give_eq hstorage,
    Option.some.injEq]
  constructor
  · exact fun h => numbering.layout_injective (insert_injective h).symm
  · rintro rfl
    rfl

theorem Gets.bare? (h : numbering.Gets (.onto table stage source) k n)
    (hline : source.pieces[k]? = some line) : ∃ declaration,
      Declaration.bare? line = some declaration ∧ declaration.storage = numbering.storage ∧
      n = numbering.next stage (before stage (ofLines table source.pieces) source.pieces k)
        declaration := by
  obtain ⟨other, declaration, hother, hbare, hstorage, hn⟩ := gets_iff.mp h
  obtain rfl : other = line := Option.some.inj (hother.symm.trans hline)
  exact ⟨declaration, hbare, hstorage, hn⟩

/-- A line that has a number written gets none. -/
theorem Writes.not_gets (h : numbering.Writes source k a) :
    ¬numbering.Gets (.onto table stage source) k n := by
  intro hgets
  obtain ⟨line, hline, hread⟩ := h
  obtain ⟨declaration, hbare, -⟩ := hgets.bare? hline
  rw [numbering.read?_of_bare? hbare] at hread
  cases hread

theorem not_has_of_length_le (h : source.pieces.length ≤ k) :
    ¬numbering.Has (.onto table stage source) k a := by
  have hline : source.pieces[k]? = none := List.getElem?_eq_none_iff.mpr h
  simp [Has, Writes, Gets, Filling.onto, hline]

/-- What a line that stays as it is has in the end. -/
theorem has_iff_of_not_bare? (hline : source.pieces[k]? = some line)
    (hbare : Declaration.bare? line = none) :
    numbering.Has (.onto table stage source) k a ↔ numbering.read? line = some a := by
  rw [← writes_iff_of_getElem? hline]
  constructor
  · rintro (h | ⟨n, h, -⟩)
    · exact h
    · obtain ⟨declaration, hsome, -⟩ := h.bare? hline
      rw [hbare] at hsome
      cases hsome
  · exact .inl

/-- What a declaration without a layout has in the end. -/
theorem has_iff_of_bare? (hline : source.pieces[k]? = some line)
    (hbare : Declaration.bare? line = some declaration) :
    numbering.Has (.onto table stage source) k a ↔ declaration.storage = numbering.storage ∧
      numbering.place (numbering.next stage
        (before stage (ofLines table source.pieces) source.pieces k) declaration) = a := by
  constructor
  · rintro (h | ⟨n, h, rfl⟩)
    · have hread := (writes_iff_of_getElem? hline).mp h
      rw [numbering.read?_of_bare? hbare] at hread
      cases hread
    · obtain ⟨found, hfound, hstorage, rfl⟩ := h.bare? hline
      obtain rfl := Option.some.inj (hbare.symm.trans hfound)
      exact ⟨hstorage, rfl⟩
  · rintro ⟨hstorage, rfl⟩
    exact .inr ⟨_, gets_iff.mpr ⟨line, declaration, hline, hbare, hstorage, rfl⟩, rfl⟩

/-- **The numbers on the lines that come out are those that the lines had or got.** A number that
does not fit a word is not read. -/
theorem writes_filled_iff : numbering.Writes (assign table stage source).1 k a ↔
    numbering.Has (.onto table stage source) k a ∧
      ∀ n, numbering.place n = a → n < wordBound := by
  -- by what is done to a line: there is none, it stays, or it gets a layout of its storage
  have hout := pieces_assign table stage source
  cases hline : source.pieces[k]? with
  | none =>
    have hlen : source.pieces.length ≤ k := List.getElem?_eq_none_iff.mp hline
    have hnone : (assign table stage source).1.pieces[k]? = none := by
      rw [hout, List.getElem?_eq_none_iff, length_fill]
      exact hlen
    simp [Writes, hnone, not_has_of_length_le hlen]
  | some line =>
    cases hbare : Declaration.bare? line with
    | none =>
      have hsame := hout ▸ getElem?_fill_of_not_bare? hline hbare (ofLines table source.pieces)
      rw [writes_iff_of_getElem? hsame, has_iff_of_not_bare? hline hbare]
      refine ⟨fun hread => ⟨hread, ?_⟩, And.left⟩
      rintro n rfl
      exact numbering.lt_of_read? hread
    | some declaration =>
      have hgiven := hout ▸ getElem?_fill_of_bare? hline hbare (ofLines table source.pieces)
      rw [writes_iff_of_getElem? hgiven, has_iff_of_bare? hline hbare]
      by_cases hstorage : declaration.storage = numbering.storage
      · rw [numbering.give_eq hstorage, numbering.read?_insert hbare hstorage]
        constructor
        · intro hread
          split at hread
          next hlt =>
            refine ⟨⟨hstorage, Option.some.inj hread⟩, fun m hm => ?_⟩
            exact numbering.place_injective (hm.trans (Option.some.inj hread).symm) ▸ hlt
          next => cases hread
        · rintro ⟨⟨-, ha⟩, hlt⟩
          rw [if_pos (hlt _ ha), ha]
      · simp [numbering.read?_insert_of_ne hbare hstorage, hstorage]

/-- **The lines have distinct numbers in the end** exactly if the numbers that are given out are
distinct, and none of them is written. -/
theorem distinct_iff (h : (numbering.numbers source).Nodup) :
    numbering.Distinct (.onto table stage source) ↔
      (∀ j k n, numbering.Gets (.onto table stage source) j n →
        numbering.Gets (.onto table stage source) k n → j = k) ∧
      ∀ k n, numbering.Gets (.onto table stage source) k n →
        numbering.place n ∉ numbering.numbers source := by
  constructor
  · intro hdistinct
    refine ⟨fun j k n hj hk => hdistinct j k _ (.inr ⟨n, hj, rfl⟩) (.inr ⟨n, hk, rfl⟩), ?_⟩
    intro k n hk hmem
    obtain ⟨j, hj⟩ := mem_numbers.mp hmem
    obtain rfl := hdistinct j k _ (.inl hj) (.inr ⟨n, hk, rfl⟩)
    exact hj.not_gets hk
  · rintro ⟨hgiven, hapart⟩ j k a (hj | ⟨n, hj, rfl⟩) (hk | ⟨m, hk, hm⟩)
    · exact nodup_numbers_iff.mp h j k a hj hk
    · exact absurd (mem_numbers.mpr ⟨j, hm ▸ hj⟩) (hapart k m hk)
    · exact absurd (mem_numbers.mpr ⟨k, hk⟩) (hapart j n hj)
    · obtain rfl := numbering.place_injective hm
      exact hgiven j k m hj hk

end Numbering

end ShaderBundle.Headless
