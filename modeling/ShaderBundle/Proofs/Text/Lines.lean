import ShaderBundle.Text.Lines

/-!
# Cutting at line feeds and joining again

A text is handled line by line in three ways. `Text.pieces` cuts it at every line feed, `Text.lines`
cuts it as a reader of lines does, who drops a carriage return in front of a feed and does not take
an end of text for another line, and `Text.unlines` puts lines together with one feed between two of
them. This module says how the three fit together.

## Which cut undoes which

`pieces` and `unlines` undo each other as long as there is a line at all and no line holds a line
feed. Both provisos are needed: no line and one empty line are joined to the same text, and a feed
inside a line is a place to cut. The lines of a text never hold a feed, so a range of lines that is
joined and cut again is the same range of lines, which is what a stage's body goes through.

`lines` is not undone by joining. It forgets carriage returns, and the feed at the end of a file. So
a line number is a place in `lines`, and wherever text is rewritten in place it is `pieces` that is
spoken of.

## Implementation notes

`pieces_eq_splitOn` is the bridge to the library's cutting of lists, and the facts about `pieces`
that have a name there are taken from it. There is no such bridge for `lines`: nothing in the
library drops a carriage return.

Feeds are counted by `Text.feeds`, since a text has one part more than it has feeds, and sums of
counts are easier to rewrite with than lengths of lists that are cut anew.

## Main results

* `Text.pieces_unlines`: lines joined and cut again.
* `Text.pieces_append_feed`, `Text.unlines_append`: both operations at a seam.
* `Text.lines_unlines`: lines joined and read again, if each of them can be told from an ending.
* `Text.feed_notMem_of_mem_lines`: a line of a text has no line feed in it.
-/

namespace ShaderBundle.Text

/-! ### Joining

Every equation about `unlines` needs to know whether a line follows, since a feed stands between two
lines and behind none. The recursion of the definition looks at two lines at once; the lemmas here
put that into a hypothesis, so that inductions can go line by line. -/

@[simp] theorem unlines_nil : unlines [] = [] := rfl

@[simp] theorem unlines_singleton (l : Text) : unlines [l] = l := by
  simp [unlines]

theorem unlines_cons_cons (l m : Text) (ls : List Text) :
    unlines (l :: m :: ls) = l ++ '\n' :: unlines (m :: ls) := by
  simp [unlines, List.intercalate_cons_cons]

theorem unlines_cons_of_ne_nil (l : Text) {ls : List Text} (h : ls ≠ []) :
    unlines (l :: ls) = l ++ '\n' :: unlines ls := by
  cases ls with
  | nil => exact absurd rfl h
  | cons m ls => exact unlines_cons_cons l m ls

/-- Two runs of lines are joined with one line feed between them. -/
theorem unlines_append {ls ms : List Text} (hl : ls ≠ []) (hm : ms ≠ []) :
    unlines (ls ++ ms) = unlines ls ++ '\n' :: unlines ms := by
  induction ls with
  | nil => exact absurd rfl hl
  | cons l ls ih =>
    by_cases h : ls = []
    · subst h
      rw [List.singleton_append, unlines_cons_of_ne_nil l hm, unlines_singleton]
    · rw [List.cons_append, unlines_cons_of_ne_nil l (by simp [h]), ih h,
        unlines_cons_of_ne_nil l h, List.append_assoc, List.cons_append]

/-! ### Cutting

A feed ends one part and begins the next one, whatever stands on either side. This is the only place
where a cut is looked into; all later arguments about lines of parts that are put together rewrite
with `pieces_append_feed`. -/

/-- No part between line feeds holds a line feed. -/
theorem feed_notMem_of_mem_pieces {s p : Text} (h : p ∈ pieces s) : '\n' ∉ p := by
  induction s generalizing p with
  | nil =>
    rw [pieces_nil, List.mem_singleton] at h
    simp [h]
  | cons c rest ih =>
    by_cases hc : c = '\n'
    · subst hc
      rw [pieces_feed, List.mem_cons] at h
      rcases h with rfl | h
      · simp
      · exact ih h
    · obtain ⟨first, others, hrest, hcons⟩ := pieces_cons hc rest
      rw [hcons, List.mem_cons] at h
      rw [hrest] at ih
      rcases h with rfl | h
      · simp only [List.mem_cons, not_or]
        exact ⟨Ne.symm hc, ih (List.mem_cons_self ..)⟩
      · exact ih (List.mem_cons_of_mem _ h)

theorem pieces_eq_splitOn (s : Text) : pieces s = s.splitOn '\n' := by
  have h := List.splitOn_intercalate '\n' (fun _ hp => feed_notMem_of_mem_pieces hp)
    (pieces_ne_nil s)
  rw [← h]
  exact congrArg _ (unlines_pieces s)

/-- Lines joined and cut again. -/
theorem pieces_unlines {ls : List Text} (hne : ls ≠ []) (h : ∀ l ∈ ls, '\n' ∉ l) :
    pieces (unlines ls) = ls := by
  rw [pieces_eq_splitOn]
  exact List.splitOn_intercalate '\n' h hne

/-- A line feed ends one part and begins another. -/
theorem pieces_append_feed (s t : Text) : pieces (s ++ '\n' :: t) = pieces s ++ pieces t := by
  have h : s ++ '\n' :: t = unlines (pieces s ++ pieces t) := by
    rw [unlines_append (pieces_ne_nil s) (pieces_ne_nil t), unlines_pieces, unlines_pieces]
  rw [h]
  refine pieces_unlines (by simp [pieces_ne_nil]) fun l hl => ?_
  rcases List.mem_append.mp hl with hl | hl <;> exact feed_notMem_of_mem_pieces hl

@[simp] theorem feeds_append (s t : Text) : feeds (s ++ t) = feeds s + feeds t := by
  simp [feeds]

@[simp] theorem feeds_replicate_space (n : Nat) : feeds (List.replicate n ' ') = 0 := by
  simp [feeds, List.count_replicate]

/-- Joining `n + 1` lines takes `n` line feeds. -/
theorem feeds_unlines {ls : List Text} (hne : ls ≠ []) (h : ∀ l ∈ ls, '\n' ∉ l) :
    feeds (unlines ls) + 1 = ls.length := by
  rw [← length_pieces, pieces_unlines hne h]

/-! ### Lines

A carriage return counts for a line ending only in front of a feed. `dropReturn` takes one off, at
the end of a part; a second one in front of it stays and is text. -/

theorem dropReturn_append_return (s : Text) : dropReturn (s ++ ['\r']) = s := by
  induction s with
  | nil => rfl
  | cons c s ih =>
    cases s with
    | nil => simp [dropReturn]
    | cons d s => rw [List.cons_append, List.cons_append, dropReturn, ← List.cons_append, ih]

theorem dropReturn_of_getLast? {s : Text} (h : s.getLast? ≠ some '\r') : dropReturn s = s := by
  induction s with
  | nil => rfl
  | cons c s ih =>
    cases s with
    | nil =>
      have hc : c ≠ '\r' := by simpa using h
      simp [dropReturn, hc]
    | cons d s =>
      rw [List.getLast?_cons_cons] at h
      rw [dropReturn, ih h]

/-- A text ends in a carriage return, which is dropped, or nothing is dropped. -/
theorem dropReturn_cases (s : Text) :
    (∃ r, s = r ++ ['\r'] ∧ dropReturn s = r) ∨ s.getLast? ≠ some '\r' ∧ dropReturn s = s := by
  by_cases h : s.getLast? = some '\r'
  · obtain ⟨r, rfl⟩ := List.getLast?_eq_some_iff.mp h
    exact Or.inl ⟨r, rfl, dropReturn_append_return r⟩
  · exact Or.inr ⟨h, dropReturn_of_getLast? h⟩

theorem mem_of_mem_dropReturn {s : Text} {c : Char} (h : c ∈ dropReturn s) : c ∈ s := by
  rcases dropReturn_cases s with ⟨r, rfl, hr⟩ | ⟨-, hs⟩
  · rw [hr] at h
    exact List.mem_append_left _ h
  · rwa [hs] at h

/-- Every line is a part between line feeds, up to a carriage return at its end. -/
theorem exists_of_mem_closeLines {ps : List Text} {l : Text} (h : l ∈ closeLines ps) :
    ∃ p ∈ ps, ∀ c ∈ l, c ∈ p := by
  induction ps with
  | nil => simp [closeLines] at h
  | cons p ps ih =>
    cases ps with
    | nil =>
      refine ⟨p, List.mem_singleton_self p, fun c hc => ?_⟩
      rw [closeLines] at h
      split at h
      · simp at h
      · rwa [List.mem_singleton.mp h] at hc
    | cons q qs =>
      rw [closeLines, List.mem_cons] at h
      rcases h with rfl | h
      · exact ⟨p, List.mem_cons_self .., fun c hc => mem_of_mem_dropReturn hc⟩
      · obtain ⟨r, hr, hsub⟩ := ih h
        exact ⟨r, List.mem_cons_of_mem _ hr, hsub⟩

/-- Lines that are joined and read again, if each of them can be told from an ending. -/
theorem lines_unlines {ls : List Text}
    (h : ∀ l ∈ ls, l ≠ [] ∧ '\n' ∉ l ∧ l.getLast? ≠ some '\r') : lines (unlines ls) = ls := by
  have hclose : ∀ ls : List Text, (∀ l ∈ ls, l ≠ [] ∧ l.getLast? ≠ some '\r') →
      closeLines ls = ls := by
    intro ls h
    induction ls with
    | nil => rfl
    | cons l ls ih =>
      obtain ⟨hne, hlast⟩ := h l List.mem_cons_self
      cases ls with
      | nil => rw [closeLines, if_neg (by simpa using hne)]
      | cons m ms =>
        rw [closeLines, dropReturn_of_getLast? hlast, ih fun l hl =>
          h l (List.mem_cons_of_mem _ hl)]
  by_cases hnil : ls = []
  · subst hnil
    rfl
  · rw [lines, pieces_unlines hnil fun l hl => (h l hl).2.1,
      hclose ls fun l hl => ⟨(h l hl).1, (h l hl).2.2⟩]

theorem feed_notMem_of_mem_lines {s l : Text} (h : l ∈ lines s) : '\n' ∉ l := by
  obtain ⟨p, hp, hsub⟩ := exists_of_mem_closeLines h
  exact fun hl => feed_notMem_of_mem_pieces hp (hsub _ hl)

end ShaderBundle.Text
