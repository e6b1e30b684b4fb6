import ShaderBundle.Text.Blank

/-!
# Byte positions

A masked text and its source agree byte by byte and not character by character: a comment
character of three bytes becomes three spaces. Positions found in one and used in the other are
therefore byte positions in UTF-8.

## Main definitions

* `width c` is the number of bytes of a character, `Text.size` that of a text.
* `Text.cut n s` splits a text after `n` bytes.
* `Text.OnBoundary n s` says that no character of `s` straddles byte position `n`.
-/

namespace ShaderBundle

/-- The number of bytes of a character in UTF-8. -/
def width (c : Char) : Nat :=
  if c.toNat < 0x80 then 1 else if c.toNat < 0x800 then 2 else if c.toNat < 0x10000 then 3 else 4

theorem width_pos (c : Char) : 0 < width c := by
  unfold width
  split
  · decide
  · split
    · decide
    · split <;> decide

namespace Text

/-- The number of bytes of a text in UTF-8. -/
def size : Text → Nat
  | [] => 0
  | c :: rest => width c + size rest

@[simp] theorem size_nil : size [] = 0 := rfl

@[simp] theorem size_cons (c : Char) (s : Text) : size (c :: s) = width c + size s := rfl

@[simp] theorem size_append (s t : Text) : size (s ++ t) = size s + size t := by
  induction s with
  | nil => rw [List.nil_append, size_nil, Nat.zero_add]
  | cons c s ih => rw [List.cons_append, size_cons, size_cons, ih, Nat.add_assoc]

/-- The characters that end within the first `n` bytes, and the others. -/
def cut : Nat → Text → Text × Text
  | _, [] => ([], [])
  | n, c :: rest =>
    if width c ≤ n then
      let (front, back) := cut (n - width c) rest
      (c :: front, back)
    else ([], c :: rest)

/-- Byte position `n` lies between two characters of the text or at one of its ends. -/
def OnBoundary (n : Nat) (s : Text) : Prop :=
  size (cut n s).1 = n

instance (n : Nat) (s : Text) : Decidable (OnBoundary n s) :=
  inferInstanceAs (Decidable (size (cut n s).1 = n))

/-- A cut loses nothing. -/
theorem cut_append (n : Nat) (s : Text) : (cut n s).1 ++ (cut n s).2 = s := by
  induction s generalizing n with
  | nil => rfl
  | cons c rest ih =>
    simp only [cut]
    split
    · simp [ih]
    · rfl

/-- A cut where one text ends and another begins gives the two texts back. -/
@[simp] theorem cut_size_append (s t : Text) : cut (size s) (s ++ t) = (s, t) := by
  induction s with
  | nil =>
    cases t with
    | nil => rfl
    | cons c rest =>
      have := width_pos c
      simp only [size_nil, List.nil_append, cut]
      rw [if_neg (by omega)]
  | cons c rest ih =>
    simp only [size_cons, List.cons_append, cut]
    rw [if_pos (by omega), Nat.add_sub_cancel_left, ih]

theorem onBoundary_size_append (s t : Text) : OnBoundary (size s) (s ++ t) := by
  simp [OnBoundary]

end Text

end ShaderBundle
