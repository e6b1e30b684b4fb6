import Mathlib.Data.List.Infix
import Mathlib.Data.List.TakeWhile
import ShaderBundle.Proofs.Text.Zones
import ShaderBundle.Text.Utf8

/-!
# The comments of a text, byte by byte

Which characters of a text are a comment is said here without a scanner that has a state: from left
to right, a comment that begins goes on as far as its kind says, and everything else is code. A text
can be read in one way only. Masking turns the bytes of comments into spaces, except those of line
breaks, and leaves all other bytes alone.

What is masked has no comment left in it. A slash of code is kept, but what follows a kept slash is
no slash and no star, neither in the text nor in the copy, where a blank may have come in between.

## A second definition of comments

`maskFrom` has a zone and reads one or two characters at a time. It could be wrong in ways that a
statement about it would repeat. So what a comment is, is defined a second time, by `IsComment`,
with whole comments and no state: one of a line reaches up to the line feed, one between delimiters
up to the first closing delimiter, where the star of the opening one does not count, and one that is
never closed up to the end. `Lexes` reads a text as such pieces. That there is exactly one way to do
so is what makes the definition a definition, and `Lexes.mask_eq` is where the scanner meets it.

Each kind of comment says what may follow it, so that a comment cannot be taken for a shorter one.
For a comment of one line this is the end of the text or a feed. For one between delimiters it is
anything, since its content holds no closing delimiter.

## Bytes

Positions in a file are positions of bytes, and the copy has the same length as the text for that
reason. A character of code keeps its bytes. A character of a comment becomes as many spaces as it
has bytes, unless it is a line break, which is one byte and stays. `Lexes.encode_eq` says this of
the encoded text: byte by byte, a comment's bytes are spaces but for feeds and returns. It rests on
a fact about the encoding, that no byte of a longer character is one of a line break.

## Masking twice

That the copy has no comments is not a matter of the pieces. A comment that was blanked out leaves
spaces between two characters of code, and these may be a slash and a star. The argument is by the
scanner: a kept character of code is followed by what follows it in the text, or by a space.

## Main definitions

* `IsComment`: a comment and what may follow it.
* `Lexes`: how a text is read as characters of code and comments.
* `Lexeme.bytes`: the bytes of a piece, each with whether it belongs to a comment.

## Main results

* `existsUnique_lexes`: a text is read in one way.
* `Lexes.encode_eq`: the bytes of the masked copy.
* `mask_mask`: masking twice.
* `forall₂_size_lines_mask`: the lines of the masked copy.
-/

namespace ShaderBundle

/-! ### Reading comments -/

/-- A comment, with the rest of the text. A comment of one line goes on up to the line feed or the
end of the text. Any other comment goes on up to the first star and slash behind its first two
characters; if there are none, then to the end of the text. -/
inductive IsComment : Text → Text → Prop where
  | line {content rest : Text} (hcontent : '\n' ∉ content)
    (hrest : rest = [] ∨ ∃ behind, rest = '\n' :: behind) :
    IsComment ('/' :: '/' :: content) rest
  | block {content rest : Text} (hcontent : ¬['*', '/'] <:+: content) :
    IsComment ('/' :: '*' :: (content ++ ['*', '/'])) rest
  | unclosed {content : Text} (hcontent : ¬['*', '/'] <:+: content) :
    IsComment ('/' :: '*' :: content) []

/-- A piece of a text: a character of code, or a whole comment. -/
inductive Lexeme where
  | code (c : Char)
  | comment (s : Text)
  deriving DecidableEq, Repr

/-- The pieces of a text, read from left to right. A character is code if no comment begins
there. -/
inductive Lexes : Text → List Lexeme → Prop where
  | done : Lexes [] []
  | code {c : Char} {rest : Text} {lexemes : List Lexeme}
    (hcode : ∀ comment behind, c :: rest = comment ++ behind → ¬IsComment comment behind)
    (hrest : Lexes rest lexemes) : Lexes (c :: rest) (.code c :: lexemes)
  | comment {comment rest : Text} {lexemes : List Lexeme} (hcomment : IsComment comment rest)
    (hrest : Lexes rest lexemes) : Lexes (comment ++ rest) (.comment comment :: lexemes)

namespace Lexeme

/-- The characters of a piece in the masked copy. -/
def masked : Lexeme → Text
  | code c => [c]
  | comment s => s.flatMap blankOut

/-- The bytes of a piece, each with whether it belongs to a comment. -/
def bytes : Lexeme → List (Bool × UInt8)
  | code c => (Utf8.encodeChar c).map (false, ·)
  | comment s => (Utf8.encode s).map (true, ·)

end Lexeme

/-- What becomes of a byte: in a comment a space, unless it is a line feed or a carriage return. -/
def erased (entry : Bool × UInt8) : UInt8 :=
  if entry.1 = true ∧ entry.2 ≠ 10 ∧ entry.2 ≠ 13 then 32 else entry.2

/-! ### A text is read in one way

Existence goes by the length of what is left: where a comment begins, one of the three kinds ends
somewhere, and otherwise a character of code is taken. Uniqueness compares two comments that begin
at one place, kind by kind. -/

/-- The first star and slash of a text, or there are none. -/
theorem exists_close (s : Text) :
    (∃ content rest, s = content ++ '*' :: '/' :: rest ∧ ¬['*', '/'] <:+: content) ∨
      ¬['*', '/'] <:+: s := by
  induction s with
  | nil => exact .inr (by simp)
  | cons c s ih =>
    -- The two characters stand here, or the first ones are those of the rest.
    by_cases hfront : ['*', '/'] <+: c :: s
    · obtain ⟨rest, hrest⟩ := hfront
      exact .inl ⟨[], rest, hrest.symm, by simp⟩
    · rcases ih with ⟨content, rest, rfl, hcontent⟩ | hnone
      · refine .inl ⟨c :: content, rest, rfl, fun h => ?_⟩
        rcases List.infix_cons_iff.mp h with hbegins | hinfix
        · exact hfront (hbegins.trans ⟨'*' :: '/' :: rest, by simp⟩)
        · exact hcontent hinfix
      · refine .inr fun h => ?_
        rcases List.infix_cons_iff.mp h with hbegins | hinfix
        · exact hfront hbegins
        · exact hnone hinfix

/-- A comment begins at two slashes. -/
theorem exists_isComment_line (s : Text) :
    ∃ comment rest, '/' :: '/' :: s = comment ++ rest ∧ IsComment comment rest := by
  refine ⟨'/' :: '/' :: s.takeWhile (· ≠ '\n'), s.dropWhile (· ≠ '\n'), ?_, .line ?_ ?_⟩
  · rw [List.cons_append, List.cons_append, List.takeWhile_append_dropWhile]
  · intro h
    simpa using List.mem_takeWhile_imp h
  · cases hrest : s.dropWhile (· ≠ '\n') with
    | nil => exact .inl rfl
    | cons c behind =>
      have hc := List.head?_dropWhile_not (· ≠ '\n') s
      rw [hrest] at hc
      exact .inr ⟨behind, by simpa using hc⟩

/-- A comment begins at a slash and a star. -/
theorem exists_isComment_block (s : Text) :
    ∃ comment rest, '/' :: '*' :: s = comment ++ rest ∧ IsComment comment rest := by
  rcases exists_close s with ⟨content, rest, rfl, hcontent⟩ | hnone
  · exact ⟨_, rest, by simp, .block hcontent⟩
  · exact ⟨_, [], by simp, .unclosed hnone⟩

theorem IsComment.opens {comment rest : Text} (h : IsComment comment rest) :
    ∃ content, comment = '/' :: '/' :: content ∨ comment = '/' :: '*' :: content := by
  cases h with
  | line => exact ⟨_, .inl rfl⟩
  | block => exact ⟨_, .inr rfl⟩
  | unclosed => exact ⟨_, .inr rfl⟩

/-- No comment begins at a character exactly if no delimiter does. -/
theorem no_comment_iff {c : Char} {s : Text} :
    (∀ comment behind, c :: s = comment ++ behind → ¬IsComment comment behind) ↔
      (c = '/' → ∀ rest, s ≠ '/' :: rest) ∧ (c = '/' → ∀ rest, s ≠ '*' :: rest) := by
  constructor
  · intro h
    refine ⟨?_, ?_⟩
    · rintro rfl rest rfl
      obtain ⟨comment, behind, heq, hcomment⟩ := exists_isComment_line rest
      exact h comment behind heq hcomment
    · rintro rfl rest rfl
      obtain ⟨comment, behind, heq, hcomment⟩ := exists_isComment_block rest
      exact h comment behind heq hcomment
  · rintro ⟨hline, hblock⟩ comment behind heq hcomment
    obtain ⟨content, rfl | rfl⟩ := hcomment.opens
    · obtain ⟨rfl, rfl⟩ := List.cons.inj heq
      exact hline rfl _ rfl
    · obtain ⟨rfl, rfl⟩ := List.cons.inj heq
      exact hblock rfl _ rfl

/-- Every text is read in some way. -/
theorem exists_lexes (s : Text) : ∃ lexemes, Lexes s lexemes := by
  obtain ⟨n, hn⟩ : ∃ n, s.length = n := ⟨_, rfl⟩
  induction n using Nat.strong_induction_on generalizing s with
  | _ n ih =>
    cases s with
    | nil => exact ⟨[], .done⟩
    | cons c s =>
      -- The pieces of what is left are there by induction, since every piece has a character.
      by_cases hcode : ∀ comment behind, c :: s = comment ++ behind → ¬IsComment comment behind
      · obtain ⟨lexemes, hlexemes⟩ := ih s.length (by simp [← hn]) s rfl
        exact ⟨_, .code hcode hlexemes⟩
      · simp only [not_forall, not_not] at hcode
        obtain ⟨comment, behind, heq, hcomment⟩ := hcode
        have hlt : behind.length < n := by
          obtain ⟨content, hcontent⟩ := hcomment.opens
          have hpos : 0 < comment.length := by
            rcases hcontent with rfl | rfl <;> simp
          rw [← hn, heq, List.length_append]
          omega
        obtain ⟨lexemes, hlexemes⟩ := ih behind.length hlt behind rfl
        refine ⟨.comment comment :: lexemes, ?_⟩
        rw [heq]
        exact .comment hcomment hlexemes

/-- The first star and slash are at one place. -/
theorem eq_of_append_close {content content' rest rest' : Text}
    (hcontent : ¬['*', '/'] <:+: content) (hcontent' : ¬['*', '/'] <:+: content')
    (h : content ++ '*' :: '/' :: rest = content' ++ '*' :: '/' :: rest') : content = content' := by
  -- the longer of the two would have the end of the other one in it
  have hlonger : ∀ {a b r r' x : Text}, ¬['*', '/'] <:+: b → b = a ++ x →
      '*' :: '/' :: r = x ++ '*' :: '/' :: r' → x = [] := by
    intro a b r r' x hb hx heq
    match x, heq with
    | [], _ => rfl
    | [d], heq =>
      have := (List.cons.inj (List.cons.inj heq).2).1
      exact absurd this (by decide)
    | d :: e :: x, heq =>
      obtain ⟨rfl, htail⟩ := List.cons.inj heq
      obtain ⟨rfl, -⟩ := List.cons.inj htail
      exact absurd ⟨a, x, by simp [hx]⟩ hb
  rcases List.append_eq_append_iff.mp h with ⟨x, hx, heq⟩ | ⟨x, hx, heq⟩
  · rw [hx, hlonger hcontent' hx heq, List.append_nil]
  · rw [hx, hlonger hcontent hx heq, List.append_nil]

/-- Where a comment begins, there is one only. -/
theorem IsComment.unique {comment rest comment' rest' : Text} (h : IsComment comment rest)
    (h' : IsComment comment' rest') (heq : comment ++ rest = comment' ++ rest') :
    comment = comment' := by
  -- The content of a comment of one line is what stands in front of the feed.
  have hline : ∀ {content rest : Text}, '\n' ∉ content →
      (rest = [] ∨ ∃ behind, rest = '\n' :: behind) →
      (content ++ rest).takeWhile (· ≠ '\n') = content := by
    intro content rest hcontent hrest
    have hall : ∀ c ∈ content, decide (c ≠ '\n') = true := fun c hc =>
      decide_eq_true fun hfeed => hcontent (hfeed ▸ hc)
    rw [List.takeWhile_append_of_pos hall]
    rcases hrest with rfl | ⟨behind, rfl⟩ <;> simp
  cases h with
  | @line content _ hcontent hrest =>
    cases h' with
    | @line content' _ hcontent' hrest' =>
      have htails : content ++ rest = content' ++ rest' := (List.cons.inj (List.cons.inj heq).2).2
      rw [← hline hcontent hrest, ← hline hcontent' hrest', htails]
    | block => simp at heq
    | unclosed => simp at heq
  -- Contents have no closing delimiter, so the first one ends both.
  | block hcontent =>
    cases h' with
    | line => simp at heq
    | block hcontent' =>
      have htails := (List.cons.inj (List.cons.inj heq).2).2
      rw [eq_of_append_close hcontent hcontent' (by simpa using htails)]
    | unclosed hcontent' =>
      have htails := (List.cons.inj (List.cons.inj heq).2).2
      exact absurd ⟨_, rest, by simpa using htails⟩ hcontent'
  | unclosed hcontent =>
    cases h' with
    | line => simp at heq
    | block hcontent' =>
      have htails := (List.cons.inj (List.cons.inj heq).2).2
      exact absurd ⟨_, rest', by simpa using htails.symm⟩ hcontent
    | unclosed => simpa using heq

theorem Lexes.unique {s : Text} {lexemes lexemes' : List Lexeme} (h : Lexes s lexemes)
    (h' : Lexes s lexemes') : lexemes = lexemes' := by
  induction h generalizing lexemes' with
  | done =>
    generalize hs : ([] : Text) = s at h'
    cases h' with
    | done => rfl
    | code => cases hs
    | comment hcomment =>
      obtain ⟨content, rfl | rfl⟩ := hcomment.opens <;> cases hs
  | @code c rest lexemes hcode hrest ih =>
    generalize hs : c :: rest = s at h'
    cases h' with
    | done => cases hs
    | code _ hrest' =>
      obtain ⟨rfl, rfl⟩ := List.cons.inj hs
      rw [ih hrest']
    -- Where a comment begins a character is no code.
    | comment hcomment _ => exact absurd hcomment (hcode _ _ hs)
  | @comment comment rest lexemes hcomment hrest ih =>
    generalize hs : comment ++ rest = s at h'
    cases h' with
    | done =>
      obtain ⟨content, rfl | rfl⟩ := hcomment.opens <;> cases hs
    | code hcode' _ => exact absurd hcomment (hcode' _ _ hs.symm)
    | comment hcomment' hrest' =>
      obtain rfl := hcomment.unique hcomment' hs
      obtain rfl := List.append_cancel_left hs
      rw [ih hrest']

/-- **A text is read in one way.** -/
theorem existsUnique_lexes (s : Text) : ∃! lexemes, Lexes s lexemes := by
  obtain ⟨lexemes, hlexemes⟩ := exists_lexes s
  exact ⟨lexemes, hlexemes, fun other hother => hother.unique hlexemes⟩

/-! ### What is masked

The scanner is followed through one comment at a time. Within a comment it leaves its zone at the
end of the content and not before; that is what `hcontent` is for in the first two lemmas. -/

/-- A comment of one line is blanked out, and what follows it is code. -/
theorem maskFrom_line_append {content rest : Text} (hcontent : '\n' ∉ content)
    (hrest : rest = [] ∨ ∃ behind, rest = '\n' :: behind) :
    maskFrom .line (content ++ rest) = content.flatMap blankOut ++ maskFrom .code rest := by
  induction content with
  | nil =>
    rcases hrest with rfl | ⟨behind, rfl⟩
    · simp
    · simp [maskFrom, blankOut]
  | cons c content ih =>
    rw [List.mem_cons, not_or] at hcontent
    rw [List.cons_append, maskFrom, if_neg (Ne.symm hcontent.1), ih hcontent.2, List.flatMap_cons,
      List.append_assoc]

/-- As long as a comment is not closed it is blanked out. -/
theorem maskFrom_block_append {content rest : Text} (hcontent : ¬['*', '/'] <:+: content)
    (hseam : ∀ c, content.getLast? = some c → c = '*' → ∀ behind, rest ≠ '/' :: behind) :
    maskFrom .block (content ++ rest) = content.flatMap blankOut ++ maskFrom .block rest := by
  induction content with
  | nil => rfl
  | cons c content ih =>
    -- A star here is not followed by a slash: not within the content, and not at the seam.
    have hopen : c = '*' → ∀ behind, content ++ rest ≠ '/' :: behind := by
      rintro rfl behind heq
      cases content with
      | nil => exact hseam '*' rfl rfl behind heq
      | cons d content =>
        obtain ⟨rfl, -⟩ := List.cons.inj heq
        exact hcontent ⟨[], content, rfl⟩
    have hrest : ¬['*', '/'] <:+: content := fun h =>
      hcontent (h.trans (List.suffix_cons c content).isInfix)
    have hlast : ∀ d, content.getLast? = some d → d = '*' → ∀ behind, rest ≠ '/' :: behind := by
      intro d hd
      refine hseam d ?_
      cases content with
      | nil => cases hd
      | cons e content => rwa [List.getLast?_cons_cons]
    rw [List.cons_append, maskFrom_block_cons hopen, ih hrest hlast, List.flatMap_cons,
      List.append_assoc]

theorem IsComment.maskFrom_append {comment rest : Text} (h : IsComment comment rest) :
    maskFrom .code (comment ++ rest) = comment.flatMap blankOut ++ maskFrom .code rest := by
  have hslash : blankOut '/' = [' '] := by decide
  have hstar : blankOut '*' = [' '] := by decide
  cases h with
  | line hcontent hrest =>
    simp only [List.cons_append, maskFrom, List.flatMap_cons, hslash,
      maskFrom_line_append hcontent hrest, List.nil_append]
  | block hcontent =>
    simp only [List.cons_append, List.append_assoc, List.nil_append, maskFrom, List.flatMap_cons,
      List.flatMap_append, List.flatMap_nil, hslash, hstar]
    rw [maskFrom_block_append hcontent (by simp)]
    simp [maskFrom]
  | @unclosed content hcontent =>
    simp only [List.append_nil, maskFrom, List.flatMap_cons, hslash, hstar, List.cons_append,
      List.nil_append]
    have hend : maskFrom .block (content ++ []) = content.flatMap blankOut ++ maskFrom .block [] :=
      maskFrom_block_append hcontent (by simp)
    simpa using hend

/-- The masked copy is the pieces of the text, with the comments blanked out. -/
theorem Lexes.mask_eq {s : Text} {lexemes : List Lexeme} (h : Lexes s lexemes) :
    mask s = lexemes.flatMap Lexeme.masked := by
  induction h with
  | done => rfl
  | code hcode _ ih =>
    obtain ⟨hline, hblock⟩ := no_comment_iff.mp hcode
    rw [mask, maskFrom_code_cons hline hblock, ← mask, ih]
    rfl
  | comment hcomment _ ih =>
    rw [mask, hcomment.maskFrom_append, ← mask, ih]
    rfl

/-! ### Bytes

A byte below 128 is a character of its own, and characters beyond are made of bytes from 128 on. So
the bytes 10 and 13 are always line breaks. -/

theorem Utf8.encode_append (s t : Text) : encode (s ++ t) = encode s ++ encode t := by
  simp [encode]

/-- The bytes of a character: one below 128, or as many as it is wide from 128 on. -/
theorem Utf8.encodeChar_cases (c : Char) :
    (c.toNat < 0x80 ∧ encodeChar c = [UInt8.ofNat c.toNat] ∧ width c = 1) ∨
      (encodeChar c).length = width c ∧ ∀ b ∈ encodeChar c, 0x80 ≤ b.toNat := by
  have hmax : c.toNat < 0x110000 := by
    rcases c.valid with h | h
    · exact Nat.lt_trans h (by decide)
    · exact h.2
  by_cases hone : c.toNat < 0x80
  · have hwidth : width c = 1 := if_pos hone
    exact .inl ⟨hone, by simp [encodeChar, hwidth], hwidth⟩
  · refine .inr ?_
    by_cases htwo : c.toNat < 0x800
    · have hwidth : width c = 2 := by rw [width, if_neg hone, if_pos htwo]
      simp only [encodeChar, hwidth]
      refine ⟨rfl, fun b hb => ?_⟩
      simp only [List.map_cons, List.map_nil, List.mem_cons, List.not_mem_nil, or_false] at hb
      rcases hb with rfl | rfl <;> rw [UInt8.toNat_ofNat'] <;> omega
    · by_cases hthree : c.toNat < 0x10000
      · have hwidth : width c = 3 := by rw [width, if_neg hone, if_neg htwo, if_pos hthree]
        simp only [encodeChar, hwidth]
        refine ⟨rfl, fun b hb => ?_⟩
        simp only [List.map_cons, List.map_nil, List.mem_cons, List.not_mem_nil, or_false] at hb
        rcases hb with rfl | rfl | rfl <;> rw [UInt8.toNat_ofNat'] <;> omega
      · have hwidth : width c = 4 := by rw [width, if_neg hone, if_neg htwo, if_neg hthree]
        simp only [encodeChar, hwidth]
        refine ⟨rfl, fun b hb => ?_⟩
        simp only [List.map_cons, List.map_nil, List.mem_cons, List.not_mem_nil, or_false] at hb
        rcases hb with rfl | rfl | rfl | rfl <;> rw [UInt8.toNat_ofNat'] <;> omega

theorem Utf8.length_encode (s : Text) : (encode s).length = s.size := by
  induction s with
  | nil => rfl
  | cons c s ih =>
    have hchar : (encodeChar c).length = width c := by
      rcases encodeChar_cases c with ⟨-, hbytes, hwidth⟩ | ⟨hlength, -⟩
      · rw [hbytes, hwidth]
        rfl
      · exact hlength
    have hcons : encode (c :: s) = encodeChar c ++ encode s := rfl
    rw [hcons, List.length_append, hchar, ih, Text.size_cons]

theorem encode_spaces (n : Nat) : Utf8.encode (List.replicate n ' ') = List.replicate n 32 := by
  induction n with
  | zero => rfl
  | succ n ih =>
    rw [List.replicate_succ, List.replicate_succ, ← ih]
    rfl

/-- A character is blanked out byte by byte. -/
theorem encode_blankOut (c : Char) :
    Utf8.encode (blankOut c) = (Utf8.encodeChar c).map fun b => erased (true, b) := by
  unfold blankOut
  split
  next hbreak => rcases hbreak with rfl | rfl <;> decide
  next hbreak =>
    rw [not_or] at hbreak
    rw [encode_spaces, eq_comm, List.eq_replicate_iff, List.length_map, List.forall_mem_map]
    rcases Utf8.encodeChar_cases c with ⟨hone, hbytes, hwidth⟩ | ⟨hlength, hhigh⟩
    · -- the byte of a line break is the character itself
      have hbyte : (UInt8.ofNat c.toNat).toNat = c.toNat := by
        rw [UInt8.toNat_ofNat']
        omega
      have hne : ∀ d : Char, c ≠ d → d.toNat < 0x80 →
        UInt8.ofNat c.toNat ≠ UInt8.ofNat d.toNat := by
        intro d hd hlow heq
        have hnat := congrArg UInt8.toNat heq
        rw [hbyte, UInt8.toNat_ofNat', Nat.mod_eq_of_lt (by omega)] at hnat
        exact hd (Char.toNat_inj.mp hnat)
      refine ⟨by rw [hbytes, hwidth]; rfl, fun b hb => ?_⟩
      rw [hbytes, List.mem_singleton] at hb
      subst hb
      exact if_pos ⟨rfl, hne '\n' hbreak.1 (by decide), hne '\r' hbreak.2 (by decide)⟩
    · refine ⟨hlength, fun b hb => if_pos ⟨rfl, ?_, ?_⟩⟩ <;>
        · rintro rfl
          exact absurd (hhigh _ hb) (by decide)

theorem encode_flatMap_blankOut (s : Text) :
    Utf8.encode (s.flatMap blankOut) = (Utf8.encode s).map fun b => erased (true, b) := by
  induction s with
  | nil => rfl
  | cons c s ih =>
    have hcons : Utf8.encode (c :: s) = Utf8.encodeChar c ++ Utf8.encode s := rfl
    rw [List.flatMap_cons, Utf8.encode_append, encode_blankOut, ih, hcons, List.map_append]

/-- **The bytes of a text and of its masked copy**, as the pieces have them. -/
theorem Lexes.encode_eq {s : Text} {lexemes : List Lexeme} (h : Lexes s lexemes) :
    Utf8.encode s = (lexemes.flatMap Lexeme.bytes).map Prod.snd ∧
      Utf8.encode (mask s) = (lexemes.flatMap Lexeme.bytes).map erased := by
  have hcode : ∀ c, Utf8.encode [c] = Utf8.encodeChar c := fun c => List.append_nil _
  rw [h.mask_eq]
  induction h with
  | done => exact ⟨rfl, rfl⟩
  | @code c rest lexemes _ _ ih =>
    obtain ⟨ihtext, ihmasked⟩ := ih
    rw [List.flatMap_cons, List.flatMap_cons, List.map_append, List.map_append, ← ihtext,
      Utf8.encode_append, ihmasked, Lexeme.masked, hcode, Lexeme.bytes, List.map_map, List.map_map]
    have hkept : erased ∘ (fun b : UInt8 => (false, b)) = id := by
      funext b
      simp [erased]
    have hsnd : Prod.snd ∘ (fun b : UInt8 => (false, b)) = id := rfl
    rw [hkept, hsnd, List.map_id]
    exact ⟨rfl, rfl⟩
  | @comment comment rest lexemes _ _ ih =>
    obtain ⟨ihtext, ihmasked⟩ := ih
    have hsnd : Prod.snd ∘ (fun b : UInt8 => (true, b)) = id := rfl
    rw [List.flatMap_cons, List.flatMap_cons, List.map_append, List.map_append, ← ihtext,
      Utf8.encode_append, Utf8.encode_append, ihmasked, Lexeme.masked, encode_flatMap_blankOut,
      Lexeme.bytes, List.map_map, List.map_map, hsnd, List.map_id]
    exact ⟨rfl, rfl⟩

/-! ### Masking twice -/

theorem ne_slash_of_mem_blankOut {c d : Char} (h : d ∈ blankOut c) : d ≠ '/' := by
  unfold blankOut at h
  split at h
  next hbreak =>
    obtain rfl := List.mem_singleton.mp h
    rcases hbreak with rfl | rfl <;> decide
  next =>
    rw [List.eq_of_mem_replicate h]
    decide

/-- A copy that begins with a character that is not blank is a copy of a text that does. -/
theorem head_of_maskFrom_code {s t : Text} {d : Char} (hd : d ≠ ' ')
    (h : maskFrom .code s = d :: t) : ∃ rest, s = d :: rest := by
  cases s with
  | nil => simp at h
  | cons c s =>
    by_cases hline : c = '/' ∧ ∃ rest, s = '/' :: rest
    · obtain ⟨rfl, rest, rfl⟩ := hline
      rw [maskFrom] at h
      exact absurd (List.cons.inj h).1.symm hd
    by_cases hblock : c = '/' ∧ ∃ rest, s = '*' :: rest
    · obtain ⟨rfl, rest, rfl⟩ := hblock
      rw [maskFrom] at h
      exact absurd (List.cons.inj h).1.symm hd
    rw [maskFrom_code_cons (fun hc rest hs => hline ⟨hc, rest, hs⟩)
      fun hc rest hs => hblock ⟨hc, rest, hs⟩] at h
    exact ⟨s, by rw [(List.cons.inj h).1]⟩

/-- **A masked copy has no comment**, from within whichever zone it was made. -/
theorem mask_maskFrom (zone : Zone) (s : Text) : mask (maskFrom zone s) = maskFrom zone s := by
  have hspaces : ∀ t, maskFrom .code (' ' :: ' ' :: t) = ' ' :: ' ' :: maskFrom .code t :=
    maskFrom_code_append (w := [' ', ' ']) (by simp)
  unfold mask
  fun_induction maskFrom zone s with
  | case1 => rfl
  | case2 rest ih => rw [hspaces, ih]
  | case3 rest ih => rw [hspaces, ih]
  | case4 c rest hline hblock ih =>
    -- what follows a slash that is kept is neither a slash nor a star in the text
    rw [maskFrom_code_cons ?_ ?_, ih]
    · rintro rfl behind hbehind
      obtain ⟨r, hr⟩ := head_of_maskFrom_code (by decide) hbehind
      exact hline r rfl hr
    · rintro rfl behind hbehind
      obtain ⟨r, hr⟩ := head_of_maskFrom_code (by decide) hbehind
      exact hblock r rfl hr
  | case5 c rest ih => rw [maskFrom_code_append fun _ hd => ne_slash_of_mem_blankOut hd, ih]
  | case6 rest ih => rw [hspaces, ih]
  | case7 c rest _ ih => rw [maskFrom_code_append fun _ hd => ne_slash_of_mem_blankOut hd, ih]

theorem mask_mask (s : Text) : mask (mask s) = mask s :=
  mask_maskFrom .code s

/-- A star that opens a comment does not close it, and nothing opens within a comment. -/
example : mask "a/*/ µ */b//*\r\nc/".toList = "a         b   \r\nc/".toList := by
  decide +kernel

/-! ### Lines -/

theorem forall₂_size_maskLines (zone : Zone) (ls : List Text) :
    List.Forall₂ (fun line masked => Text.size masked = Text.size line) ls (maskLines zone ls) := by
  induction ls generalizing zone with
  | nil => exact .nil
  | cons l ls ih => exact .cons (size_maskFrom zone l) (ih _)

/-- **Every line has a masked copy of the same size.** -/
theorem forall₂_size_lines_mask (s : Text) :
    List.Forall₂ (fun line masked => Text.size masked = Text.size line) s.lines
      (Text.lines (mask s)) := by
  rw [lines_mask]
  exact forall₂_size_maskLines .code s.lines

end ShaderBundle
