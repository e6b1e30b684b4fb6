import ShaderBundle.Proofs.Bundle.Blocks

/-!
# Comments of a derived source

Marks, names and pragmas are found in a copy of the whole file whose comments are blanked out. A
stage's source leaves out the line that opens the stage and everything between it and the header, so
a comment that begins or ends on such a line is cut. The source has the comments of the file when
its body, read from the zone that the header ends in, is masked as it is when read from the zone
that the body begins in. Then no mark is left in code, and `main` is defined there.

## Where the seam is

A source consists of the header and the body, with one line feed between them. Three zones are
involved. The body begins in the file in some zone; the header ends in some zone, which is where the
body begins in the source; and if the two are the same, nothing has changed. That is sufficient and
not necessary. A body that is read from within code and from within a comment may look the same
masked, for instance if nothing stands in it before a comment that it begins itself, since one
closing delimiter ends either. The exact condition is therefore an equation between two copies of
the body (`Block.Seamless`), and equal zones are one way to have it.

## What has to be shown of the edit

The body in the source is not the body of the file: the mark is blanked out and a name replaced. If
the comments are to be compared, masking has to commute with the edit (`Entry.maskFrom_renamed`). It
does because both places are in code. A mark and a name that are left standing by masking are not in
a comment, and since no character of theirs can be part of a delimiter, whatever stands around them
is masked as if they were not there. `Plain` is this property of a text.

## Marks

That no mark is left is more than that the one mark is gone. Taking characters away could bring two
halves of another one together, and so could joining lines. `MarkAt.of_append_cons` and
`not_markAt_unlines` exclude both.

## Main definitions

* `Block.KeepsComments`: the masked source consists of masked lines of the file, edited at one site.
* `Block.Seamless`: the body is masked alike on both sides of the cut.

## Main results

* `Entry.maskFrom_renamed`: masking and editing commute.
* `Bundle.keepsComments_iff_seamless`: when a source has the comments of its file, and what follows.
* `Bundle.not_keepsComments_cutComment`: a file in which a comment is cut.
-/

namespace ShaderBundle

/-! ### Masking an edited text

A character that masking leaves standing, although it would have been blanked out in a comment,
tells the zone it stands in. From one such character the zones at both ends of a mark or a name
follow, and with them how the rest is masked. -/

theorem Text.append_inj_of_size {a b c d : Text} (h : a ++ b = c ++ d) (hsize : a.size = c.size) :
    a = c ∧ b = d := by
  have hcut := congrArg (Text.cut a.size) h
  rw [Text.cut_size_append, hsize, Text.cut_size_append, Prod.mk.injEq] at hcut
  exact hcut

/-- A text in which no comment begins or ends, whatever stands around it. -/
structure Plain (w : Text) : Prop where
  /-- There is a text. -/
  ne_nil : w ≠ []
  /-- No character is part of a comment's delimiter. -/
  clean : ∀ c ∈ w, c ≠ '/' ∧ c ≠ '*'

theorem Plain.loose {w : Text} (h : Plain w) (s t : Text) : Loose s (w ++ t) := by
  obtain ⟨c, w, rfl⟩ := List.exists_cons_of_ne_nil h.ne_nil
  refine Or.inr fun d hd => h.clean d ?_
  rw [List.cons_append, List.head?_cons, Option.some.injEq] at hd
  exact hd ▸ List.mem_cons_self

/-- A plain text in code stays, and behind it the scanner still is in code. -/
theorem maskFrom_append_plain {w : Text} (hw : Plain w) {zone : Zone} {s : Text}
    (hzone : zoneAfter zone s = .code) (t : Text) :
    maskFrom zone (s ++ (w ++ t)) = maskFrom zone s ++ (w ++ maskFrom .code t) := by
  rw [maskFrom_append (hw.loose s t), hzone,
    maskFrom_code_append fun c hc => (hw.clean c hc).1]

/-- A character that is left standing, and that blanking out would have changed, is in code. -/
theorem eq_code_of_maskFrom_cons {zone : Zone} {c : Char} {s t : Text} (hspace : c ≠ ' ')
    (hfeed : c ≠ '\n') (hreturn : c ≠ '\r') (h : maskFrom zone (c :: s) = c :: t) :
    zone = .code := by
  -- blanked out, the character would begin with a space
  have hblank : ∀ u, blankOut c ++ u ≠ c :: t := by
    intro u hu
    rw [blankOut, if_neg (by simp [hfeed, hreturn])] at hu
    obtain ⟨n, hn⟩ := Nat.exists_eq_succ_of_ne_zero (Nat.ne_of_gt (width_pos c))
    rw [hn, List.replicate_succ, List.cons_append] at hu
    exact hspace (List.cons.inj hu).1.symm
  cases zone with
  | code => rfl
  | line =>
    rw [maskFrom] at h
    exact absurd h (hblank _)
  | block =>
    by_cases hclose : c = '*' ∧ ∃ rest, s = '/' :: rest
    · obtain ⟨rfl, rest, rfl⟩ := hclose
      rw [maskFrom] at h
      exact absurd (List.cons.inj h).1 (by decide)
    · rw [maskFrom_block_cons fun hc rest hs => hclose ⟨hc, rest, hs⟩] at h
      exact absurd h (hblank _)

/-- A plain text that is left standing is in code, and what stands around it is masked by itself. -/
theorem maskFrom_eq_append_plain {w : Text} (hw : Plain w)
    (hkeep : ∀ c ∈ w, c ≠ ' ' ∧ c ≠ '\n' ∧ c ≠ '\r') {zone : Zone} {s t a b : Text}
    (hsize : a.size = s.size) (h : maskFrom zone (s ++ (w ++ t)) = a ++ (w ++ b)) :
    maskFrom zone s = a ∧ zoneAfter zone s = .code ∧ maskFrom .code t = b := by
  rw [maskFrom_append (hw.loose s t)] at h
  obtain ⟨hfront, hback⟩ := Text.append_inj_of_size h
    ((masked_maskFrom zone s).size_eq.trans hsize.symm)
  have hzone : zoneAfter zone s = .code := by
    obtain ⟨c, w, rfl⟩ := List.exists_cons_of_ne_nil hw.ne_nil
    obtain ⟨hspace, hfeed, hreturn⟩ := hkeep c List.mem_cons_self
    exact eq_code_of_maskFrom_cons hspace hfeed hreturn hback
  rw [hzone, maskFrom_code_append fun c hc => (hw.clean c hc).1,
    List.append_cancel_left_eq] at hback
  exact ⟨hfront, hzone, hback⟩

namespace Entry

theorem isWordChar_ne {c d : Char} (hc : isWordChar c = true) (hd : isWordChar d = false) :
    c ≠ d := by
  rintro rfl
  exact absurd (hc.symm.trans hd) (by decide)

theorem IsWord.isWordChar {w : Text} (h : IsWord w) : ∀ c ∈ w, isWordChar c = true := by
  obtain ⟨c, cs, rfl, hc, hcs⟩ := h
  intro d hd
  rcases List.mem_cons.mp hd with rfl | hd
  · exact isWordChar_of_isAlpha hc
  · exact hcs d hd

theorem IsWord.plain {w : Text} (h : IsWord w) : Plain w where
  ne_nil := h.ne_nil
  clean c hc :=
    ⟨isWordChar_ne (h.isWordChar c hc) (by decide), isWordChar_ne (h.isWordChar c hc) (by decide)⟩

theorem IsWord.keep {w : Text} (h : IsWord w) : ∀ c ∈ w, c ≠ ' ' ∧ c ≠ '\n' ∧ c ≠ '\r' :=
  fun c hc => ⟨isWordChar_ne (h.isWordChar c hc) (by decide),
    isWordChar_ne (h.isWordChar c hc) (by decide), isWordChar_ne (h.isWordChar c hc) (by decide)⟩

theorem isWord_mainName : IsWord mainName :=
  ⟨'m', ['a', 'i', 'n'], rfl, by decide, Text.forall_mem (by decide)⟩

theorem plain_sign : Plain sign :=
  ⟨by decide, Text.forall_mem (by decide)⟩

theorem plain_spaces : Plain (List.replicate sign.length ' ') :=
  ⟨by decide, Text.forall_mem (by decide)⟩

/-- **Masking and editing commute**, since the edit is in code. -/
theorem maskFrom_renamed {zone : Zone} {site copy : Site} (hshows : site.Shows copy)
    (hname : IsWord site.name) (h : maskFrom zone site.marked = copy.marked) :
    maskFrom zone site.renamed = copy.renamed := by
  simp only [Site.marked, hshows.name, List.append_assoc] at h
  obtain ⟨hfront, hzone, hbehind⟩ :=
    maskFrom_eq_append_plain plain_sign (Text.forall_mem (by decide)) hshows.front.size_eq h
  obtain ⟨hlead, hzone', hback⟩ :=
    maskFrom_eq_append_plain hname.plain hname.keep hshows.lead.size_eq hbehind
  simp only [Site.renamed, List.append_assoc]
  rw [maskFrom_append_plain plain_spaces hzone, maskFrom_append_plain isWord_mainName.plain hzone',
    hfront, hlead, hback]

/-! ### Marks left in an edited text

Three texts have to be looked at for marks: what stands before the edited mark, what stands behind
it, and the seams where spaces and the name `main` have been put. A sign has no space in it, and a
name none of the characters that could begin one. -/

/-- A mark begins where its sign can. -/
theorem MarkAt.of_append {p t front : Text} (hp : '@' ∉ p) (h : MarkAt (p ++ t) front) :
    ∃ behind, front = p ++ behind ∧ MarkAt t behind := by
  obtain ⟨rest, heq, hrest⟩ := h
  rw [List.append_assoc] at heq
  rcases List.append_eq_append_iff.mp heq with ⟨behind, hfront, ht⟩ | ⟨tail, hptail, htail⟩
  · exact ⟨behind, hfront, rest, by rw [ht, List.append_assoc], hrest⟩
  · cases tail with
    | nil =>
      refine ⟨[], by rw [hptail, List.append_nil, List.append_nil], rest, ?_, hrest⟩
      exact htail.symm
    | cons c tail =>
      have hc : c = '@' := (List.cons.inj htail).1.symm
      exact absurd (by rw [hptail, hc]; simp) hp

/-- A mark does not straddle a character that it does not have. -/
theorem MarkAt.of_append_cons {s t front : Text} {c : Char} (hsign : c ∉ sign)
    (h : MarkAt (s ++ c :: t) front) :
    MarkAt s front ∨ ∃ behind, front = s ++ c :: behind ∧ MarkAt t behind := by
  obtain ⟨rest, heq, hrest⟩ := h
  -- the sign lies before the character, or it does not
  rcases List.append_eq_append_iff.mp heq with ⟨tail, hfront, htail⟩ | ⟨tail, hs, htail⟩
  · cases tail with
    -- The sign ends where the character stands, so nothing continues it in `s`.
    | nil =>
      refine Or.inl ⟨[], by rw [hfront, List.append_nil, List.append_nil], ?_⟩
      rintro ⟨d, cs, hnil, -⟩
      exact List.cons_ne_nil d cs hnil.symm
    -- The sign ends behind it. It cannot begin before it, having no such character.
    | cons d tail =>
      obtain ⟨rfl, ht⟩ := List.cons.inj htail
      rcases List.append_eq_append_iff.mp hfront with ⟨x, -, hx⟩ | ⟨x, hx, htail'⟩
      · exact absurd (by rw [hx]; simp) hsign
      · cases x with
        | nil =>
          have hc : c = '@' := (List.cons.inj htail').1
          exact absurd (hc ▸ List.mem_cons_self) hsign
        | cons e x =>
          obtain ⟨rfl, rfl⟩ := List.cons.inj htail'
          exact Or.inr ⟨x, hx, rest, ht, hrest⟩
  · refine Or.inl ⟨tail, hs, ?_⟩
    rintro ⟨d, cs, rfl, hd⟩
    exact hrest ⟨d, cs ++ c :: t, htail, hd⟩

/-- Joined lines have no mark that none of them has. -/
theorem not_markAt_unlines {ls : List Text} (h : ∀ l ∈ ls, marks l = []) :
    ∀ front, ¬MarkAt (Text.unlines ls) front := by
  induction ls with
  | nil =>
    rw [Text.unlines_nil]
    exact marks_eq_nil_iff.mp rfl
  | cons l ls ih =>
    have hl : ∀ front, ¬MarkAt l front := marks_eq_nil_iff.mp (h l List.mem_cons_self)
    cases ls with
    | nil => rwa [Text.unlines_singleton]
    | cons m ls =>
      intro front hmark
      rw [Text.unlines_cons_cons] at hmark
      rcases hmark.of_append_cons (by decide) with hmark | ⟨behind, -, hmark⟩
      · exact hl front hmark
      · exact ih (fun l hl => h l (List.mem_cons_of_mem _ hl)) behind hmark

theorem IsGap.at_notMem {gap : Text} (h : IsGap gap) : '@' ∉ gap :=
  fun hmem => absurd (h '@' hmem) (by decide)

theorem IsWord.at_notMem {w : Text} (h : IsWord w) : '@' ∉ w :=
  fun hmem => absurd (h.isWordChar '@' hmem) (by decide)

theorem Declares.at_notMem {lead name back : Text} (h : Declares lead name back) : '@' ∉ lead := by
  obtain ⟨gap₁, type, gap₂, gap₃, inner, params, after, gap₄, body, rfl, htype, hname, -⟩ := h
  rw [List.mem_append, List.mem_append, not_or, not_or]
  exact ⟨⟨htype.gap.at_notMem, htype.word.at_notMem⟩, hname.gap.at_notMem⟩

/-- The edit takes away the only mark and brings in none. -/
theorem Site.IsEntry.not_markAt_renamed {copy : Site} (h : copy.IsEntry) :
    ∀ front, ¬MarkAt copy.renamed front := by
  intro front hmark
  have hspaces : List.replicate sign.length ' ' = ' ' :: List.replicate 5 ' ' := rfl
  rw [Site.renamed, hspaces, List.append_assoc, List.append_assoc, List.append_assoc,
    List.cons_append] at hmark
  rcases hmark.of_append_cons (by decide) with hmark | ⟨behind, -, hmark⟩
  · -- a mark in front of the only one
    obtain ⟨rest, hfront, hrest⟩ := hmark
    have hmarked : MarkAt copy.marked front := by
      refine ⟨rest ++ (sign ++ copy.lead ++ copy.name ++ copy.back), ?_, ?_⟩
      · simp [Site.marked, hfront]
      · rintro ⟨c, cs, hcs, hc⟩
        cases rest with
        | nil =>
          have : '@' = c := (List.cons.inj hcs).1
          exact absurd (this ▸ hc) (by decide)
        | cons d rest => exact hrest ⟨d, rest, rfl, (List.cons.inj hcs).1 ▸ hc⟩
    have hlength := congrArg List.length ((h.only front).mp hmarked)
    rw [hfront, List.length_append, List.length_append] at hlength
    have : sign.length = 6 := rfl
    omega
  · -- a mark behind it
    have hlead : '@' ∉ List.replicate 5 ' ' ++ (copy.lead ++ mainName) := by
      rw [List.mem_append, List.mem_append, not_or, not_or]
      exact ⟨by decide, h.declares.at_notMem, by decide⟩
    have hassoc : List.replicate 5 ' ' ++ (copy.lead ++ (mainName ++ copy.back)) =
        List.replicate 5 ' ' ++ (copy.lead ++ mainName) ++ copy.back := by
      simp only [List.append_assoc]
    rw [hassoc] at hmark
    obtain ⟨behind', -, rest, hback, hrest⟩ := hmark.of_append hlead
    have hmarked : MarkAt copy.marked
        (copy.front ++ sign ++ copy.lead ++ copy.name ++ behind') := by
      refine ⟨rest, ?_, hrest⟩
      simp only [Site.marked, hback, List.append_assoc]
    have hlength := congrArg List.length ((h.only _).mp hmarked)
    simp only [List.length_append] at hlength
    have : sign.length = 6 := rfl
    omega

/-- A definition of one name is a definition of any other. -/
theorem Declares.rename {lead name back w : Text} (h : Declares lead name back) (hw : IsWord w) :
    Declares lead w back := by
  obtain ⟨gap₁, type, gap₂, gap₃, inner, params, after, gap₄, body, hlead, htype, hname, hopen,
    hparams, hinner, hbody⟩ := h
  refine ⟨gap₁, type, gap₂, gap₃, inner, params, after, gap₄, body, hlead, ?_, ?_, hopen, hparams,
    hinner, hbody⟩
  · refine ⟨by rw [hlead]; simp only [List.append_assoc], htype.gap, htype.word, ?_⟩
    -- the type ends where it did: at a blank, or at the first letter of a name, which would have
    -- continued it
    rintro ⟨c, rest, hcons, hc⟩
    cases gap₂ with
    | nil =>
      obtain ⟨d, ds, hds⟩ := List.exists_cons_of_ne_nil hname.word.ne_nil
      exact htype.ends ⟨d, ds ++ back, by rw [hds]; rfl,
        hname.word.isWordChar d (hds ▸ List.mem_cons_self)⟩
    | cons d gap₂ =>
      have hd : d = c := (List.cons.inj hcons).1
      exact htype.ends ⟨d, gap₂ ++ name ++ back, rfl, hd ▸ hc⟩
  · exact ⟨rfl, hname.gap, hw, hname.ends⟩

/-- A masked body has one site of an entry function. -/
theorem Site.IsEntry.unique {copy copy' : Site} (h : copy.IsEntry) (h' : copy'.IsEntry)
    (heq : copy.marked = copy'.marked) : copy = copy' := by
  -- the only mark fixes the front, and the scan behind it fixes the name
  have hmark : MarkAt copy'.marked copy'.front := (h'.only copy'.front).mpr rfl
  have hfront : copy'.front = copy.front := (h.only copy'.front).mp (heq ▸ hmark)
  have hbehind : copy.lead ++ copy.name ++ copy.back = copy'.lead ++ copy'.name ++ copy'.back := by
    simp only [Site.marked, hfront, List.append_assoc, List.append_cancel_left_eq] at heq
    simp only [List.append_assoc, heq]
  have hscan := scan_of_declares h.declares
  rw [hbehind, scan_of_declares h'.declares, Except.ok.injEq, Name.mk.injEq] at hscan
  rw [List.append_assoc, List.append_assoc] at hbehind
  obtain ⟨hlead, hrest⟩ := Text.append_inj_of_size hbehind hscan.1.symm
  rw [hscan.2, List.append_cancel_left_eq] at hrest
  cases copy
  cases copy'
  simp only [Site.mk.injEq]
  exact ⟨hfront.symm, hlead, hscan.2.symm, hrest⟩

end Entry

/-! ### Sources that keep the comments of their file

Both definitions are about a block and the lines of its file, and not about the site of its edit,
which a block does not remember. The site is found again: a masked body has at most one
(`Site.IsEntry.unique`). -/

namespace Block

/-- What stands in the source behind the header. -/
def bodySource (block : Block) : Text :=
  Text.unlines (block.source.pieces.drop block.headerLines)

/-- The source's comments are those of the file: its masked lines are the masked lines of the file's
header and of the body, the latter edited at the site of the entry function. -/
def KeepsComments (masked : List Text) (block : Block) : Prop :=
  ∃ copy : Entry.Site, copy.IsEntry ∧
    bodyText masked (block.body.start - 2) block.body.stop = copy.marked ∧
    Text.pieces (mask block.source) = masked.take block.headerLines ++ copy.renamed.pieces

/-- Behind the header the body is masked as it is in its place in the file. -/
def Seamless (lines : List Text) (block : Block) : Prop :=
  maskFrom (zoneAt lines block.headerLines) block.bodySource =
    maskFrom (zoneAt lines (block.body.start - 1)) block.bodySource

/-- A source that keeps the comments has no mark in code if the header has none. -/
theorem KeepsComments.not_markAt {masked : List Text} {block : Block}
    (h : block.KeepsComments masked)
    (hheader : ∀ line ∈ masked.take block.headerLines, Entry.marks line = []) :
    ∀ front, ¬Entry.MarkAt (mask block.source) front := by
  obtain ⟨copy, hentry, -, hpieces⟩ := h
  rw [← Text.unlines_pieces (mask block.source), hpieces]
  by_cases hnil : masked.take block.headerLines = []
  · rw [hnil, List.nil_append, Text.unlines_pieces]
    exact hentry.not_markAt_renamed
  · intro front hmark
    rw [Text.unlines_append hnil (Text.pieces_ne_nil _), Text.unlines_pieces] at hmark
    rcases hmark.of_append_cons (by decide) with hmark | ⟨behind, -, hmark⟩
    · exact Entry.not_markAt_unlines hheader front hmark
    · exact hentry.not_markAt_renamed behind hmark

/-- A source that keeps the comments defines `main` in code. -/
theorem KeepsComments.declares_main {masked : List Text} {block : Block}
    (h : block.KeepsComments masked) :
    ∃ front lead back, mask block.source = front ++ lead ++ Entry.mainName ++ back ∧
      Entry.Declares lead Entry.mainName back := by
  obtain ⟨copy, hentry, -, hpieces⟩ := h
  have hdeclares := hentry.declares.rename Entry.isWord_mainName
  obtain ⟨before, hbefore⟩ : ∃ before, mask block.source = before ++ copy.renamed := by
    rw [← Text.unlines_pieces (mask block.source), hpieces]
    by_cases hnil : masked.take block.headerLines = []
    · exact ⟨[], by rw [hnil, List.nil_append, Text.unlines_pieces, List.nil_append]⟩
    · refine ⟨Text.unlines (masked.take block.headerLines) ++ ['\n'], ?_⟩
      rw [Text.unlines_append hnil (Text.pieces_ne_nil _), Text.unlines_pieces, List.append_assoc]
      rfl
  refine ⟨before ++ copy.front ++ List.replicate Entry.sign.length ' ', copy.lead, copy.back, ?_,
    hdeclares⟩
  rw [hbefore, Entry.Site.renamed]
  simp only [List.append_assoc]

end Block

namespace Bundle

theorem zoneAfter_unlines {zone : Zone} {ls : List Text} (h : ls ≠ []) :
    zoneAfter zone (Text.unlines ls ++ ['\n']) = zoneAfterLines zone ls := by
  induction ls generalizing zone with
  | nil => exact absurd rfl h
  | cons l ls ih =>
    cases ls with
    | nil => rw [Text.unlines_singleton]; rfl
    | cons m ls =>
      have hassoc : l ++ '\n' :: (Text.unlines (m :: ls) ++ ['\n']) =
          (l ++ ['\n']) ++ (Text.unlines (m :: ls) ++ ['\n']) := by simp
      rw [Text.unlines_cons_cons, List.append_assoc, List.cons_append, hassoc, zoneAfter_append,
        ih (List.cons_ne_nil m ls)]
      · rfl
      · refine Or.inl fun c hc => ?_
        rw [List.getLast?_concat, Option.some.injEq] at hc
        exact hc ▸ by decide

variable {lines : List Text} {n start stop : Nat} {site copy : Entry.Site} {block : Block}

/-- Behind the header the edited body is masked from within the zone that the header ends in. -/
theorem MadeFrom.mask_source
    (h : MadeFrom lines (maskLines .code lines) n start stop site copy block) (hn : 0 < n) :
    mask block.source =
      Text.unlines ((maskLines .code lines).take n) ++
        '\n' :: maskFrom (zoneAt lines n) site.renamed := by
  have hne : lines.take n ≠ [] := h.take_ne_nil hn
  rw [mask, h.source, maskFrom_append_feed, maskFrom_unlines, zoneAfter_unlines hne, take_maskLines,
    zoneAt]

/-- **A source keeps the comments of its file just when nothing is cut.** -/
theorem MadeFrom.keepsComments_iff
    (h : MadeFrom lines (maskLines .code lines) n start stop site copy block) (hn : 0 < n)
    (hfeed : ∀ l ∈ lines, '\n' ∉ l) :
    block.KeepsComments (maskLines .code lines) ↔ block.Seamless lines := by
  -- the numbers of the block, as indices of lines
  have hstart : block.body.start - 2 = start ∧ block.body.start - 1 = start + 1 := by
    rw [h.body, LineRange.start_spanning]
    omega
  have hstop : block.body.stop = stop := by rw [h.body, LineRange.stop_spanning h.lt]
  -- what the block has of its text
  have hbody : block.bodySource = site.renamed := by
    rw [Block.bodySource, h.pieces_source hn hfeed, h.headerLines, List.drop_left' h.length_take,
      Text.unlines_pieces]
  have hcopy : maskFrom (zoneAt lines (start + 1)) site.renamed = copy.renamed := by
    refine Entry.maskFrom_renamed h.shows (h.shows.name ▸ h.isEntry.declares.isWord) ?_
    rw [← h.site_eq, ← bodyText_maskLines lines h.blockAt.lt, h.copy_eq]
  have hheader : ((maskLines .code lines).take n).length = n := by
    rw [take_maskLines, length_maskLines, h.length_take]
  -- the masked source, cut into lines at the seam between header and body
  have hpieces : Text.pieces (mask block.source) = (maskLines .code lines).take n ++
      Text.pieces (maskFrom (zoneAt lines n) site.renamed) := by
    have hne : (maskLines .code lines).take n ≠ [] := by
      rw [← List.length_pos_iff, hheader]
      exact hn
    rw [h.mask_source hn, Text.pieces_append_feed, Text.pieces_unlines hne fun l hl =>
      feed_notMem_of_mem_maskLines hfeed l (List.mem_of_mem_take hl)]
  rw [Block.Seamless, hbody, h.headerLines, hstart.2, hcopy, Block.KeepsComments, hstart.1, hstop,
    h.headerLines]
  constructor
  · rintro ⟨copy', hentry, hmarked, hkeeps⟩
    obtain rfl := h.isEntry.unique hentry (h.copy_eq.symm.trans hmarked)
    rw [hpieces, List.append_cancel_left_eq] at hkeeps
    rw [← Text.unlines_pieces (maskFrom _ _), hkeeps, Text.unlines_pieces]
  · intro hseamless
    exact ⟨copy, h.isEntry, h.copy_eq, by rw [hpieces, hseamless]⟩

/-- **A stage's source has the comments of its file if and only if its body is masked behind the
header as it is in the file**, as it is when both begin in the same zone. Then it has no mark in
code, and defines `main` there. -/
theorem keepsComments_iff_seamless {options : SplitOptions} {name text : Text} {bundle : Bundle}
    (h : split options name text = .ok bundle) {block : Block} (hblock : block ∈ bundle.blocks) :
    (block.KeepsComments (Text.lines (mask text)) ↔ block.Seamless text.lines) ∧
      (zoneAt text.lines block.headerLines = zoneAt text.lines (block.body.start - 1) →
        block.Seamless text.lines) ∧
      (block.Seamless text.lines →
        (∀ front, ¬Entry.MarkAt (mask block.source) front) ∧
          ∃ front lead back, mask block.source = front ++ lead ++ Entry.mainName ++ back ∧
            Entry.Declares lead Entry.mainName back) := by
  rw [lines_mask]
  obtain ⟨outline, first, rest, rfl, hmarkers, -, hproblem, -, hassembles⟩ := split_eq_ok_iff.mp h
  have hknows := Outline.knows_ofLines options (maskLines .code text.lines)
  obtain ⟨start, stop, site, copy, hmade⟩ :=
    hassembles.exists_madeFrom hknows hproblem hmarkers hblock
  have hiff := hmade.keepsComments_iff hassembles.pos fun l hl => Text.feed_notMem_of_mem_lines hl
  refine ⟨hiff, fun hzone => ?_, fun hseamless => ?_⟩
  · rw [Block.Seamless, hzone]
  · have hkeeps := hiff.mpr hseamless
    refine ⟨hkeeps.not_markAt ?_, hkeeps.declares_main⟩
    rw [hmade.headerLines]
    exact hassembles.unmarked

theorem keepsComments_shortFile :
    split {} [] shortFile = .ok shortBundle ∧
      ∀ block ∈ shortBundle.blocks, block.KeepsComments (Text.lines (mask shortFile)) := by
  refine ⟨split_shortFile, fun block hblock => ?_⟩
  obtain ⟨hiff, hzones, -⟩ := keepsComments_iff_seamless split_shortFile hblock
  have hzone : ∀ block ∈ shortBundle.blocks,
      zoneAt shortFile.lines block.headerLines = zoneAt shortFile.lines (block.body.start - 1) := by
    decide +kernel
  exact hiff.mpr (hzones (hzone block hblock))

/-- A file with a comment that begins on the line that opens a stage. -/
def cutComment : Text :=
  ("#version 410 core\n#pragma vertex /* the vertex\n@entry stage */\n@entry void v(){}\n" ++
    "#pragma fragment\n@entry void f(){}\n").toList

/-- The stage that this line opens. -/
def cutVertex : Block where
  stage := .vertex
  source := "#version 410 core\n@entry stage */\n       void main(){}".toList
  entry := ['v']
  headerLines := 1
  body := .spanning 3 4

/-- That file, taken apart. -/
def cutBundle : Bundle where
  name := []
  header := "#version 410 core".toList
  version := "#version 410 core".toList
  blocks :=
    [cutVertex,
     { stage := .fragment, source := "#version 410 core\n       void main(){}".toList
       entry := ['f'], headerLines := 1, body := .single 6 }]

theorem split_cutComment : split {} [] cutComment = .ok cutBundle := by decide +kernel

/-- In that file the comment is cut: in the source of the stage its text is code, with a mark in it.
-/
theorem not_keepsComments_cutComment :
    split {} [] cutComment = .ok cutBundle ∧ cutVertex ∈ cutBundle.blocks ∧
      ¬cutVertex.KeepsComments (Text.lines (mask cutComment)) ∧
      ∃ front, Entry.MarkAt (mask cutVertex.source) front := by
  have hmark : ∃ front, Entry.MarkAt (mask cutVertex.source) front := by
    by_contra hnone
    have hmarks : Entry.marks (mask cutVertex.source) ≠ [] := by decide +kernel
    exact hmarks (Entry.marks_eq_nil_iff.mpr fun front h => hnone ⟨front, h⟩)
  have hheader : ∀ line ∈ (Text.lines (mask cutComment)).take cutVertex.headerLines,
      Entry.marks line = [] := by
    decide +kernel
  refine ⟨split_cutComment, List.mem_cons_self, fun hkeeps => ?_, hmark⟩
  obtain ⟨front, hfront⟩ := hmark
  exact hkeeps.not_markAt hheader front hfront

end Bundle

end ShaderBundle
