import Mathlib.Data.List.Sort
import ShaderBundle.Proofs.Bundle.Declaration
import ShaderBundle.Proofs.Text.Masked

/-!
# Renaming the entry function

A stage body is edited at two places that are found in its masked copy. A `Site` is a text taken
apart at those two places. The copy and the body have sites of the same shape: neither the mark nor
the name has a space in it, so `Masked` carries both over, and the byte positions counted in the
copy are the places between the parts of the body.

## From positions to parts

The editor is given numbers of bytes and cuts a text there. Nothing can be said about a text that
was cut at a number; so the first thing to do with a position is to replace it by the part of the
text in front of it. `exists_site` does that for the two positions of an edit at once, and
`rename_eq_renamed` turns the edit into a change of two parts of five. From there on the edit is an
equation between concatenations.

The edit puts as many spaces as the sign has characters, and the name `main` for whatever name there
was. So it keeps the length of nothing but the front; what it does keep is the number of line feeds
(`feeds_renamed`), which is why lines of the source can be matched with lines of the file.

## What can be wrong

A body should have one mark with a definition behind it. `BodyFault` has the three other cases, each
with the line that is to be blamed: none for a body without a mark, all of them for several marks,
and that of the mark for one without a definition. A site of an entry function and a fault exclude
each other, and one of them is always there (`bodyFault_or_isEntry`). That is how the two theorems
about the editor become equivalences.

## Main definitions

* `Entry.Site` with `Site.marked` and `Site.renamed`, the text before and after the edit.
* `Entry.Site.IsEntry`: the site of a masked body that introduces the one entry function.
* `Entry.BodyFault`: what is wrong with a masked body, when there is no such site.

## Main results

* `Entry.toMain_eq_ok_iff`, `Entry.toMain_eq_error_iff`: what the editor does with a body.
-/

namespace ShaderBundle.Entry

/-- A text taken apart at an entry mark and at the name of the function behind it. -/
structure Site where
  /-- What comes before the mark. -/
  front : Text
  /-- What stands between the mark and the name. -/
  lead : Text
  /-- The name. -/
  name : Text
  /-- What comes after the name. -/
  back : Text

namespace Site

/-- The text with its mark and its name. -/
def marked (site : Site) : Text :=
  site.front ++ sign ++ site.lead ++ site.name ++ site.back

/-- The text with as many spaces as the mark has characters, and with the name `main`. -/
def renamed (site : Site) : Text :=
  site.front ++ List.replicate sign.length ' ' ++ site.lead ++ mainName ++ site.back

/-- The second site is the first one in a masked copy. -/
structure Shows (site copy : Site) : Prop where
  /-- What comes before the mark. -/
  front : Masked site.front copy.front
  /-- What stands between. -/
  lead : Masked site.lead copy.lead
  /-- The name is in code. -/
  name : copy.name = site.name
  /-- What comes after the name. -/
  back : Masked site.back copy.back

/-- The mark of the site is the only one, and it introduces the definition of the name. -/
structure IsEntry (copy : Site) : Prop where
  /-- There is no other mark. -/
  only : ∀ front, MarkAt copy.marked front ↔ front = copy.front
  /-- A definition begins behind the mark. -/
  declares : Declares copy.lead copy.name copy.back

end Site

/-- What is wrong with a stage body, as its masked copy shows it. The body starts on line `first`.
-/
inductive BodyFault (masked : Text) (first : Nat) : Fault → Prop where
  | noEntry (h : ∀ front, ¬MarkAt masked front) : BodyFault masked first .noEntry
  | manyEntries {found : List Text} (hlength : 2 ≤ found.length)
    (horder : found.Pairwise fun f g => f.length < g.length)
    (hfound : ∀ front, front ∈ found ↔ MarkAt masked front) :
    BodyFault masked first (.manyEntries (found.map fun front => first + front.feeds))
  | badEntry {front rest : Text} {cause : EntryFault}
    (honly : ∀ f, MarkAt masked f ↔ f = front) (htext : masked = front ++ sign ++ rest)
    (hlacks : Lacks rest cause) : BodyFault masked first (.badEntry (first + front.feeds) cause)

/-! ### Sites

A site of the copy is a site of the text because a name and a sign have no space in them. The parts
around them are related by `Masked` only; the text may have a comment where the copy has blanks. -/

theorem IsWord.ne_nil {w : Text} (h : IsWord w) : w ≠ [] := by
  obtain ⟨c, cs, rfl, -, -⟩ := h
  exact List.cons_ne_nil c cs

theorem IsWord.space_notMem {w : Text} (h : IsWord w) : ' ' ∉ w := by
  obtain ⟨c, cs, rfl, hc, hcs⟩ := h
  rw [List.mem_cons, not_or]
  constructor
  · rintro rfl
    exact absurd hc (by decide)
  · exact fun hmem => absurd (hcs _ hmem) (by decide)

theorem Declares.isWord {lead name back : Text} (h : Declares lead name back) : IsWord name := by
  obtain ⟨_, _, _, _, _, _, _, _, _, _, _, hname, _⟩ := h
  exact hname.word

theorem sign_ne_nil : sign ≠ [] := by decide

theorem space_notMem_sign : ' ' ∉ sign := by decide

theorem size_sign : Text.size sign = sign.length := by decide

theorem cut_behind_mark (front rest : Text) :
    Text.cut (front.size + sign.length) (front ++ sign ++ rest) = (front ++ sign, rest) := by
  rw [← size_sign, ← Text.size_append, Text.cut_size_append]

/-- The site that is found in the copy is there in the text. -/
theorem exists_site {body : Text} {copy : Site} (h : Masked body copy.marked)
    (hname : IsWord copy.name) : ∃ site : Site, body = site.marked ∧ site.Shows copy := by
  have hmark : copy.marked = copy.front ++ sign ++ (copy.lead ++ copy.name ++ copy.back) := by
    simp [Site.marked]
  rw [hmark] at h
  obtain ⟨front, behind, rfl, hfront, hbehind⟩ :=
    h.exists_of_append sign_ne_nil space_notMem_sign
  obtain ⟨lead, back, rfl, hlead, hback⟩ :=
    hbehind.exists_of_append hname.ne_nil hname.space_notMem
  exact ⟨⟨front, lead, copy.name, back⟩, by simp [Site.marked], hfront, hlead, rfl, hback⟩

/-- The edit at the byte positions of the copy is the edit between the parts of the text. -/
theorem rename_eq_renamed {site copy : Site} (h : site.Shows copy) :
    rename site.marked copy.front.size ⟨copy.lead.size, copy.name⟩ = site.renamed := by
  have hmarked : site.marked =
      site.front ++ (sign ++ (site.lead ++ (site.name ++ site.back))) := by
    simp [Site.marked]
  have hsign : ∀ t, Text.cut sign.length (sign ++ t) = (sign, t) := fun t => by
    rw [← size_sign, Text.cut_size_append]
  rw [rename, hmarked, h.front.size_eq, h.lead.size_eq, h.name]
  simp only [Text.cut_size_append, hsign, Site.renamed]

/-- An edit changes no line. -/
theorem feeds_renamed {site : Site} (hname : IsWord site.name) :
    site.renamed.feeds = site.marked.feeds := by
  have hzero : site.name.feeds = 0 := by
    obtain ⟨c, cs, hcs, hc, hall⟩ := hname
    rw [Text.feeds, List.count_eq_zero, hcs, List.mem_cons, not_or]
    exact ⟨by rintro rfl; exact absurd hc (by decide),
      fun hmem => absurd (hall _ hmem) (by decide)⟩
  have hsign : sign.feeds = 0 := by decide
  have hmain : mainName.feeds = 0 := by decide
  simp only [Site.renamed, Site.marked, Text.feeds_append, Text.feeds_replicate_space, hzero, hsign,
    hmain]

/-! ### What the editor does

Three cases by the number of marks, each of which is reported or edited in its own way. The lines
that are blamed are counted by the feeds in front of a mark, in the masked body, which has the feeds
of the body. -/

/-- The marks are known once they are listed in order. -/
theorem fronts_eq {s : Text} {found : List Text}
    (horder : found.Pairwise fun f g => f.length < g.length)
    (hfound : ∀ front, front ∈ found ↔ MarkAt s front) : fronts s = found := by
  have : Std.Irrefl fun f g : Text => f.length < g.length := ⟨fun _ => Nat.lt_irrefl _⟩
  have : Std.Antisymm fun f g : Text => f.length < g.length :=
    ⟨fun _ _ h h' => absurd h (Nat.lt_asymm h')⟩
  exact (pairwise_fronts s).eq_of_mem_iff horder fun front => mem_fronts.trans (hfound front).symm

theorem fronts_eq_singleton {s front : Text} (h : ∀ f, MarkAt s f ↔ f = front) :
    fronts s = [front] :=
  fronts_eq (List.pairwise_singleton ..) fun f => by rw [List.mem_singleton, h]

theorem lineOf_size (first : Nat) (front rest : Text) :
    lineOf (front ++ rest) first front.size = first + front.feeds := by
  rw [lineOf, Text.cut_size_append]

theorem toMain_of_bodyFault {masked : Text} {first : Nat} {fault : Fault}
    (h : BodyFault masked first fault) (body : Text) : toMain body masked first = .error fault := by
  cases h with
  | noEntry h =>
    have hnil : fronts masked = [] :=
      fronts_eq List.Pairwise.nil fun front => by simp [h front]
    rw [toMain, marks_eq_fronts, hnil, List.map_nil]
  | @manyEntries found hlength horder hfound =>
    -- the lines that are reported, counted by what stands before each mark
    have hlines : (found.map Text.size).map (lineOf masked first) =
        found.map fun front => first + front.feeds := by
      rw [List.map_map]
      refine List.map_congr_left fun front hmem => ?_
      obtain ⟨rest, rfl, -⟩ := (hfound front).mp hmem
      rw [Function.comp_apply, List.append_assoc, lineOf_size]
    rw [toMain, marks_eq_fronts, fronts_eq horder hfound, ← hlines]
    match found, hlength with
    | f :: g :: more, _ => rfl
  | @badEntry front rest cause honly htext hlacks =>
    subst htext
    rw [toMain, marks_eq_fronts, fronts_eq_singleton honly, List.map_singleton]
    simp only [cut_behind_mark, scan_of_lacks hlacks]
    rw [List.append_assoc, lineOf_size]

theorem toMain_of_isEntry {site copy : Site} (hshows : site.Shows copy) (h : copy.IsEntry)
    (first : Nat) :
    toMain site.marked copy.marked first = .ok (site.renamed, site.name) := by
  have hmarked : copy.marked = copy.front ++ sign ++ (copy.lead ++ copy.name ++ copy.back) := by
    simp [Site.marked]
  have hcut : Text.cut (copy.front.size + sign.length) copy.marked =
      (copy.front ++ sign, copy.lead ++ copy.name ++ copy.back) := by
    rw [hmarked, cut_behind_mark]
  rw [toMain, marks_eq_fronts, fronts_eq_singleton h.only, List.map_singleton]
  simp only [hcut, scan_of_declares h.declares]
  rw [rename_eq_renamed hshows, hshows.name]

/-- A masked body has something wrong with it, or the site of an entry function. -/
theorem bodyFault_or_isEntry (masked : Text) (first : Nat) :
    (∃ fault, BodyFault masked first fault) ∨
      ∃ copy : Site, masked = copy.marked ∧ copy.IsEntry := by
  have horder := pairwise_fronts masked
  have hfound : ∀ front, front ∈ fronts masked ↔ MarkAt masked front := fun _ => mem_fronts
  -- by the number of marks: none, one or several
  match hfronts : fronts masked with
  | [] => exact Or.inl ⟨_, .noEntry fun front h => by simpa [hfronts] using (hfound front).mpr h⟩
  | [front] =>
    have honly : ∀ f, MarkAt masked f ↔ f = front := fun f => by
      rw [← hfound, hfronts, List.mem_singleton]
    obtain ⟨rest, htext, -⟩ := (honly front).mpr rfl
    rcases lacks_or_declares rest with ⟨cause, hlacks⟩ | ⟨lead, name, back, rfl, hdeclares⟩
    · exact Or.inl ⟨_, .badEntry honly htext hlacks⟩
    · have hmarked : masked = (Site.mk front lead name back).marked := by
        simp [htext, Site.marked]
      exact Or.inr ⟨⟨front, lead, name, back⟩, hmarked, hmarked ▸ honly, hdeclares⟩
  | f :: g :: more =>
    rw [hfronts] at horder hfound
    exact Or.inl ⟨_, .manyEntries (by simp) horder hfound⟩

/-- **The editor refuses a body for what is wrong with its masked copy.** -/
theorem toMain_eq_error_iff {body masked : Text} (hmasked : Masked body masked) {first : Nat}
    {fault : Fault} : toMain body masked first = .error fault ↔ BodyFault masked first fault := by
  refine ⟨fun h => ?_, fun h => toMain_of_bodyFault h body⟩
  rcases bodyFault_or_isEntry masked first with ⟨found, hfault⟩ | ⟨copy, rfl, hentry⟩
  · rw [toMain_of_bodyFault hfault, Except.error.injEq] at h
    exact h ▸ hfault
  · obtain ⟨site, rfl, hshows⟩ := exists_site hmasked hentry.declares.isWord
    rw [toMain_of_isEntry hshows hentry] at h
    simp at h

/-- **The editor edits a body at the site that its masked copy shows.** -/
theorem toMain_eq_ok_iff {body masked : Text} (hmasked : Masked body masked) {first : Nat}
    {renamed name : Text} :
    toMain body masked first = .ok (renamed, name) ↔
      ∃ site copy : Site, masked = copy.marked ∧ copy.IsEntry ∧ body = site.marked ∧
        site.Shows copy ∧ renamed = site.renamed ∧ name = site.name := by
  constructor
  · intro h
    rcases bodyFault_or_isEntry masked first with ⟨found, hfault⟩ | ⟨copy, rfl, hentry⟩
    · rw [toMain_of_bodyFault hfault] at h
      simp at h
    · obtain ⟨site, rfl, hshows⟩ := exists_site hmasked hentry.declares.isWord
      rw [toMain_of_isEntry hshows hentry, Except.ok.injEq, Prod.mk.injEq] at h
      exact ⟨site, copy, rfl, hentry, rfl, hshows, h.1.symm, h.2.symm⟩
  · rintro ⟨site, copy, rfl, hentry, rfl, hshows, rfl, rfl⟩
    exact toMain_of_isEntry hshows hentry first

end ShaderBundle.Entry
