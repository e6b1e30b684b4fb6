import ShaderBundle.Bundle.Split
import ShaderBundle.Proofs.Bundle.Outline
import ShaderBundle.Proofs.Bundle.Rename
import ShaderBundle.Proofs.Text.Zones

/-!
# Reading blocks

The markers of an outline cut the lines behind the header into spans, one for each stage. A block is
read from each span in file order, until one has a fault. This module says which spans there are,
what the block of a span is and what can be wrong with it, and puts the three together for a whole
file.

## Two descriptions of the same lines

The splitter computes spans from a list of markers, and a span knows nothing but two numbers.
`BlockAt` says of the lines themselves that a block reaches from one line to another: the first one
opens the stage, none in between opens any, and the block ends with the file or in front of a line
that opens one. `mem_spans_iff_blockAt` identifies the two, under what an outline is known to know.
From then on no argument mentions markers; whoever asks about a block of a file asks about its
lines.

## What a block is made of

A block that is read remembers little: a stage, a source, a name and numbers of lines. `MadeFrom`
keeps what it was made from, both texts at the site of the edit and the lines between which they
stand. Everything that is claimed of the blocks of a bundle is proved from a `MadeFrom`, and
`Assembles.exists_madeFrom` is where it is obtained. The parts of the structure are not independent,
the name for instance is that of the site; they are listed because each of them is what some later
proof rewrites with.

## Positions

All positions here are indices of lines, counted from zero, while `LineRange` counts from one. A
block that is opened by the line with index `start` therefore has the body lines from `start + 2`
on: one for the line that opens it, one for counting from one.

## Main definitions

* `BlockAt`: the lines of a stage's block.
* `BlockFault`: what is wrong with these lines, with the error it deserves.
* `Bundle.Assembles`: how a bundle is put together from the lines and the markers.
* `Bundle.MadeFrom`: how one of its blocks is.

## Main results

* `mem_spans_iff_blockAt`: the spans of an outline are the blocks of its file.
* `Bundle.readBlock_eq_ok_iff`, `Bundle.readBlock_eq_error_iff`: what comes of one span.
* `Bundle.split_eq_ok_iff`: when a file is taken apart, and into what.
-/

namespace ShaderBundle

/-! ### Spans

A span goes from a marker to the next one, so the facts about spans are about neighbours in a list.
They are said of any two markers instead, with the order of the list as a hypothesis: between the
ends of a span lies no marker at all. -/

/-- A stage's block: a line opens the stage, and behind it come the lines up to the next one that
opens a stage, or to the end of the file. -/
structure BlockAt (lines : List Text) (stage : Stage) (start stop : Nat) : Prop where
  /-- The first line opens the stage. -/
  opens : Opens lines start stage
  /-- The block ends behind that line. -/
  lt : start < stop
  /-- No line in between opens a stage. -/
  inner : ∀ i, start < i → i < stop → ∀ stage', ¬Opens lines i stage'
  /-- The block ends where it has to. -/
  ends : stop = lines.length ∨ ∃ stage', Opens lines stop stage'

/-- The markers with the lines that their blocks end before. The file has `n` lines. -/
def spans (n : Nat) : List Marker → List (Marker × Nat)
  | [] => []
  | [last] => [(last, n)]
  | marker :: next :: rest => (marker, next.line) :: spans n (next :: rest)

theorem mem_of_mem_spans {n : Nat} {markers : List Marker} {m : Marker} {stop : Nat}
    (h : (m, stop) ∈ spans n markers) : m ∈ markers := by
  fun_induction spans n markers with
  | case1 => simp at h
  | case2 last =>
    rw [List.mem_singleton, Prod.mk.injEq] at h
    rw [h.1, List.mem_singleton]
  | case3 marker next rest ih =>
    rcases List.mem_cons.mp h with heq | htail
    · rw [Prod.mk.injEq] at heq
      exact heq.1 ▸ List.mem_cons_self
    · exact List.mem_cons_of_mem marker (ih htail)

/-- A marker's span goes on to the next marker, or to the end. -/
theorem mem_spans_iff {n : Nat} {markers : List Marker}
    (hsorted : markers.Pairwise fun m m' => m.line < m'.line) (hlt : ∀ m ∈ markers, m.line < n)
    {m : Marker} {stop : Nat} :
    (m, stop) ∈ spans n markers ↔ m ∈ markers ∧ m.line < stop ∧
      (∀ m' ∈ markers, m'.line ≤ m.line ∨ stop ≤ m'.line) ∧
      (stop = n ∨ ∃ m' ∈ markers, m'.line = stop) := by
  fun_induction spans n markers with
  | case1 => simp
  -- The last marker. Its span goes on to the end of the file.
  | case2 last =>
    have hlast : last.line < n := hlt last (List.mem_singleton_self last)
    rw [List.mem_singleton, Prod.mk.injEq]
    constructor
    · rintro ⟨rfl, rfl⟩
      exact ⟨List.mem_singleton_self m, hlast, fun m' hm' => by simp [List.mem_singleton.mp hm'],
        Or.inl rfl⟩
    · rintro ⟨hm, hstop, -, hends⟩
      obtain rfl := List.mem_singleton.mp hm
      refine ⟨rfl, hends.resolve_right ?_⟩
      rintro ⟨m', hm', rfl⟩
      rw [List.mem_singleton.mp hm'] at hstop
      exact Nat.lt_irrefl _ hstop
  -- The first marker of several. Its span ends before the next one, which is the least of the rest;
  -- every other span is one of the rest, where the first marker lies before all of them.
  | case3 marker next rest ih =>
    obtain ⟨hfirst, htail⟩ := List.pairwise_cons.mp hsorted
    have hbound : ∀ m ∈ next :: rest, m.line < n := fun m hm => hlt m (List.mem_cons_of_mem _ hm)
    have hnext : marker.line < next.line := hfirst next List.mem_cons_self
    have hleast : ∀ m' ∈ next :: rest, next.line ≤ m'.line := by
      intro m' hm'
      rcases List.mem_cons.mp hm' with rfl | hm'
      · exact Nat.le_refl _
      · exact Nat.le_of_lt ((List.pairwise_cons.mp htail).1 m' hm')
    rw [List.mem_cons, Prod.mk.injEq, ih htail hbound]
    constructor
    · rintro (⟨rfl, rfl⟩ | ⟨hm, hstop, hinner, hends⟩)
      · refine ⟨List.mem_cons_self, hnext, fun m' hm' => ?_, Or.inr ⟨next, by simp, rfl⟩⟩
        rcases List.mem_cons.mp hm' with rfl | hm'
        · exact Or.inl (Nat.le_refl _)
        · exact Or.inr (hleast m' hm')
      · refine ⟨List.mem_cons_of_mem _ hm, hstop, fun m' hm' => ?_, ?_⟩
        · rcases List.mem_cons.mp hm' with rfl | hm'
          · exact Or.inl (Nat.le_of_lt (hfirst m hm))
          · exact hinner m' hm'
        · exact hends.imp_right fun ⟨m', hm', heq⟩ => ⟨m', List.mem_cons_of_mem _ hm', heq⟩
    · rintro ⟨hm, hstop, hinner, hends⟩
      rcases List.mem_cons.mp hm with rfl | hmem
      · refine Or.inl ⟨rfl, ?_⟩
        -- nothing lies inside the span, so it does not go beyond the next marker
        have hle : stop ≤ next.line := (hinner next (by simp)).resolve_left (by omega)
        rcases hends with rfl | ⟨m', hm', rfl⟩
        · have := hbound next List.mem_cons_self
          omega
        · rcases List.mem_cons.mp hm' with rfl | hm'
          · omega
          · have := hleast m' hm'
            omega
      · refine Or.inr ⟨hmem, hstop, fun m' hm' => hinner m' (List.mem_cons_of_mem _ hm'), ?_⟩
        rcases hends with rfl | ⟨m', hm', rfl⟩
        · exact Or.inl rfl
        · rcases List.mem_cons.mp hm' with rfl | hm'
          · have := hfirst m hmem
            omega
          · exact Or.inr ⟨m', hm', rfl⟩

theorem pairwise_spans {n : Nat} {markers : List Marker}
    (hsorted : markers.Pairwise fun m m' => m.line < m'.line) :
    (spans n markers).Pairwise fun s s' => s.1.line < s'.1.line := by
  fun_induction spans n markers with
  | case1 => exact List.Pairwise.nil
  | case2 last => exact List.pairwise_singleton ..
  | case3 marker next rest ih =>
    obtain ⟨hfirst, htail⟩ := List.pairwise_cons.mp hsorted
    exact List.pairwise_cons.mpr ⟨fun s hs => hfirst s.1 (mem_of_mem_spans hs), ih htail⟩

variable {options : SplitOptions} {lines : List Text}

/-- **The spans of an outline without a problem are the blocks of its file.** -/
theorem mem_spans_iff_blockAt {outline : Outline}
    (h : outline.Knows options lines lines.length) (hnone : outline.problem = none) {m : Marker}
    {stop : Nat} :
    (m, stop) ∈ spans lines.length outline.markers ↔ BlockAt lines m.stage m.line stop := by
  rw [mem_spans_iff h.sorted fun m hm => (h.marker m hm).1]
  -- without a problem the markers are the lines that open a stage, all of them
  have hmem : ∀ m : Marker, m ∈ outline.markers ↔ Opens lines m.line m.stage := fun m =>
    (h.mem_markers_iff hnone).trans ⟨And.right, fun hopens => ⟨hopens.lt_length, hopens⟩⟩
  constructor
  · rintro ⟨hm, hstop, hinner, hends⟩
    refine ⟨(hmem m).mp hm, hstop, fun i hi hi' stage hopens => ?_, ?_⟩
    · have hle := hinner ⟨stage, i⟩ ((hmem ⟨stage, i⟩).mpr hopens)
      simp only at hle
      omega
    · exact hends.imp_right fun ⟨m', hm', heq⟩ => ⟨m'.stage, heq ▸ (hmem m').mp hm'⟩
  · rintro ⟨hopens, hstop, hinner, hends⟩
    refine ⟨(hmem m).mpr hopens, hstop, fun m' hm' => ?_, ?_⟩
    -- a marker strictly inside would open a stage inside the block
    · by_contra hbetween
      exact hinner m'.line (by omega) (by omega) m'.stage ((hmem m').mp hm')
    · exact hends.imp_right fun ⟨stage, hstage⟩ => ⟨⟨stage, stop⟩, (hmem _).mpr hstage, rfl⟩

/-! ### The text of a block

The text of a block is that of the lines behind the one that opens it. Masked lines are masked from
the zone in which each of them begins, and so the masked text of a block is the copy of its text
from within one zone, that of its first line. Nothing about the lines before the block matters but
this zone. -/

/-- The text of the block that line `start` opens and that ends before line `stop`. -/
def bodyText (lines : List Text) (start stop : Nat) : Text :=
  Text.unlines (Bundle.between (start + 1) stop lines)

/-- The zone that the line with index `n` begins in. -/
def zoneAt (lines : List Text) (n : Nat) : Zone :=
  zoneAfterLines .code (lines.take n)

/-- Masking a whole file masks a block from within the zone that it begins in. -/
theorem bodyText_maskLines (lines : List Text) {start stop : Nat} (h : start < stop) :
    bodyText (maskLines .code lines) start stop =
      maskFrom (zoneAt lines (start + 1)) (bodyText lines start stop) := by
  have htake : (lines.take stop).take (start + 1) = lines.take (start + 1) := by
    rw [List.take_take, Nat.min_eq_left h]
  rw [bodyText, bodyText, maskFrom_unlines, Bundle.between, Bundle.between, take_maskLines,
    drop_maskLines, htake, zoneAt]

theorem masked_bodyText (lines : List Text) {start stop : Nat} (h : start < stop) :
    Masked (bodyText lines start stop) (bodyText (maskLines .code lines) start stop) := by
  rw [bodyText_maskLines lines h]
  exact masked_maskFrom _ _

/-- A block whose text has an entry mark has a line. -/
theorem lt_of_bodyText_eq_marked {start stop : Nat} {site : Entry.Site}
    (h : bodyText lines start stop = site.marked) : start + 1 < stop := by
  by_contra hle
  have hnil : Bundle.between (start + 1) stop lines = [] :=
    List.drop_eq_nil_of_le (by rw [List.length_take]; omega)
  rw [bodyText, hnil, Text.unlines_nil] at h
  have hlength := congrArg List.length h
  simp [Entry.Site.marked, Entry.sign] at hlength

/-- A text with an entry mark is not blank. -/
theorem not_isAllBlank_marked (site : Entry.Site) : ¬site.marked.isAllBlank = true := by
  intro h
  have hmem : '@' ∈ site.marked := by simp [Entry.Site.marked, Entry.sign]
  exact absurd (List.all_eq_true.mp h '@' hmem) (by decide)

/-- What is wrong with the block of a stage, as the masked lines show it. -/
inductive BlockFault (masked : List Text) (stage : Stage) (start stop : Nat) :
    SplitError → Prop where
  | emptyBody (hblank : ∀ c ∈ bodyText masked start stop, isBlank c = true) :
    BlockFault masked stage start stop
      (.malformed (some stage) (.spanning (start + 1) stop) .emptyBody)
  | body (hcode : ∃ c ∈ bodyText masked start stop, isBlank c = false) {fault : Fault}
    (hfault : Entry.BodyFault (bodyText masked start stop) (start + 2) fault) :
    BlockFault masked stage start stop
      (.malformed (some stage) (.spanning (start + 1) stop) fault)

theorem isAllBlank_eq_false_iff {s : Text} :
    s.isAllBlank = false ↔ ∃ c ∈ s, isBlank c = false := by
  simp [Text.isAllBlank]

namespace Bundle

/-! ### Reading one block

Reading a block is decided by the masked text and carried out on the text. Both directions are
needed later: that a fault is reported says that the masked text has it, and that the masked text
has it says that it is reported. -/

variable {masked : List Text} {header : Text} {n : Nat} {marker : Marker} {stop : Nat}

theorem readBlock_def :
    readBlock lines masked header n marker stop =
      if (bodyText masked marker.line stop).isAllBlank then
        .error (.malformed (some marker.stage) (.spanning (marker.line + 1) stop) .emptyBody)
      else match Entry.toMain (bodyText lines marker.line stop) (bodyText masked marker.line stop)
          (marker.line + 2) with
        | .error fault =>
          .error (.malformed (some marker.stage) (.spanning (marker.line + 1) stop) fault)
        | .ok (renamed, entry) => .ok
          { stage := marker.stage
            source := header ++ '\n' :: renamed
            entry := entry
            headerLines := n
            body := .spanning (marker.line + 2) stop } :=
  rfl

/-- **A block is refused for what is wrong with its masked lines.** -/
theorem readBlock_eq_error_iff
    (hmasked : Masked (bodyText lines marker.line stop) (bodyText masked marker.line stop))
    {e : SplitError} :
    readBlock lines masked header n marker stop = .error e ↔
      BlockFault masked marker.stage marker.line stop e := by
  have herror : ∀ fault, Entry.toMain (bodyText lines marker.line stop)
      (bodyText masked marker.line stop) (marker.line + 2) = .error fault ↔
        Entry.BodyFault (bodyText masked marker.line stop) (marker.line + 2) fault :=
    fun _ => Entry.toMain_eq_error_iff hmasked
  rw [readBlock_def]
  constructor
  · intro h
    split at h
    · next hblank =>
      rw [Except.error.injEq] at h
      exact h ▸ .emptyBody (List.all_eq_true.mp hblank)
    · next hcode =>
      rw [Bool.not_eq_true, isAllBlank_eq_false_iff] at hcode
      split at h
      · next fault hfault =>
        rw [Except.error.injEq] at h
        exact h ▸ .body hcode ((herror fault).mp hfault)
      · simp at h
  · rintro (hblank | ⟨hcode, hfault⟩)
    · have hall : (bodyText masked marker.line stop).isAllBlank = true :=
        List.all_eq_true.mpr hblank
      rw [if_pos hall]
    · rw [if_neg (by rw [isAllBlank_eq_false_iff.mpr hcode]; exact Bool.false_ne_true),
        (herror _).mpr hfault]

/-- **The block is the header and the lines behind the marker, edited at the one site of an entry
function.** -/
theorem readBlock_eq_ok_iff
    (hmasked : Masked (bodyText lines marker.line stop) (bodyText masked marker.line stop))
    {block : Block} :
    readBlock lines masked header n marker stop = .ok block ↔
      ∃ site copy : Entry.Site, bodyText masked marker.line stop = copy.marked ∧ copy.IsEntry ∧
        bodyText lines marker.line stop = site.marked ∧ site.Shows copy ∧
        block = { stage := marker.stage, source := header ++ '\n' :: site.renamed,
                  entry := site.name, headerLines := n,
                  body := .spanning (marker.line + 2) stop } := by
  rw [readBlock_def]
  constructor
  · intro h
    split at h
    · simp at h
    · split at h
      · simp at h
      · next renamed name hmain =>
        obtain ⟨site, copy, hcopy, hentry, hsite, hshows, rfl, rfl⟩ :=
          (Entry.toMain_eq_ok_iff hmasked).mp hmain
        rw [Except.ok.injEq] at h
        exact ⟨site, copy, hcopy, hentry, hsite, hshows, h.symm⟩
  · rintro ⟨site, copy, hcopy, hentry, hsite, hshows, rfl⟩
    have hmain := Entry.toMain_of_isEntry hshows hentry (marker.line + 2)
    rw [hcopy, hsite, if_neg (not_isAllBlank_marked copy), hmain]

/-! ### Reading all blocks

The blocks are read in order up to the first failure, which is what `mapM` does among outcomes that
may be errors. The two lemmas about `mapM` are about any function and list; they are the only place
where the binds of such a loop are taken apart. -/

theorem readBlocks_eq_mapM (markers : List Marker) :
    readBlocks lines masked header n markers =
      (spans lines.length markers).mapM fun s => readBlock lines masked header n s.1 s.2 := by
  fun_induction spans lines.length markers with
  | case1 => rfl
  | case2 last =>
    rw [readBlocks, List.mapM_cons, List.mapM_nil]
    rfl
  | case3 marker next rest ih => rw [readBlocks, List.mapM_cons, ih]

theorem mapM_eq_ok_iff {α β ε : Type} {f : α → Except ε β} {xs : List α} {ys : List β} :
    xs.mapM f = .ok ys ↔ List.Forall₂ (fun x y => f x = .ok y) xs ys := by
  induction xs generalizing ys with
  | nil =>
    rw [List.mapM_nil, List.forall₂_nil_left_iff]
    exact ⟨fun h => (Except.ok.inj h).symm, fun h => congrArg Except.ok h.symm⟩
  | cons x xs ih =>
    rw [List.mapM_cons, List.forall₂_cons_left_iff]
    constructor
    · intro h
      cases hx : f x with
      | error e => simp [hx, bind, Except.bind] at h
      | ok y =>
        cases hxs : xs.mapM f with
        | error e => simp [hx, hxs, bind, Except.bind] at h
        | ok zs =>
          simp only [hx, hxs, bind, Except.bind, pure, Except.pure, Except.ok.injEq] at h
          exact ⟨y, zs, rfl, ih.mp hxs, h.symm⟩
    · rintro ⟨y, zs, hx, hxs, rfl⟩
      rw [hx, ih.mpr hxs]
      rfl

/-- The first failure is the outcome. -/
theorem mapM_eq_error_iff {α β ε : Type} {f : α → Except ε β} {xs : List α} {e : ε} :
    xs.mapM f = .error e ↔ ∃ before x after, xs = before ++ x :: after ∧
      (∀ y ∈ before, ∃ b, f y = .ok b) ∧ f x = .error e := by
  induction xs with
  | nil => simp [pure, Except.pure]
  | cons x xs ih =>
    rw [List.mapM_cons]
    cases hx : f x with
    -- The first one fails. Then it is the failure, and nothing before it can be asked about.
    | error e' =>
      simp only [bind, Except.bind, Except.error.injEq]
      constructor
      · rintro rfl
        exact ⟨[], x, xs, rfl, by simp, hx⟩
      · rintro ⟨before, y, after, heq, hbefore, hy⟩
        cases before with
        | nil =>
          obtain ⟨rfl, -⟩ := List.cons.inj heq
          exact Except.error.inj (hx.symm.trans hy)
        | cons z before =>
          obtain ⟨rfl, -⟩ := List.cons.inj heq
          obtain ⟨b, hb⟩ := hbefore x List.mem_cons_self
          simp [hx] at hb
    -- The first one does not fail, so the failure is among the rest.
    | ok b =>
      have htail : (do let ys ← xs.mapM f; pure (b :: ys)) = .error e ↔ xs.mapM f = .error e := by
        cases xs.mapM f <;> simp [bind, Except.bind, pure, Except.pure]
      have hstep : (Except.ok b >>= fun y => do let ys ← xs.mapM f; pure (y :: ys)) = .error e ↔
          xs.mapM f = .error e := htail
      rw [hstep, ih]
      constructor
      · rintro ⟨before, y, after, rfl, hbefore, hy⟩
        refine ⟨x :: before, y, after, rfl, fun z hz => ?_, hy⟩
        rcases List.mem_cons.mp hz with rfl | hz
        · exact ⟨b, hx⟩
        · exact hbefore z hz
      · rintro ⟨before, y, after, heq, hbefore, hy⟩
        cases before with
        | nil =>
          obtain ⟨rfl, -⟩ := List.cons.inj heq
          simp [hx] at hy
        | cons z before =>
          obtain ⟨rfl, rfl⟩ := List.cons.inj heq
          exact ⟨before, y, after, rfl, fun w hw => hbefore w (List.mem_cons_of_mem _ hw), hy⟩

/-! ### Taking a file apart -/

/-- How a bundle is put together from the lines and the masked lines of a file, of which the first
`n` are the header. -/
structure Assembles (lines masked : List Text) (markers : List Marker) (n : Nat) (bundle : Bundle) :
    Prop where
  /-- The header's lines, joined. -/
  header : bundle.header = Text.unlines (lines.take n)
  /-- The version directive of the header. -/
  version : version? (lines.take n) (masked.take n) = some bundle.version
  /-- The header has no entry mark. -/
  unmarked : ∀ line ∈ masked.take n, Entry.marks line = []
  /-- One block is read from every span. -/
  blocks : List.Forall₂ (fun s block => readBlock lines masked bundle.header n s.1 s.2 = .ok block)
    (spans lines.length markers) bundle.blocks

theorem findIdx?_marks_eq_none_iff {masked : List Text} :
    (masked.findIdx? fun line => !(Entry.marks line).isEmpty) = none ↔
      ∀ line ∈ masked, Entry.marks line = [] := by
  rw [List.findIdx?_eq_none_iff]
  simp

theorem ofOutline_eq_ok_iff {name : Text} {first : Marker} {rest : List Marker} {bundle : Bundle} :
    ofOutline name lines masked (first :: rest) = .ok bundle ↔
      bundle.name = name ∧ Assembles lines masked (first :: rest) first.line bundle := by
  rw [ofOutline]
  simp only
  constructor
  · intro h
    split at h
    · simp at h
    · next version hversion =>
      split at h
      · simp at h
      · next hunmarked =>
        rw [readBlocks_eq_mapM] at h
        cases hblocks : (spans lines.length (first :: rest)).mapM fun s =>
            readBlock lines masked (Text.unlines (lines.take first.line)) first.line s.1 s.2 with
        | error e =>
          rw [hblocks] at h
          simp [bind, Except.bind] at h
        | ok blocks =>
          rw [hblocks] at h
          simp only [bind, Except.bind, pure, Except.pure, Except.ok.injEq] at h
          subst h
          exact ⟨rfl, rfl, hversion, findIdx?_marks_eq_none_iff.mp hunmarked,
            mapM_eq_ok_iff.mp hblocks⟩
  · rintro ⟨rfl, hheader, hversion, hunmarked, hblocks⟩
    rw [← mapM_eq_ok_iff, hheader, ← readBlocks_eq_mapM] at hblocks
    simp only [hversion, findIdx?_marks_eq_none_iff.mpr hunmarked, hblocks]
    simp only [bind, Except.bind, pure, Except.pure, ← hheader]

theorem split_eq (options : SplitOptions) (name text : Text) :
    split options name text =
      if !(Outline.ofLines options (maskLines .code text.lines)).missing.isEmpty then
        .error (.incomplete (Outline.ofLines options (maskLines .code text.lines)).missing)
      else match (Outline.ofLines options (maskLines .code text.lines)).problem with
        | some problem => .error problem
        | none => ofOutline name text.lines (maskLines .code text.lines)
            (Outline.ofLines options (maskLines .code text.lines)).markers := by
  rw [← lines_mask]
  rfl

/-- An outline that lacks no required stage has a marker. -/
theorem exists_first {outline : Outline} (h : outline.missing = []) :
    ∃ first rest, outline.markers = first :: rest := by
  cases hmarkers : outline.markers with
  | nil =>
    have hmissing : outline.missing = [.vertex, .fragment] := by
      rw [Outline.missing, hmarkers]
      rfl
    simp [hmissing] at h
  | cons first rest => exact ⟨first, rest, rfl⟩

/-- **A file is taken apart when its outline is complete and has no problem and a bundle can be
assembled.** -/
theorem split_eq_ok_iff {options : SplitOptions} {name text : Text} {bundle : Bundle} :
    split options name text = .ok bundle ↔
      ∃ outline first rest, outline = Outline.ofLines options (maskLines .code text.lines) ∧
        outline.markers = first :: rest ∧ outline.missing = [] ∧ outline.problem = none ∧
        bundle.name = name ∧
        Assembles text.lines (maskLines .code text.lines) outline.markers first.line bundle := by
  rw [split_eq]
  constructor
  · intro h
    split at h
    · simp at h
    · next hmissing =>
      rw [Bool.not_eq_true, Bool.not_eq_false', List.isEmpty_iff] at hmissing
      split at h
      · simp at h
      · next hproblem =>
        -- no required stage is missing, so there is a marker to begin with
        obtain ⟨first, rest, hmarkers⟩ := exists_first hmissing
        rw [hmarkers, ofOutline_eq_ok_iff] at h
        exact ⟨_, first, rest, rfl, hmarkers, hmissing, hproblem, h.1, hmarkers ▸ h.2⟩
  · rintro ⟨outline, first, rest, rfl, hmarkers, hmissing, hproblem, hname, hassembles⟩
    rw [if_neg (by simp [hmissing]), hproblem]
    rw [hmarkers] at hassembles ⊢
    exact ofOutline_eq_ok_iff.mpr ⟨hname, hassembles⟩

/-! ### The blocks of an assembled bundle

A bundle that was put together has a block for each span, in order, but what one wants to know is
about one block at a time, without its neighbours. -/

/-- How a stage's block is made: a file's first `n` lines are the header, its lines from `start` to
`stop` are the stage's, and the block's text is edited at a site that the masked text shows. -/
structure MadeFrom (lines masked : List Text) (n start stop : Nat) (site copy : Entry.Site)
    (block : Block) : Prop where
  /-- The lines are the stage's. -/
  blockAt : BlockAt masked block.stage start stop
  /-- They come behind the header. -/
  header_le : n ≤ start
  /-- There is a line behind the one that opens the stage. -/
  lt : start + 1 < stop
  /-- The file does not end before. -/
  le_length : stop ≤ lines.length
  /-- The masked text, at the site. -/
  copy_eq : bodyText masked start stop = copy.marked
  /-- The site is that of the stage's entry function. -/
  isEntry : copy.IsEntry
  /-- The text, at the site. -/
  site_eq : bodyText lines start stop = site.marked
  /-- The two sites belong together. -/
  shows : site.Shows copy
  /-- The source is the header and the edited text. -/
  source : block.source = Text.unlines (lines.take n) ++ '\n' :: site.renamed
  /-- The entry function had the name of the site. -/
  entry : block.entry = site.name
  /-- The header's lines are counted. -/
  headerLines : block.headerLines = n
  /-- The body is behind the line that opens the stage. -/
  body : block.body = .spanning (start + 2) stop

theorem exists_of_forall₂ {α β : Type} {R : α → β → Prop} {xs : List α} {ys : List β}
    (h : List.Forall₂ R xs ys) {y : β} (hy : y ∈ ys) : ∃ x ∈ xs, R x y := by
  induction h with
  | nil => simp at hy
  | cons hxy _ ih =>
    rcases List.mem_cons.mp hy with rfl | hy
    · exact ⟨_, List.mem_cons_self, hxy⟩
    · obtain ⟨x, hx, hR⟩ := ih hy
      exact ⟨x, List.mem_cons_of_mem _ hx, hR⟩

/-- **Every block of an assembled bundle is made from the header and the lines of its stage.** -/
theorem Assembles.exists_madeFrom {options : SplitOptions} {lines : List Text} {outline : Outline}
    {first : Marker} {rest : List Marker} {bundle : Bundle}
    (hknows : outline.Knows options (maskLines .code lines) (maskLines .code lines).length)
    (hnone : outline.problem = none) (hmarkers : outline.markers = first :: rest)
    (h : Assembles lines (maskLines .code lines) outline.markers first.line bundle)
    {block : Block} (hblock : block ∈ bundle.blocks) :
    ∃ start stop site copy,
      MadeFrom lines (maskLines .code lines) first.line start stop site copy block := by
  obtain ⟨⟨m, stop⟩, hspan, hread⟩ := exists_of_forall₂ h.blocks hblock
  have hfirst : first.line ≤ m.line :=
    Outline.first_le (hmarkers ▸ hknows.sorted) m (hmarkers ▸ mem_of_mem_spans hspan)
  rw [← length_maskLines .code lines, mem_spans_iff_blockAt hknows hnone] at hspan
  -- the block was read, so its masked text has a site and its text has the same one
  obtain ⟨site, copy, hcopy, hentry, hsite, hshows, rfl⟩ :=
    (readBlock_eq_ok_iff (masked_bodyText lines hspan.lt)).mp hread
  -- a block ends with the file, or before a line of the file
  have hstop : stop ≤ lines.length := by
    rcases hspan.ends with heq | ⟨stage, hopens⟩
    · rw [heq, length_maskLines]
    · have := hopens.lt_length
      rw [length_maskLines] at this
      exact Nat.le_of_lt this
  exact ⟨m.line, stop, site, copy, {
    blockAt := hspan
    header_le := hfirst
    lt := lt_of_bodyText_eq_marked hsite
    le_length := hstop
    copy_eq := hcopy
    isEntry := hentry
    site_eq := hsite
    shows := hshows
    source := by rw [h.header]
    entry := rfl
    headerLines := rfl
    body := rfl }⟩

/-- A bundle's header has a line. -/
theorem Assembles.pos {lines masked : List Text} {markers : List Marker} {n : Nat} {bundle : Bundle}
    (h : Assembles lines masked markers n bundle) : 0 < n := by
  refine Nat.pos_of_ne_zero fun hn => ?_
  have hversion := h.version
  rw [hn, List.take_zero, version?] at hversion
  · simp at hversion
  · simp

theorem MadeFrom.length_take {lines masked : List Text} {n start stop : Nat}
    {site copy : Entry.Site} {block : Block}
    (h : MadeFrom lines masked n start stop site copy block) : (lines.take n).length = n := by
  have := h.header_le
  have := h.lt
  have := h.le_length
  rw [List.length_take]
  omega

theorem MadeFrom.take_ne_nil {lines masked : List Text} {n start stop : Nat}
    {site copy : Entry.Site} {block : Block}
    (h : MadeFrom lines masked n start stop site copy block) (hn : 0 < n) : lines.take n ≠ [] := by
  rw [← List.length_pos_iff, h.length_take]
  exact hn

/-- The source, cut at its line feeds. -/
theorem MadeFrom.pieces_source {lines masked : List Text} {n start stop : Nat}
    {site copy : Entry.Site} {block : Block}
    (h : MadeFrom lines masked n start stop site copy block) (hn : 0 < n)
    (hfeed : ∀ l ∈ lines, '\n' ∉ l) :
    block.source.pieces = lines.take n ++ site.renamed.pieces := by
  rw [h.source, Text.pieces_append_feed,
    Text.pieces_unlines (h.take_ne_nil hn) fun l hl => hfeed l (List.mem_of_mem_take hl)]

/-! ### The stages of a bundle

Which stages a bundle has is known before any block is read: the outline has a marker for each stage
that is opened, no two for the same one, and none of the required ones is missing. -/

theorem map_stage_spans (n : Nat) (markers : List Marker) :
    (spans n markers).map (fun s => s.1.stage) = markers.map Marker.stage := by
  fun_induction spans n markers with
  | case1 => rfl
  | case2 last => rfl
  | case3 marker next rest ih => rw [List.map_cons, List.map_cons, ih]

theorem map_eq_map_of_forall₂ {α β γ : Type} {f : α → γ} {g : β → γ} {xs : List α} {ys : List β}
    (h : List.Forall₂ (fun x y => f x = g y) xs ys) : xs.map f = ys.map g := by
  induction h with
  | nil => rfl
  | cons hxy _ ih => rw [List.map_cons, List.map_cons, hxy, ih]

/-- What a block that was read from a span has of it. -/
theorem block_of_readBlock {header : Text} {s : Marker × Nat} {block : Block} {lines : List Text}
    {n : Nat} (hlt : s.1.line < s.2)
    (h : readBlock lines (maskLines .code lines) header n s.1 s.2 = .ok block) :
    block.stage = s.1.stage ∧ block.body = .spanning (s.1.line + 2) s.2 ∧ s.1.line + 2 ≤ s.2 := by
  obtain ⟨site, copy, -, -, hsite, -, rfl⟩ :=
    (readBlock_eq_ok_iff (masked_bodyText lines hlt)).mp h
  exact ⟨rfl, rfl, lt_of_bodyText_eq_marked hsite⟩

/-- The blocks are read from the spans in order. -/
theorem Assembles.forall₂_readBlock {options : SplitOptions} {lines : List Text} {outline : Outline}
    {n : Nat} {bundle : Bundle}
    (hknows : outline.Knows options (maskLines .code lines) (maskLines .code lines).length)
    (hnone : outline.problem = none)
    (h : Assembles lines (maskLines .code lines) outline.markers n bundle) :
    List.Forall₂ (fun s block => Block.stage block = s.1.stage ∧
        block.body = .spanning (s.1.line + 2) s.2 ∧ s.1.line + 2 ≤ s.2)
      (spans lines.length outline.markers) bundle.blocks := by
  refine ((List.forall₂_and_left _ _).mpr ⟨fun s hs => ?_, h.blocks⟩).imp fun s block hs =>
    block_of_readBlock hs.1 hs.2
  rw [← length_maskLines .code lines] at hs
  exact ((mem_spans_iff_blockAt hknows hnone).mp hs).lt

theorem Assembles.stages_eq {options : SplitOptions} {lines : List Text} {outline : Outline}
    {n : Nat} {bundle : Bundle}
    (hknows : outline.Knows options (maskLines .code lines) (maskLines .code lines).length)
    (hnone : outline.problem = none)
    (h : Assembles lines (maskLines .code lines) outline.markers n bundle) :
    bundle.stages = outline.markers.map Marker.stage := by
  rw [← map_stage_spans lines.length]
  exact (map_eq_map_of_forall₂ ((h.forall₂_readBlock hknows hnone).imp fun s block hs =>
    hs.1.symm)).symm

/-- A bundle has one block for a stage. -/
theorem nodup_stages_of_split {options : SplitOptions} {name text : Text} {bundle : Bundle}
    (h : split options name text = .ok bundle) : bundle.stages.Nodup := by
  obtain ⟨outline, first, rest, rfl, -, -, hproblem, -, hassembles⟩ := split_eq_ok_iff.mp h
  have hknows := Outline.knows_ofLines options (maskLines .code text.lines)
  rw [hassembles.stages_eq hknows hproblem]
  exact hknows.nodup_stages

/-- A bundle has a block for every required stage. -/
theorem mem_stages_of_split {options : SplitOptions} {name text : Text} {bundle : Bundle}
    (h : split options name text = .ok bundle) {stage : Stage} (hstage : stage.isRequired = true) :
    stage ∈ bundle.stages := by
  obtain ⟨outline, first, rest, rfl, -, hmissing, hproblem, -, hassembles⟩ := split_eq_ok_iff.mp h
  have hknows := Outline.knows_ofLines options (maskLines .code text.lines)
  rw [hassembles.stages_eq hknows hproblem, List.mem_map]
  by_contra hnone
  have hmem : stage ∈ (Outline.ofLines options (maskLines .code text.lines)).missing := by
    refine Outline.mem_missing_iff.mpr ⟨hstage, fun i hi => hnone ?_⟩
    obtain ⟨m, hm, hm'⟩ := hknows.found i hi.lt_length stage hi
    exact ⟨m, hm, hm'⟩
  rw [hmissing] at hmem
  simp at hmem

/-! ### A short file

The file that serves as an instance here and in the modules about partitions and comments. Its
blocks have one line each. -/

/-- A file with two short stages. -/
def shortFile : Text :=
  "#version 410\n#pragma vertex\n@entry void v(){}\n#pragma fragment\n@entry void f(){}\n".toList

/-- That file, taken apart. -/
def shortBundle : Bundle where
  name := []
  header := "#version 410".toList
  version := "#version 410".toList
  blocks :=
    [{ stage := .vertex, source := "#version 410\n       void main(){}".toList, entry := ['v'],
       headerLines := 1, body := .single 3 },
     { stage := .fragment, source := "#version 410\n       void main(){}".toList, entry := ['f'],
       headerLines := 1, body := .single 5 }]

theorem split_shortFile : split {} [] shortFile = .ok shortBundle := by decide +kernel

end Bundle

end ShaderBundle
