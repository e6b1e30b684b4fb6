import ShaderBundle.Proofs.Bundle.Blocks
import ShaderBundle.Proofs.Bundle.LineMap

/-!
# A split file is a partition of its lines

A file that can be taken apart consists of a header, and for each stage of the line that opens it
and the lines of its body. The bodies lie behind one another with one line in between, so every line
of the file is in just one of these parts.

A block's source has as many lines as the header and the body together, and the map of lines sends
them to the lines they came from, in order. Apart from the mark and the name of the entry function
the lines are those of the file.

## What is counted, and how

The parts are given as ranges of lines, counted from one with both ends included, and the theorem
says that they are *all* lines: `Bundle.Partition.lines_eq` is an equation of lists, so nothing is
lost, nothing is there twice, and the order is that of the file. `Tiles` is the same fact in the
form in which it is proved, by going over the bodies from the front.

The map of lines is `Block.fileLine?`, the one that works in words. It reaches every line of the
header and of the body as long as the file does not end with the last line that a word can count;
`Block.Keeps.bijOn` is an equivalence, so it also says that this one file is lost. Numbers that a
compiler could mention but the source does not have are no concern of this module.

## Masked lines

Where a stage opens is decided by the masked copy of the file, and so is where the header ends. The
texts of the parts, on the other hand, are those of the file itself. The statements keep the two
apart: `lines` are the lines of the file, `masked` those of its copy.

## Main definitions

* `Tiles`: bodies that lie behind one another with one line in between.
* `Block.Keeps`: what a block keeps of the file's lines.
* `Bundle.Partition`: the parts of a file make up the file.

## Main results

* `Tiles.lines_eq`: nothing is lost between bodies that tile a file, and nothing is in two of them.
* `Bundle.MadeFrom.keeps`: what is made from a part keeps its lines.
* `Bundle.split_partition`: a file that can be taken apart is partitioned.
-/

namespace ShaderBundle

/-! ### Bodies that tile a file -/

/-- Bodies behind the first `last` lines of a file with `n` lines: each has one line in front of it,
and behind the last one the file ends. -/
inductive Tiles (n : Nat) : Nat → List LineRange → Prop where
  | done : Tiles n n []
  | next {last : Nat} {body : LineRange} {rest : List LineRange} (hstart : body.start = last + 2)
    (h : Tiles n body.stop rest) : Tiles n last (body :: rest)

/-- The lines of a range, in order. -/
def LineRange.toList (range : LineRange) : List Nat :=
  List.range' range.start range.count

/-- **The lines in front, and with each body the line before it, are all lines of the file, once and
in order.** -/
theorem Tiles.lines_eq {n last : Nat} {bodies : List LineRange} (h : Tiles n last bodies) :
    List.range' 1 last ++ bodies.flatMap (fun body => (body.start - 1) :: body.toList) =
      List.range' 1 n := by
  induction h with
  | done => simp
  | @next last body rest hstart h ih =>
    have hstop : last + (body.count + 1) = body.stop := by
      have := body.start_le_stop
      rw [LineRange.count]
      omega
    have hbody : (body.start - 1) :: body.toList = List.range' (1 + last) (body.count + 1) := by
      rw [List.range'_succ, LineRange.toList, hstart]
      congr 1
      · omega
      · congr 1
        omega
    rw [List.flatMap_cons, ← List.append_assoc, hbody, List.range'_append_1, hstop, ih]

/-- Bodies that tile a file lie between the lines in front and the end of the file. -/
theorem Tiles.bounds {n last : Nat} {bodies : List LineRange} (h : Tiles n last bodies) :
    last ≤ n ∧ ∀ body ∈ bodies, last + 2 ≤ body.start ∧ body.stop ≤ n := by
  induction h with
  | done => exact ⟨Nat.le_refl _, List.forall_mem_nil _⟩
  | @next last body rest hstart h ih =>
    have := body.start_le_stop
    refine ⟨by omega, List.forall_mem_cons.mpr ⟨⟨hstart.ge, ih.1⟩, fun other hother => ?_⟩⟩
    have := ih.2 other hother
    omega

/-! ### What a block keeps -/

namespace Block

/-- What a stage's block keeps of the lines of its file, `n` of which are the header. -/
structure Keeps (lines masked : List Text) (n : Nat) (block : Block) : Prop where
  /-- The line before the body opens the stage. -/
  opens : Opens masked (block.body.start - 2) block.stage
  /-- The header's lines are counted. -/
  headerLines : block.headerLines = n
  /-- The source has a line for every line of the header and of the body. -/
  length : block.source.pieces.length = block.headerLines + block.body.count
  /-- Its first lines are the header. -/
  header : block.source.pieces.take block.headerLines = lines.take n
  /-- Its other lines are the body's, with the mark of the entry function blanked out and the name
  behind it replaced. -/
  edited : ∃ site copy : Entry.Site,
    bodyText lines (block.body.start - 2) block.body.stop = site.marked ∧
    bodyText masked (block.body.start - 2) block.body.stop = copy.marked ∧
    site.Shows copy ∧ copy.IsEntry ∧ block.entry = site.name ∧
    block.source.pieces.drop block.headerLines = site.renamed.pieces
  /-- The lines of the source are mapped in order. -/
  strictMono : ∀ a ∈ block.sourceLines, ∀ b ∈ block.sourceLines, a < b →
    ∀ x y, block.fileLine? a = some x → block.fileLine? b = some y → x < y
  /-- A line of the source is found if it is one of the header's, or if its successor in the file is
  a word. -/
  found : ∀ line ∈ block.sourceLines, block.fileLine? line = some (block.fileLine line) ↔
    line ≤ n ∨ block.fileLine line + 1 < wordBound
  /-- They are mapped, each to one and each from one, to the lines of the header and of the body,
  unless the body ends with the last line that a word can count. -/
  bijOn : Set.BijOn block.fileLine? block.sourceLines
      (some '' (Set.Icc 1 n ∪ Set.Icc block.body.start block.body.stop)) ↔
    block.body.stop + 1 < wordBound

end Block

namespace Bundle

/-- How a bundle is made up of the lines of its file, of which the first `n` are the header. -/
structure Partition (lines masked : List Text) (n : Nat) (bundle : Bundle) : Prop where
  /-- The header goes on to the first line that opens a stage. -/
  ends : HeaderEnds masked n
  /-- The header is these lines, joined. -/
  header : bundle.header = Text.unlines (lines.take n)
  /-- There is one block for a stage. -/
  nodup : bundle.stages.Nodup
  /-- There is a vertex stage. -/
  vertex : Stage.vertex ∈ bundle.stages
  /-- There is a fragment stage. -/
  fragment : Stage.fragment ∈ bundle.stages
  /-- The bodies lie behind one another. -/
  tiles : Tiles lines.length n (bundle.blocks.map Block.body)
  /-- The header, the lines that open a stage and the bodies are the file. -/
  lines_eq : List.range' 1 n ++
    bundle.blocks.flatMap (fun block => (block.body.start - 1) :: block.body.toList) =
      List.range' 1 lines.length
  /-- What each block keeps. -/
  keeps : ∀ block ∈ bundle.blocks, block.Keeps lines masked n

/-! ### A block keeps its lines -/

variable {lines masked : List Text} {n start stop : Nat} {site copy : Entry.Site} {block : Block}

theorem MadeFrom.start_body (h : MadeFrom lines masked n start stop site copy block) :
    block.body.start = start + 2 := by
  rw [h.body, LineRange.start_spanning]

theorem MadeFrom.stop_body (h : MadeFrom lines masked n start stop site copy block) :
    block.body.stop = stop := by
  rw [h.body, LineRange.stop_spanning h.lt]

/-- The edited text has a line for every line of the body. -/
theorem MadeFrom.length_renamed (h : MadeFrom lines masked n start stop site copy block)
    (hfeed : ∀ l ∈ lines, '\n' ∉ l) : site.renamed.pieces.length = block.body.count := by
  have hword : Entry.IsWord site.name := h.shows.name ▸ h.isEntry.declares.isWord
  have hlength : (between (start + 1) stop lines).length = stop - (start + 1) := by
    rw [between, List.length_drop, List.length_take, Nat.min_eq_left h.le_length]
  have hne : between (start + 1) stop lines ≠ [] := by
    rw [← List.length_pos_iff, hlength]
    have := h.lt
    omega
  have hbetween : ∀ l ∈ between (start + 1) stop lines, '\n' ∉ l := fun l hl =>
    hfeed l (List.mem_of_mem_take (List.mem_of_mem_drop hl))
  calc site.renamed.pieces.length
      = site.renamed.feeds + 1 := Text.length_pieces _
    _ = Text.feeds (bodyText lines start stop) + 1 := by
        rw [h.site_eq, Entry.feeds_renamed hword]
    _ = stop - (start + 1) := by rw [bodyText, Text.feeds_unlines hne hbetween, hlength]
    _ = block.body.count := by
        have := h.lt
        rw [LineRange.count, h.start_body, h.stop_body]
        omega

theorem MadeFrom.keeps (h : MadeFrom lines masked n start stop site copy block) (hn : 0 < n)
    (hfeed : ∀ l ∈ lines, '\n' ∉ l) : block.Keeps lines masked n := by
  have hstart : block.body.start - 2 = start := by
    rw [h.start_body]
    omega
  have hlt : block.headerLines < block.body.start := by
    have := h.header_le
    rw [h.headerLines, h.start_body]
    omega
  have hlength := h.length_take
  have hpieces := h.pieces_source hn hfeed
  exact {
    opens := by
      rw [hstart]
      exact h.blockAt.opens
    headerLines := h.headerLines
    length := by rw [hpieces, List.length_append, hlength, h.length_renamed hfeed, h.headerLines]
    header := by rw [hpieces, h.headerLines, List.take_left' hlength]
    edited := by
      rw [hstart, h.stop_body, h.headerLines, hpieces, List.drop_left' hlength]
      exact ⟨site, copy, h.site_eq, h.copy_eq, h.shows, h.isEntry, h.entry, rfl⟩
    strictMono := fun a ha b hb hab x y => Block.lt_of_fileLine? hlt ha hb hab
    found := fun line _ => by
      rw [Block.fileLine?_eq_some_iff, h.headerLines]
    bijOn := by
      have hbij := Block.bijOn_fileLine?_iff hlt
      rwa [Block.ownLines, h.headerLines] at hbij }

/-! ### The parts make up the file -/

/-- The bodies read from spans tile the file. -/
theorem tiles_of_spans {n : Nat} {first : Marker} {rest : List Marker} {blocks : List Block}
    (h : List.Forall₂ (fun s block => Block.body block = .spanning (s.1.line + 2) s.2 ∧
      s.1.line + 2 ≤ s.2) (spans n (first :: rest)) blocks) :
    Tiles n first.line (blocks.map Block.body) := by
  induction rest generalizing first blocks with
  | nil =>
    rw [spans, List.forall₂_cons_left_iff] at h
    obtain ⟨block, blocks, ⟨hbody, hle⟩, htail, rfl⟩ := h
    obtain rfl := List.forall₂_nil_left_iff.mp htail
    refine .next (by rw [hbody, LineRange.start_spanning]) ?_
    rw [hbody, LineRange.stop_spanning hle]
    exact .done
  | cons next rest ih =>
    rw [spans, List.forall₂_cons_left_iff] at h
    obtain ⟨block, blocks, ⟨hbody, hle⟩, htail, rfl⟩ := h
    refine .next (by rw [hbody, LineRange.start_spanning]) ?_
    rw [hbody, LineRange.stop_spanning hle]
    exact ih htail

/-- **A file that can be taken apart is partitioned.** -/
theorem split_partition {options : SplitOptions} {name text : Text} {bundle : Bundle}
    (h : split options name text = .ok bundle) :
    ∃ n, Partition text.lines (Text.lines (mask text)) n bundle := by
  rw [lines_mask]
  obtain ⟨outline, first, rest, rfl, hmarkers, hmissing, hproblem, -, hassembles⟩ :=
    split_eq_ok_iff.mp h
  have hknows := Outline.knows_ofLines options (maskLines .code text.lines)
  have hread := hassembles.forall₂_readBlock hknows hproblem
  rw [hmarkers] at hread
  have htiles : Tiles text.lines.length first.line (bundle.blocks.map Block.body) :=
    tiles_of_spans (hread.imp fun s block hs => hs.2)
  refine ⟨first.line, hknows.headerEnds hproblem hmarkers, hassembles.header,
    nodup_stages_of_split h, mem_stages_of_split h rfl, mem_stages_of_split h rfl, htiles, ?_, ?_⟩
  · rw [← htiles.lines_eq, List.flatMap_map]
  · intro block hblock
    obtain ⟨start, stop, site, copy, hmade⟩ :=
      hassembles.exists_madeFrom hknows hproblem hmarkers hblock
    exact hmade.keeps hassembles.pos fun l hl => Text.feed_notMem_of_mem_lines hl

theorem split_partition_shortFile :
    split {} [] shortFile = .ok shortBundle ∧
      ∃ n, Partition shortFile.lines (Text.lines (mask shortFile)) n shortBundle :=
  ⟨split_shortFile, split_partition split_shortFile⟩

end Bundle

end ShaderBundle
