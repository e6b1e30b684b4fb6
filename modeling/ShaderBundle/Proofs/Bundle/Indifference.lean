import ShaderBundle.Proofs.Bundle.Comments
import ShaderBundle.Proofs.Bundle.Verdict

/-!
# What splitting does not look at

Two things about a file are of no consequence for the way it is split. One is how its lines end: a
carriage return in front of a line feed belongs to the line break, also inside a comment. The other
is what its comments say: all decisions are taken on the masked text, and what is cut out of the
text itself is cut at positions of the masked text.

The first holds of the whole result. The second cannot, since header and sources are passed on with
their comments, so it is about a bundle's plan: which stages it has, the names of their entry
functions, and where their lines come from.

## Line endings

The splitter reads lines before it does anything else, so it is enough that a text with other line
endings has the same lines. It has if the text has no carriage returns of its own. With one in front
of a feed there would be two afterwards, of which a reader of lines drops only the last.

## Comments

Two texts with the same masked copy need not have anything else in common. Errors are easy: what is
refused and why was shown to depend on the masked lines only, places of errors included. The plan of
an accepted file is compared block by block. Both files have the same spans, since these come from
masked lines, and from one span both are read as a block; what a block has of the masked text alone
is then equal.

That both are accepted or both refused is not assumed. It follows from the verdict on masked lines.

## Main definitions

* `Text.withReturns`: the text with a carriage return in front of each line feed.
* `Block.plan`, `Bundle.plan`: a block and a bundle without their texts.

## Main results

* `Text.lines_withReturns`: a text without carriage returns keeps its lines.
* `Bundle.split_withReturns`: nor does it matter to the splitter.
* `Bundle.plan_split_eq_of_mask_eq`: equal copies give equal plans, or equal errors.
-/

namespace ShaderBundle

/-! ### Line endings -/

namespace Text

/-- The text with a carriage return in front of each line feed. -/
def withReturns (s : Text) : Text :=
  s.flatMap fun c => if c = '\n' then ['\r', '\n'] else [c]

@[simp] theorem withReturns_append (s t : Text) :
    withReturns (s ++ t) = withReturns s ++ withReturns t :=
  List.flatMap_append

@[simp] theorem withReturns_feed (s : Text) :
    withReturns ('\n' :: s) = '\r' :: '\n' :: withReturns s := by
  simp [withReturns]

theorem withReturns_of_feed_notMem {s : Text} (h : '\n' ∉ s) : withReturns s = s := by
  induction s with
  | nil => rfl
  | cons c s ih =>
    rw [List.mem_cons, not_or] at h
    have hs := ih h.2
    rw [withReturns] at hs ⊢
    rw [List.flatMap_cons, if_neg (Ne.symm h.1), hs, List.singleton_append]

/-- A text is one line, without an ending, up to its first line feed. -/
theorem lines_append_feed {p : Text} (h : '\n' ∉ p) (s : Text) :
    lines (p ++ '\n' :: s) = dropReturn p :: lines s := by
  have hp : pieces p = [p] := by
    simpa using pieces_unlines (List.cons_ne_nil p []) (by simpa using h)
  obtain ⟨q, qs, hs⟩ := List.exists_cons_of_ne_nil (pieces_ne_nil s)
  rw [lines, lines, pieces_append_feed, hp, hs, List.singleton_append, closeLines]

/-- **A text without carriage returns has the same lines when its line feeds get one.** -/
theorem lines_withReturns {s : Text} (h : '\r' ∉ s) : lines (withReturns s) = lines s := by
  -- The induction is on the parts between line feeds; only the last of them is not followed by one.
  have hparts : ∀ ps : List Text, (∀ p ∈ ps, '\n' ∉ p) → '\r' ∉ unlines ps →
      lines (withReturns (unlines ps)) = lines (unlines ps) := by
    intro ps hfeed hreturn
    induction ps with
    | nil => rfl
    | cons p ps ih =>
      have hp := hfeed p List.mem_cons_self
      by_cases hnil : ps = []
      · subst hnil
        rw [unlines_singleton, withReturns_of_feed_notMem hp]
      · rw [unlines_cons_of_ne_nil p hnil] at hreturn ⊢
        have ih := ih (fun q hq => hfeed q (List.mem_cons_of_mem _ hq)) (by grind)
        have hend : '\n' ∉ p ++ ['\r'] := by simpa using hp
        have hlast : p.getLast? ≠ some '\r' := fun hlast =>
          hreturn (List.mem_append_left _ (List.mem_of_getLast? hlast))
        calc lines (withReturns (p ++ '\n' :: unlines ps))
            = lines ((p ++ ['\r']) ++ '\n' :: withReturns (unlines ps)) := by
              rw [withReturns_append, withReturns_feed, withReturns_of_feed_notMem hp,
                List.append_assoc, List.singleton_append]
          _ = p :: lines (unlines ps) := by
              rw [lines_append_feed hend, dropReturn_append_return, ih]
          _ = lines (p ++ '\n' :: unlines ps) := by
              rw [lines_append_feed hp, dropReturn_of_getLast? hlast]
  have hs := hparts s.pieces fun p => feed_notMem_of_mem_pieces
  rw [unlines_pieces] at hs
  exact hs h

end Text

namespace Bundle

variable {options : SplitOptions}

/-- Splitting depends on the lines of a text, in which line endings are left out. -/
theorem split_eq_of_lines_eq {name text text' : Text} (h : text.lines = text'.lines) :
    split options name text = split options name text' := by
  rw [split_eq, split_eq, h]

/-- **Line endings do not matter**: a text without carriage returns is split, or refused, in the
same way when each of its line feeds gets one. -/
theorem split_withReturns (options : SplitOptions) (name : Text) {text : Text} (h : '\r' ∉ text) :
    split options name text.withReturns = split options name text :=
  split_eq_of_lines_eq (Text.lines_withReturns h)

/-- A file whose comments run over lines and hold words of the grammar. -/
def commentedFile : Text :=
  ("#version 410 // é\n/* #pragma vertex\n @entry */\n#pragma vertex\n@entry void /*(*/ v(){}\n" ++
    "#pragma fragment\n@entry void f(){}").toList

theorem split_withReturns_commentedFile :
    '\r' ∉ commentedFile ∧ split {} [] commentedFile.withReturns = split {} [] commentedFile ∧
      (split {} [] commentedFile).isOk = true := by
  have hreturn : '\r' ∉ commentedFile := by decide +kernel
  exact ⟨hreturn, split_withReturns {} [] hreturn, by decide +kernel⟩

end Bundle

/-! ### What comments say -/

/-- A block without its text: where it belongs and where it is from. -/
structure Block.Plan where
  /-- The stage. -/
  stage : Stage
  /-- The name the entry function had in the file. -/
  entry : Text
  /-- How many lines of the source come from the header. -/
  headerLines : Nat
  /-- The lines of the file that hold the body. -/
  body : LineRange
  deriving DecidableEq, Repr

/-- The block without its text. -/
def Block.plan (block : Block) : Block.Plan where
  stage := block.stage
  entry := block.entry
  headerLines := block.headerLines
  body := block.body

/-- The blocks without their texts, in file order. -/
def Bundle.plan (bundle : Bundle) : List Block.Plan :=
  bundle.blocks.map Block.plan

namespace Bundle

variable {options : SplitOptions}

/-- Two texts with one masked copy that can both be read as a block give the same plan. -/
theorem plan_eq_of_readBlock {lines lines' masked : List Text} {header header' : Text} {n : Nat}
    {marker : Marker} {stop : Nat} {block block' : Block}
    (hmasked : Masked (bodyText lines marker.line stop) (bodyText masked marker.line stop))
    (hmasked' : Masked (bodyText lines' marker.line stop) (bodyText masked marker.line stop))
    (h : readBlock lines masked header n marker stop = .ok block)
    (h' : readBlock lines' masked header' n marker stop = .ok block') :
    block.plan = block'.plan := by
  obtain ⟨site, copy, hcopy, hentry, -, hshows, rfl⟩ := (readBlock_eq_ok_iff hmasked).mp h
  obtain ⟨site', copy', hcopy', hentry', -, hshows', rfl⟩ := (readBlock_eq_ok_iff hmasked').mp h'
  obtain rfl := hentry.unique hentry' (hcopy.symm.trans hcopy')
  have hname : site.name = site'.name := hshows.name.symm.trans hshows'.name
  simp only [Block.plan, hname]

theorem map_eq_map_of_forall₂_both {α β γ : Type} {R R' : α → β → Prop} {f : β → γ} {xs : List α}
    {ys ys' : List β} (h : List.Forall₂ R xs ys) (h' : List.Forall₂ R' xs ys')
    (heq : ∀ x ∈ xs, ∀ y y', R x y → R' x y' → f y = f y') : ys.map f = ys'.map f := by
  induction h generalizing ys' with
  | nil =>
    cases h'
    rfl
  | @cons x y xs ys hxy _ ih =>
    obtain ⟨y', ys'', hxy', htail, rfl⟩ := List.forall₂_cons_left_iff.mp h'
    rw [List.map_cons, List.map_cons, heq x List.mem_cons_self y y' hxy hxy',
      ih htail fun x hx => heq x (List.mem_cons_of_mem _ hx)]

/-- Two files with one masked copy that can both be taken apart have the same plan. -/
theorem plan_eq_of_split {name name' text text' : Text} {bundle bundle' : Bundle}
    (hmask : mask text = mask text') (h : split options name text = .ok bundle)
    (h' : split options name' text' = .ok bundle') : bundle.plan = bundle'.plan := by
  -- the masked lines are the same, and so is the number of lines
  have hlines : maskLines .code text.lines = maskLines .code text'.lines := by
    rw [← lines_mask, ← lines_mask, hmask]
  have hlength : text.lines.length = text'.lines.length := by
    rw [← length_maskLines .code text.lines, hlines, length_maskLines]
  obtain ⟨_, first, rest, rfl, hmarkers, -, hproblem, -, hassembles⟩ := split_eq_ok_iff.mp h
  obtain ⟨_, first', rest', rfl, hmarkers', -, -, -, hassembles'⟩ := split_eq_ok_iff.mp h'
  -- one outline serves both files, and its spans are read in both
  rw [← hlines] at hmarkers' hassembles'
  obtain ⟨rfl, rfl⟩ := List.cons.inj (hmarkers.symm.trans hmarkers')
  have hblocks' := hassembles'.blocks
  rw [← hlength] at hblocks'
  have hknows := Outline.knows_ofLines options (maskLines .code text.lines)
  refine map_eq_map_of_forall₂_both hassembles.blocks hblocks' fun s hs block block' hread hread' =>
    plan_eq_of_readBlock (masked_bodyText text.lines ?_) (hlines ▸ masked_bodyText text'.lines ?_)
      hread hread'
  all_goals
    rw [← length_maskLines .code text.lines] at hs
    exact ((mem_spans_iff_blockAt hknows hproblem).mp hs).lt

/-- **Comments do not influence how a file is split**: of two texts with one masked copy, both are
refused with the same error, or both are taken apart into blocks for the same stages in the same
order, with the same entry names, header lines and body lines. -/
theorem plan_split_eq_of_mask_eq (options : SplitOptions) (name name' : Text) {text text' : Text}
    (hmask : mask text = mask text') :
    (split options name text).map plan = (split options name' text').map plan := by
  have herror : ∀ e, split options name text = .error e ↔ split options name' text' = .error e := by
    intro e
    rw [split_eq_error_iff_refused, split_eq_error_iff_refused, hmask]
  cases h : split options name text with
  | error e => rw [(herror e).mp h]
  | ok bundle =>
    cases h' : split options name' text' with
    | error e =>
      rw [(herror e).mpr h'] at h
      simp at h
    | ok bundle' => exact congrArg Except.ok (plan_eq_of_split hmask h h')

/-- That file, with other comments of the same size. -/
def recommentedFile : Text :=
  ("#version 410 ////!\n/* no pragma.....\n either!*/\n#pragma vertex\n@entry void /*)*/ v(){}\n" ++
    "#pragma fragment\n@entry void f(){}").toList

theorem plan_split_recommentedFile :
    mask commentedFile = mask recommentedFile ∧ commentedFile ≠ recommentedFile ∧
      (split {} [] commentedFile).map plan = (split {} [] recommentedFile).map plan ∧
      (split {} [] recommentedFile).map plan = .ok
        [{ stage := .vertex, entry := ['v'], headerLines := 3, body := .single 5 },
         { stage := .fragment, entry := ['f'], headerLines := 3, body := .single 7 }] := by
  have hmask : mask commentedFile = mask recommentedFile := by decide +kernel
  exact ⟨hmask, by decide +kernel, plan_split_eq_of_mask_eq {} [] [] hmask, by decide +kernel⟩

end Bundle

end ShaderBundle
