import Mathlib.Data.List.TakeWhile
import ShaderBundle.Proofs.Bundle.Blocks
import ShaderBundle.Proofs.Headless.Layout
import ShaderBundle.Proofs.Headless.Outcome

/-!
# Builds and what was built before

One headless backend serves many builds. What a build comes to depends on the builds before it
through the table of varyings, and this module says for which bundles it does: for those in which a
block that comes to be compiled declares a varying without a layout. The front end is any function,
so a bundle counts as independent of the past only if it is for every front end.

For a bundle with such a varying there is a front end that tells two states apart: it accepts
everything but the block's source as it is laid out behind the other state.

## What counts as the past

A state is `Reachable` if builds of files and destructions of programs lead to it, from a fresh
backend. The bundles of these builds come from files, as they do in the library, and not from
anywhere. So a past has to be made of files: the one used here is a short file with a vertex stage
that declares one varying. Whatever the front end says to that file, the name of the varying is in
the table behind it.

## Two notions of independence

`HistoryFree` asks that a build comes to the same in all reachable states, stages and errors
included. `HistoryFreeSuccess` asks only whether it succeeds. The first holds exactly for bundles
without a varying to lay out. The second holds for more bundles, for a reason that has nothing to do
with varyings: a file with a stage that is neither vertex nor fragment never builds, and so it fails
behind every past. Both equivalences are needed to settle for which files the past does not show.

## The front end that tells

`refusing stage source` refuses one source for one stage and makes an empty module of everything
else. Empty modules link, since they read nothing. For a bundle of a vertex and a fragment stage it
therefore succeeds in one state and fails in the other; for other bundles the failure in one state
is not the failure in the other. The first varying in file order is what is used, so that the blocks
before it come out alike over both tables.

## Main definitions

* `Reachable`: the states that builds and destructions lead to.
* `Unvarying`: no block that comes to be compiled declares a varying without a layout.
* `HistoryFree`, `HistoryFreeSuccess`: what a build comes to does not depend on what was built
  before.

## Main results

* `historyFree_iff`, `historyFreeSuccess_iff`: for which bundles that is so.
-/

namespace ShaderBundle.Headless

variable {front : FrontEnd}

/-! ### States -/

/-- The states of a backend that builds of files, and destructions of programs, lead to. -/
inductive Reachable (front : FrontEnd) : State → Prop where
  | fresh : Reachable front {}
  | build {s : State} (h : Reachable front s) {options : SplitOptions} {name text : Text}
    {bundle : Bundle} (hsplit : Bundle.split options name text = .ok bundle) (validate : Bool) :
    Reachable front ((Build.build (backend front) bundle validate).run s).2
  | destroy {s : State} (h : Reachable front s) (program : ProgramId) :
    Reachable front (s.deleteProgram program)

/-- In a reachable state the numbers in use were handed out. -/
theorem Reachable.fits {s : State} (h : Reachable front s) : s.Fits := by
  induction h with
  | fresh => exact ⟨by simp, by simp⟩
  | build _ _ validate ih => exact ih.build _ validate
  | destroy _ program ih => exact ih.deleteProgram program

/-! ### Bundles without varyings to lay out

Compiling stops at the first block of a kind that the front end does not read. What stands behind it
in the file never matters, whatever it declares. -/

/-- The blocks up to the first one of a kind that the front end does not read. Those behind it are
never compiled. -/
def readable (blocks : List Block) : List Block :=
  blocks.takeWhile fun block => State.supports block.stage

/-- No block that comes to be compiled declares a varying without a layout. -/
def Unvarying (bundle : Bundle) : Prop :=
  ∀ block ∈ readable bundle.blocks, hasVarying block.stage block.source = false

theorem moduleOf_of_not_supports {block : Block} (h : State.supports block.stage = false)
    (table : Varyings) :
    moduleOf front table block = .error (State.unsupportedLog block.stage) := by
  rw [moduleOf, if_neg (by rw [h]; exact Bool.false_ne_true)]

theorem moduleOf_of_not_hasVarying {block : Block}
    (h : hasVarying block.stage block.source = false) (table table' : Varyings) :
    moduleOf front table block = moduleOf front table' block := by
  rw [moduleOf, moduleOf, (assign_of_not_hasVarying h table table').1]

theorem tableBehind_of_not_hasVarying {block : Block}
    (h : hasVarying block.stage block.source = false) (table : Varyings) :
    tableBehind table block = table := by
  rw [tableBehind, (assign_of_not_hasVarying h table table).2, ite_self]

/-- Without varyings to lay out, the table does not matter. -/
theorem modulesOf_of_unvarying {blocks : List Block}
    (h : ∀ block ∈ readable blocks, hasVarying block.stage block.source = false)
    (table table' : Varyings) : modulesOf front table blocks = modulesOf front table' blocks := by
  induction blocks with
  | nil => rfl
  | cons block rest ih =>
    rw [modulesOf, modulesOf]
    cases hsupports : State.supports block.stage with
    | false =>
      rw [moduleOf_of_not_supports hsupports, moduleOf_of_not_supports hsupports]
    | true =>
      have hreadable : readable (block :: rest) = block :: readable rest := by
        simp only [readable, List.takeWhile_cons, hsupports, if_true]
      rw [hreadable] at h
      have hblock := h block List.mem_cons_self
      rw [moduleOf_of_not_hasVarying hblock table table', tableBehind_of_not_hasVarying hblock,
        tableBehind_of_not_hasVarying hblock, ih fun b hb => h b (List.mem_cons_of_mem block hb)]

theorem outcome_of_unvarying {bundle : Bundle} (h : Unvarying bundle) (table table' : Varyings) :
    outcome front table bundle = outcome front table' bundle := by
  rw [outcome, outcome, modulesOf_of_unvarying h table table']

/-! ### Front ends that tell tables apart -/

/-- A front end that refuses one source of one stage, and accepts everything else. -/
def refusing (stage : Stage) (source : Text) : FrontEnd := fun stage' source' =>
  if stage' = stage ∧ source' = source then .error [] else .ok {}

/-- Blocks of other stages are accepted. -/
theorem modulesOf_refusing_append {stage : Stage} {source : Text} {before : List Block}
    (hsupports : ∀ block ∈ before, State.supports block.stage = true)
    (hne : ∀ block ∈ before, block.stage ≠ stage) (table : Varyings) (rest : List Block) :
    modulesOf (refusing stage source) table (before ++ rest) =
      (modulesOf (refusing stage source) (before.foldl tableBehind table) rest).map
        (Except.map fun found => before.map (fun block => (block.stage, {})) ++ found) := by
  induction before generalizing table with
  | nil =>
    rw [List.nil_append, List.foldl_nil]
    rcases modulesOf (refusing stage source) table rest with _ | _ | _ <;> rfl
  | cons block before ih =>
    have hmodule : moduleOf (refusing stage source) table block = .ok {} := by
      rw [moduleOf, if_pos (hsupports block List.mem_cons_self), refusing,
        if_neg fun h => hne block List.mem_cons_self h.1]
    rw [List.cons_append, modulesOf, hmodule, List.foldl_cons]
    simp only
    rw [ih (fun b hb => hsupports b (List.mem_cons_of_mem block hb))
      (fun b hb => hne b (List.mem_cons_of_mem block hb))]
    rcases modulesOf (refusing stage source) (before.foldl tableBehind (tableBehind table block))
      rest with _ | _ | _ <;> rfl

theorem modulesOf_refusing {stage : Stage} {source : Text} {blocks : List Block}
    (hsupports : ∀ block ∈ blocks, State.supports block.stage = true)
    (hne : ∀ block ∈ blocks, block.stage ≠ stage) (table : Varyings) :
    modulesOf (refusing stage source) table blocks =
      some (.ok (blocks.map fun block => (block.stage, {}))) := by
  have happend : modulesOf (refusing stage source) table (blocks ++ []) = _ :=
    modulesOf_refusing_append hsupports hne table []
  rw [List.append_nil] at happend
  rw [happend, modulesOf, Option.map_some, Except.map, List.append_nil]

theorem foldl_tableBehind_of_not_hasVarying {blocks : List Block}
    (h : ∀ block ∈ blocks, hasVarying block.stage block.source = false) (table : Varyings) :
    blocks.foldl tableBehind table = table := by
  induction blocks with
  | nil => rfl
  | cons block rest ih =>
    rw [List.foldl_cons, tableBehind_of_not_hasVarying (h block List.mem_cons_self),
      ih fun b hb => h b (List.mem_cons_of_mem block hb)]

/-- A refusal is that of a block. -/
theorem exists_of_modulesOf_eq_error {table : Varyings} {blocks : List Block} {e : BuildError}
    (h : modulesOf front table blocks = some (.error e)) :
    ∃ block ∈ blocks, ∃ diagnostics, e = .compile block.stage diagnostics := by
  induction blocks generalizing table with
  | nil => simp [modulesOf] at h
  | cons block rest ih =>
    rcases modulesOf_cons_eq_error_iff.mp h with ⟨-, diagnostics, -, -, he⟩ | ⟨-, -, hrest⟩
    · exact ⟨block, List.mem_cons_self, diagnostics, he⟩
    · obtain ⟨b, hb, diagnostics, he⟩ := ih hrest
      exact ⟨b, List.mem_cons_of_mem block hb, diagnostics, he⟩

/-- The first block that comes to be compiled and has a varying, and the blocks around it. -/
structure FirstVarying (bundle : Bundle) (before : List Block) (block : Block)
    (after : List Block) : Prop where
  /-- These are the blocks. -/
  blocks : bundle.blocks = before ++ block :: after
  /-- The front end reads those before it. -/
  supports_before : ∀ b ∈ before, State.supports b.stage = true
  /-- They have no varying. -/
  fixed_before : ∀ b ∈ before, hasVarying b.stage b.source = false
  /-- The front end reads it. -/
  supports : State.supports block.stage = true
  /-- It has a varying. -/
  varying : hasVarying block.stage block.source = true
  /-- Those before it are of other stages. -/
  stage_before : ∀ b ∈ before, b.stage ≠ block.stage
  /-- Those behind it are, too. -/
  stage_after : ∀ b ∈ after, b.stage ≠ block.stage

theorem exists_firstVarying {bundle : Bundle} (hnodup : bundle.stages.Nodup)
    (h : ¬Unvarying bundle) : ∃ before block after, FirstVarying bundle before block after := by
  have hsome : ((readable bundle.blocks).find? fun b => hasVarying b.stage b.source).isSome := by
    rw [List.find?_isSome]
    by_contra hnone
    refine h fun block hblock => ?_
    rw [← Bool.not_eq_true]
    exact fun hvarying => hnone ⟨block, hblock, hvarying⟩
  -- the first block with a varying, among those that come to be compiled
  obtain ⟨block, hfind⟩ := Option.isSome_iff_exists.mp hsome
  obtain ⟨hvarying, before, after, heq, hbefore⟩ := List.find?_eq_some_iff_append.mp hfind
  have hsupports : ∀ b ∈ readable bundle.blocks, State.supports b.stage = true := fun b hb =>
    List.mem_takeWhile_imp (p := fun b : Block => State.supports b.stage) hb
  have hblocks : bundle.blocks =
      before ++ block :: (after ++ bundle.blocks.dropWhile fun b => State.supports b.stage) := by
    rw [← List.cons_append, ← List.append_assoc, ← heq, readable, List.takeWhile_append_dropWhile]
  rw [heq] at hsupports
  -- a bundle has one block for a stage, so the others are of other stages
  rw [Bundle.stages, hblocks, List.map_append, List.map_cons, List.nodup_append,
    List.nodup_cons] at hnodup
  exact ⟨before, block, _, {
    blocks := hblocks
    supports_before := fun b hb => hsupports b (List.mem_append_left _ hb)
    fixed_before := fun b hb => by simpa using hbefore b hb
    supports := hsupports block (List.mem_append_right _ List.mem_cons_self)
    varying := hvarying
    stage_before := fun b hb => hnodup.2.2 b.stage (List.mem_map_of_mem hb) block.stage
      List.mem_cons_self
    stage_after := fun b hb hsame => hnodup.2.1.1 (hsame ▸ List.mem_map_of_mem hb) }⟩

/-! ### Two pasts

A fresh backend, and one behind the build of a file with one varying. The name of the varying is one
of two, so that it can be chosen to differ from any given name. -/

/-- A file whose vertex stage has one varying. -/
def priorFile (name : Char) : Text :=
  "#version 450\n#pragma vertex\nout float ".toList ++
    name :: ";\n@entry void v(){}\n#pragma fragment\n@entry void f(){}\n".toList

/-- That file, taken apart. -/
def priorBundle (name : Char) : Bundle where
  name := []
  header := "#version 450".toList
  version := "#version 450".toList
  blocks :=
    [{ stage := .vertex
       source := "#version 450\nout float ".toList ++ name :: ";\n       void main(){}".toList
       entry := ['v'], headerLines := 1, body := .spanning 3 4 },
     { stage := .fragment, source := "#version 450\n       void main(){}".toList
       entry := ['f'], headerLines := 1, body := .single 6 }]

theorem split_priorFile {name : Char} (h : name = 'a' ∨ name = 'b') :
    Bundle.split {} [] (priorFile name) = .ok (priorBundle name) := by
  rcases h with rfl | rfl <;> decide +kernel

/-- Whatever the front end says to that file, the name of its varying is remembered. -/
theorem tableAfter_priorBundle (front : FrontEnd) {name : Char} (h : name = 'a' ∨ name = 'b') :
    tableAfter front {} (priorBundle name).blocks = ⟨[[name]]⟩ := by
  have htables : ∀ block ∈ (priorBundle name).blocks,
      tableBehind {} block = (if block.stage = .vertex then ⟨[[name]]⟩ else {}) ∧
        tableBehind ⟨[[name]]⟩ block = ⟨[[name]]⟩ := by
    rcases h with rfl | rfl <;> decide +kernel
  have hvertex := (htables _ List.mem_cons_self).1
  have hfragment := (htables _ (List.mem_cons_of_mem _ List.mem_cons_self)).2
  rw [if_pos rfl] at hvertex
  rw [priorBundle, tableAfter, hvertex]
  split
  · rfl
  · rw [tableAfter, hfragment]
    split <;> rfl

theorem exists_reachable (front : FrontEnd) {name : Char} (h : name = 'a' ∨ name = 'b') :
    ∃ s, Reachable front s ∧ s.varyings = ⟨[[name]]⟩ := by
  refine ⟨_, Reachable.fresh.build (split_priorFile h) false, ?_⟩
  rw [varyings_build]
  exact tableAfter_priorBundle front h

/-! ### Bundles that link

What linking makes of modules that are empty, or of which there is one too many. -/

/-- Modules were found for all blocks, in order. -/
theorem of_modulesOf_eq_ok {table : Varyings} {blocks : List Block} {found : List (Stage × Module)}
    (h : modulesOf front table blocks = some (.ok found)) :
    found.map Prod.fst = blocks.map Block.stage ∧
      ∀ block ∈ blocks, State.supports block.stage = true := by
  induction blocks generalizing table found with
  | nil =>
    rw [modulesOf, Option.some.injEq, Except.ok.injEq] at h
    exact ⟨by rw [← h]; rfl, by simp⟩
  | cons block rest ih =>
    obtain ⟨module, others, hmodule, hrest, rfl⟩ := modulesOf_cons_eq_ok_iff.mp h
    obtain ⟨hstages, hsupports⟩ := ih hrest
    refine ⟨by rw [List.map_cons, List.map_cons, hstages], ?_⟩
    rw [List.forall_mem_cons]
    refine ⟨?_, hsupports⟩
    by_contra hblock
    rw [moduleOf_of_not_supports (Bool.not_eq_true _ ▸ hblock)] at hmodule
    cases hmodule

theorem firstOf?_numbered_isSome {stage : Stage} {found : List (Stage × Module)} :
    (firstOf? stage (found.map (numbered ⟨0⟩))).isSome = true ↔ stage ∈ found.map Prod.fst := by
  rw [firstOf?, Option.isSome_map, List.find?_map, Option.isSome_map, List.find?_isSome,
    List.mem_map]
  constructor
  · rintro ⟨c, hc, heq⟩
    exact ⟨c, hc, of_decide_eq_true heq⟩
  · rintro ⟨c, hc, heq⟩
    exact ⟨c, hc, decide_eq_true heq⟩

/-- A compute stage beside a vertex stage does not link. -/
theorem linked_of_compute {found : List (Stage × Module)} (hvertex : .vertex ∈ found.map Prod.fst)
    (hcompute : .compute ∈ found.map Prod.fst) :
    linked found = .error (.link LinkFault.computeMixed.message) := by
  obtain ⟨v, hv⟩ := Option.isSome_iff_exists.mp (firstOf?_numbered_isSome.mpr hvertex)
  obtain ⟨c, hc⟩ := Option.isSome_iff_exists.mp (firstOf?_numbered_isSome.mpr hcompute)
  rw [linked, checkStages, hv, hc]
  cases firstOf? .fragment (found.map (numbered ⟨0⟩)) <;> rfl

/-- A vertex and a fragment stage that read and write nothing link. -/
theorem linked_of_empty {stages : List Stage} (hvertex : .vertex ∈ stages)
    (hfragment : .fragment ∈ stages) (hcompute : .compute ∉ stages) :
    linked (stages.map fun stage => (stage, {})) = .ok stages := by
  have hmap : (stages.map fun stage => ((stage, {}) : Stage × Module)).map Prod.fst = stages := by
    rw [List.map_map]
    exact List.map_id stages
  have hfirst : ∀ stage ∈ stages, firstOf? stage
      ((stages.map fun stage => ((stage, {}) : Stage × Module)).map (numbered ⟨0⟩)) = some {} := by
    intro stage hstage
    rw [← hmap, ← firstOf?_numbered_isSome] at hstage
    obtain ⟨module, hmodule⟩ := Option.isSome_iff_exists.mp hstage
    rw [hmodule]
    rw [firstOf?, Option.map_eq_some_iff] at hmodule
    obtain ⟨c, hc, rfl⟩ := hmodule
    have hmem := List.mem_of_find?_eq_some hc
    rw [List.map_map, List.mem_map] at hmem
    obtain ⟨other, -, rfl⟩ := hmem
    rfl
  have hnone : firstOf? .compute
      ((stages.map fun stage => ((stage, {}) : Stage × Module)).map (numbered ⟨0⟩)) = none := by
    rw [← Option.not_isSome_iff_eq_none, firstOf?_numbered_isSome, hmap]
    exact hcompute
  rw [linked, checkStages, hfirst _ hvertex, hfirst _ hfragment, hnone, hmap]
  rfl

/-! ### What the past changes

The outcome over the two tables, for the front end that refuses the block with the first varying as
it is laid out over one of them. -/

/-- What a build of the bundle comes to is the same in all states that builds lead to, whatever the
front end. -/
def HistoryFree (bundle : Bundle) : Prop :=
  ∀ (front : FrontEnd) (validate : Bool) (s t : State), Reachable front s → Reachable front t →
    built front bundle validate s = built front bundle validate t

/-- A build of the bundle succeeds in all of these states or in none. -/
def HistoryFreeSuccess (bundle : Bundle) : Prop :=
  ∀ (front : FrontEnd) (validate : Bool) (s t : State), Reachable front s → Reachable front t →
    ((∃ stages, built front bundle validate s = some (.ok stages)) ↔
      ∃ stages, built front bundle validate t = some (.ok stages))

theorem historyFree_of_unvarying {bundle : Bundle} (h : Unvarying bundle) : HistoryFree bundle := by
  intro front validate s t hs ht
  rw [built_eq_outcome hs.fits, built_eq_outcome ht.fits,
    outcome_of_unvarying h s.varyings t.varyings]

section FirstVarying

variable {bundle : Bundle} {before after : List Block} {block : Block} {refused : Text}
  {table : Varyings}

/-- Up to that block everything is accepted, and the table is kept. -/
theorem FirstVarying.modulesOf_eq (h : FirstVarying bundle before block after) (refused : Text)
    (table : Varyings) :
    modulesOf (refusing block.stage refused) table bundle.blocks =
      (modulesOf (refusing block.stage refused) table (block :: after)).map
        (Except.map fun found => before.map (fun block => (block.stage, {})) ++ found) := by
  rw [h.blocks, modulesOf_refusing_append h.supports_before h.stage_before,
    foldl_tableBehind_of_not_hasVarying h.fixed_before]

theorem FirstVarying.outcome_of_refused (h : FirstVarying bundle before block after)
    (hbad : (assign table block.stage (liftVersion block.source)).1 = refused) :
    outcome (refusing block.stage refused) table bundle =
      some (.error (.compile block.stage [Build.silent])) := by
  have hmodule : moduleOf (refusing block.stage refused) table block = .error [] := by
    rw [moduleOf, if_pos h.supports, hbad, refusing, if_pos ⟨rfl, rfl⟩]
  rw [outcome, h.modulesOf_eq, modulesOf, hmodule]
  rfl

theorem FirstVarying.moduleOf_of_not_refused (h : FirstVarying bundle before block after)
    (hgood : (assign table block.stage (liftVersion block.source)).1 ≠ refused) :
    moduleOf (refusing block.stage refused) table block = .ok {} := by
  rw [moduleOf, if_pos h.supports, refusing, if_neg fun hboth => hgood hboth.2]

/-- If that block is accepted, a refusal is about another stage. -/
theorem FirstVarying.outcome_ne_error (h : FirstVarying bundle before block after)
    (hgood : (assign table block.stage (liftVersion block.source)).1 ≠ refused)
    (diagnostics : List Diagnostic) :
    outcome (refusing block.stage refused) table bundle ≠
      some (.error (.compile block.stage diagnostics)) := by
  intro herror
  rw [outcome, h.modulesOf_eq, modulesOf, h.moduleOf_of_not_refused hgood] at herror
  simp only at herror
  rcases hafter : modulesOf (refusing block.stage refused) (tableBehind table block) after with
    _ | e | found
  · simp [hafter] at herror
  · obtain ⟨b, hb, diagnostics', he⟩ := exists_of_modulesOf_eq_error hafter
    simp only [hafter, he, Option.map_some, Except.map, Option.some.injEq, Except.error.injEq,
      BuildError.compile.injEq] at herror
    exact h.stage_after b hb herror.1
  · simp only [hafter, Option.map_some, Except.map, Option.some.injEq, linked] at herror
    split at herror <;> simp at herror

/-- If that block is accepted, and there are but a vertex and a fragment stage, the program
links. -/
theorem FirstVarying.outcome_eq_ok (h : FirstVarying bundle before block after)
    (hgood : (assign table block.stage (liftVersion block.source)).1 ≠ refused)
    (hvertex : .vertex ∈ bundle.stages) (hfragment : .fragment ∈ bundle.stages)
    (hplain : ∀ block ∈ bundle.blocks, block.stage = .vertex ∨ block.stage = .fragment) :
    outcome (refusing block.stage refused) table bundle = some (.ok bundle.stages) := by
  have hsupports : ∀ b ∈ after, State.supports b.stage = true := by
    intro b hb
    have hmem : b ∈ bundle.blocks := by
      rw [h.blocks]
      exact List.mem_append_right before (List.mem_cons_of_mem block hb)
    rcases hplain b hmem with hstage | hstage <;> rw [hstage] <;> rfl
  have hall : modulesOf (refusing block.stage refused) table bundle.blocks =
      some (.ok (bundle.stages.map fun stage => (stage, {}))) := by
    rw [h.modulesOf_eq, modulesOf, h.moduleOf_of_not_refused hgood]
    simp only
    rw [modulesOf_refusing hsupports h.stage_after]
    simp only [Option.map_some, Except.map, Bundle.stages, h.blocks, List.map_append,
      List.map_cons, List.map_map, Function.comp_def]
  rw [outcome, hall]
  refine congrArg some (linked_of_empty hvertex hfragment fun hcompute => ?_)
  obtain ⟨b, hb, hstage⟩ := List.mem_map.mp hcompute
  rcases hplain b hb with hb | hb <;> rw [hb] at hstage <;> cases hstage

end FirstVarying

/-- For a bundle with a varying to lay out there is a front end that refuses it in one state and not
in the other. If the bundle consists of a vertex and a fragment stage, it succeeds in the other. -/
theorem exists_outcome_ne {options : SplitOptions} {name text : Text} {bundle : Bundle}
    (hsplit : Bundle.split options name text = .ok bundle) (h : ¬Unvarying bundle) :
    ∃ front stage prior, (prior = 'a' ∨ prior = 'b') ∧
      outcome front ⟨[[prior]]⟩ bundle = some (.error (.compile stage [Build.silent])) ∧
      outcome front {} bundle ≠ some (.error (.compile stage [Build.silent])) ∧
      ((∀ block ∈ bundle.blocks, block.stage = .vertex ∨ block.stage = .fragment) →
        outcome front {} bundle = some (.ok bundle.stages)) := by
  obtain ⟨before, block, after, hfirst⟩ :=
    exists_firstVarying (Bundle.nodup_stages_of_split hsplit) h
  obtain ⟨first, hassign⟩ := exists_assign_ne hfirst.varying
  obtain ⟨prior, hprior, hne⟩ : ∃ prior, (prior = 'a' ∨ prior = 'b') ∧ [prior] ≠ first := by
    by_cases ha : ['a'] = first
    · exact ⟨'b', Or.inr rfl, fun hb => absurd (ha.trans hb.symm) (by decide)⟩
    · exact ⟨'a', Or.inl rfl, ha⟩
  have hgood := hassign [prior] hne
  -- the front end refuses the block as it is laid out behind the other bundle
  exact ⟨refusing block.stage (assign ⟨[[prior]]⟩ block.stage (liftVersion block.source)).1,
    block.stage, prior, hprior, hfirst.outcome_of_refused rfl, hfirst.outcome_ne_error hgood _,
    hfirst.outcome_eq_ok hgood (Bundle.mem_stages_of_split hsplit rfl)
      (Bundle.mem_stages_of_split hsplit rfl)⟩

/-! ### What bundles the past does not change -/

section Split

variable {options : SplitOptions} {name text : Text} {bundle : Bundle}

/-- **What a build comes to depends on the builds before it just if a block declares a varying to
lay out.** -/
theorem historyFree_iff (hsplit : Bundle.split options name text = .ok bundle) :
    HistoryFree bundle ↔ Unvarying bundle := by
  refine ⟨fun hfree => ?_, historyFree_of_unvarying⟩
  by_contra h
  obtain ⟨front, stage, prior, hprior, hbad, hgood, -⟩ := exists_outcome_ne hsplit h
  obtain ⟨s, hs, htable⟩ := exists_reachable front hprior
  have hfresh : Reachable front {} := .fresh
  have hsame := hfree front false s {} hs hfresh
  rw [built_eq_outcome hs.fits, built_eq_outcome hfresh.fits, htable, hbad] at hsame
  exact hgood hsame.symm

/-- A program of a file with a stage that is neither vertex nor fragment is never built. -/
theorem outcome_ne_ok (hsplit : Bundle.split options name text = .ok bundle)
    (h : ∃ block ∈ bundle.blocks, block.stage ≠ .vertex ∧ block.stage ≠ .fragment)
    (front : FrontEnd) (table : Varyings) (stages : List Stage) :
    outcome front table bundle ≠ some (.ok stages) := by
  obtain ⟨block, hblock, hvertex, hfragment⟩ := h
  intro hok
  rw [outcome] at hok
  rcases hmodules : modulesOf front table bundle.blocks with _ | e | found
  · simp [hmodules] at hok
  · simp [hmodules] at hok
  · obtain ⟨hstages, hsupports⟩ := of_modulesOf_eq_ok hmodules
    have hmem : block.stage ∈ found.map Prod.fst := hstages ▸ List.mem_map_of_mem hblock
    have hcompute : block.stage = .compute := by
      have hsupported := hsupports block hblock
      cases hstage : block.stage <;> simp_all [State.supports]
    have hrequired : .vertex ∈ found.map Prod.fst :=
      hstages ▸ Bundle.mem_stages_of_split hsplit rfl
    simp only [hmodules, linked_of_compute hrequired (hcompute ▸ hmem)] at hok
    cases hok

/-- **Whether a build succeeds depends on the builds before it just if the file has a vertex and a
fragment stage and no other, and one of them declares a varying to lay out.** -/
theorem historyFreeSuccess_iff (hsplit : Bundle.split options name text = .ok bundle) :
    HistoryFreeSuccess bundle ↔
      ((∀ block ∈ bundle.blocks, block.stage = .vertex ∨ block.stage = .fragment) →
        Unvarying bundle) := by
  constructor
  -- there are but the two stages: the front end that tells the pasts apart lets one of them succeed
  · intro hfree hplain
    by_contra h
    obtain ⟨front, stage, prior, hprior, hbad, -, hgood⟩ := exists_outcome_ne hsplit h
    obtain ⟨s, hs, htable⟩ := exists_reachable front hprior
    have hfresh : Reachable front {} := .fresh
    obtain ⟨stages, hok⟩ := (hfree front false {} s hfresh hs).mp
      ⟨bundle.stages, (built_eq_outcome hfresh.fits bundle false).trans (hgood hplain)⟩
    rw [built_eq_outcome hs.fits, htable, hbad] at hok
    cases hok
  · intro h front validate s t hs ht
    by_cases hplain : ∀ block ∈ bundle.blocks, block.stage = .vertex ∨ block.stage = .fragment
    · rw [historyFree_of_unvarying (h hplain) front validate s t hs ht]
    -- there is a stage that never links, so both builds fail
    · have hother : ∃ block ∈ bundle.blocks, block.stage ≠ .vertex ∧ block.stage ≠ .fragment := by
        by_contra hnone
        refine hplain fun block hblock => ?_
        by_contra hneither
        exact hnone ⟨block, hblock, not_or.mp hneither⟩
      rw [built_eq_outcome hs.fits, built_eq_outcome ht.fits]
      exact ⟨fun ⟨stages, hok⟩ => absurd hok (outcome_ne_ok hsplit hother front _ stages),
        fun ⟨stages, hok⟩ => absurd hok (outcome_ne_ok hsplit hother front _ stages)⟩

end Split

end ShaderBundle.Headless
