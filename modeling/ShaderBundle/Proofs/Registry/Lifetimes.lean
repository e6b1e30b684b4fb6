import ShaderBundle.Proofs.Graphics.Settled
import ShaderBundle.Proofs.Registry.Interleaving

/-!
# The lives of programs

A program is made by a build, used for as long as anybody holds it, and deleted once, after which no
call names it. While a name is ready its program is not deleted. When the registry is closed and the
graphics thread has done what is left to do, every program that a build has made is deleted.

## What is promised

The promise is one to the backend: every call names what exists, and nothing is deleted twice. It is
a statement about the whole conversation, over any number of callers and in any interleaving, and it
is carried by `Scene.Custody`: a job that destroys a program owns it alone, and a job that visits
one finds its object. What remains for this module is the end of the story. Closing takes the table
away and leaves one last job that destroys what it kept; jobs that were handed in before are carried
out first, and none of them builds, as no request is in flight.

## How the end is reached

That nothing is left at the end would be an empty promise if there were no end. So it is shown that
turns lead to rest from every scene: a job that visits may leave, one that builds is over in one
turn, and one that destroys has a program less behind every turn. Which turns are taken on the way
is up to the thread; that it cannot avoid rest forever is not claimed, as a visit may go on for as
long as it likes.

## Main definitions

* `Lives`: a conversation names programs only while they exist and deletes each of them once.
* `Scene.since`: what was said since an earlier scene.

## Main results

* `Scene.Custody.ready`: the program of a ready name exists and was not deleted.
* `Scene.closed_atRest`: at rest behind a closed registry no program object is left, and
  `Scene.exists_atRest`: the graphics thread can come to rest.
* `Scene.reached_lives`: all this holds however callers and the graphics thread interleave.

## Implementation notes

A program is known by the number that the backend gave it. The backend is free to hand a number out
again once the program behind it is deleted, but not before; that is what `Ledger.Fresh` says.

The graphics thread is left to itself when the registry is closed, and it destroys everything unless
the backend crashes over a deletion.
-/

namespace ShaderBundle

/-- Programs are named only while they exist, and each is deleted at most once. -/
structure Lives (log : List Event) : Prop where
  /-- Every call names stages and programs that were made and are not deleted. -/
  named : Ledger.Legal {} log
  /-- As often as a number was handed out for a program, a program of that number was deleted, but
  for the last one if it exists. -/
  deleted : ∀ id, log.count (.reply (.program id)) =
    log.count (.call (.deleteProgram id)) + if id ∈ (Ledger.run {} log).programs then 1 else 0

theorem lives_of_legal {log : List Event} (hlegal : Ledger.Legal {} log)
    (hfresh : Ledger.Fresh {} log) : Lives log := by
  obtain ⟨hnodup, hcount⟩ := Ledger.accounts_programs.run hlegal hfresh List.nodup_nil
  refine ⟨hlegal, fun id => ?_⟩
  have hid := hcount id
  rw [List.Nodup.count hnodup] at hid
  exact hid

namespace Thread

variable {σ : Type} {thread later : Thread (List Event × σ)} {ref : ProgramRef} {id : ProgramId}

/-- An object that is still there, or any other one under its reference, is the same one, and its
program was not deleted. -/
theorem Onward.not_deleteProgram (h : thread.Onward later) (halive : thread.Alive)
    (hid : (ref, id) ∈ thread.ids) (href : ref ∈ later.refs) :
    .call (.deleteProgram id) ∉ later.log.drop thread.log.length := by
  obtain ⟨events, hlog, hids⟩ := h.said
  rw [hlog, List.drop_left]
  rcases hids _ hid with ⟨-, hkept⟩ | ⟨hgone, -⟩
  · exact hkept
  · obtain ⟨⟨_, other⟩, hother, rfl⟩ := List.mem_map.mp href
    rcases h.old _ hother with hold | hnew
    · exact absurd (halive.id_eq hold hid ▸ hother) hgone
    · have hlt := halive.made _ (List.mem_map_of_mem hid)
      exact absurd (Nat.lt_of_lt_of_le hlt hnew) (Nat.lt_irrefl _)

/-- The program of an object that is gone was deleted. -/
theorem Onward.deleteProgram (h : thread.Onward later) (hid : (ref, id) ∈ thread.ids)
    (hgone : ref ∉ later.refs) :
    .call (.deleteProgram id) ∈ later.log.drop thread.log.length := by
  obtain ⟨events, hlog, hids⟩ := h.said
  rw [hlog, List.drop_left]
  rcases hids _ hid with ⟨hkept, -⟩ | ⟨-, hdeleted⟩
  · exact absurd (List.mem_map_of_mem (f := Prod.fst) hkept) hgone
  · exact hdeleted

end Thread

namespace Scene

variable {σ : Type} {backend : Backend σ} {validate : Bool} {device : σ}
  {scene later : Scene σ}

/-- What was said since an earlier scene. -/
def since (scene earlier : Scene σ) : List Event :=
  scene.thread.log.drop earlier.thread.log.length

/-! ### Ready names

The table owns the program of a ready name, so there is an object for it, and objects are about
programs that exist. -/

theorem mem_programs_of_slot? {name : Text} {entry : Entry}
    (h : scene.traffic.table.slot? name = some (.ready entry)) :
    entry.program ∈ scene.traffic.table.programs :=
  Slots.mem_programs_iff.mpr ⟨name, entry, Slots.mem_of_slot? h, rfl⟩

/-- **The program of a ready name exists.** -/
theorem Custody.ready (h : scene.Custody) {name : Text} {entry : Entry}
    (hslot : scene.traffic.table.slot? name = some (.ready entry)) :
    ∃ id, (entry.program, id) ∈ scene.thread.ids ∧
      id ∈ (Ledger.run {} scene.thread.log).programs := by
  have hheld := List.mem_append_left scene.traffic.table.retired (mem_programs_of_slot? hslot)
  have howned : entry.program ∈ scene.owned :=
    List.mem_append_left _ (List.mem_append_left _ hheld)
  obtain ⟨⟨_, id⟩, hid, heq⟩ := List.mem_map.mp (h.mem_refs howned)
  obtain rfl := heq
  exact ⟨id, hid, h.alive.exist _ hid⟩

/-! ### The end

A registry is closed when nobody uses it: no request is in flight, so no outcome owns a program, and
callers have no jobs left to hand in. All owners are then the table and the jobs of the queue, and
the last job takes over from the table. -/

/-- When nobody uses the registry, no outcome waits to be recorded, and nothing is to be built. -/
theorem Regular.requests_eq_nil (h : scene.Regular) (hunused : scene.Unused) :
    scene.requests = [] := by
  refine List.eq_nil_iff_forall_not_mem.mpr fun request hmem => ?_
  have hcount := h.requests request
  have hpos := List.count_pos_iff.mpr hmem
  rw [hunused.inFlight, List.count_nil] at hcount
  omega

theorem Regular.built_eq_nil (h : scene.Regular) (hunused : scene.Unused) : scene.built = [] :=
  List.map_eq_nil_iff.mp (List.append_eq_nil_iff.mp (h.requests_eq_nil hunused)).2

theorem tasks_closed (scene : Scene σ) : scene.closed.tasks = scene.tasks ++
    [.destroy (scene.traffic.table.retired ++ scene.traffic.table.programs)] :=
  (List.append_assoc ..).symm

/-- The last job takes over what the table kept. -/
theorem Custody.closed (h : scene.Custody) (hregular : scene.Regular) (hunused : scene.Unused) :
    scene.closed.Custody := by
  -- No outcome owns anything, and what the table has owned the last job owns.
  have hbuilt := hregular.built_eq_nil hunused
  refine ⟨h.alive, fun ref => ?_, fun ref href => h.borrowed ref ?_, ?_, fun task htask => ?_⟩
  · have hcount := h.owners ref
    rw [count_owned, hbuilt, hunused.waiting] at hcount
    rw [count_owned, tasks_closed]
    simp only [Scene.closed, hbuilt, hunused.waiting, Slots.held, Slots.programs, Slots.ready,
      List.flatMap_append, List.flatMap_cons, List.flatMap_nil, List.count_append, List.append_nil,
      List.filterMap_nil, List.map_nil, List.count_nil, Task.destroyed] at hcount ⊢
    omega
  -- The last job borrows nothing.
  · obtain ⟨task, htask, hvisited⟩ := mem_borrowed.mp href
    refine mem_borrowed.mpr ⟨task, htask.imp_right fun hmem => ?_, hvisited⟩
    rw [tasks_closed] at hmem
    refine (List.mem_append.mp hmem).elim id fun hlast => ?_
    rw [List.mem_singleton.mp hlast] at hvisited
    simp [Task.visited] at hvisited
  · rw [tasks_closed]
    -- No job in front of it destroys what it visits, as it visits nothing.
    refine List.pairwise_append.mpr ⟨h.orderly, List.pairwise_singleton _ _, ?_⟩
    intro first _ second hsecond
    rw [List.mem_singleton.mp hsecond]
    exact spares_of_visited_eq_nil _ rfl
  · rw [Scene.closed, hunused.waiting] at htask
    simp at htask

theorem Regular.closed (h : scene.Regular) (hunused : scene.Unused) : scene.closed.Regular := by
  have hnone := h.requests_eq_nil hunused
  refine ⟨Traffic.owned_empty, List.nodup_nil, fun request => ?_⟩
  have hsame : scene.closed.requests = scene.requests := by
    simp only [Scene.requests, tasks_closed, ← List.append_assoc, List.flatMap_append]
    simp [Scene.closed, Task.requests]
  rw [hsame, hnone]
  rfl

/-- The graphics thread does not touch the table or what callers have. -/
theorem Turn.callers (hturn : Turn backend validate scene later) :
    later.traffic = scene.traffic ∧ later.waiting = scene.waiting := by
  cases hturn with
  | destroy =>
    rw [destroyed]
    split
    · split <;> exact ⟨rfl, rfl⟩
    · exact ⟨rfl, rfl⟩
  | _ => exact ⟨rfl, rfl⟩

/-- Nothing is lost unless the backend crashes over a deletion. -/
theorem Custody.lost (h : scene.Custody) (hturn : Turn backend validate scene later)
    (hfinishes : ∀ id, (backend.deleteProgram id).Finishes) : later.lost = scene.lost := by
  cases hturn with
  | @destroy ref rest hrunning =>
    -- The deletion comes to an end, so the rest of the job goes on.
    have hanswer : (scene.thread.destroy backend.recording ref).1.isSome := by
      rw [Thread.destroy]
      split
      · rfl
      · rename_i program _
        exact Job.isSome_run_recorded (hfinishes program.id) _ _ _
    rw [destroyed, if_pos (h.holders_eq_one hrunning)]
    rcases hcase : scene.thread.destroy backend.recording ref with ⟨_ | _, thread⟩
    · simp [hcase] at hanswer
    · rfl
  | _ => rfl

/-- What holds of a scene that is left to the graphics thread. -/
theorem Custody.drains (h : scene.Custody) (hregular : scene.Regular)
    (hdrains : Drains backend validate scene later) (hfresh : Ledger.Fresh {} later.thread.log) :
    later.Custody ∧ later.Regular ∧ scene.thread.Onward later.thread ∧
      later.traffic = scene.traffic ∧ later.waiting = scene.waiting ∧
        ((∀ id, (backend.deleteProgram id).Finishes) → later.lost = scene.lost) := by
  induction hdrains with
  | refl => exact ⟨h, hregular, Thread.onward_refl _, rfl, rfl, fun _ => rfl⟩
  | turn _ hturn ih =>
    obtain ⟨hcustody, hregular', honward, htraffic, hwaiting, hlost⟩ :=
      ih (fresh_of_log hturn.log hfresh)
    obtain ⟨hcustody', honward'⟩ := hcustody.turn hturn hfresh
    obtain ⟨htraffic', hwaiting'⟩ := hturn.callers
    exact ⟨hcustody', hregular'.turn hturn, honward.trans honward' h.alive,
      htraffic'.trans htraffic, hwaiting'.trans hwaiting,
      fun hfinishes => (hcustody.lost hturn hfinishes).trans (hlost hfinishes)⟩

/-- While nobody uses the registry, the graphics thread hands nothing out. -/
theorem Custody.drains_fresh (h : scene.Custody) (hregular : scene.Regular)
    (hunused : scene.Unused) (hdrains : Drains backend validate scene later)
    (hfresh : Ledger.Fresh {} scene.thread.log) : Ledger.Fresh {} later.thread.log := by
  induction hdrains with
  | refl => exact hfresh
  | @turn middle _ hmiddle hturn ih =>
    obtain ⟨-, hregular', -, htraffic, hwaiting, -⟩ := h.drains hregular hmiddle ih
    have hunused' : middle.Unused := ⟨hwaiting.trans hunused.waiting, htraffic ▸ hunused.inFlight⟩
    refine (hturn.hushed fun request prepared hrunning => ?_).fresh ih
    -- A job that builds would have a request, and none is in flight.
    have hmem : request ∈ middle.requests :=
      List.mem_append_left _ (List.mem_flatMap.mpr ⟨.build request prepared,
        List.mem_append_right _ (mem_tasks_of_running hrunning),
        List.mem_singleton_self request⟩)
    rw [hregular'.requests_eq_nil hunused'] at hmem
    exact List.not_mem_nil hmem

/-- A registry that is closed is not used. -/
theorem Unused.closed (h : scene.Unused) : scene.closed.Unused :=
  ⟨h.waiting, rfl⟩

/-- **At rest behind a closed registry no program object is left**, but for those that are lost. -/
theorem closed_atRest (h : scene.Custody) (hregular : scene.Regular) (hunused : scene.Unused)
    (hdrains : Drains backend validate scene.closed later) (hrest : later.AtRest)
    (hfresh : Ledger.Fresh {} later.thread.log) (ref : ProgramRef) :
    ref ∈ later.thread.refs ↔ ref ∈ later.lost := by
  obtain ⟨hcustody, hregular', -, htraffic, hwaiting, -⟩ :=
    (h.closed hregular hunused).drains (hregular.closed hunused) hdrains hfresh
  have hunused' : later.Unused := ⟨hwaiting.trans hunused.waiting, htraffic ▸ rfl⟩
  -- There is no table, no outcome and no job, so nobody owns anything.
  have howned : later.owned = [] := by
    rw [owned, htraffic, hregular'.built_eq_nil hunused', hunused'.waiting, tasks, hrest.queue,
      hrest.running]
    rfl
  have hcount := hcustody.owners ref
  rw [howned, List.count_nil, Nat.zero_add] at hcount
  rw [← List.count_pos_iff, ← List.count_pos_iff, hcount]

/-- Nothing is lost as long as the backend does not crash over a deletion. -/
theorem Custody.lost_step (h : scene.Custody) (hstep : Step backend validate scene later)
    (hfinishes : ∀ id, (backend.deleteProgram id).Finishes) : later.lost = scene.lost := by
  cases hstep with
  | turn hturn => exact h.lost hturn hfinishes
  | begin _ _ result => cases result <;> rfl
  | _ => rfl

theorem lost_of_reached (hreached : Reached backend validate (.new device) scene)
    (hfresh : Ledger.Fresh {} scene.thread.log)
    (hfinishes : ∀ id, (backend.deleteProgram id).Finishes) : scene.lost = [] := by
  induction hreached with
  | refl => rfl
  | step hmiddle hstep ih =>
    have hmiddle' := fresh_of_log hstep.log hfresh
    have hcustody := ((custody_new device).reached (regular_new device) hmiddle hmiddle').1
    rw [hcustody.lost_step hstep hfinishes, ih hmiddle']

/-- So none is left if the backend does not crash over a deletion. -/
theorem programs_closed (h : scene.Custody) (hregular : scene.Regular) (hunused : scene.Unused)
    (hlost : scene.lost = []) (hdrains : Drains backend validate scene.closed later)
    (hrest : later.AtRest) (hfresh : Ledger.Fresh {} later.thread.log)
    (hfinishes : ∀ id, (backend.deleteProgram id).Finishes) : later.thread.programs = [] := by
  obtain ⟨-, -, -, -, -, hkept⟩ :=
    (h.closed hregular hunused).drains (hregular.closed hunused) hdrains hfresh
  have hnone : later.lost = [] := (hkept hfinishes).trans hlost
  have hrefs : later.thread.refs = [] := by
    refine List.eq_nil_iff_forall_not_mem.mpr fun ref href => ?_
    rw [closed_atRest h hregular hunused hdrains hrest hfresh, hnone] at href
    exact List.not_mem_nil href
  exact List.map_eq_nil_iff.mp (List.map_eq_nil_iff.mp hrefs)

/-! ### Coming to rest

Job by job, with an induction on the programs of a job that destroys, and then on the queue. -/

theorem Drains.trans {middle : Scene σ} (h : Drains backend validate scene middle)
    (h' : Drains backend validate middle later) : Drains backend validate scene later := by
  induction h' with
  | refl => exact h
  | turn _ hturn ih => exact ih.turn hturn

/-- A job that destroys programs comes to its end, or a crash ends it. -/
theorem exists_idle_of_destroy (backend : Backend σ) (validate : Bool) (programs : List ProgramRef)
    (scene : Scene σ) (hrunning : scene.running = some (.destroy programs)) :
    ∃ later, Drains backend validate scene later ∧ later.running = none ∧
      later.queue = scene.queue := by
  induction programs generalizing scene with
  | nil => exact ⟨_, Drains.refl.turn (.done hrunning), rfl, rfl⟩
  | cons ref rest ih =>
    -- Behind one destruction the rest is to be destroyed, or a crash has ended the job.
    have hnext : ((scene.destroyed backend ref rest).running = some (.destroy rest) ∨
        (scene.destroyed backend ref rest).running = none) ∧
          (scene.destroyed backend ref rest).queue = scene.queue := by
      rw [destroyed]
      split
      · split
        · exact ⟨.inl rfl, rfl⟩
        · exact ⟨.inr rfl, rfl⟩
      · exact ⟨.inl rfl, rfl⟩
    have hturn : Drains backend validate scene (scene.destroyed backend ref rest) :=
      Drains.refl.turn (.destroy hrunning)
    obtain ⟨hmore | hnone, hqueue⟩ := hnext
    · obtain ⟨later, hdrains, hidle, hsame⟩ := ih _ hmore
      exact ⟨later, hturn.trans hdrains, hidle, hsame.trans hqueue⟩
    · exact ⟨_, hturn, hnone, hqueue⟩

/-- Every job comes to its end. -/
theorem exists_idle (backend : Backend σ) (validate : Bool) (scene : Scene σ) :
    ∃ later, Drains backend validate scene later ∧ later.running = none ∧
      later.queue = scene.queue := by
  rcases hrunning : scene.running with _ | (⟨request, prepared⟩ | programs | programs)
  · exact ⟨scene, .refl, hrunning, rfl⟩
  · exact ⟨_, Drains.refl.turn (.build hrunning), rfl, rfl⟩
  · exact ⟨_, Drains.refl.turn (.leave hrunning), rfl, rfl⟩
  · exact exists_idle_of_destroy backend validate programs scene hrunning

/-- **The graphics thread can come to rest from every scene.** -/
theorem exists_atRest (backend : Backend σ) (validate : Bool) (scene : Scene σ) :
    ∃ last, Drains backend validate scene last ∧ last.AtRest := by
  induction hqueue : scene.queue generalizing scene with
  | nil =>
    obtain ⟨last, hdrains, hidle, hsame⟩ := exists_idle backend validate scene
    exact ⟨last, hdrains, hsame.trans hqueue, hidle⟩
  | cons task rest ih =>
    obtain ⟨middle, hdrains, hidle, hsame⟩ := exists_idle backend validate scene
    have hstart : Drains backend validate scene
        { middle with running := some task, queue := rest } :=
      hdrains.turn (.start hidle (hsame.trans hqueue))
    obtain ⟨last, hdrains', hrest⟩ := ih { middle with running := some task, queue := rest } rfl
    exact ⟨last, hstart.trans hdrains', hrest⟩

/-! ### All along

The parts are put together for a run from the beginning. An earlier scene of it has the same
custody, so what was said since then can be read off two scenes of the same run. -/

/-- Steps lead on. -/
theorem Reached.trans {middle : Scene σ} (h : Reached backend validate scene middle)
    (h' : Reached backend validate middle later) : Reached backend validate scene later := by
  induction h' with
  | refl => exact h
  | step _ hstep ih => exact ih.step hstep

theorem Reached.log (h : Reached backend validate scene later) :
    scene.thread.log <+: later.thread.log := by
  induction h with
  | refl => exact List.prefix_rfl
  | step _ hstep ih => exact ih.trans hstep.log

/-- **Programs are made before they are used and deleted once, behind their last use.** However
callers and the graphics thread interleave, calls name programs only while they exist. The program
of a ready name exists, and it was not deleted since any earlier scene in which there was an object
for it. When the registry is closed and the graphics thread has come to rest, every program that a
build came to is deleted, as long as the backend does not crash over a deletion. -/
theorem reached_lives (hreached : Reached backend validate (.new device) scene)
    (hfresh : Ledger.Fresh {} scene.thread.log) :
    Lives scene.thread.log ∧
      (∀ name entry, scene.traffic.table.slot? name = some (.ready entry) →
        ∃ id, (entry.program, id) ∈ scene.thread.ids ∧
          id ∈ (Ledger.run {} scene.thread.log).programs ∧
            ∀ earlier, Reached backend validate (.new device) earlier →
              Reached backend validate earlier scene → (entry.program, id) ∈ earlier.thread.ids →
                .call (.deleteProgram id) ∉ scene.since earlier) ∧
      (scene.Unused → ∀ last, Drains backend validate scene.closed last →
        Lives last.thread.log ∧
          (last.AtRest → (∀ id, (backend.deleteProgram id).Finishes) → last.thread.programs = [] ∧
            ∀ earlier, Reached backend validate (.new device) earlier →
              Reached backend validate earlier scene → ∀ entry ∈ earlier.built,
                ∀ ref ∈ entry.2.programs, ∃ id, (ref, id) ∈ earlier.thread.ids ∧
                  .call (.deleteProgram id) ∈ last.since earlier)) := by
  -- Every scene of the run has custody.
  have hinvariant : ∀ {earlier : Scene σ}, Reached backend validate (.new device) earlier →
      Ledger.Fresh {} earlier.thread.log → earlier.Custody ∧ earlier.Regular := by
    intro earlier hearlier hfresh
    obtain ⟨hcustody, hregular, -⟩ :=
      (custody_new device).reached (regular_new device) hearlier hfresh
    exact ⟨hcustody, hregular⟩
  obtain ⟨hcustody, hregular⟩ := hinvariant hreached hfresh
  refine ⟨lives_of_legal hcustody.alive.legal hfresh, fun name entry hslot => ?_,
    fun hunused last hdrains => ?_⟩
  -- The object was there earlier and is there now, so its program was not deleted in between.
  · obtain ⟨id, hid, hexist⟩ := hcustody.ready hslot
    refine ⟨id, hid, hexist, fun earlier hearlier hlater hthere => ?_⟩
    obtain ⟨hcustody', hregular'⟩ := hinvariant hearlier (fresh_of_log hlater.log hfresh)
    obtain ⟨-, -, honward⟩ := hcustody'.reached hregular' hlater hfresh
    exact honward.not_deleteProgram hcustody'.alive hthere (List.mem_map_of_mem hid)
  · have hlast := (hcustody.closed hregular hunused).drains_fresh (hregular.closed hunused)
      hunused.closed hdrains hfresh
    obtain ⟨hlived, -, hclosing, -⟩ :=
      (hcustody.closed hregular hunused).drains (hregular.closed hunused) hdrains hlast
    refine ⟨lives_of_legal hlived.alive.legal hlast, fun hrest hfinishes => ?_⟩
    -- Nothing is lost on the way, so no object is left at the end.
    have hnone := programs_closed hcustody hregular hunused
      (lost_of_reached hreached hfresh hfinishes) hdrains hrest hlast hfinishes
    refine ⟨hnone, fun earlier hearlier hlater entry hentry ref href => ?_⟩
    obtain ⟨hcustody', hregular'⟩ := hinvariant hearlier (fresh_of_log hlater.log hfresh)
    obtain ⟨-, -, honward⟩ := hcustody'.reached hregular' hlater hfresh
    -- A program that a build came to is owned then, so it has an object; and this one is gone.
    have howned : ref ∈ earlier.owned := List.mem_append_left _
      (List.mem_append_right _ (List.mem_flatMap.mpr ⟨entry, hentry, href⟩))
    obtain ⟨⟨key, id⟩, hid, heq⟩ := List.mem_map.mp (hcustody'.mem_refs howned)
    obtain rfl : key = ref := heq
    have hgone : key ∉ last.thread.refs := by
      rw [Thread.refs, Thread.ids, hnone]
      exact List.not_mem_nil
    exact ⟨id, hid, (honward.trans hclosing hcustody'.alive).deleteProgram hid hgone⟩

/-- The short file is built, made current and forgotten. -/
theorem reached_lives_shortBundle :
    ∃ scene last : Scene Headless.State,
      Reached (Headless.backend Build.acceptAll) true (.new {}) scene ∧
        Ledger.Fresh {} scene.thread.log ∧ Lives scene.thread.log ∧
        (∃ entry id, scene.traffic.table.slot? ['a'] = some (.ready entry) ∧
          (entry.program, id) ∈ scene.thread.ids ∧ .call (.deleteProgram id) ∉ scene.thread.log) ∧
        Drains (Headless.backend Build.acceptAll) true scene.closed last ∧ last.AtRest ∧
        Lives last.thread.log ∧ last.thread.programs = [] := by
  let backend := Headless.backend Build.acceptAll
  let prepared : Registry.Prepared := ⟨⟨['a'], Bundle.shortFile, 1, none⟩, Bundle.shortBundle⟩
  -- The name is claimed, and the file behind it is built and recorded.
  have hbegun := (@Reached.refl _ backend true (.new {})).step
    (@Step.begin _ _ _ _ (.claim ['a']) trivial (.acquire ['a']) rfl (.ok prepared))
  have hbuilt := ((hbegun.step (@Step.handOver _ _ _ _ [] _ _ rfl)).step
    (.turn (.start rfl rfl))).step (.turn (.build rfl))
  have hready := hbuilt.step (@Step.conclude _ _ _ _ [] _ _ _ rfl)
  -- A caller makes the program current.
  have hbound := ((hready.step (@Step.capture _ _ _ _ [⟨0⟩] (by decide +kernel))).step
    (@Step.handOver _ _ _ _ [] _ _ rfl)).step (.turn (.start rfl rfl))
  have hused := hbound.step (.turn (@Turn.visit _ _ _ _ [⟨0⟩] rfl ⟨0⟩ List.mem_cons_self
    { id := ⟨3⟩, stages := [.vertex, .fragment] } (by decide +kernel) .use))
  let entry : Entry := ⟨⟨1⟩, prepared.source, ⟨0⟩, 1, false⟩
  -- The run is forgotten here, and only what is needed of its last scene is computed.
  obtain ⟨scene, hscene, hfresh, hunused, hslot, hkept⟩ : ∃ scene : Scene Headless.State,
      Reached backend true (.new {}) scene ∧ Ledger.Fresh {} scene.thread.log ∧ scene.Unused ∧
        scene.traffic.table.slot? ['a'] = some (.ready entry) ∧
          ∀ pair ∈ scene.thread.ids, .call (.deleteProgram pair.2) ∉ scene.thread.log :=
    ⟨_, hused.step (.turn (.leave rfl)), by decide +kernel, ⟨rfl, by decide +kernel⟩,
      by decide +kernel, by decide +kernel⟩
  obtain ⟨hlives, hready, hclosed⟩ := reached_lives hscene hfresh
  obtain ⟨id, hid, -, -⟩ := hready ['a'] entry hslot
  obtain ⟨last, hdrains, hrest⟩ := exists_atRest backend true scene.closed
  obtain ⟨hlives', hnone⟩ := hclosed hunused last hdrains
  exact ⟨scene, last, hscene, hfresh, hlives, ⟨entry, id, hslot, hid, hkept _ hid⟩, hdrains,
    hrest, hlives',
    (hnone hrest fun id => Headless.backend_returns Build.acceptAll (.deleteProgram id)).1⟩

end Scene

end ShaderBundle
