import ShaderBundle.Proofs.Graphics.Conservation
import ShaderBundle.Proofs.Graphics.Visits
import ShaderBundle.Proofs.Registry.Slots
import ShaderBundle.Registry.Thread

/-!
# The program objects of the graphics thread

The graphics thread keeps an object for every program that was built and not destroyed. Over a
recorded backend these objects are held against the conversation: every object is about a program
that exists, and no two are about the same one.

## One lemma for each job

A thread builds, visits a program, makes none current, or destroys an object. For each of these
there is one lemma, which says that the thread stays alive, that it goes onward, and what becomes of
the objects. The jobs are recorded, so what was said is known by its kind: a course of a build, a
conversation about one program, or a single deletion. The effect of each kind on the ledger of the
backend was found elsewhere, and is used here as it is.

## Going onward

`Thread.Onward` relates a state of the thread to a later one, and says of every object whether it is
still there, in agreement with whether its program was deleted in between. It is composed by
`Onward.trans`. There the numbering of references counts: an object that is gone cannot be there
again later, since a new object gets a new reference.

## Numbers of the backend

The backend may hand a number out again when its program is deleted, so the number of an object and
that of a later one may be the same. Objects are therefore known by references, and it is assumed
only that no number is handed out while it is in use (`Ledger.Fresh`).

## Main definitions

* `Thread.log` is the conversation so far, `Thread.ids` the objects with the backend's names.
* `Thread.Alive`: the conversation is legal, and every object is about a program of its own.
* `Thread.Onward`: one state of the thread comes after another. The programs of objects that are
  gone were deleted in between, and those of the others were not.

## Main results

* `Thread.Alive.build`, `Thread.Alive.visit`, `Thread.Alive.unuse`, `Thread.Alive.destroy`: what the
  thread does keeps it alive and leads onward, and this is what becomes of the objects.
-/

namespace ShaderBundle

/-- Where nothing is handed out, there are no more programs than before. -/
theorem Quiet.programs_subset {events : List Event} (h : Quiet events) (ledger : Ledger) :
    (ledger.run events).programs ⊆ ledger.programs := by
  induction events generalizing ledger with
  | nil => exact List.Subset.refl _
  | cons event rest ih =>
    refine List.Subset.trans (ih (fun e he => h e (List.mem_cons_of_mem _ he)) _) ?_
    have hquiet := h event List.mem_cons_self
    rcases event with (_ | _ | _ | _ | _ | _ | _ | _ | _ | _ | _ | _ | _) | (_ | _ | _ | _)
    case call.deleteProgram => exact List.filter_subset_self _
    case reply.program => exact hquiet.elim
    all_goals exact List.Subset.refl _

namespace Thread

variable {σ α : Type} {backend : Backend σ} {thread later : Thread (List Event × σ)}
  {ref : ProgramRef}

/-- The conversation so far. -/
def log (thread : Thread (List Event × σ)) : List Event :=
  thread.device.1

/-- The program objects with the backend's names. -/
def ids (thread : Thread σ) : List (ProgramRef × ProgramId) :=
  thread.programs.map fun kept => (kept.1, kept.2.id)

/-- The references to program objects. -/
def refs (thread : Thread σ) : List ProgramRef :=
  thread.ids.map Prod.fst

/-- The conversation is legal, and every object is about a program of its own. -/
structure Alive (thread : Thread (List Event × σ)) : Prop where
  /-- The conversation is legal. -/
  legal : Ledger.Legal {} thread.log
  /-- The program of an object exists. -/
  exist : ∀ pair ∈ thread.ids, pair.2 ∈ (Ledger.run {} thread.log).programs
  /-- No reference is used twice. -/
  refs : thread.refs.Nodup
  /-- No program has two objects. -/
  distinct : (thread.ids.map Prod.snd).Nodup
  /-- References are numbered. -/
  made : ∀ ref ∈ thread.refs, ref.serial < thread.made

theorem alive_new (device : σ) : (Thread.mk ([], device) [] 0 [] []).Alive :=
  ⟨trivial, by simp [ids], List.nodup_nil, List.nodup_nil, by simp [Thread.refs, ids]⟩

theorem mem_programs_of_program? {thread : Thread σ} {program : Program}
    (h : thread.program? ref = some program) : (ref, program) ∈ thread.programs :=
  Slots.mem_of_lookup_eq_some h

theorem mem_ids_of_program? {thread : Thread σ} {program : Program}
    (h : thread.program? ref = some program) : (ref, program.id) ∈ thread.ids :=
  List.mem_map_of_mem (mem_programs_of_program? h)

theorem refs_eq_map (thread : Thread σ) : thread.refs = thread.programs.map Prod.fst := by
  simp [refs, ids]

theorem program?_isSome_iff {thread : Thread σ} :
    (thread.program? ref).isSome ↔ ref ∈ thread.refs := by
  rw [program?, List.lookup_isSome_iff, refs_eq_map, List.mem_map]
  simp only [beq_iff_eq, eq_comm (a := ref)]

theorem Alive.id_eq (h : thread.Alive) {id other : ProgramId} (hid : (ref, id) ∈ thread.ids)
    (hother : (ref, other) ∈ thread.ids) : id = other :=
  congrArg Prod.snd (List.inj_on_of_nodup_map h.refs hid hother rfl)

/-! ### States that come one after the other

References are numbers that the thread counts up, so whether a reference was used is a
comparison. -/

/-- The conversation goes on. The programs of objects that are gone were deleted, those of the
others were not, and references are not used again. -/
structure Onward (thread later : Thread (List Event × σ)) : Prop where
  /-- The programs of objects. -/
  said : ∃ events, later.log = thread.log ++ events ∧ ∀ pair ∈ thread.ids,
    (pair ∈ later.ids ∧ .call (.deleteProgram pair.2) ∉ events) ∨
      (pair ∉ later.ids ∧ .call (.deleteProgram pair.2) ∈ events)
  /-- References are numbered. -/
  made : thread.made ≤ later.made
  /-- An object is there already, or its reference is a new one. -/
  old : ∀ pair ∈ later.ids, pair ∈ thread.ids ∨ thread.made ≤ pair.1.serial

/-- The objects stay, and new ones may come. -/
theorem onward_of_ids {events : List Event} (new : List (ProgramRef × ProgramId))
    (hlog : later.log = thread.log ++ events) (hids : later.ids = thread.ids ++ new)
    (hmade : thread.made ≤ later.made) (hnew : ∀ pair ∈ new, thread.made ≤ pair.1.serial)
    (hkept : ∀ pair ∈ thread.ids, .call (.deleteProgram pair.2) ∉ events) :
    thread.Onward later where
  said := ⟨events, hlog, fun pair hpair =>
    .inl ⟨hids ▸ List.mem_append_left _ hpair, hkept pair hpair⟩⟩
  made := hmade
  old pair hpair := by
    rw [hids] at hpair
    exact (List.mem_append.mp hpair).imp_right (hnew pair)

theorem onward_refl (thread : Thread (List Event × σ)) : thread.Onward thread :=
  onward_of_ids [] (List.append_nil _).symm (List.append_nil _).symm (Nat.le_refl _)
    (fun _ h => nomatch h) fun _ _ h => nomatch h

theorem Onward.trans {last : Thread (List Event × σ)} (h : thread.Onward later)
    (h' : later.Onward last) (halive : thread.Alive) : thread.Onward last where
  said := by
    obtain ⟨first, hfirst, hids⟩ := h.said
    obtain ⟨second, hsecond, hids'⟩ := h'.said
    refine ⟨first ++ second, by rw [hsecond, hfirst, List.append_assoc], fun pair hpair => ?_⟩
    rcases hids pair hpair with ⟨hkept, hfirst⟩ | ⟨hgone, hfirst⟩
    · rcases hids' pair hkept with ⟨hkept', hsecond⟩ | ⟨hgone, hsecond⟩
      · exact .inl ⟨hkept', fun hmem => (List.mem_append.mp hmem).elim hfirst hsecond⟩
      · exact .inr ⟨hgone, List.mem_append_right _ hsecond⟩
    -- An object that is gone does not come back, as its reference is an old one.
    · refine .inr ⟨fun hback => ?_, List.mem_append_left _ hfirst⟩
      rcases h'.old pair hback with hmid | hnew
      · exact hgone hmid
      · have hlt := halive.made _ (List.mem_map_of_mem hpair)
        exact Nat.lt_irrefl _ (Nat.lt_of_lt_of_le hlt (Nat.le_trans h.made hnew))
  made := Nat.le_trans h.made h'.made
  old pair hpair := (h'.old pair hpair).elim (h.old pair) fun hnew =>
    .inr (Nat.le_trans h.made hnew)

/-! ### Jobs

What the jobs have in common is said first: they add to the conversation, and if they hand nothing
out then what was assumed of numbers before is true behind them. -/

/-- A recorded job adds its conversation to what was said, which leads the backend on. -/
theorem perform_records {R : α → List Event → Prop} {plain : Job σ α}
    {job : Job (List Event × σ) α} (h : Job.Records backend R plain job)
    (thread : Thread (List Event × σ)) : ∃ events,
      (thread.perform job).2.log = thread.log ++ events ∧
        backend.Path thread.device.2 events (thread.perform job).2.device.2 ∧
        Job.Meets R (thread.perform job).1 events := by
  obtain ⟨events, hrun, hpath, hmeets⟩ := h.run thread.log thread.device.2
  have hrun' : job.run thread.device = _ := hrun
  refine ⟨events, ?_, ?_, ?_⟩
  · simp [log, perform, hrun']
  · simpa [perform, hrun'] using hpath
  · simpa [perform, hrun'] using hmeets

/-- The same job, if it is known over what it crashes. -/
theorem perform_crashesOnly {R : α → List Event → Prop} {Q : List Event → Prop} {plain : Job σ α}
    {job : Job (List Event × σ) α} (h : Job.Records backend R plain job)
    (hcrash : Job.CrashesOnly Q job) (thread : Thread (List Event × σ)) : ∃ events,
      (thread.perform job).2.log = thread.log ++ events ∧
        backend.Path thread.device.2 events (thread.perform job).2.device.2 ∧
        Job.Meets R (thread.perform job).1 events ∧
        ((thread.perform job).1 = none → Q events) := by
  obtain ⟨events, hlog, hpath, hmeets⟩ := perform_records h thread
  obtain ⟨answer, said, device, hrun, hcrash⟩ := hcrash thread.log thread.device.2
  have hrun' : job.run thread.device = (answer, thread.log ++ said, device) := hrun
  have hperform : thread.perform job =
      (answer, { thread with device := (thread.log ++ said, device) }) := by rw [perform, hrun']
  refine ⟨events, hlog, hpath, hmeets, fun hnone => ?_⟩
  rw [hperform] at hlog hnone
  obtain rfl : said = events := List.append_cancel_left hlog
  exact hcrash hnone

/-- A build adds to what was said. -/
theorem log_build (thread : Thread (List Event × σ)) (bundle : Bundle) (validate : Bool) :
    thread.log <+: (thread.build backend.recording bundle validate).2.log := by
  obtain ⟨events, hlog, -, -⟩ :=
    perform_records (@Build.build_records σ backend bundle validate) thread
  refine ⟨events, ?_⟩
  rw [Thread.build]
  rcases hperform : thread.perform (Build.build backend.recording bundle validate) with
    ⟨_ | error | program, later⟩
  all_goals
    rw [hperform] at hlog
    exact hlog.symm

/-- What is said next hands nothing out. -/
def Hushed (thread later : Thread (List Event × σ)) : Prop :=
  ∃ events, Quiet events ∧ thread.log ++ events = later.log

theorem hushed_refl (thread : Thread (List Event × σ)) : thread.Hushed thread :=
  ⟨[], fun _ h => (nomatch h), List.append_nil _⟩

theorem Hushed.trans {last : Thread (List Event × σ)} (h : thread.Hushed later)
    (h' : later.Hushed last) : thread.Hushed last := by
  obtain ⟨first, hfirst, hlog⟩ := h
  obtain ⟨second, hsecond, hlog'⟩ := h'
  exact ⟨first ++ second, hfirst.append hsecond, by rw [← hlog', ← hlog, List.append_assoc]⟩

theorem Hushed.log (h : thread.Hushed later) : thread.log <+: later.log :=
  h.imp fun _ => And.right

theorem Hushed.fresh (h : thread.Hushed later) (hfresh : Ledger.Fresh {} thread.log) :
    Ledger.Fresh {} later.log := by
  obtain ⟨events, hquiet, hlog⟩ := h
  rw [← hlog]
  exact Ledger.along_append.mpr ⟨hfresh, Ledger.fresh_of_quiet hquiet _⟩

/-- What is said on a visit is about its program. -/
theorem log_visit (thread : Thread (List Event × σ)) (ref : ProgramRef) (program : Program)
    (visit : Program.Visit) : ∃ events, Visiting program.id events ∧
      (thread.withProgram ref program (visit.job backend.recording)).2.log =
        thread.log ++ events := by
  obtain ⟨events, hlog, -, hmeets⟩ :=
    perform_records (@Program.visit_records σ backend visit program) thread
  refine ⟨events, hmeets.elim (fun _ _ hvisited => hvisited.2.2) fun _ _ h => h.of_append, ?_⟩
  rw [withProgram]
  rcases hperform : thread.perform (visit.job backend.recording program) with
    ⟨_ | ⟨answer, program'⟩, later⟩
  all_goals
    rw [hperform] at hlog
    exact hlog

/-- A visit hands nothing out. -/
theorem hushed_visit (thread : Thread (List Event × σ)) (ref : ProgramRef) (program : Program)
    (visit : Program.Visit) :
    thread.Hushed (thread.withProgram ref program (visit.job backend.recording)).2 := by
  obtain ⟨events, hvisiting, hlog⟩ := thread.log_visit ref program visit
  exact ⟨events, hvisiting.quiet, hlog.symm⟩

/-- Neither does making a program current, or none. -/
theorem hushed_use (backend : Backend σ) (thread : Thread (List Event × σ))
    (program : Option ProgramId) :
    thread.Hushed (thread.perform (backend.recording.use program)).2 :=
  ⟨[.call (.use program)], by simp [Quiet, Event.IsQuiet], (Job.log_run_recorded _ _ _ _).symm⟩

/-- The destruction of an object deletes its program. -/
theorem log_destroy {thread : Thread (List Event × σ)} {program : Program}
    (h : thread.program? ref = some program) : (thread.destroy backend.recording ref).2.log =
      thread.log ++ [.call (.deleteProgram program.id)] := by
  rw [destroy, h]
  exact Job.log_run_recorded _ _ _ _

/-- The object is gone. -/
theorem ids_destroy {backend : Backend σ} {thread : Thread σ} {program : Program}
    (h : thread.program? ref = some program) :
    (thread.destroy backend ref).2.ids = thread.ids.filter (·.1 ≠ ref) := by
  rw [destroy, h]
  simp only [ids, List.filter_map]
  rfl

/-- Neither does the destruction of an object. -/
theorem hushed_destroy (backend : Backend σ) (thread : Thread (List Event × σ)) (ref : ProgramRef) :
    thread.Hushed (thread.destroy backend.recording ref).2 := by
  rcases hprogram : thread.program? ref with _ | program
  · rw [destroy, hprogram]
    exact hushed_refl thread
  · exact ⟨_, by simp [Quiet, Event.IsQuiet], (log_destroy hprogram).symm⟩

/-- As long as programs that objects are about stay, a thread stays alive. -/
theorem Alive.extend (h : thread.Alive) {events : List Event}
    (hlog : later.log = thread.log ++ events)
    (hlegal : (Ledger.run {} thread.log).Legal events)
    (hids : later.ids.Sublist thread.ids) (hmade : later.made = thread.made)
    (hexist : ∀ pair ∈ later.ids, pair.2 ∈ (Ledger.run {} thread.log).programs →
      pair.2 ∈ ((Ledger.run {} thread.log).run events).programs) : later.Alive where
  legal := by
    rw [hlog]
    exact Ledger.along_append.mpr ⟨h.legal, hlegal⟩
  exist pair hpair := by
    rw [hlog, Ledger.run_append]
    exact hexist pair hpair (h.exist pair (hids.subset hpair))
  refs := h.refs.sublist (hids.map _)
  distinct := h.distinct.sublist (hids.map _)
  made ref href := hmade ▸ h.made ref ((hids.map _).subset href)

/-- The objects stay, and so do the programs that there are. -/
theorem Alive.stay (h : thread.Alive) {events : List Event}
    (hlog : later.log = thread.log ++ events) (hids : later.ids = thread.ids)
    (hmade : later.made = thread.made) (hlegal : (Ledger.run {} thread.log).Legal events)
    (hprograms : (Ledger.run {} thread.log).programs ⊆
      ((Ledger.run {} thread.log).run events).programs)
    (hkept : ∀ pair ∈ thread.ids, .call (.deleteProgram pair.2) ∉ events) :
    later.Alive ∧ thread.Onward later ∧ later.ids = thread.ids :=
  ⟨h.extend hlog hlegal (hids ▸ List.Sublist.refl _) hmade fun _ _ hpair => hprograms hpair,
    onward_of_ids [] hlog (hids.trans (List.append_nil _).symm) (Nat.le_of_eq hmade.symm)
      (fun _ h => nomatch h) hkept, hids⟩

/-- There is a new program, and it gets an object. -/
theorem Alive.add (h : thread.Alive) {events : List Event} {id : ProgramId}
    (hlog : later.log = thread.log ++ events)
    (hids : later.ids = thread.ids ++ [(⟨thread.made⟩, id)]) (hmade : later.made = thread.made + 1)
    (hleads : (Ledger.run {} thread.log).Leads events ((Ledger.run {} thread.log).adding id))
    (hnew : id ∉ (Ledger.run {} thread.log).programs)
    (hkept : ∀ pair ∈ thread.ids, .call (.deleteProgram pair.2) ∉ events) :
    later.Alive ∧ thread.Onward later := by
  have hrefs : later.refs = thread.refs ++ [⟨thread.made⟩] :=
    (congrArg (List.map Prod.fst) hids).trans List.map_append
  refine ⟨⟨?_, fun pair hpair => ?_, ?_, ?_, fun ref href => ?_⟩,
    onward_of_ids _ hlog hids (hmade ▸ Nat.le_succ _) (fun pair hpair => ?_) hkept⟩
  · rw [hlog]
    exact Ledger.along_append.mpr ⟨h.legal, hleads.legal⟩
  · rw [hlog, Ledger.run_append, hleads.run_eq]
    rw [hids] at hpair
    rcases List.mem_append.mp hpair with hold | hlast
    · exact List.mem_append_left _ (h.exist pair hold)
    · rw [List.mem_singleton.mp hlast]
      exact List.mem_append_right _ (List.mem_singleton_self _)
  -- The reference is new because it is numbered, the number of the backend because it was not in
  -- use.
  · rw [hrefs]
    refine List.nodup_append.mpr ⟨h.refs, List.nodup_singleton _,
      fun ref href other hother heq => ?_⟩
    have hlt := h.made ref href
    rw [heq, List.mem_singleton.mp hother] at hlt
    exact Nat.lt_irrefl _ hlt
  · rw [hids, List.map_append]
    refine List.nodup_append.mpr ⟨h.distinct, List.nodup_singleton _,
      fun other hother last hlast heq => hnew ?_⟩
    obtain ⟨pair, hpair, rfl⟩ := List.mem_map.mp hother
    rw [List.mem_singleton.mp hlast] at heq
    have hexist := h.exist pair hpair
    rwa [heq] at hexist
  · rw [hrefs] at href
    rw [hmade]
    rcases List.mem_append.mp href with hold | hlast
    · exact Nat.lt_succ_of_lt (h.made ref hold)
    · rw [List.mem_singleton.mp hlast]
      exact Nat.lt_succ_self _
  · obtain rfl := List.mem_singleton.mp hpair
    exact Nat.le_refl _

/-- **A build leaves the objects alone and adds one for its program, if there is one.** -/
theorem Alive.build (h : thread.Alive) (bundle : Bundle) (validate : Bool)
    (hfresh : Ledger.Fresh {} (thread.build backend.recording bundle validate).2.log) :
    (thread.build backend.recording bundle validate).2.Alive ∧
      thread.Onward (thread.build backend.recording bundle validate).2 ∧
      match (thread.build backend.recording bundle validate).1 with
      | .ok ref => ∃ id,
        (thread.build backend.recording bundle validate).2.ids = thread.ids ++ [(ref, id)]
      | .error _ => (thread.build backend.recording bundle validate).2.ids = thread.ids := by
  obtain ⟨events, hlog, -, hmeets⟩ :=
    perform_records (@Build.build_records σ backend bundle validate) thread
  have hsound := Ledger.sound_empty.run h.legal
  rw [Thread.build] at hfresh ⊢
  rcases hperform : thread.perform (Build.build backend.recording bundle validate) with
    ⟨_ | error | program, later⟩
  all_goals
    rw [hperform] at hlog hmeets hfresh
    have hlater := congrArg Prod.snd hperform
    have hids : later.ids = thread.ids := (congrArg Thread.ids hlater).symm
    have hmade : later.made = thread.made := (congrArg Thread.made hlater).symm
    change Ledger.Fresh {} later.log at hfresh
    rw [hlog] at hfresh
    have hevents := (Ledger.along_append.mp hfresh).2
  · -- The build crashed. Its course would have gone on without handing anything out.
    obtain ⟨answer, rest, hcourse, hquiet⟩ := hmeets
    have hall := Ledger.along_append.mpr ⟨hevents, Ledger.fresh_of_quiet hquiet _⟩
    have hleads := (hcourse.leads hsound hall).1
    refine h.stay hlog hids hmade (Ledger.along_append.mp hleads.legal).1 (fun id hid =>
      hquiet.programs_subset _ ?_) fun pair hpair =>
        (ignores_append.mp (hcourse.ignores hall (h.exist pair hpair))).1.not_deleteProgram
    rw [← Ledger.run_append, hleads.run_eq]
    exact Build.subset_behind answer hid
  · have hleads := (Build.Course.leads hmeets hsound hevents).1
    refine h.stay hlog hids hmade hleads.legal ?_ fun pair hpair =>
      (Build.Course.ignores hmeets hevents (h.exist pair hpair)).not_deleteProgram
    rw [hleads.run_eq]
    exact List.Subset.refl _
  · obtain ⟨hleads, hnew⟩ := Build.Course.leads hmeets hsound hevents
    have hids' : (later.keep program).2.ids = thread.ids ++ [(⟨later.made⟩, program.id)] := by
      rw [← hids]
      simp [keep, ids]
    have hadd : (later.keep program).2.Alive ∧ thread.Onward (later.keep program).2 :=
      h.add hlog (hmade ▸ hids') (congrArg (· + 1) hmade) hleads (hnew program rfl)
        fun pair hpair =>
          (Build.Course.ignores hmeets hevents (h.exist pair hpair)).not_deleteProgram
    exact ⟨hadd.1, hadd.2, program.id, hids'⟩

/-- Storing an object that is about the same program changes nothing but what it remembers. -/
theorem Alive.ids_store (h : thread.Alive) {program : Program}
    (hprogram : (ref, program.id) ∈ thread.ids) : (thread.store ref program).ids = thread.ids := by
  simp only [store, ids, List.map_map]
  refine List.map_congr_left fun kept hkept => ?_
  by_cases href : kept.1 = ref
  · have hkept' : (ref, kept.2.id) ∈ thread.ids := href ▸ List.mem_map_of_mem hkept
    have hid := h.id_eq hkept' hprogram
    simp [href, hid]
  · simp [href]

/-- **A visit leaves the objects alone and speaks of one of them.** -/
theorem Alive.visit (h : thread.Alive) (backend : Backend σ) {program : Program}
    (hprogram : thread.program? ref = some program) (visit : Program.Visit) :
    (thread.withProgram ref program (visit.job backend.recording)).2.Alive ∧
      thread.Onward (thread.withProgram ref program (visit.job backend.recording)).2 ∧
      (thread.withProgram ref program (visit.job backend.recording)).2.ids = thread.ids := by
  have hmem := mem_ids_of_program? hprogram
  obtain ⟨events, hlog, -, hmeets⟩ :=
    perform_records (@Program.visit_records σ backend visit program) thread
  have hvisiting : Visiting program.id events :=
    hmeets.elim (fun _ _ hvisited => hvisited.2.2) fun _ _ h => h.of_append
  obtain ⟨current, hleads⟩ := hvisiting.leads (h.exist _ hmem)
  -- The thread may store the object or have crashed; what was said is about its program in both
  -- cases.
  have hlater : ∀ later : Thread (List Event × σ), later.log = thread.log ++ events →
      later.ids = thread.ids → later.made = thread.made →
        later.Alive ∧ thread.Onward later ∧ later.ids = thread.ids := by
    intro later hlog hids hmade
    refine h.stay hlog hids hmade hleads.legal ?_ fun pair _ => hvisiting.not_deleteProgram pair.2
    rw [hleads.run_eq]
    exact List.Subset.refl _
  rw [withProgram]
  rcases hperform : thread.perform (visit.job backend.recording program) with
    ⟨_ | ⟨answer, program'⟩, later⟩
  all_goals
    rw [hperform] at hlog hmeets
    have hids : later.ids = thread.ids := (congrArg (Thread.ids ·.2) hperform).symm
    have hmade : later.made = thread.made := (congrArg (Thread.made ·.2) hperform).symm
  · exact hlater later hlog hids hmade
  · obtain ⟨hid, -, -⟩ := hmeets
    refine hlater _ hlog ?_ hmade
    rw [(hlater later hlog hids hmade).1.ids_store, hids]
    rw [hids, hid]
    exact hmem

/-- Making no program current leaves the objects alone. -/
theorem Alive.unuse (h : thread.Alive) (backend : Backend σ) :
    (thread.perform (backend.recording.use none)).2.Alive ∧
      thread.Onward (thread.perform (backend.recording.use none)).2 ∧
      (thread.perform (backend.recording.use none)).2.ids = thread.ids := by
  have hlog : (thread.perform (backend.recording.use none)).2.log =
      thread.log ++ [.call (.use none)] := Job.log_run_recorded _ _ _ _
  exact h.stay hlog rfl rfl ⟨by simp [Ledger.Allows, Call.stages, Call.programs], trivial⟩
    (List.Subset.refl _) fun _ _ => by simp

/-- Destroying an object deletes its program and no other. -/
theorem Alive.destroy (h : thread.Alive) (backend : Backend σ) {id : ProgramId}
    (hid : (ref, id) ∈ thread.ids) :
    (thread.destroy backend.recording ref).2.Alive ∧
      thread.Onward (thread.destroy backend.recording ref).2 ∧
      (thread.destroy backend.recording ref).2.refs = thread.refs.filter (· ≠ ref) := by
  obtain ⟨program, hprogram⟩ := Option.isSome_iff_exists.mp
    (program?_isSome_iff.mpr (List.mem_map_of_mem hid))
  obtain rfl := h.id_eq (mem_ids_of_program? hprogram) hid
  have hlog : (thread.destroy backend.recording ref).2.log = _ := log_destroy hprogram
  have hids : (thread.destroy backend.recording ref).2.ids = _ := ids_destroy hprogram
  have hmade : (thread.destroy backend.recording ref).2.made = thread.made := by
    rw [Thread.destroy, hprogram]
    rfl
  -- No other object is about this program.
  have hsame : ∀ pair ∈ thread.ids, pair.2 = program.id → pair.1 = ref := fun pair hpair heq =>
    congrArg Prod.fst (List.inj_on_of_nodup_map h.distinct hpair hid heq)
  refine ⟨h.extend hlog ⟨?_, trivial⟩ ?_ hmade ?_, ⟨⟨_, hlog, fun pair hpair => ?_⟩,
    Nat.le_of_eq hmade.symm, fun pair hpair => ?_⟩, ?_⟩
  · exact ⟨by simp [Call.stages], by simpa [Call.programs] using h.exist _ hid⟩
  · rw [hids]
    exact List.filter_sublist
  · intro pair hpair hexist
    rw [hids] at hpair
    obtain ⟨hold, hne⟩ := List.mem_filter.mp hpair
    refine List.mem_filter.mpr ⟨hexist, decide_eq_true fun heq => ?_⟩
    simp [hsame pair hold heq] at hne
  · obtain ⟨key, id⟩ := pair
    rw [hids]
    -- The object goes with its program; the others stay, and so do theirs.
    by_cases heq : key = ref
    · have hprogram' := h.id_eq (heq ▸ hpair) hid
      exact .inr ⟨by simp [heq], by simp [hprogram']⟩
    · have hne : id ≠ program.id := fun hprogram' => heq (hsame _ hpair hprogram')
      exact .inl ⟨List.mem_filter.mpr ⟨hpair, by simpa using heq⟩, by simpa using hne⟩
  · rw [hids] at hpair
    exact .inl (List.mem_filter.mp hpair).1
  · rw [Thread.refs, hids, Thread.refs, List.filter_map]
    rfl

end Thread

end ShaderBundle
