import ShaderBundle.Proofs.Graphics.Bystanders
import ShaderBundle.Proofs.Registry.Orders

/-!
# What becomes of objects that nobody asks about

When retired programs are destroyed, the other objects stand by, and so they do when a build fails.

## What is compared

Two states of the graphics thread are compared in three respects: the objects, what was said in
between, and the programs and the current one that the ledger of the backend knows.
`Thread.Discards` says of some references that their objects may be gone, and of all others that
nothing has happened: the same objects with the same memory, not one call about their programs, and
the programs still there. A build that fails discards nothing, in this sense, and orders to destroy
discard what they name. So does one behind the other (`Discards.trans`), which is how a failed
request with the sweep behind it is put together.

## Stages

Stages are no matter of objects, and they are told apart: orders leave them as they are, and so does
a failed build unless it crashes over a log with a line number too large for its word. Such a crash
comes behind the compilation of a stage, and the stage is left.

## Main definitions

* `Thread.Discards`: some objects are destroyed, and nothing is done about the others.

## Main results

* `Thread.program?_drain`: an object stays as it is as long as no order destroys it.
* `Thread.Alive.discards`: orders to destroy objects discard them.
* `Thread.Alive.build_failed`: a build that fails leaves objects and programs as they were.
-/

namespace ShaderBundle.Thread

variable {σ : Type} {backend : Backend σ} {ref : ProgramRef}

/-! ### Objects that stay

Orders that destroy nothing change the program in use, and no object with it. -/

section Objects

variable {thread : Thread σ}

theorem program?_destroy {other : ProgramRef} (hne : ref ≠ other) :
    (thread.destroy backend other).2.program? ref = thread.program? ref := by
  rw [destroy]
  split
  · rfl
  · exact Slots.lookup_filter_of_ne thread.programs hne

theorem program?_obey {order : Order} (h : ref ∉ order.task.destroyed) :
    (thread.obey backend order).program? ref = thread.program? ref :=
  obey_induction (P := fun later => later.program? ref = thread.program? ref)
    (fun _ hother _ heq => (program?_destroy (ne_of_mem_of_not_mem hother h).symm).trans heq)
    (fun _ _ heq => heq) rfl

/-- **An object stays as it is as long as no order destroys it.** -/
theorem program?_drain (h : ∀ order ∈ thread.queue, ref ∉ order.task.destroyed) :
    (thread.drain backend).program? ref = thread.program? ref :=
  drain_induction (P := fun later => later.program? ref = thread.program? ref)
    (fun order horder _ heq => (program?_obey (h order horder)).trans heq) rfl

theorem sublist_destroy (thread : Thread σ) (ref : ProgramRef) :
    (thread.destroy backend ref).2.programs.Sublist thread.programs := by
  rw [destroy]
  split
  · exact List.Sublist.refl _
  · exact List.filter_sublist

/-- Orders make no objects. -/
theorem sublist_obey (thread : Thread σ) (order : Order) :
    (thread.obey backend order).programs.Sublist thread.programs :=
  obey_induction (P := fun later => later.programs.Sublist thread.programs)
    (fun ref _ middle h => (middle.sublist_destroy ref).trans h) (fun _ _ h => h)
    (List.Sublist.refl _)

theorem sublist_drain (thread : Thread σ) :
    (thread.drain backend).programs.Sublist thread.programs :=
  drain_induction (P := fun later => later.programs.Sublist thread.programs)
    (fun order _ middle h => (middle.sublist_obey order).trans h) (List.Sublist.refl _)

/-- Orders that come in later are carried out later. -/
theorem drain_concat (backend : Backend σ) (thread : Thread σ) (more : List Order) :
    (thread.handling (thread.queue ++ more) thread.running).drain backend =
      more.foldl (obey backend) (thread.drain backend) :=
  List.foldl_append

end Objects

/-! ### Objects that go

The programs that are gone are given by a list of numbers and not by the references: of a reference
without an object there is no number, and an order that names it destroys nothing. -/

variable {thread middle later : Thread (List Event × σ)} {refs : List ProgramRef}

/-- Some objects are destroyed, and nothing is done about the programs of the others. -/
structure Discards (backend : Backend σ) (refs : List ProgramRef)
    (thread later : Thread (List Event × σ)) : Prop where
  /-- The other objects stay as they are. -/
  objects : later.programs = thread.programs.filter fun kept => kept.1 ∉ refs
  /-- The conversation is about none of their programs. -/
  said : ∃ events, later.log = thread.log ++ events ∧
    backend.Path thread.device.2 events later.device.2 ∧ ∀ pair ∈ later.ids, Ignores pair.2 events
  /-- Programs of these objects may be gone. -/
  left : ∃ gone : List ProgramId, (∀ id ∈ gone, ∃ ref ∈ refs, (ref, id) ∈ thread.ids) ∧
    (Ledger.run {} later.log).programs =
      (Ledger.run {} thread.log).programs.filter (fun id => id ∉ gone) ∧
    (Ledger.run {} later.log).current =
      (Ledger.run {} thread.log).current.filter fun id => id ∉ gone

theorem Discards.ids (h : thread.Discards backend refs later) :
    later.ids = thread.ids.filter fun pair => pair.1 ∉ refs := by
  rw [Thread.ids, h.objects, Thread.ids, List.filter_map]
  rfl

theorem Discards.program? (h : thread.Discards backend refs later) (href : ref ∉ refs) :
    later.program? ref = thread.program? ref := by
  rw [Thread.program?, h.objects, Thread.program?]
  induction thread.programs with
  | nil => rfl
  | cons kept rest ih =>
    obtain ⟨key, object⟩ := kept
    by_cases hkey : key ∈ refs
    · have hne : (ref == key) = false := by
        simp only [beq_eq_false_iff_ne, ne_eq]
        exact fun heq => href (heq ▸ hkey)
      rw [List.filter_cons_of_neg (by simpa using hkey), List.lookup_cons, hne, ih]
    · rw [List.filter_cons_of_pos (by simpa using hkey), List.lookup_cons, List.lookup_cons, ih]

/-- Nothing is destroyed if there is nothing to destroy. -/
theorem discards_of_notMem (h : ∀ ref ∈ refs, ref ∉ thread.refs) :
    thread.Discards backend refs thread where
  objects := by
    refine (List.filter_eq_self.mpr fun kept hkept => ?_).symm
    have hmem : kept.1 ∈ thread.refs := refs_eq_map thread ▸ List.mem_map_of_mem hkept
    simpa using fun href => h kept.1 href hmem
  said := ⟨[], (List.append_nil _).symm, .refl _, fun _ _ _ hevent => nomatch hevent⟩
  left := by
    refine ⟨[], fun _ hid => (nomatch hid), by simp, ?_⟩
    cases (Ledger.run {} thread.log).current <;> simp [Option.filter]

theorem Discards.trans {refs' : List ProgramRef} (h : thread.Discards backend refs middle)
    (h' : middle.Discards backend refs' later) : thread.Discards backend (refs ++ refs') later where
  objects := by
    rw [h'.objects, h.objects, List.filter_filter]
    refine List.filter_congr fun kept _ => ?_
    simp [Bool.and_comm]
  said := by
    -- An object that is there at the end was there in between, so both parts are silent about it.
    obtain ⟨first, hfirst, hpath, hignores⟩ := h.said
    obtain ⟨second, hsecond, hpath', hignores'⟩ := h'.said
    refine ⟨first ++ second, by rw [hsecond, hfirst, List.append_assoc], hpath.trans hpath',
      fun pair hpair => ignores_append.mpr ⟨hignores pair ?_, hignores' pair hpair⟩⟩
    rw [h'.ids] at hpair
    exact (List.mem_filter.mp hpair).1
  left := by
    obtain ⟨gone, hgone, hprograms, hcurrent⟩ := h.left
    obtain ⟨gone', hgone', hprograms', hcurrent'⟩ := h'.left
    refine ⟨gone ++ gone', fun id hid => ?_, ?_, ?_⟩
    -- A program that goes later had an object before as well.
    · rcases List.mem_append.mp hid with hfirst | hsecond
      · obtain ⟨ref, href, hpair⟩ := hgone id hfirst
        exact ⟨ref, List.mem_append_left _ href, hpair⟩
      · obtain ⟨ref, href, hpair⟩ := hgone' id hsecond
        rw [h.ids] at hpair
        exact ⟨ref, List.mem_append_right _ href, (List.mem_filter.mp hpair).1⟩
    · rw [hprograms', hprograms, List.filter_filter]
      refine List.filter_congr fun id _ => ?_
      simp [Bool.and_comm]
    · rw [hcurrent', hcurrent]
      cases (Ledger.run {} thread.log).current with
      | none => rfl
      | some id => by_cases hfirst : id ∈ gone <;> simp [Option.filter, hfirst]

theorem path_destroy {program : Program} (h : thread.program? ref = some program) :
    backend.Path thread.device.2 [.call (.deleteProgram program.id)]
      (thread.destroy backend.recording ref).2.device.2 := by
  have hoperation : backend.Operation (.deleteProgram program.id) (fun _ => [])
      (backend.deleteProgram program.id) := .deleteProgram program.id
  obtain ⟨events, hlog, hpath, -⟩ := perform_records (Job.records_operation hoperation) thread
  have hdevice : (thread.destroy backend.recording ref).2.device =
      (thread.perform (backend.recording.deleteProgram program.id)).2.device := by
    rw [destroy, h]
  have hsaid : (thread.destroy backend.recording ref).2.log =
      thread.log ++ [.call (.deleteProgram program.id)] := log_destroy h
  rw [log, hdevice] at hsaid
  obtain rfl : events = _ := List.append_cancel_left (hlog.symm.trans hsaid)
  rwa [hdevice]

/-- An object is destroyed. -/
theorem Alive.discards_destroy (h : thread.Alive) (backend : Backend σ) (ref : ProgramRef) :
    (thread.destroy backend.recording ref).2.Alive ∧
      thread.Discards backend [ref] (thread.destroy backend.recording ref).2 ∧
      (Ledger.run {} (thread.destroy backend.recording ref).2.log).stages =
        (Ledger.run {} thread.log).stages := by
  rcases hprogram : thread.program? ref with _ | program
  · have hgone : ref ∉ thread.refs := by
      rw [← program?_isSome_iff, hprogram]
      simp
    -- Without an object nothing is done.
    rw [Thread.destroy, hprogram]
    exact ⟨h, discards_of_notMem (by simpa using hgone), rfl⟩
  -- With one, its program is deleted, and the conversation is this one call.
  · have hid := mem_ids_of_program? hprogram
    have hlog : (thread.destroy backend.recording ref).2.log = _ := log_destroy hprogram
    have hids : (thread.destroy backend.recording ref).2.ids = _ := ids_destroy hprogram
    have hrun : Ledger.run {} (thread.destroy backend.recording ref).2.log =
        (Ledger.run {} thread.log).after (.call (.deleteProgram program.id)) := by
      rw [hlog, Ledger.run_append]
      rfl
    refine ⟨(h.destroy backend hid).1, ?_, by rw [hrun]; rfl⟩
    constructor
    case objects =>
      rw [Thread.destroy, hprogram]
      change thread.programs.filter (fun kept => kept.1 ≠ ref) = _
      simp
    -- Other objects have other programs.
    case said =>
      refine ⟨_, hlog, path_destroy hprogram, fun pair hpair => ?_⟩
      rw [hids] at hpair
      obtain ⟨hold, hne⟩ := List.mem_filter.mp hpair
      have hother : pair.2 ≠ program.id := fun heq => of_decide_eq_true hne
        (congrArg Prod.fst (List.inj_on_of_nodup_map h.distinct hold hid heq))
      simpa [Ignores, Event.Concerns, Call.programs] using hother
    case left =>
      refine ⟨[program.id], by simpa using hid, ?_, ?_⟩
      · rw [hrun]
        simp [Ledger.after]
      · rw [hrun]
        simp only [Ledger.after]
        rcases (Ledger.run {} thread.log).current with _ | other
        · rfl
        · by_cases hother : other = program.id <;> simp [Option.filter, hother]

/-- **Orders to destroy objects discard them**, and stages stay. -/
theorem Alive.discards (h : thread.Alive) (backend : Backend σ) (refs : List ProgramRef) :
    thread.Discards backend refs
        ((refs.map fun ref => .destroy [ref]).foldl (obey backend.recording) thread) ∧
      (Ledger.run {}
          ((refs.map fun ref => .destroy [ref]).foldl (obey backend.recording) thread).log).stages =
        (Ledger.run {} thread.log).stages := by
  induction refs generalizing thread with
  | nil => exact ⟨discards_of_notMem fun _ hmem => (nomatch hmem), rfl⟩
  | cons ref rest ih =>
    obtain ⟨halive, hdiscards, hstages⟩ := h.discards_destroy backend ref
    obtain ⟨hrest, hstages'⟩ := ih halive
    -- An order for one program is a single destruction, crash or not.
    have hobey : thread.obey backend.recording (.destroy [ref]) =
        (thread.destroy backend.recording ref).2 := by
      rw [obey, destroyAll]
      rcases thread.destroy backend.recording ref with ⟨_ | _, _⟩ <;> rfl
    rw [List.map_cons, List.foldl_cons, hobey]
    exact ⟨hdiscards.trans hrest, hstages'.trans hstages⟩

/-! ### Builds that fail

A build is judged by what it has said. If it comes to an end it has cleaned up behind itself, and if
it is cut short by a crash, what it has said is the beginning of what it would have said. -/

/-- **A build that fails leaves objects and programs as they were**, and stages too unless it
crashes over a line number too large for its word. -/
theorem Alive.build_failed (h : thread.Alive) (hreturns : backend.Returns) (bundle : Bundle)
    (validate : Bool)
    (hfailed : ∀ ref, (thread.build backend.recording bundle validate).1 ≠ .ok ref)
    (hfresh : Ledger.Fresh {} (thread.build backend.recording bundle validate).2.log) :
    thread.Discards backend [] (thread.build backend.recording bundle validate).2 ∧
      ((Ledger.run {} (thread.build backend.recording bundle validate).2.log).stages =
          (Ledger.run {} thread.log).stages ∨
        Build.Overflows bundle.blocks
          ((thread.build backend.recording bundle validate).2.log.drop thread.log.length)) := by
  obtain ⟨events, hlog, hpath, hmeets, hcut⟩ := perform_crashesOnly
    (Build.build_records bundle validate)
    (Build.build_cut (Backend.Returns.steady hreturns) bundle validate) thread
  -- A build that fails or crashes gets no object, so the thread is where the job has left it.
  obtain ⟨hlater, hfailed'⟩ : (thread.build backend.recording bundle validate).2 =
        (thread.perform (Build.build backend.recording bundle validate)).2 ∧
      ∀ program, (thread.perform (Build.build backend.recording bundle validate)).1 ≠
        some (.ok program) := by
    rw [Thread.build] at hfailed ⊢
    rcases hperform : thread.perform (Build.build backend.recording bundle validate) with
      ⟨_ | error | program, later⟩
    · exact ⟨rfl, by simp⟩
    · exact ⟨rfl, by simp⟩
    · rw [hperform] at hfailed
      exact absurd rfl (hfailed _)
  have hsaid : Ledger.run {} (thread.build backend.recording bundle validate).2.log =
      (Ledger.run {} thread.log).run events := by rw [hlater, hlog, Ledger.run_append]
  rw [hlater, hlog] at hfresh
  -- What holds of the conversation of such a job is known; it remains to say it of the thread.
  obtain ⟨hprograms, hcurrent, hstages, hignores⟩ := Build.failed_course hmeets hcut hfailed'
    (Ledger.sound_empty.run h.legal) (Ledger.along_append.mp hfresh).2
  refine ⟨⟨?_, ⟨events, hlater ▸ hlog, hlater ▸ hpath, fun pair hpair => ?_⟩,
    ⟨[], by simp, ?_, ?_⟩⟩,
    ?_⟩
  · rw [hlater]
    simp [perform]
  · rw [hlater] at hpair
    exact hignores pair.2 (h.exist pair hpair)
  · rw [hsaid, hprograms]
    simp
  · rw [hsaid, hcurrent]
    cases (Ledger.run {} thread.log).current <;> simp [Option.filter]
  · rw [hsaid, hlater, hlog, List.drop_left]
    exact hstages.imp_right fun hcut => hcut.overflows hreturns

end ShaderBundle.Thread
