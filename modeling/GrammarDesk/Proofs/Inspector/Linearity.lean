import GrammarDesk.Proofs.Inspector.Frames

/-!
# One job for each generation

The slots are changed from several places, also while values that were due before are still to be
computed.  Whatever the order, no generation of a value ever has two jobs, and the job of the
current generation is the one that its slot holds.

Main definitions:

- `Orderly`: what ties slots to the jobs under way.
- `Engine.InOrder`: the same for an engine in the middle of an event.

Main results:

- `inOrder_stable`: every part of an event keeps the slots in order.
- `Run.inOrder`: the slots are in order between any two events.
- `Run.job_of_accepted`: a result that counts comes from the job that its slot holds.
-/

namespace GrammarDesk.Inspector

open Json GrammarDesk.Tree

variable {P : Type}

/-- The value that a job computes, and the generation it computes it for. -/
def Job.ticket (job : Job P) : Derived × Nat := (job.work.key, job.generation)

/-- What ties the slots to the jobs under way, while the values in `due` are still to be
computed. -/
structure Orderly (s : Scheduler (Job P)) (jobs : List (Job P)) (due : List (Derived × Nat)) :
    Prop where
  /-- A job is for a generation that has begun. -/
  begun : ∀ job ∈ jobs, job.generation ≤ (s.slot job.work.key).generation
  /-- No generation has two jobs. -/
  distinct : (jobs.map Job.ticket).Nodup
  /-- The job of the current generation is the one that the slot holds. -/
  held : ∀ job ∈ jobs, job.generation = (s.slot job.work.key).generation →
    (s.slot job.work.key).job = some job
  /-- A slot holds a job under way for its own value and generation, and waits for nothing. -/
  runs : ∀ key job, (s.slot key).job = some job → job ∈ jobs ∧ job.work.key = key ∧
    job.generation = (s.slot key).generation ∧ (s.slot key).deadline = none
  /-- No value is to be computed twice. -/
  once : (due.map Prod.fst).Nodup
  /-- A value is to be computed for a generation that has begun. -/
  taken : ∀ d ∈ due, d.2 ≤ (s.slot d.1).generation
  /-- A value that is to be computed for its current generation neither waits nor runs. -/
  free : ∀ d ∈ due, d.2 = (s.slot d.1).generation →
    (s.slot d.1).deadline = none ∧ (s.slot d.1).job = none

namespace Orderly

variable {s : Scheduler (Job P)} {jobs : List (Job P)} {due : List (Derived × Nat)}

/-! ## Operations on slots -/

theorem blank (debounce : Time) : Orderly (P := P) (.blank debounce) [] [] := by
  refine ⟨by simp, by simp, by simp, ?_, by simp, by simp, by simp⟩
  intro key job hjob
  cases key <;> cases hjob

/-- A new generation has no job yet, and whatever was to be computed is for an older one. -/
theorem invalidate (h : Orderly s jobs due) (key : Derived) (now : Time) :
    Orderly (s.invalidate key now) jobs due := by
  refine ⟨?_, h.distinct, ?_, ?_, h.once, ?_, ?_⟩
  · intro job hjob
    have hbegun := h.begun job hjob
    rw [Scheduler.slot_invalidate]
    split
    · next hkey => rw [hkey] at hbegun; exact Nat.le_succ_of_le hbegun
    · exact hbegun
  · intro job hjob
    have hbegun := h.begun job hjob
    rw [Scheduler.slot_invalidate]
    split
    · next hkey =>
      intro hcurrent
      rw [hkey] at hbegun
      exact absurd hcurrent (Nat.ne_of_lt (Nat.lt_succ_of_le hbegun))
    · exact h.held job hjob
  · intro other job
    rw [Scheduler.slot_invalidate]
    split
    · intro hjob
      cases hjob
    · exact h.runs other job
  · intro d hd
    have htaken := h.taken d hd
    rw [Scheduler.slot_invalidate]
    split
    · next hkey => rw [hkey] at htaken; exact Nat.le_succ_of_le htaken
    · exact htaken
  · intro d hd
    have htaken := h.taken d hd
    rw [Scheduler.slot_invalidate]
    split
    · next hkey =>
      intro hcurrent
      rw [hkey] at htaken
      exact absurd hcurrent (Nat.ne_of_lt (Nat.lt_succ_of_le htaken))
    · exact h.free d hd

theorem invalidateAll (h : Orderly s jobs due) (keys : List Derived) (now : Time) :
    Orderly (s.invalidateAll keys now) jobs due := by
  induction keys generalizing s with
  | nil => exact h
  | cons key keys ih => exact ih (h.invalidate key now)

/-- What is taken waited before, so that nothing ran for it. -/
theorem takeDue (h : Orderly s jobs []) (now : Time) :
    Orderly (s.takeDue now).2 jobs (s.takeDue now).1 := by
  have hfree : ∀ key, (s.slot key).isDue now = true → (s.slot key).job = none := by
    intro key hdue
    cases hjob : (s.slot key).job with
    | none => rfl
    | some job =>
      have hdeadline := (h.runs key job hjob).2.2.2
      simp [Slot.isDue, hdeadline] at hdue
  refine ⟨?_, h.distinct, ?_, ?_, s.nodup_due_keys now, ?_, ?_⟩
  · simpa using h.begun
  · simpa using h.held
  · intro key job hjob
    rw [Scheduler.job_takeDue] at hjob
    rcases h.runs key job hjob with ⟨hmem, hkey, hcurrent, hdeadline⟩
    refine ⟨hmem, hkey, by simpa using hcurrent, ?_⟩
    rw [Scheduler.slot_takeDue]
    split
    · rfl
    · exact hdeadline
  · intro d hd
    rw [Scheduler.generation_takeDue]
    exact Nat.le_of_eq ((s.mem_due_iff now d).mp hd).2
  · intro d hd _
    have hdue := ((s.mem_due_iff now d).mp hd).1
    rw [Scheduler.job_takeDue]
    refine ⟨?_, hfree d.1 hdue⟩
    rw [Scheduler.slot_takeDue, if_pos hdue]

/-- A value that was to be computed may be left out. -/
theorem tail {d : Derived × Nat} (h : Orderly s jobs (d :: due)) : Orderly s jobs due := by
  refine ⟨h.begun, h.distinct, h.held, h.runs, ?_, ?_, ?_⟩
  · exact (List.nodup_cons.mp h.once).2
  · exact fun d' hd' => h.taken d' (List.mem_cons_of_mem _ hd')
  · exact fun d' hd' => h.free d' (List.mem_cons_of_mem _ hd')

/-- The first job of a generation is started when its value is computed. -/
theorem track {job : Job P} (h : Orderly s jobs (job.ticket :: due))
    (hcurrent : s.isCurrent job.work.key job.generation = true) :
    Orderly (s.track job.work.key job.generation job) (jobs ++ [job]) due := by
  have hgeneration : job.generation = (s.slot job.work.key).generation :=
    ((s.isCurrent_iff _ _).mp hcurrent).symm
  have hfree := h.free job.ticket List.mem_cons_self hgeneration
  have hslot := fun other => s.slot_track job.work.key other job.generation job hcurrent
  have hothers : ∀ d ∈ due, d.1 ≠ job.work.key := by
    intro d hd hsame
    have hmem : d.1 ∈ due.map Prod.fst := List.mem_map_of_mem hd
    rw [hsame] at hmem
    exact (List.nodup_cons.mp h.once).1 hmem
  refine ⟨?_, ?_, ?_, ?_, h.tail.once, ?_, ?_⟩
  · intro other hother
    rw [hslot]
    rcases List.mem_append.mp hother with hold | hnew
    · have hbegun := h.begun other hold
      split
      · next hkey => rw [hkey] at hbegun; exact hbegun
      · exact hbegun
    · obtain rfl := List.mem_singleton.mp hnew
      simp [hgeneration]
  · rw [List.map_append, List.map_singleton, List.nodup_append]
    refine ⟨h.distinct, by simp, ?_⟩
    intro ticket hticket new hnew heq
    obtain rfl := List.mem_singleton.mp hnew
    subst heq
    rcases List.mem_map.mp hticket with ⟨other, hother, hsame⟩
    -- a second job of the generation would be the one that the slot holds, but the slot is free
    have hkey : other.work.key = job.work.key := congrArg Prod.fst hsame
    have hsame : other.generation = job.generation := congrArg Prod.snd hsame
    have hheld := h.held other hother (by rw [hsame, hkey]; exact hgeneration)
    rw [hkey] at hheld
    exact absurd (hheld.symm.trans hfree.2) (by simp)
  · intro other hother
    rw [hslot]
    rcases List.mem_append.mp hother with hold | hnew
    · split
      · next hkey =>
        intro hsame
        have hheld := h.held other hold (by rw [hkey]; exact hsame)
        rw [hkey] at hheld
        exact absurd (hheld.symm.trans hfree.2) (by simp)
      · exact h.held other hold
    · obtain rfl := List.mem_singleton.mp hnew
      simp
  · intro key other
    rw [hslot]
    split
    · next hkey =>
      intro hother
      obtain rfl := Option.some.inj hother
      exact ⟨by simp, hkey.symm, hgeneration, hfree.1⟩
    · intro hother
      rcases h.runs key other hother with ⟨hmem, hrest⟩
      exact ⟨List.mem_append_left _ hmem, hrest⟩
  · intro d hd
    rw [hslot, if_neg (hothers d hd)]
    exact h.taken d (List.mem_cons_of_mem _ hd)
  · intro d hd
    rw [hslot, if_neg (hothers d hd)]
    exact h.free d (List.mem_cons_of_mem _ hd)

/-! ## Jobs that come back -/

/-- The order in which jobs are listed is of no matter. -/
theorem perm {jobs' : List (Job P)} (h : Orderly s jobs due) (hperm : jobs.Perm jobs') :
    Orderly s jobs' due := by
  refine ⟨?_, ?_, ?_, ?_, h.once, h.taken, h.free⟩
  · exact fun job hjob => h.begun job (hperm.mem_iff.mpr hjob)
  · exact (hperm.map Job.ticket).nodup_iff.mp h.distinct
  · exact fun job hjob => h.held job (hperm.mem_iff.mpr hjob)
  · intro key job hjob
    rcases h.runs key job hjob with ⟨hmem, hrest⟩
    exact ⟨hperm.mem_iff.mp hmem, hrest⟩

/-- A job that comes back for an old generation leaves the slots as they are. -/
theorem of_cons_of_passed {job : Job P} (h : Orderly s (job :: jobs) due)
    (hpassed : job.generation ≠ (s.slot job.work.key).generation) : Orderly s jobs due := by
  refine ⟨?_, (List.nodup_cons.mp h.distinct).2, ?_, ?_, h.once, h.taken, h.free⟩
  · exact fun other hother => h.begun other (List.mem_cons_of_mem _ hother)
  · exact fun other hother => h.held other (List.mem_cons_of_mem _ hother)
  · intro key other hother
    rcases h.runs key other hother with ⟨hmem, hkey, hcurrent, hdeadline⟩
    refine ⟨?_, hkey, hcurrent, hdeadline⟩
    rcases List.mem_cons.mp hmem with rfl | hmem
    · rw [hkey] at hpassed
      exact absurd hcurrent hpassed
    · exact hmem

/-- The job of the current generation frees its slot when it comes back. -/
theorem finish {job : Job P} (h : Orderly s (job :: jobs) due)
    (hcurrent : s.isCurrent job.work.key job.generation = true) :
    Orderly (s.finish job.work.key job.generation) jobs due := by
  have hgeneration : (s.slot job.work.key).generation = job.generation :=
    (s.isCurrent_iff _ _).mp hcurrent
  have hslot := fun other => s.slot_finish job.work.key other job.generation hcurrent
  have hholds := h.held job List.mem_cons_self hgeneration.symm
  have hgone := (List.nodup_cons.mp h.distinct).1
  refine ⟨?_, (List.nodup_cons.mp h.distinct).2, ?_, ?_, h.once, ?_, ?_⟩
  · intro other hother
    have hbegun := h.begun other (List.mem_cons_of_mem _ hother)
    rw [hslot]
    split
    · next hkey => rw [hkey] at hbegun; exact hbegun
    · exact hbegun
  · intro other hother
    rw [hslot]
    split
    · next hkey =>
      -- the generation had one job, and that is the one that came back
      intro hsame
      have hticket : other.ticket = job.ticket :=
        Prod.ext hkey (hsame.trans hgeneration)
      exact absurd (hticket ▸ List.mem_map_of_mem hother) hgone
    · exact h.held other (List.mem_cons_of_mem _ hother)
  · intro key other
    rw [hslot]
    split
    · intro hother
      cases hother
    · next hkey =>
      intro hother
      rcases h.runs key other hother with ⟨hmem, hrest⟩
      refine ⟨?_, hrest⟩
      rcases List.mem_cons.mp hmem with rfl | hmem
      · exact absurd hrest.1.symm hkey
      · exact hmem
  · intro d hd
    rw [hslot]
    split
    · next hkey => rw [← hkey]; exact h.taken d hd
    · exact h.taken d hd
  · intro d hd
    rw [hslot]
    split
    · next hkey =>
      intro hsame
      rw [← hkey] at hsame ⊢
      exact ⟨(h.free d hd hsame).1, rfl⟩
    · exact h.free d hd

end Orderly

/-! ## Parts of an event -/

/-- The slots of an engine are orderly, while `underWay` were under way before the event at hand. -/
def Engine.InOrder (e : Engine P) (underWay : List (Job P)) (due : List (Derived × Nat)) : Prop :=
  Orderly e.scheduler (underWay ++ e.started) due

namespace Engine.InOrder

variable {e : Engine P} {underWay : List (Job P)} {due : List (Derived × Nat)}

/-- Whatever changes the scheduler by invalidation alone, and starts nothing, keeps the slots in
order. -/
theorem of_invalidateAll {e' : Engine P} (h : e.InOrder underWay due) (keys : List Derived)
    (now : Time) (hscheduler : e'.scheduler = e.scheduler.invalidateAll keys now)
    (hstarted : e'.started = e.started) : e'.InOrder underWay due := by
  rw [InOrder, hscheduler, hstarted]
  exact Orderly.invalidateAll h keys now

/-- Whatever leaves the scheduler alone and starts nothing keeps the slots in order. -/
theorem of_eq {e' : Engine P} (h : e.InOrder underWay due) (hscheduler : e'.scheduler = e.scheduler)
    (hstarted : e'.started = e.started) : e'.InOrder underWay due :=
  h.of_invalidateAll [] 0 hscheduler hstarted

theorem apply [DecidableEq P] (h : e.InOrder underWay due) (now : Time) (command : Command P) :
    (e.apply now command).InOrder underWay due :=
  h.of_invalidateAll (command.outdates e.inputs) now (e.scheduler_apply_eq_outdates now command)
    (e.started_apply now command)

/-- The first job of a generation is started when its value's turn comes. -/
theorem startJob {job : Job P} (h : e.InOrder underWay (job.ticket :: due)) :
    (e.startJob job).InOrder underWay due := by
  unfold InOrder
  rw [scheduler_startJob, started_startJob]
  split
  · next hcurrent =>
    rw [← List.append_assoc]
    exact Orderly.track h hcurrent
  · next hpassed =>
    rw [Scheduler.track, if_neg hpassed]
    exact h.tail

theorem recompute {key : Derived} {generation : Nat}
    (h : e.InOrder underWay ((key, generation) :: due)) (now : Time) :
    (e.recompute now key generation).InOrder underWay due := by
  have htail : e.InOrder underWay due := Orderly.tail h
  have hrecomputes := e.recomputes now key generation
  generalize e.recompute now key generation = e' at hrecomputes
  cases hrecomputes with
  | contextRead =>
    exact htail.of_invalidateAll Derived.context.dependents now rfl (started_publish _)
  | treeGone =>
    exact htail.of_invalidateAll Derived.tree.dependents now rfl (started_publish _)
  | parseStarted | evalStarted => exact InOrder.startJob h
  | outputGone | marked => exact htail.of_eq rfl (started_publish _)
  | treeless | outputless | unmarked => exact htail

theorem takeOutcome [DecidableEq P] (h : e.InOrder underWay due) (now : Time)
    (outcome : Outcome P) : (e.takeOutcome now outcome).InOrder underWay due := by
  rcases e.scheduler_takeOutcome now outcome with ⟨_, heq⟩ | ⟨_, heq⟩
  · exact h.of_invalidateAll Derived.tree.dependents now heq (e.started_takeOutcome now outcome)
  · exact h.of_eq heq (e.started_takeOutcome now outcome)

/-- A job that comes back is under way no more, whether or not its result still counts. -/
theorem commit [DecidableEq P] (h : e.InOrder underWay due) {i : Nat} {job : Job P}
    {outcome : Outcome P} (hjob : underWay[i]? = some job) (hof : Outcome.Of job.work outcome)
    (now : Time) : (e.commit now ⟨job.generation, outcome⟩).InOrder (underWay.eraseIdx i) due := by
  have hperm : (underWay ++ e.started).Perm (job :: (underWay.eraseIdx i ++ e.started)) := by
    rcases List.getElem?_eq_some_iff.mp hjob with ⟨hi, rfl⟩
    have hsplit : underWay = underWay.take i ++ underWay[i] :: underWay.drop (i + 1) := by simp
    have hremoved : underWay.Perm (underWay[i] :: underWay.eraseIdx i) := by
      rw [List.eraseIdx_eq_take_drop_succ]
      exact (List.Perm.of_eq hsplit).trans List.perm_middle
    exact hremoved.append_right e.started
  have horderly := Orderly.perm h hperm
  rcases e.commit_cases now ⟨job.generation, outcome⟩ with ⟨hcurrent, heq⟩ | ⟨hpassed, heq⟩
  · rw [hof.key_eq] at hcurrent heq
    have hfinished : ({ e with scheduler := e.scheduler.finish job.work.key job.generation } :
        Engine P).InOrder (underWay.eraseIdx i) due := horderly.finish hcurrent
    rw [heq]
    exact hfinished.takeOutcome now outcome
  · rw [hof.key_eq] at hpassed
    rw [heq]
    refine horderly.of_cons_of_passed ?_
    simpa [Scheduler.isCurrent, eq_comm] using hpassed

end Engine.InOrder

/-- Every part of an event keeps the slots in order. -/
theorem inOrder_stable [DecidableEq P] {brings : Work P → Outcome P → Prop}
    (hbrings : ∀ work outcome, brings work outcome → Outcome.Of work outcome) :
    Stable brings Engine.InOrder where
  start debounce now := (Orderly.blank debounce).invalidate .context now
  apply now command _ h := h.apply now command
  takeDue now _ h := Orderly.takeDue h now
  recompute now h := h.recompute now
  arrive now _ hjob hof h := h.commit hjob (hbrings _ _ hof) now
  showBusy {e underWay} h := by
    rcases e.showBusy_cases with heq | heq
    · rw [heq]; exact h
    · rw [heq]; exact h.of_eq rfl (Engine.started_publish _)
  releaseWaiters {e underWay} h := by
    rcases e.releaseWaiters_cases with ⟨waiters, released, heq⟩
    rw [heq]
    exact h.of_eq rfl (Engine.jobsOf_append_release _ released)
  deliver {e underWay} h := by
    have hnone : ({ e with outbox := [] } : Engine P).started = [] := rfl
    rw [Engine.InOrder, hnone, List.append_nil]
    exact h

/-- Between any two events the slots are orderly. -/
theorem Run.inOrder [DecidableEq P] {brings : Work P → Outcome P → Prop}
    (hbrings : ∀ work outcome, brings work outcome → Outcome.Of work outcome)
    {debounce start : Time} {ms : List (Moment P)} {w : World P}
    (hrun : Run brings (.start debounce start) ms w) : w.engine.InOrder w.underWay [] :=
  (inOrder_stable hbrings).of_run hrun

/-- A result that counts comes from the job that its slot holds. -/
theorem Run.job_of_accepted [DecidableEq P] {brings : Work P → Outcome P → Prop}
    (hbrings : ∀ work outcome, brings work outcome → Outcome.Of work outcome)
    {debounce start now : Time} {ms : List (Moment P)} {w u : World P} {c : Completion P}
    (hrun : Run brings (.start debounce start) ms w) (hoccurs : Occurs brings w now (.complete c) u)
    (haccepted : w.engine.scheduler.isCurrent c.outcome.key c.generation = true) :
    ∃ job ∈ w.underWay, job.generation = c.generation ∧ brings job.work c.outcome ∧
      (w.engine.scheduler.slot c.outcome.key).job = some job := by
  rw [Scheduler.isCurrent_iff] at haccepted
  cases hoccurs with
  | arrive i job outcome hjob hof =>
    have hmem : job ∈ w.underWay := List.mem_of_getElem? hjob
    have hkey := (hbrings _ _ hof).key_eq
    have hheld := (hrun.inOrder hbrings).held job (List.mem_append_left _ hmem)
    rw [← hkey] at hheld
    exact ⟨job, hmem, rfl, hof, hheld haccepted.symm⟩
  | straggle completion hpassed => exact absurd haccepted (Nat.ne_of_gt hpassed)

end GrammarDesk.Inspector
