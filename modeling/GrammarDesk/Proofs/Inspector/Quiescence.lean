import GrammarDesk.Proofs.Inspector.Settling

/-!
# Coming to rest

Computing one value anew may put another one out of date, even in the same pass, and without quiet
periods this one is due again at once.  But what is put out of date is worth less than what was
computed, so without commands there is an end to it.

Main definitions:

- `Scheduler.potential`: what the slots are worth together.
- `Moment.progress`: how many values are computed anew, and how many results are taken, at a moment.

Main results:

- `Engine.potential_recompute`: a value's turn costs less than it was worth to wait for it.
- `Engine.potential_fire`, `Engine.potential_commit`: passes and results pay for all that they do.
- `Run.potential_le`: the potential is bounded in every history.
- `Run.quiesces`: without commands there are at most ten steps until nothing is left, and then
  nobody waits.
-/

namespace GrammarDesk.Inspector

open Json GrammarDesk.Tree Grammar

variable {P : Type}

/-! ## What slots are worth -/

namespace Scheduler

/-- How many events the slots may still cause, at most. -/
def potential (s : Scheduler (Job P)) : Nat :=
  Derived.all.foldr (fun key total => Engine.slotPotential key (s.slot key) + total) 0

/-- With another slot for a value the potential changes by what the two slots are worth. -/
theorem potential_setSlot (s : Scheduler (Job P)) (key : Derived) (slot : Slot (Job P)) :
    (s.setSlot key slot).potential + Engine.slotPotential key (s.slot key) =
      s.potential + Engine.slotPotential key slot := by
  cases key <;> simp only [potential, Derived.all, List.foldr, Scheduler.slot, setSlot] <;> omega

/-- A value that is out of date is worth no more than its waiting. -/
theorem potential_invalidate (s : Scheduler (Job P)) (key : Derived) (now : Time) :
    (s.invalidate key now).potential ≤ s.potential + Engine.pendingWeight key := by
  have hset := s.potential_setSlot key ⟨(s.slot key).generation + 1, some (now + s.delay key), none⟩
  have hworth : Engine.slotPotential key
      (⟨(s.slot key).generation + 1, some (now + s.delay key), none⟩ : Slot (Job P)) =
        Engine.pendingWeight key := rfl
  rw [invalidate]
  omega

theorem potential_track (s : Scheduler (Job P)) (key : Derived) (generation : Nat) (job : Job P) :
    (s.track key generation job).potential ≤ s.potential + Engine.runningWeight key := by
  have hset := s.potential_setSlot key { s.slot key with job := some job }
  have hworth : Engine.slotPotential key { s.slot key with job := some job } ≤
      Engine.slotPotential key (s.slot key) + Engine.runningWeight key := by
    simp only [Engine.slotPotential, Option.isSome_some, if_true]
    omega
  unfold track
  split
  · omega
  · exact Nat.le_add_right _ _

/-- A slot that is free again gives back what its job was worth. -/
theorem potential_finish (s : Scheduler (Job P)) {key : Derived} {generation : Nat} {job : Job P}
    (hcurrent : s.isCurrent key generation = true) (hjob : (s.slot key).job = some job) :
    (s.finish key generation).potential + Engine.runningWeight key = s.potential := by
  have hset := s.potential_setSlot key { s.slot key with job := none }
  have hworth : Engine.slotPotential key ({ s.slot key with job := none } : Slot (Job P)) +
      Engine.runningWeight key = Engine.slotPotential key (s.slot key) := by
    simp [Engine.slotPotential, hjob]
  rw [finish, if_pos hcurrent]
  omega

/-- What the values in a list are worth while they wait. -/
def worth (due : List (Derived × Nat)) : Nat := (due.map fun d => Engine.pendingWeight d.1).sum

/-- What is due is taken out of the slots at its worth. -/
theorem potential_takeDue (s : Scheduler (Job P)) (now : Time) :
    (s.takeDue now).2.potential + worth (s.takeDue now).1 = s.potential := by
  have hslot : ∀ key, Engine.slotPotential key ((s.takeDue now).2.slot key) +
      (if (s.slot key).isDue now = true then Engine.pendingWeight key else 0) =
        Engine.slotPotential key (s.slot key) := by
    intro key
    rw [slot_takeDue]
    split
    · next hdue =>
      have hwaits : (s.slot key).deadline.isSome = true := by
        cases hdeadline : (s.slot key).deadline with
        | none => simp [Slot.isDue, hdeadline] at hdue
        | some => rfl
      simp [Engine.slotPotential, hwaits, Nat.add_comm]
    · rfl
  have hsum : ∀ keys : List Derived,
      keys.foldr (fun key total =>
          Engine.slotPotential key ((s.takeDue now).2.slot key) + total) 0 +
        worth ((keys.filter fun key => (s.slot key).isDue now).map fun key =>
          (key, (s.slot key).generation)) =
        keys.foldr (fun key total => Engine.slotPotential key (s.slot key) + total) 0 := by
    intro keys
    induction keys with
    | nil => rfl
    | cons key keys ih =>
      have hhead := hslot key
      rw [List.foldr_cons, List.foldr_cons, ← ih, List.filter_cons]
      split
      · next hdue =>
        rw [if_pos hdue] at hhead
        simp only [worth, List.map_cons, List.sum_cons] at ih ⊢
        omega
      · next hdue =>
        rw [if_neg hdue] at hhead
        omega
  exact hsum Derived.all

/-- Together the slots are worth no more than if all values waited, as long as none waits and runs
at once. -/
theorem potential_le (s : Scheduler (Job P))
    (hruns : ∀ key job, (s.slot key).job = some job → (s.slot key).deadline = none) :
    s.potential ≤ 10 := by
  have hslot : ∀ key, Engine.slotPotential key (s.slot key) ≤ Engine.pendingWeight key := by
    intro key
    have hless : Engine.runningWeight key ≤ Engine.pendingWeight key := Nat.sub_le _ _
    cases hjob : (s.slot key).job with
    | none =>
      simp only [Engine.slotPotential, hjob]
      split <;> simp
    | some job => simp [Engine.slotPotential, hjob, hruns key job hjob, hless]
  have hcontext := hslot .context
  have htree := hslot .tree
  have houtput := hslot .output
  have hmark := hslot .selectionMark
  simp only [Engine.pendingWeight] at hcontext htree houtput hmark
  simp only [potential, Derived.all, List.foldr]
  omega

end Scheduler

/-! ## What the parts of an event cost -/

namespace Engine

theorem potential_eq (e : Engine P) : e.potential = e.scheduler.potential := rfl

theorem potential_startJob (e : Engine P) (job : Job P) :
    (e.startJob job).potential ≤ e.potential + runningWeight job.work.key := by
  rw [potential_eq, scheduler_startJob]
  exact e.scheduler.potential_track _ _ _

/-- A value's turn costs less than it was worth to wait for it. -/
theorem potential_recompute (e : Engine P) (now : Time) (key : Derived) (generation : Nat) :
    (e.recompute now key generation).potential < e.potential + pendingWeight key := by
  have houtput := e.scheduler.potential_invalidate .output now
  have hrecomputes := e.recomputes now key generation
  generalize e.recompute now key generation = e' at hrecomputes
  cases hrecomputes with
  | contextRead | treeGone =>
    refine Nat.lt_of_le_of_lt houtput ?_
    rw [potential_eq]
    exact Nat.add_lt_add_left (by decide) _
  | parseStarted =>
    have hless : runningWeight .tree < pendingWeight .tree := by decide
    exact Nat.lt_of_le_of_lt (e.potential_startJob _) (Nat.add_lt_add_left hless _)
  | evalStarted =>
    have hless : runningWeight .output < pendingWeight .output := by decide
    exact Nat.lt_of_le_of_lt (e.potential_startJob _) (Nat.add_lt_add_left hless _)
  | treeless | outputGone | outputless | marked | unmarked =>
    exact Nat.lt_add_of_pos_right (by decide)

/-- Each value that is computed in a pass costs something. -/
theorem potential_fire (e : Engine P) (now : Time) :
    (e.fire now).potential + (e.scheduler.due now).length ≤ e.potential := by
  suffices hpass : (e.fire now).potential + Scheduler.worth [] + (e.scheduler.due now).length ≤
      e.potential + ([] : List (Derived × Nat)).length by
    simpa [Scheduler.worth] using hpass
  refine fire_induction
    (fun e' due => e'.potential + Scheduler.worth due + (e.scheduler.due now).length ≤
      e.potential + due.length) ?_ ?_
  · exact Nat.add_le_add_right (Nat.le_of_eq (e.scheduler.potential_takeDue now)) _
  · intro e' key generation due hbefore
    have hturn := e'.potential_recompute now key generation
    simp only [Scheduler.worth, List.map_cons, List.sum_cons, List.length_cons] at hbefore ⊢
    omega

variable [DecidableEq P]

/-- Taking an outcome costs less than the job was worth. -/
theorem potential_takeOutcome (e : Engine P) (now : Time) (outcome : Outcome P) :
    (e.takeOutcome now outcome).potential < e.potential + runningWeight outcome.key := by
  rw [potential_eq, potential_eq]
  rcases e.scheduler_takeOutcome now outcome with ⟨hshows, heq⟩ | ⟨_, heq⟩
  · rcases hshows with ⟨_, _, _, rfl, _⟩
    have hless : pendingWeight .output < runningWeight .tree := by decide
    rw [heq]
    exact Nat.lt_of_le_of_lt (e.scheduler.potential_invalidate .output now)
      (Nat.add_lt_add_left hless _)
  · have hpos : 0 < runningWeight outcome.key := by
      cases outcome with
      | tree => exact (by decide : 0 < runningWeight .tree)
      | output => exact (by decide : 0 < runningWeight .output)
    rw [heq]
    exact Nat.lt_add_of_pos_right hpos

/-- A result that counts costs something. -/
theorem potential_commit (e : Engine P) (now : Time) {c : Completion P} {job : Job P}
    (hcurrent : e.scheduler.isCurrent c.outcome.key c.generation = true)
    (hjob : (e.scheduler.slot c.outcome.key).job = some job) :
    (e.commit now c).potential < e.potential := by
  have hfinish := e.scheduler.potential_finish hcurrent hjob
  rcases e.commit_cases now c with ⟨_, heq⟩ | ⟨hpassed, _⟩
  · have htake := potential_takeOutcome
      { e with scheduler := e.scheduler.finish c.outcome.key c.generation } now c.outcome
    rw [heq, potential_eq e, ← hfinish]
    exact htake
  · rw [hcurrent] at hpassed
    cases hpassed

end Engine

/-! ## In the course of a history -/

/-- How many values are computed anew, and how many results are taken, at a moment. -/
def Moment.progress (m : Moment P) : Nat :=
  match m.event with
  | .command _ => 0
  | .fire => (m.before.engine.scheduler.due m.now).length
  | .complete c =>
    if m.before.engine.scheduler.isCurrent c.outcome.key c.generation then 1 else 0

section History

variable [DecidableEq P] {brings : Work P → Outcome P → Prop} {debounce start now : Time}
  {ms past later : List (Moment P)} {v w u : World P} {event : Event P}

/-- Whatever is done at a moment without a command is paid for. -/
theorem Run.potential_of_occurs
    (hbrings : ∀ work outcome, brings work outcome → Outcome.Of work outcome)
    (hrun : Run brings (.start debounce start) ms w) (hoccurs : Occurs brings w now event u)
    (hquiet : ∀ command, event ≠ .command command) :
    u.engine.potential + (⟨w, now, event, u⟩ : Moment P).progress ≤ w.engine.potential := by
  have hafter : u.engine.potential = (w.engine.handle now event).potential :=
    congrArg Scheduler.potential hoccurs.scheduler_eq
  rw [hafter]
  cases event with
  | command command => exact absurd rfl (hquiet command)
  | fire => exact w.engine.potential_fire now
  | complete c =>
    rw [Moment.progress, Engine.handle]
    dsimp only
    split
    · next haccepted =>
      rcases hrun.job_of_accepted hbrings hoccurs haccepted with ⟨job, _, _, _, hjob⟩
      exact w.engine.potential_commit now haccepted hjob
    · next hpassed =>
      rw [Engine.commit_of_not_current _ _ _ (by simpa using hpassed)]
      exact Nat.le_refl _

/-- All that is done without a command is paid for. -/
theorem Run.potential_of_quiet
    (hbrings : ∀ work outcome, brings work outcome → Outcome.Of work outcome)
    (hrun : Run brings (.start debounce start) past v) (hlater : Run brings v later w)
    (hquiet : ∀ m ∈ later, ∀ command, m.event ≠ .command command) :
    (later.map Moment.progress).sum + w.engine.potential ≤ v.engine.potential := by
  induction hlater with
  | refl => simp
  | @snoc later w u now event hlater hoccurs ih =>
    rw [List.forall_mem_append, List.forall_mem_singleton] at hquiet
    have hbefore := ih hquiet.1
    have hlast := (hrun.append hlater).potential_of_occurs hbrings hoccurs hquiet.2
    rw [List.map_append, List.sum_append, List.map_singleton, List.sum_singleton]
    omega

/-- The potential is bounded in every history. -/
theorem Run.potential_le
    (hbrings : ∀ work outcome, brings work outcome → Outcome.Of work outcome)
    (hrun : Run brings (.start debounce start) ms w) : w.engine.potential ≤ 10 :=
  w.engine.scheduler.potential_le fun key job hjob =>
    ((hrun.inOrder hbrings).runs key job hjob).2.2.2

/-- Nobody is kept waiting by an engine that has nothing to compute. -/
theorem Run.rest_of_not_isBusy (hrun : Run brings (.start debounce start) ms w)
    (hidle : w.engine.isBusy = false) :
    w.engine.state.isBusy = false ∧ w.engine.published.isBusy = false ∧
      w.engine.waiters = [] := by
  have hpublished := hrun.visible.1.isBusy_eq
  cases hrun with
  | refl => exact ⟨rfl, rfl, rfl⟩
  | snoc hbefore hoccurs =>
    have hstate := hoccurs.isBusy_eq.trans hidle
    refine ⟨hstate, hpublished.trans hstate, ?_⟩
    rcases hoccurs.released_cases (hbefore.outbox_eq_nil rfl) with ⟨hbusy, _⟩ | ⟨_, _, hwaiters⟩
    · rw [hidle] at hbusy
      cases hbusy
    · exact hwaiters

/-- A job that a slot holds is under way, and its result would count. -/
theorem Run.held_of_job
    (hbrings : ∀ work outcome, brings work outcome → Outcome.Of work outcome)
    (hrun : Run brings (.start debounce start) ms w) {key : Derived} {job : Job P}
    (hjob : (w.engine.scheduler.slot key).job = some job) :
    ∃ i : Nat, w.underWay[i]? = some job ∧
      w.engine.scheduler.isCurrent job.work.key job.generation = true := by
  rcases (hrun.inOrder hbrings).runs key job hjob with ⟨hmem, hkey, hgeneration, _⟩
  have hunderWay : job ∈ w.underWay := by
    simpa [Engine.started, hrun.outbox_eq_nil rfl, jobsOf] using hmem
  rcases List.mem_iff_getElem?.mp hunderWay with ⟨i, hi⟩
  refine ⟨i, hi, ?_⟩
  rw [hkey, Scheduler.isCurrent_iff, hgeneration]

/-- As long as something waits or runs, something can be done without a command: a quiet period ends
in time, or a result comes back and counts. -/
theorem Run.progress_of_isBusy {pluginOf : P → Plugin}
    (hrun : Run (Work.MayBring pluginOf) (.start debounce start) ms w)
    (hbusy : w.engine.isBusy = true) :
    ∃ earliest, ∀ now, earliest ≤ now → ∃ event u,
      Occurs (Work.MayBring pluginOf) w now event u ∧
        (∀ command, event ≠ .command command) ∧ 0 < (⟨w, now, event, u⟩ : Moment P).progress := by
  rcases w.engine.isBusy_iff.mp hbusy with ⟨key, hwaits | hruns⟩
  · rcases Option.ne_none_iff_exists'.mp hwaits with ⟨deadline, hdeadline⟩
    refine ⟨deadline, fun now hlate => ⟨.fire, _, .fire, by simp, ?_⟩⟩
    have hdue : (w.engine.scheduler.slot key).isDue now = true := by
      simpa [Slot.isDue, hdeadline] using hlate
    have hmem : (key, (w.engine.scheduler.slot key).generation) ∈ w.engine.scheduler.due now :=
      (w.engine.scheduler.mem_due_iff now _).mpr ⟨hdue, rfl⟩
    exact List.length_pos_of_mem hmem
  · rcases Option.ne_none_iff_exists'.mp hruns with ⟨job, hjob⟩
    rcases hrun.held_of_job (fun _ _ h => h.of) hjob with ⟨i, hi, hcurrent⟩
    -- any backend will do, for whatever a job brings counts
    obtain ⟨outcome, hbrings⟩ : ∃ outcome, job.work.MayBring pluginOf outcome :=
      ⟨_, Unit, fun call _ => (Sample.answer call, ()), (), rfl⟩
    refine ⟨0, fun now _ => ⟨.complete ⟨job.generation, outcome⟩, _,
      .arrive i job outcome hi hbrings, by simp, ?_⟩⟩
    rw [← hbrings.of.key_eq] at hcurrent
    simp [Moment.progress, hcurrent]

/-- Without commands the inspector comes to rest.  Each value that is computed anew and each result
that is taken lowers the potential, which is ten at most, whatever the history and the length of
quiet periods.  Where no slot waits and none runs, nothing is shown as busy and nobody waits; and as
long as some slot does, something can be done. -/
theorem Run.quiesces {pluginOf : P → Plugin}
    (hrun : Run (Work.MayBring pluginOf) (.start debounce start) past v) :
    v.engine.potential ≤ 10 ∧
    (∀ later w, Run (Work.MayBring pluginOf) v later w →
      (∀ m ∈ later, ∀ command, m.event ≠ .command command) →
      (∀ m ∈ later, m.after.engine.potential + m.progress ≤ m.before.engine.potential) ∧
      (later.map Moment.progress).sum + w.engine.potential ≤ v.engine.potential) ∧
    ((∀ key, (v.engine.scheduler.slot key).deadline = none ∧
        (v.engine.scheduler.slot key).job = none) →
      v.engine.scheduler.isIdle = true ∧ v.engine.state.isBusy = false ∧
        v.engine.published.isBusy = false ∧ v.engine.waiters = []) ∧
    (v.engine.isBusy = true → ∃ earliest, ∀ now, earliest ≤ now → ∃ event u,
      Occurs (Work.MayBring pluginOf) v now event u ∧
        (∀ command, event ≠ .command command) ∧
        0 < (⟨v, now, event, u⟩ : Moment P).progress) := by
  have hof : ∀ (work : Work P) (outcome : Outcome P),
      work.MayBring pluginOf outcome → Outcome.Of work outcome := fun _ _ h => h.of
  refine ⟨hrun.potential_le hof, ?_, ?_, hrun.progress_of_isBusy⟩
  · intro later w hlater hquiet
    refine ⟨?_, hrun.potential_of_quiet hof hlater hquiet⟩
    intro m hm
    rcases List.mem_iff_append.mp hm with ⟨before, rest, rfl⟩
    rcases hlater.cut rfl with ⟨hbefore, hat, _⟩
    exact (hrun.append hbefore).potential_of_occurs hof hat (hquiet m hm)
  · intro hrest
    have hidle := v.engine.scheduler.isIdle_iff.mpr hrest
    exact ⟨hidle, hrun.rest_of_not_isBusy (by rw [Engine.isBusy, hidle]; rfl)⟩

end History

/-- Without quiet periods the output is due again as soon as the context has been read, before the
tree is there, and once more when it is.  Six steps lead to rest, and somebody who asked at the
beginning waits no longer. -/
theorem Run.quiesces_of_undelayed :
    ∃ (past later : List (Moment Bool)) (v w : World Bool),
      Run (Work.MayBring Sample.plugin) (.start 0 0) past v ∧
      Run (Work.MayBring Sample.plugin) v later w ∧
      (∀ m ∈ later, ∀ command, m.event ≠ .command command) ∧ v.engine.waiters = [7] ∧
      (later.map Moment.progress).sum = 6 ∧ 6 + w.engine.potential ≤ v.engine.potential ∧
      v.engine.potential ≤ 10 ∧ w.engine.published.isBusy = false ∧ w.engine.waiters = [] := by
  obtain ⟨past, later, v, w, hpast, hlater, hquiet, hwaiters, hsum, hrest⟩ :
      ∃ (past later : List (Moment Bool)) (v w : World Bool),
      Run (Work.MayBring Sample.plugin) (.start 0 0) past v ∧
      Run (Work.MayBring Sample.plugin) v later w ∧
      (∀ m ∈ later, ∀ command, m.event ≠ .command command) ∧ v.engine.waiters = [7] ∧
      (later.map Moment.progress).sum = 6 ∧
      ∀ key, (w.engine.scheduler.slot key).deadline = none ∧
        (w.engine.scheduler.slot key).job = none := by
    exact ⟨_, _, _, _, ((Run.refl.command 10 (.setPlugin (some true))).command 10
      (.setExpression "1")).command 10 (.settle 7),
      ((((Run.refl.fire 10).fire 10).arrive 10 0 _ _ (by cbv) Sample.brings_tree).fire 10).arrive 10
        0 _ _ (by cbv) (Sample.brings_output true),
      by simp, by cbv, by cbv, by intro key; cases key <;> constructor <;> cbv⟩
  rcases hpast.quiesces with ⟨hbound, hquiesces, _⟩
  rcases (hpast.append hlater).quiesces with ⟨_, _, hnobody, _⟩
  rcases hnobody hrest with ⟨_, _, hpublished, hnone⟩
  refine ⟨past, later, v, w, hpast, hlater, hquiet, hwaiters, hsum, ?_, hbound, hpublished, hnone⟩
  have hpaid := (hquiesces later w hlater hquiet).2
  rwa [hsum] at hpaid

end GrammarDesk.Inspector
