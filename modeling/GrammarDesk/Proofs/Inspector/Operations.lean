import Mathlib.Data.List.Induction
import Mathlib.Data.List.Nodup
import GrammarDesk.Proofs.Inspector.Frames

/-!
# What is asked of the scheduler

An event may ask the scheduler for several things, and some of them while values that were due
before are still to be computed.  Here every single request is written down in its place, with the
scheduler as it finds it.

Main definitions:

- `Operation`, `Operation.perform`: what can be asked of the scheduler.
- `Demand`, `demandsFrom`: an operation with the scheduler that it meets, and those of a history.
- `Engine.operations`: what an event asks for, one after the other.
- `operationsOf`: what is asked for in a history.
- `taken`, `accepted`, `dropped`: what becomes of generations in it.

Main results:

- `Engine.scheduler_handle`: an event does to the scheduler what its operations do.
- `Operation.slot_perform`: what an operation does to generations and deadlines.
- `nodup_taken`: no generation of a value is taken twice, whatever is asked for.
- `Engine.turn_cases`: in its turn a value marks others or starts a job.
- `Run.scheduler_eq`: the scheduler after a history.
-/

namespace GrammarDesk.Inspector

open Json GrammarDesk.Tree

variable {P : Type}

/-! ## Operations -/

/-- What can be asked of the scheduler. -/
inductive Operation (P : Type) where
  | invalidate (key : Derived) (now : Time)
  | takeDue (now : Time)
  | track (job : Job P)
  | finish (key : Derived) (generation : Nat)
  | cancelAll

/-- The scheduler after an operation. -/
def Operation.perform (s : Scheduler (Job P)) : Operation P → Scheduler (Job P)
  | .invalidate key now => s.invalidate key now
  | .takeDue now => (s.takeDue now).2
  | .track job => s.track job.work.key job.generation job
  | .finish key generation => s.finish key generation
  | .cancelAll => s.cancelAll

/-- The scheduler after operations, one after the other. -/
def performAll (s : Scheduler (Job P)) (ops : List (Operation P)) : Scheduler (Job P) :=
  ops.foldl Operation.perform s

/-- An operation, and the scheduler that it meets. -/
structure Demand (P : Type) where
  before : Scheduler (Job P)
  operation : Operation P

namespace Demand

/-- The scheduler after the operation. -/
def after (c : Demand P) : Scheduler (Job P) := c.operation.perform c.before

/-- The values and generations that are taken because they are due. -/
def takes (c : Demand P) : List (Derived × Nat) :=
  match c.operation with
  | .takeDue now => (c.before.takeDue now).1
  | _ => []

/-- The value and generation whose result is accepted, if any. -/
def accepts (c : Demand P) : List (Derived × Nat) :=
  match c.operation with
  | .finish key generation =>
    if c.before.isCurrent key generation then [(key, generation)] else []
  | _ => []

/-- The value and generation whose job is dropped as soon as it is started, if any. -/
def drops (c : Demand P) : List (Derived × Nat) :=
  match c.operation with
  | .track job =>
    if c.before.isCurrent job.work.key job.generation then [] else [(job.work.key, job.generation)]
  | _ => []

end Demand

/-- Operations one after the other, each on the scheduler that the earlier ones leave. -/
def demandsFrom (s : Scheduler (Job P)) : List (Operation P) → List (Demand P)
  | [] => []
  | op :: ops => ⟨s, op⟩ :: demandsFrom (op.perform s) ops

/-- The values and generations that are taken, in order. -/
def taken (s : Scheduler (Job P)) (ops : List (Operation P)) : List (Derived × Nat) :=
  (demandsFrom s ops).flatMap Demand.takes

/-- The values and generations whose results are accepted, in order. -/
def accepted (s : Scheduler (Job P)) (ops : List (Operation P)) : List (Derived × Nat) :=
  (demandsFrom s ops).flatMap Demand.accepts

/-- The values and generations whose jobs are dropped as soon as they are started, in order. -/
def dropped (s : Scheduler (Job P)) (ops : List (Operation P)) : List (Derived × Nat) :=
  (demandsFrom s ops).flatMap Demand.drops

theorem performAll_append (s : Scheduler (Job P)) (ops ops' : List (Operation P)) :
    performAll s (ops ++ ops') = performAll (performAll s ops) ops' :=
  List.foldl_append

/-- What is asked for in two parts is asked for one after the other. -/
theorem demandsFrom_append (s : Scheduler (Job P)) (ops ops' : List (Operation P)) :
    demandsFrom s (ops ++ ops') = demandsFrom s ops ++ demandsFrom (performAll s ops) ops' := by
  induction ops generalizing s with
  | nil => rfl
  | cons op ops ih => exact congrArg (List.cons _) (ih _)

/-- One operation more meets the scheduler that the others leave. -/
theorem demandsFrom_concat (s : Scheduler (Job P)) (ops : List (Operation P)) (op : Operation P) :
    demandsFrom s (ops ++ [op]) = demandsFrom s ops ++ [⟨performAll s ops, op⟩] :=
  demandsFrom_append s ops [op]

/-- One operation more takes what it finds due. -/
theorem taken_concat (s : Scheduler (Job P)) (ops : List (Operation P)) (op : Operation P) :
    taken s (ops ++ [op]) = taken s ops ++ (⟨performAll s ops, op⟩ : Demand P).takes := by
  rw [taken, demandsFrom_concat, List.flatMap_append, List.flatMap_singleton]
  rfl

/-- One operation more accepts what is current then. -/
theorem accepted_concat (s : Scheduler (Job P)) (ops : List (Operation P)) (op : Operation P) :
    accepted s (ops ++ [op]) = accepted s ops ++ (⟨performAll s ops, op⟩ : Demand P).accepts := by
  rw [accepted, demandsFrom_concat, List.flatMap_append, List.flatMap_singleton]
  rfl

/-- One operation more drops what has passed by then. -/
theorem dropped_concat (s : Scheduler (Job P)) (ops : List (Operation P)) (op : Operation P) :
    dropped s (ops ++ [op]) = dropped s ops ++ (⟨performAll s ops, op⟩ : Demand P).drops := by
  rw [dropped, demandsFrom_concat, List.flatMap_append, List.flatMap_singleton]
  rfl

/-! ## Generations and deadlines -/

/-- An operation invalidates a slot, or leaves its generation alone and does not make it wait. -/
theorem Operation.slot_perform (s : Scheduler (Job P)) (op : Operation P) (key : Derived) :
    (∃ now, op = .invalidate key now ∧
      ((op.perform s).slot key).generation = (s.slot key).generation + 1) ∨
    (((op.perform s).slot key).generation = (s.slot key).generation ∧
      ((s.slot key).deadline = none → ((op.perform s).slot key).deadline = none)) := by
  cases op with
  | invalidate other now =>
    by_cases hkey : key = other
    · subst hkey
      exact .inl ⟨now, rfl, by simp [perform]⟩
    · rw [perform, s.slot_invalidate_of_ne now hkey]
      exact .inr ⟨rfl, id⟩
  | takeDue now => exact .inr ⟨s.generation_takeDue now key, s.deadline_takeDue now key⟩
  | track job => exact .inr (by simp [perform])
  | finish other generation => exact .inr (by simp [perform])
  | cancelAll =>
    rw [perform, Scheduler.slot_cancelAll]
    exact .inr ⟨rfl, fun _ => rfl⟩

/-- No operation leads back to an older generation. -/
theorem Operation.generation_le (s : Scheduler (Job P)) (op : Operation P) (key : Derived) :
    (s.slot key).generation ≤ ((op.perform s).slot key).generation := by
  rcases op.slot_perform s key with ⟨_, _, hgeneration⟩ | ⟨hgeneration, _⟩ <;> omega

/-- Every operation of a history meets the generations at its beginning or later ones. -/
theorem generation_le_of_mem_demandsFrom {s : Scheduler (Job P)} {ops : List (Operation P)}
    {c : Demand P} (h : c ∈ demandsFrom s ops) (key : Derived) :
    (s.slot key).generation ≤ (c.before.slot key).generation := by
  induction ops generalizing s with
  | nil => cases h
  | cons op ops ih =>
    rcases List.mem_cons.1 h with rfl | hlater
    · exact Nat.le_refl _
    · exact Nat.le_trans (op.generation_le s key) (ih hlater)

/-! ## What has been taken -/

/-- Values are taken because they are due, each with its current generation. -/
theorem Demand.mem_takes_iff (c : Demand P) (d : Derived × Nat) :
    d ∈ c.takes ↔ ∃ now, c.operation = .takeDue now ∧
      (c.before.slot d.1).isDue now = true ∧ d.2 = (c.before.slot d.1).generation := by
  obtain ⟨s, op⟩ := c
  cases op with
  | takeDue now => simp [takes, Scheduler.takeDue, Scheduler.mem_due_iff]
  | _ => simp [takes]

/-- What is taken now is of the current generation, and waits no longer. -/
theorem Demand.slot_of_mem_takes {c : Demand P} {d : Derived × Nat} (h : d ∈ c.takes) :
    d.2 = (c.after.slot d.1).generation ∧ (c.after.slot d.1).deadline = none := by
  obtain ⟨now, hop, hdue, hgeneration⟩ := (c.mem_takes_iff d).1 h
  rw [after, hop, Operation.perform, Scheduler.slot_takeDue, if_pos hdue]
  exact ⟨hgeneration, rfl⟩

/-- What has been taken is of a generation that has begun, and if that is the current one it does
not wait to be taken again. -/
def Spent (s : Scheduler (Job P)) (d : Derived × Nat) : Prop :=
  d.2 ≤ (s.slot d.1).generation ∧
    (d.2 = (s.slot d.1).generation → (s.slot d.1).deadline = none)

/-- What has been taken before an operation does not come back by it. -/
theorem Spent.perform {s : Scheduler (Job P)} {d : Derived × Nat} (h : Spent s d)
    (op : Operation P) : Spent (op.perform s) d := by
  obtain ⟨hbegun, hrests⟩ := h
  rcases op.slot_perform s d.1 with ⟨_, _, hgeneration⟩ | ⟨hgeneration, hdeadline⟩
  · refine ⟨?_, fun hcurrent => ?_⟩ <;> omega
  · rw [Spent, hgeneration]
    exact ⟨hbegun, fun hcurrent => hdeadline (hrests hcurrent)⟩

/-- Whatever has been taken in a history is spent at its end. -/
theorem spent_of_mem_taken (s : Scheduler (Job P)) (ops : List (Operation P)) :
    ∀ d ∈ taken s ops, Spent (performAll s ops) d := by
  induction ops using List.reverseRecOn with
  | nil => exact fun d hd => absurd hd List.not_mem_nil
  | append_singleton ops op ih =>
    intro d hd
    rw [taken_concat, List.mem_append] at hd
    rw [performAll_append]
    rcases hd with hold | hnew
    · exact (ih d hold).perform op
    · obtain ⟨hgeneration, hdeadline⟩ := Demand.slot_of_mem_takes hnew
      exact ⟨Nat.le_of_eq hgeneration, fun _ => hdeadline⟩

/-- No value is taken twice at once. -/
theorem Demand.nodup_takes (c : Demand P) : c.takes.Nodup := by
  obtain ⟨s, op⟩ := c
  cases op with
  | takeDue now => exact (s.nodup_due_keys now).of_map _
  | _ => exact List.nodup_nil

/-- Whatever is asked for, no generation of a value is taken twice. -/
theorem nodup_taken (s : Scheduler (Job P)) (ops : List (Operation P)) : (taken s ops).Nodup := by
  induction ops using List.reverseRecOn with
  | nil => exact List.nodup_nil
  | append_singleton ops op ih =>
    rw [taken_concat, List.nodup_append']
    refine ⟨ih, Demand.nodup_takes _, fun d hold hnew => ?_⟩
    -- it waited when it was taken again, but what has been taken does not wait
    obtain ⟨now, -, hdue, hgeneration⟩ := (Demand.mem_takes_iff _ d).1 hnew
    have hdeadline := (spent_of_mem_taken s ops d hold).2 hgeneration
    simp [Slot.isDue, hdeadline] at hdue

/-! ## What an event asks for -/

/-- Values are marked one after the other. -/
def invalidates (now : Time) (keys : List Derived) : List (Operation P) :=
  keys.map (.invalidate · now)

/-- To mark values one after the other is to mark them all. -/
theorem performAll_invalidates (s : Scheduler (Job P)) (now : Time) (keys : List Derived) :
    performAll s (invalidates now keys) = s.invalidateAll keys now :=
  List.foldl_map

namespace Engine

/-- What is asked for in the turn of a value. -/
def turnOperations (e : Engine P) (now : Time) (key : Derived) (generation : Nat) :
    List (Operation P) :=
  match key with
  | .context => invalidates now Derived.context.dependents
  | .tree =>
    match e.inputs.plugin with
    | some plugin => [.track ⟨generation, e.parseWork plugin⟩]
    | none => if e.state.treeRoot.isSome then invalidates now Derived.tree.dependents else []
  | .output =>
    match e.evalWork? with
    | some work => [.track ⟨generation, work⟩]
    | none => []
  | .selectionMark => []

/-- What is asked for in the turns of a pass that are still to come. -/
def passOperations (e : Engine P) (now : Time) : List (Derived × Nat) → List (Operation P)
  | [] => []
  | (key, generation) :: due =>
    e.turnOperations now key generation ++ (e.recompute now key generation).passOperations now due

/-- In its turn a value marks others or starts a job. -/
theorem turn_cases (e : Engine P) (now : Time) (key : Derived) (generation : Nat) :
    (∃ keys, e.turnOperations now key generation = invalidates now keys ∧
      (e.recompute now key generation).scheduler = e.scheduler.invalidateAll keys now ∧
      (e.recompute now key generation).started = e.started) ∨
    ∃ work : Work P, work.key = key ∧
      e.turnOperations now key generation = [.track ⟨generation, work⟩] ∧
      e.recompute now key generation = e.startJob ⟨generation, work⟩ := by
  cases key with
  | context =>
    rw [recompute, recomputeContext_eq, turnOperations]
    exact .inl ⟨_, rfl, rfl, started_publish _⟩
  | tree =>
    rw [recompute, turnOperations]
    rcases e.startParse_cases now generation with
      ⟨plugin, hplugin, heq⟩ | ⟨hnone, htree, heq⟩ | ⟨hnone, htree, heq⟩
    · rw [heq, hplugin]
      exact .inr ⟨_, rfl, rfl, rfl⟩
    · rw [heq, hnone, if_pos (Option.isSome_iff_ne_none.2 htree)]
      exact .inl ⟨_, rfl, rfl, started_publish _⟩
    · rw [heq, hnone, htree]
      exact .inl ⟨[], rfl, rfl, rfl⟩
  | output =>
    rw [recompute, turnOperations]
    rcases e.startEval_cases generation with ⟨work, hwork, heq⟩ | ⟨hnothing, heq⟩
    · obtain ⟨_, _, _, _, _, _, _, _, _, rfl⟩ := (e.evalWork?_eq_some_iff work).1 hwork
      rw [heq, hwork]
      exact .inr ⟨_, rfl, rfl, rfl⟩
    · rw [heq, hnothing]
      rcases e.clearOutput_cases with ⟨_, _, hclear⟩ | hclear
      · rw [hclear]
        exact .inl ⟨[], rfl, rfl, rfl⟩
      · rw [hclear]
        exact .inl ⟨[], rfl, rfl, started_publish _⟩
  | selectionMark =>
    rw [recompute]
    rcases e.recomputeMark_cases with ⟨_, heq⟩ | heq
    · rw [heq]
      exact .inl ⟨[], rfl, rfl, rfl⟩
    · rw [heq]
      exact .inl ⟨[], rfl, rfl, started_publish _⟩

/-- A turn does to the scheduler what is asked for in it. -/
theorem scheduler_recompute (e : Engine P) (now : Time) (key : Derived) (generation : Nat) :
    (e.recompute now key generation).scheduler =
      performAll e.scheduler (e.turnOperations now key generation) := by
  rcases e.turn_cases now key generation with ⟨keys, hops, heq, -⟩ | ⟨work, -, hops, heq⟩
  · rw [heq, hops, performAll_invalidates]
  · rw [heq, hops, scheduler_startJob]
    rfl

/-- A pass does to the scheduler what is asked for in its turns. -/
theorem scheduler_pass (e : Engine P) (now : Time) (due : List (Derived × Nat)) :
    (due.foldl (fun e d => e.recompute now d.1 d.2) e).scheduler =
      performAll e.scheduler (e.passOperations now due) := by
  induction due generalizing e with
  | nil => rfl
  | cons d due ih =>
    rw [List.foldl_cons, ih, passOperations, performAll_append, scheduler_recompute]

variable [DecidableEq P]

/-- What is asked for when an outcome is taken. -/
def outcomeOperations (e : Engine P) (now : Time) : Outcome P → List (Operation P)
  | .tree plugin _ (.ok _) =>
    if e.inputs.plugin = some plugin then invalidates now Derived.tree.dependents else []
  | _ => []

/-- What an event asks for, one after the other. -/
def operations (e : Engine P) (now : Time) : Event P → List (Operation P)
  | .command command => invalidates now (command.outdates e.inputs)
  | .fire =>
    .takeDue now :: ({ e with scheduler := (e.scheduler.takeDue now).2 } : Engine P).passOperations
      now (e.scheduler.takeDue now).1
  | .complete c =>
    .finish c.outcome.key c.generation ::
      if e.scheduler.isCurrent c.outcome.key c.generation then e.outcomeOperations now c.outcome
      else []

/-- With a tree that is shown, what depends on it is out of date. -/
theorem outcomeOperations_of_shows {e : Engine P} {outcome : Outcome P} (h : e.Shows outcome)
    (now : Time) : e.outcomeOperations now outcome = invalidates now Derived.tree.dependents := by
  obtain ⟨plugin, source, tree, rfl, hinstalled⟩ := h
  exact if_pos hinstalled

/-- No other outcome asks for anything. -/
theorem outcomeOperations_of_not_shows {e : Engine P} {outcome : Outcome P}
    (h : ¬ e.Shows outcome) (now : Time) : e.outcomeOperations now outcome = [] := by
  unfold outcomeOperations
  split
  · next plugin source tree =>
    exact if_neg fun hinstalled => h ⟨plugin, source, tree, rfl, hinstalled⟩
  · rfl

/-- An outcome does to the scheduler what is asked for when it is taken. -/
theorem scheduler_outcome (e : Engine P) (now : Time) (outcome : Outcome P) :
    (e.takeOutcome now outcome).scheduler =
      performAll e.scheduler (e.outcomeOperations now outcome) := by
  rcases e.scheduler_takeOutcome now outcome with ⟨hshows, heq⟩ | ⟨hnot, heq⟩
  · rw [heq, outcomeOperations_of_shows hshows, performAll_invalidates]
  · rw [heq, outcomeOperations_of_not_shows hnot]
    rfl

/-- An event does to the scheduler what its operations do. -/
theorem scheduler_handle (e : Engine P) (now : Time) (event : Event P) :
    (e.handle now event).scheduler = performAll e.scheduler (e.operations now event) := by
  cases event with
  | command command =>
    rw [handle, scheduler_apply_eq_outdates, operations, performAll_invalidates]
  | fire => exact scheduler_pass _ now _
  | complete c =>
    rw [handle, operations]
    rcases e.commit_cases now c with ⟨hcurrent, heq⟩ | ⟨hpassed, heq⟩
    · rw [heq, scheduler_outcome, if_pos hcurrent]
      rfl
    · rw [heq, hpassed]
      simp [performAll, Operation.perform, Scheduler.finish, hpassed]

end Engine

/-! ## What is asked for in a history -/

section History

variable [DecidableEq P] {brings : Work P → Outcome P → Prop} {debounce start : Time}
  {ms : List (Moment P)} {w : World P}

/-- What is asked for at a moment. -/
def Moment.operations (m : Moment P) : List (Operation P) :=
  m.before.engine.operations m.now m.event

/-- What is asked for in a history, first of all that the context be read. -/
def operationsOf (start : Time) (ms : List (Moment P)) : List (Operation P) :=
  .invalidate .context start :: ms.flatMap Moment.operations

/-- The scheduler of a history has gone through its operations. -/
theorem Run.scheduler_eq (hrun : Run brings (.start debounce start) ms w) :
    w.engine.scheduler = performAll (.blank debounce) (operationsOf start ms) := by
  induction hrun with
  | refl => rfl
  | @snoc ms v u now event hrun hoccurs ih =>
    obtain ⟨_, _, _, _, heq, -⟩ := v.engine.step_eq now event
    have hscheduler : u.engine.scheduler = (v.engine.handle now event).scheduler := by
      rw [hoccurs.engine_eq, heq]
    rw [hscheduler, Engine.scheduler_handle, ih, ← performAll_append, operationsOf, operationsOf,
      List.flatMap_append, List.flatMap_singleton]
    rfl

end History

end GrammarDesk.Inspector
