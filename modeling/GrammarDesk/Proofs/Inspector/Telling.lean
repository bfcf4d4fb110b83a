import GrammarDesk.Proofs.Inspector.Frames

/-!
# What is told to the outside

Of each kind of effect only some parts of an event have any.  A command or a value that is computed
anew publishes or starts a job, a result publishes or is reported, and waiters are told at the end
alone.  Whatever is read off the effects and passes over such effects stays as it is.

Main definitions:

- `snapshotsOf`, `releasesOf`: the snapshots among effects, and the waiters that are told.

Main results:

- `Engine.filterMap_recompute`, `Engine.filterMap_fire`: values computed anew publish or start jobs.
- `Engine.filterMap_commit`: results are published or reported.
- `Engine.filterMap_step`: what is left at the end of an event is told to waiters.
-/

namespace GrammarDesk.Inspector

open Json GrammarDesk.Tree

variable {P : Type}

/-- The snapshots among effects. -/
def snapshotsOf (effects : List (Effect P)) : List Snapshot :=
  effects.filterMap fun
    | .publish snapshot => some snapshot
    | _ => none

/-- The waiters that are told among effects. -/
def releasesOf (effects : List (Effect P)) : List Nat :=
  effects.filterMap fun
    | .release waiter => some waiter
    | _ => none

/-- Waiters that are released are among the effects in their order. -/
theorem releasesOf_append_release (effects : List (Effect P)) (released : List Nat) :
    releasesOf (effects ++ released.map Effect.release) = releasesOf effects ++ released := by
  rw [releasesOf, List.filterMap_append, List.filterMap_map]
  exact congrArg _ List.filterMap_some

namespace Engine

/-- When everything is computed all who wait are told, in the order in which they came. -/
theorem releaseWaiters_eq (e : Engine P) :
    e.releaseWaiters =
      if e.isBusy then e
      else { e with waiters := [], outbox := e.outbox ++ e.waiters.map Effect.release } := by
  rw [releaseWaiters, foldl_release]

/-! ## What passes over an effect -/

variable {α : Type} (read : Effect P → Option α)

/-- Whoever reads no snapshots finds nothing new when the state is published. -/
theorem filterMap_publish (e : Engine P) (hpublish : ∀ snapshot, read (.publish snapshot) = none) :
    e.publish.outbox.filterMap read = e.outbox.filterMap read := by
  simp [publish, emit, hpublish]

/-- Whoever reads no jobs finds nothing new when one is started. -/
theorem filterMap_startJob (e : Engine P) (job : Job P) (hstart : ∀ job, read (.start job) = none) :
    (e.startJob job).outbox.filterMap read = e.outbox.filterMap read := by
  unfold startJob
  split
  · simp [emit, hstart]
  · rfl

/-- A job that is started is not published. -/
theorem snapshotsOf_startJob (e : Engine P) (job : Job P) :
    snapshotsOf (e.startJob job).outbox = snapshotsOf e.outbox :=
  filterMap_startJob _ e job fun _ => rfl

/-- A command publishes at most. -/
theorem filterMap_apply [DecidableEq P] (e : Engine P) (now : Time) (command : Command P)
    (hpublish : ∀ snapshot, read (.publish snapshot) = none) :
    (e.apply now command).outbox.filterMap read = e.outbox.filterMap read := by
  cases command with
  | select node => exact filterMap_publish read _ hpublish
  | settle waiter => rfl
  | _ =>
    simp only [apply, replaceInput]
    split <;> rfl

/-- A value that is computed anew is published or starts a job. -/
theorem filterMap_recompute (e : Engine P) (now : Time) (key : Derived) (generation : Nat)
    (hpublish : ∀ snapshot, read (.publish snapshot) = none)
    (hstart : ∀ job, read (.start job) = none) :
    (e.recompute now key generation).outbox.filterMap read = e.outbox.filterMap read := by
  have hrecomputes := e.recomputes now key generation
  generalize e.recompute now key generation = e' at hrecomputes
  cases hrecomputes with
  | contextRead | treeGone | outputGone | marked => exact filterMap_publish read _ hpublish
  | parseStarted | evalStarted => exact filterMap_startJob read e _ hstart
  | treeless | outputless | unmarked => rfl

/-- Whoever reads neither snapshots nor jobs finds nothing new in a pass. -/
theorem filterMap_fire (e : Engine P) (now : Time)
    (hpublish : ∀ snapshot, read (.publish snapshot) = none)
    (hstart : ∀ job, read (.start job) = none) :
    (e.fire now).outbox.filterMap read = e.outbox.filterMap read := by
  apply fire_induction (fun e' _ => e'.outbox.filterMap read = e.outbox.filterMap read)
  · rfl
  · intro e' key generation due hsame
    rw [filterMap_recompute read e' now key generation hpublish hstart, hsame]

/-- Whoever reads neither snapshots nor notifications finds nothing new when an outcome is taken. -/
theorem filterMap_takeOutcome [DecidableEq P] (e : Engine P) (now : Time) (outcome : Outcome P)
    (hpublish : ∀ snapshot, read (.publish snapshot) = none)
    (hnotify : ∀ notification, read (.notify notification) = none) :
    (e.takeOutcome now outcome).outbox.filterMap read = e.outbox.filterMap read := by
  have hreceives := e.receives now outcome
  generalize e.takeOutcome now outcome = e' at hreceives
  cases hreceives with
  | shown plugin source tree =>
    rcases e.afterParse_eq source tree with ⟨_, hafter⟩
    rw [hafter]
    exact filterMap_publish read _ hpublish
  | reported => simp [emit, hnotify]
  | answered => exact filterMap_publish read _ hpublish
  | foreign | outdated => rfl

/-- A result is published or reported. -/
theorem filterMap_commit [DecidableEq P] (e : Engine P) (now : Time) (c : Completion P)
    (hpublish : ∀ snapshot, read (.publish snapshot) = none)
    (hnotify : ∀ notification, read (.notify notification) = none) :
    (e.commit now c).outbox.filterMap read = e.outbox.filterMap read := by
  rcases e.commit_cases now c with ⟨_, heq⟩ | ⟨_, heq⟩
  · rw [heq, filterMap_takeOutcome read _ now c.outcome hpublish hnotify]
  · rw [heq]

/-- Whoever reads no snapshots finds nothing new when it is shown whether the engine is busy. -/
theorem filterMap_showBusy (e : Engine P) (hpublish : ∀ snapshot, read (.publish snapshot) = none) :
    e.showBusy.outbox.filterMap read = e.outbox.filterMap read := by
  rcases e.showBusy_cases with heq | heq
  · rw [heq]
  · rw [heq]
    exact filterMap_publish read _ hpublish

/-- What is left at the end of an event is told to waiters. -/
theorem filterMap_step [DecidableEq P] (e : Engine P) (now : Time) (event : Event P)
    (hrelease : ∀ waiter, read (.release waiter) = none) :
    (e.step now event).2.filterMap read =
      (e.handle now event).showBusy.outbox.filterMap read := by
  rcases (e.handle now event).showBusy.releaseWaiters_cases with ⟨waiters, released, heq⟩
  have hsilent : (released.map Effect.release).filterMap read = [] := by
    rw [List.filterMap_eq_nil_iff]
    intro effect hmem
    rcases List.mem_map.mp hmem with ⟨waiter, _, rfl⟩
    exact hrelease waiter
  rw [step, heq, List.filterMap_append, hsilent, List.append_nil]

end Engine

end GrammarDesk.Inspector
