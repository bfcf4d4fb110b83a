import Mathlib
import GrammarDesk.Proofs.Inspector.Linearity
import GrammarDesk.Proofs.Inspector.Operations

/-!
# Every ticket is in one place

A value that is due is taken with its generation, as with a ticket.  The ticket is handed on: in the
value's turn to the job that is started, and from the job that comes back to the result that is
accepted, or to nobody when the job is dropped or its result discarded.  No ticket is given out
twice, so that it is in one place at most.  Therefore no generation has two jobs and none is
accepted twice, although values are invalidated while others that were due with them still wait for
their turn.

Main definitions:

- `Scheduler.Linear`: one job at most for each value, for its current generation.
- `tickets`, `Ledger`: the places of tickets in a history of operations.

Main results:

- `Ledger.concat`: what one more operation has to observe.
- `Ledger.track`, `Ledger.finish`: jobs that are started and jobs that come back.
- `Ledger.occurs`, `Run.ledger`: every event, and every history, keeps tickets in their places.
- `Run.scheduler_linear`: what follows for the scheduler between any two operations.
-/

namespace GrammarDesk.Inspector

open Json GrammarDesk.Tree Grammar

variable {P : Type}

/-! ## Schedulers -/

/-- Each value has one job at most, which computes the current generation while nothing waits. -/
structure Scheduler.Linear (s : Scheduler (Job P)) : Prop where
  one : (s.jobs.map (·.work.key)).Nodup
  current : ∀ key job, (s.slot key).job = some job → job.work.key = key ∧
    job.generation = (s.slot key).generation ∧ (s.slot key).deadline = none

theorem Scheduler.keys_jobs (s : Scheduler (Job P))
    (h : ∀ key job, (s.slot key).job = some job → job.work.key = key) :
    s.jobs.map (·.work.key) = Derived.all.filter fun key => (s.slot key).job.isSome := by
  rw [jobs]
  induction Derived.all with
  | nil => rfl
  | cons key keys ih =>
    cases hjob : (s.slot key).job with
    | none => simp [hjob, ih]
    | some job => simp [hjob, ih, h key job hjob]

theorem Orderly.linear {s : Scheduler (Job P)} {jobs : List (Job P)} {due : List (Derived × Nat)}
    (h : Orderly s jobs due) : s.Linear := by
  have hkeys : ∀ key job, (s.slot key).job = some job → job.work.key = key :=
    fun key job hjob => (h.runs key job hjob).2.1
  refine ⟨?_, fun key job hjob => (h.runs key job hjob).2⟩
  rw [s.keys_jobs hkeys]
  exact List.Nodup.filter _ (by decide)

/-! ## Where tickets are -/

theorem Demand.mem_accepts_iff (c : Demand P) (a : Derived × Nat) :
    a ∈ c.accepts ↔
      c.operation = .finish a.1 a.2 ∧ (c.before.slot a.1).generation = a.2 := by
  obtain ⟨s, op⟩ := c
  obtain ⟨key, generation⟩ := a
  cases op with
  | finish other passed =>
    simp only [accepts]
    split
    · next hcurrent =>
      rw [Scheduler.isCurrent_iff] at hcurrent
      simp only [List.mem_singleton, Prod.mk.injEq, Operation.finish.injEq]
      constructor
      · rintro ⟨rfl, rfl⟩
        exact ⟨⟨rfl, rfl⟩, hcurrent⟩
      · rintro ⟨⟨rfl, rfl⟩, -⟩
        exact ⟨rfl, rfl⟩
    · next hpassed =>
      rw [Scheduler.isCurrent_iff] at hpassed
      simp only [List.not_mem_nil, Operation.finish.injEq, false_iff, not_and]
      rintro ⟨rfl, rfl⟩
      exact hpassed
  | _ => simp [accepts]

theorem Demand.pairwise_accepts (c : Demand P) (R : Derived × Nat → Derived × Nat → Prop) :
    c.accepts.Pairwise R := by
  unfold accepts
  split
  · split
    · exact List.pairwise_singleton R _
    · exact .nil
  · exact .nil

/-- The tickets of a history that have a place: the values that are still to be computed, the jobs
under way, the accepted results and the dropped jobs. -/
def tickets (s : Scheduler (Job P)) (ops : List (Operation P)) (jobs : List (Job P))
    (due : List (Derived × Nat)) : List (Derived × Nat) :=
  due ++ jobs.map Job.ticket ++ (accepted s ops ++ dropped s ops)

/-- If whatever an operation puts in a place had one before or is taken by it, so does all that has
a place afterwards. -/
theorem subperm_tickets_concat {s : Scheduler (Job P)} {ops : List (Operation P)}
    {op : Operation P} {jobs jobs' : List (Job P)} {due due' : List (Derived × Nat)}
    (hmoved : (due' ++ jobs'.map Job.ticket ++
      ((⟨performAll s ops, op⟩ : Demand P).accepts ++
        (⟨performAll s ops, op⟩ : Demand P).drops)).Subperm
      (due ++ jobs.map Job.ticket ++ (⟨performAll s ops, op⟩ : Demand P).takes)) :
    (tickets s (ops ++ [op]) jobs' due').Subperm
      (tickets s ops jobs due ++ (⟨performAll s ops, op⟩ : Demand P).takes) := by
  refine List.subperm_ext_iff.2 fun d _ => ?_
  have hcount := hmoved.count_le d
  simp only [tickets, accepted_concat, dropped_concat, List.count_append] at hcount ⊢
  omega

/-- A result that is accepted is of the current generation.  If it has not been accepted before, it
is of a later generation than all that have been taken and accepted. -/
theorem pairwise_accepted_concat {s : Scheduler (Job P)} {ops : List (Operation P)}
    {op : Operation P} (htaken : ∀ a ∈ accepted s ops, a ∈ taken s ops)
    (hrising : (accepted s ops).Pairwise fun a b => a.1 = b.1 → a.2 < b.2)
    (honce : (accepted s (ops ++ [op])).Nodup) :
    (accepted s (ops ++ [op])).Pairwise fun a b => a.1 = b.1 → a.2 < b.2 := by
  rw [accepted_concat] at honce ⊢
  refine List.pairwise_append.2 ⟨hrising, Demand.pairwise_accepts _ _, fun a ha b hb hkey => ?_⟩
  have hbegun := (spent_of_mem_taken s ops a (htaken a ha)).1
  have hcurrent := ((Demand.mem_accepts_iff _ b).1 hb).2
  have hne : a.2 ≠ b.2 := fun hsame =>
    (List.nodup_append'.1 honce).2.2 ha ((Prod.ext hkey hsame : a = b) ▸ hb)
  rw [hkey, hcurrent] at hbegun
  exact Nat.lt_of_le_of_ne hbegun hne

/-- A history of operations on a new scheduler, with the jobs under way and the values still to be
computed after it.  Each ticket has been taken once and is in one place. -/
structure Ledger (debounce : Time) (ops : List (Operation P)) (jobs : List (Job P))
    (due : List (Derived × Nat)) : Prop where
  orderly : Orderly (performAll (.blank debounce) ops) jobs due
  once : (tickets (.blank debounce) ops jobs due).Nodup
  placed : ∀ d ∈ tickets (.blank debounce) ops jobs due, d ∈ taken (.blank debounce) ops
  rising : (accepted (.blank debounce) ops).Pairwise fun a b => a.1 = b.1 → a.2 < b.2
  linear : ∀ c ∈ demandsFrom (.blank debounce) ops, c.before.Linear ∧ c.after.Linear
  passed : ∀ c ∈ demandsFrom (.blank debounce) ops, ∀ d ∈ c.drops,
    d.2 < (c.before.slot d.1).generation

namespace Ledger

variable {debounce : Time} {ops : List (Operation P)} {op : Operation P} {jobs jobs' : List (Job P)}
  {due due' : List (Derived × Nat)}

theorem blank (debounce : Time) : Ledger (P := P) debounce [] [] [] where
  orderly := .blank debounce
  once := List.nodup_nil
  placed _ hd := absurd hd List.not_mem_nil
  rising := .nil
  linear _ hc := absurd hc List.not_mem_nil
  passed _ hc := absurd hc List.not_mem_nil

theorem nodup_accepted (h : Ledger debounce ops jobs due) :
    (accepted (.blank debounce) ops).Nodup :=
  (List.nodup_append'.1 (List.nodup_append'.1 h.once).2.1).1

/-- What an operation takes has no place yet. -/
theorem nodup_takes (h : Ledger debounce ops jobs due) (op : Operation P) :
    (tickets (.blank debounce) ops jobs due ++
      (⟨performAll (.blank debounce) ops, op⟩ : Demand P).takes).Nodup := by
  have hnodup := nodup_taken (.blank debounce) (ops ++ [op])
  rw [taken_concat, List.nodup_append'] at hnodup
  rw [List.nodup_append']
  exact ⟨h.once, hnodup.2.1, fun d hplaced => hnodup.2.2 (h.placed d hplaced)⟩

/-- One operation more: each ticket that has a place afterwards had one before or is taken by it. -/
theorem concat (h : Ledger debounce ops jobs due)
    (horderly : Orderly (op.perform (performAll (.blank debounce) ops)) jobs' due')
    (hmoved : (due' ++ jobs'.map Job.ticket ++
      ((⟨performAll (.blank debounce) ops, op⟩ : Demand P).accepts ++
        (⟨performAll (.blank debounce) ops, op⟩ : Demand P).drops)).Subperm
      (due ++ jobs.map Job.ticket ++ (⟨performAll (.blank debounce) ops, op⟩ : Demand P).takes))
    (hpassed : ∀ d ∈ (⟨performAll (.blank debounce) ops, op⟩ : Demand P).drops,
      d.2 < ((performAll (.blank debounce) ops).slot d.1).generation) :
    Ledger debounce (ops ++ [op]) jobs' due' := by
  have hplaced := subperm_tickets_concat hmoved
  have honce : (tickets (.blank debounce) (ops ++ [op]) jobs' due').Nodup := by
    obtain ⟨_, hperm, hsub⟩ := hplaced
    exact hperm.nodup_iff.1 ((h.nodup_takes op).sublist hsub)
  refine ⟨?_, honce, fun d hd => ?_, ?_, ?_, ?_⟩
  · rw [performAll_append]
    exact horderly
  · rw [taken_concat, List.mem_append]
    exact (List.mem_append.1 (hplaced.subset hd)).imp_left (h.placed d)
  · refine pairwise_accepted_concat (fun a ha => h.placed a ?_) h.rising ?_
    · exact List.mem_append_right _ (List.mem_append_left _ ha)
    · exact (List.nodup_append'.1 (List.nodup_append'.1 honce).2.1).1
  · rw [demandsFrom_concat, List.forall_mem_append, List.forall_mem_singleton]
    exact ⟨h.linear, h.orderly.linear, horderly.linear⟩
  · rw [demandsFrom_concat, List.forall_mem_append, List.forall_mem_singleton]
    exact ⟨h.passed, hpassed⟩

/-! ### Single operations -/

theorem invalidate (h : Ledger debounce ops jobs due) (key : Derived) (now : Time) :
    Ledger debounce (ops ++ [.invalidate key now]) jobs due :=
  h.concat (h.orderly.invalidate key now) (.refl _) nofun

theorem invalidates (h : Ledger debounce ops jobs due) (now : Time) (keys : List Derived) :
    Ledger debounce (ops ++ Inspector.invalidates now keys) jobs due := by
  induction keys generalizing ops with
  | nil => simpa [Inspector.invalidates] using h
  | cons key keys ih => simpa [Inspector.invalidates] using ih (h.invalidate key now)

/-- What is due is taken when a pass begins. -/
theorem takeDue (h : Ledger debounce ops jobs []) (now : Time) :
    Ledger debounce (ops ++ [.takeDue now]) jobs
      ((performAll (.blank debounce) ops).takeDue now).1 := by
  refine h.concat (h.orderly.takeDue now) ?_ nofun
  have hswap : (((performAll (.blank debounce) ops).takeDue now).1 ++ jobs.map Job.ticket).Perm
      (jobs.map Job.ticket ++ ((performAll (.blank debounce) ops).takeDue now).1) :=
    List.perm_append_comm
  simpa [Demand.takes, Demand.accepts, Demand.drops] using hswap.subperm

/-- The turn of a value may pass without any operation. -/
theorem tail {d : Derived × Nat} (h : Ledger debounce ops jobs (d :: due)) :
    Ledger debounce ops jobs due where
  orderly := h.orderly.tail
  once := h.once.of_cons
  placed d' hd' := h.placed d' (List.mem_cons_of_mem d hd')
  rising := h.rising
  linear := h.linear
  passed := h.passed

/-- A job of the current generation is under way from now on, and any other is dropped. -/
theorem track (job : Job P) (h : Ledger debounce ops jobs (job.ticket :: due)) :
    Ledger debounce (ops ++ [.track job])
      (if (performAll (.blank debounce) ops).isCurrent job.work.key job.generation then
        jobs ++ [job] else jobs) due := by
  have hmoved : (due ++ jobs.map Job.ticket ++ [job.ticket]).Perm
      (job.ticket :: due ++ jobs.map Job.ticket) :=
    List.perm_append_singleton _ _
  split
  · next hcurrent =>
    refine h.concat (h.orderly.track hcurrent) ?_ ?_
    · simpa [Demand.takes, Demand.accepts, Demand.drops, hcurrent] using hmoved.subperm
    · simp [Demand.drops, hcurrent]
  · next hpassed =>
    refine h.concat ?_ ?_ ?_
    · rw [Operation.perform, Scheduler.track, if_neg hpassed]
      exact h.orderly.tail
    · simpa [Demand.takes, Demand.accepts, Demand.drops, Job.ticket, hpassed] using hmoved.subperm
    · have hbegun := h.orderly.taken job.ticket List.mem_cons_self
      rw [Scheduler.isCurrent_iff] at hpassed
      simpa [Demand.drops, Job.ticket, Scheduler.isCurrent_iff, hpassed] using
        Nat.lt_of_le_of_ne hbegun (Ne.symm hpassed)

/-- A job that comes back is under way no more, and its result is accepted if its generation is
the current one. -/
theorem finish {job : Job P} {others : List (Job P)} (h : Ledger debounce ops jobs due)
    (hperm : jobs.Perm (job :: others)) :
    Ledger debounce (ops ++ [.finish job.work.key job.generation]) others due := by
  have horderly := h.orderly.perm hperm
  have hback : (jobs.map Job.ticket).Perm (others.map Job.ticket ++ [job.ticket]) :=
    (hperm.map Job.ticket).trans (List.perm_append_singleton _ _).symm
  by_cases hcurrent :
      (performAll (.blank debounce) ops).isCurrent job.work.key job.generation = true
  · refine h.concat (horderly.finish hcurrent) ?_ nofun
    simpa [Demand.takes, Demand.accepts, Demand.drops, Job.ticket, hcurrent] using
      (hback.symm.append_left due).subperm
  · refine h.concat ?_ ?_ nofun
    · rw [Operation.perform, Scheduler.finish, if_neg hcurrent]
      refine horderly.of_cons_of_passed ?_
      simpa [Scheduler.isCurrent, eq_comm] using hcurrent
    · have hlost : (others.map Job.ticket).Subperm (jobs.map Job.ticket) :=
        hback.subperm_left.2 (List.sublist_append_left _ _).subperm
      simpa [Demand.takes, Demand.accepts, Demand.drops, hcurrent] using
        (List.subperm_append_left due).2 hlost

/-- What comes back for a generation that has passed moves nothing. -/
theorem discard (h : Ledger debounce ops jobs due) {key : Derived} {generation : Nat}
    (hpassed : (performAll (.blank debounce) ops).isCurrent key generation = false) :
    Ledger debounce (ops ++ [.finish key generation]) jobs due := by
  refine h.concat ?_ ?_ nofun
  · simpa [Operation.perform, Scheduler.finish, hpassed] using h.orderly
  · simpa [Demand.accepts, Demand.drops, Demand.takes, hpassed] using List.Subperm.refl _

/-- In the end nothing is under way and nothing is to be computed. -/
theorem cancelAll (h : Ledger debounce ops jobs due) :
    Ledger debounce (ops ++ [.cancelAll]) [] [] := by
  refine h.concat ⟨by simp, by simp, by simp, ?_, by simp, by simp, by simp⟩
    (by simp [Demand.accepts, Demand.drops]) nofun
  intro key job hjob
  rw [Operation.perform, Scheduler.slot_cancelAll] at hjob
  cases hjob

/-! ### Accepted and dropped tickets -/

/-- The ticket of a dropped job is in no other place. -/
theorem gone (h : Ledger debounce ops jobs due) {d : Derived × Nat}
    (hdropped : d ∈ dropped (.blank debounce) ops) :
    d ∉ jobs.map Job.ticket ∧ d ∉ accepted (.blank debounce) ops := by
  obtain ⟨-, hsettled, happart⟩ := List.nodup_append'.1 h.once
  refine ⟨fun hjob => ?_, fun haccepted => (List.nodup_append'.1 hsettled).2.2 haccepted hdropped⟩
  exact happart (List.mem_append_right due hjob) (List.mem_append_right _ hdropped)

/-- A job that is started for a generation that has passed is dropped, and from then on no slot
holds a job with its ticket, for that would be of the current generation. -/
theorem superseded {earlier later : List (Operation P)} {job : Job P}
    (h : Ledger debounce (earlier ++ .track job :: later) jobs due)
    (hpassed :
      (performAll (.blank debounce) earlier).isCurrent job.work.key job.generation = false) :
    job.ticket ∈ dropped (.blank debounce) (earlier ++ .track job :: later) ∧
      ∀ c ∈ demandsFrom (performAll (.blank debounce) earlier) (.track job :: later), ∀ key held,
        (c.after.slot key).job = some held → held.ticket ≠ job.ticket := by
  have hdemands := demandsFrom_append (.blank debounce) earlier (.track job :: later)
  have hdemand : ⟨performAll (.blank debounce) earlier, .track job⟩ ∈
      demandsFrom (.blank debounce) (earlier ++ .track job :: later) := by
    rw [hdemands]
    exact List.mem_append_right _ List.mem_cons_self
  have hdrops : job.ticket ∈
      (⟨performAll (.blank debounce) earlier, .track job⟩ : Demand P).drops := by
    simp [Demand.drops, Job.ticket, hpassed]
  refine ⟨List.mem_flatMap.2 ⟨_, hdemand, hdrops⟩, fun c hc key held hheld hsame => ?_⟩
  have hmem : c ∈ demandsFrom (.blank debounce) (earlier ++ .track job :: later) := by
    rw [hdemands]
    exact List.mem_append_right _ hc
  obtain ⟨rfl, hcurrent, -⟩ := (h.linear c hmem).2.current key held hheld
  have hkey : held.work.key = job.work.key := congrArg Prod.fst hsame
  have hgeneration : held.generation = job.generation := congrArg Prod.snd hsame
  have holder := h.passed _ hdemand _ hdrops
  have hsince := generation_le_of_mem_demandsFrom hc held.work.key
  have hafter := c.operation.generation_le c.before held.work.key
  simp only [Job.ticket, ← hkey, ← hgeneration, hcurrent] at holder
  exact absurd holder (Nat.not_lt.2 (Nat.le_trans hsince hafter))

/-! ### Events -/

section Events

variable {e : Engine P} {underWay : List (Job P)}

/-- The turn of a value in a pass. -/
theorem turn {key : Derived} {generation : Nat}
    (h : Ledger debounce ops (underWay ++ e.started) ((key, generation) :: due))
    (hscheduler : e.scheduler = performAll (.blank debounce) ops) (now : Time) :
    Ledger debounce (ops ++ e.turnOperations now key generation)
      (underWay ++ (e.recompute now key generation).started) due := by
  rcases e.turn_cases now key generation with ⟨keys, hops, -, hstarted⟩ | ⟨work, rfl, hops, heq⟩
  · rw [hops, hstarted]
    exact h.tail.invalidates now keys
  · have htracked := Ledger.track ⟨generation, work⟩ h
    rw [hops, heq, Engine.started_startJob, hscheduler]
    split
    · next hcurrent =>
      rw [if_pos hcurrent, List.append_assoc] at htracked
      exact htracked
    · next hpassed =>
      rw [if_neg hpassed] at htracked
      exact htracked

/-- All turns of a pass. -/
theorem pass (h : Ledger debounce ops (underWay ++ e.started) due)
    (hscheduler : e.scheduler = performAll (.blank debounce) ops) (now : Time) :
    Ledger debounce (ops ++ e.passOperations now due)
      (underWay ++ (due.foldl (fun e d => e.recompute now d.1 d.2) e).started) [] := by
  induction due generalizing e ops with
  | nil => simpa [Engine.passOperations] using h
  | cons d due ih =>
    rw [Engine.passOperations, ← List.append_assoc]
    refine ih (h.turn hscheduler now) ?_
    rw [Engine.scheduler_recompute, hscheduler, performAll_append]

variable [DecidableEq P]

theorem outcome (h : Ledger debounce ops jobs due) (e : Engine P) (now : Time)
    (outcome : Outcome P) : Ledger debounce (ops ++ e.outcomeOperations now outcome) jobs due := by
  by_cases hshows : e.Shows outcome
  · rw [Engine.outcomeOperations_of_shows hshows]
    exact h.invalidates now _
  · rw [Engine.outcomeOperations_of_not_shows hshows, List.append_nil]
    exact h

/-- Every event keeps the tickets in their places. -/
theorem occurs {brings : Work P → Outcome P → Prop}
    (hbrings : ∀ work outcome, brings work outcome → Outcome.Of work outcome)
    {w u : World P} {now : Time} {event : Event P} (h : Ledger debounce ops w.underWay [])
    (hscheduler : w.engine.scheduler = performAll (.blank debounce) ops)
    (hrest : w.engine.outbox = []) (hoccurs : Occurs brings w now event u) :
    Ledger debounce (ops ++ w.engine.operations now event) u.underWay [] := by
  have hreact : ∀ w' : World P, (w'.react now event).underWay =
      w'.underWay ++ (w'.engine.handle now event).started := by
    intro w'
    obtain ⟨_, _, _, _, -, hjobs⟩ := w'.engine.step_eq now event
    rw [World.react, hjobs]
  have hstarted : w.engine.started = [] := by
    rw [Engine.started, hrest]
    rfl
  cases hoccurs with
  | command command =>
    rw [hreact, Engine.handle, Engine.started_apply, hstarted, List.append_nil, Engine.operations]
    exact h.invalidates now _
  | fire =>
    have htaken := h.takeDue now
    rw [← hscheduler, ← List.append_nil w.underWay] at htaken
    rw [hreact, Engine.handle, Engine.operations, List.append_cons]
    refine Ledger.pass (e := { w.engine with scheduler := (w.engine.scheduler.takeDue now).2 })
      (hstarted ▸ htaken) ?_ now
    rw [performAll_append, ← hscheduler]
    rfl
  | arrive i job outcome hjob hb =>
    obtain ⟨hi, hget⟩ := List.getElem?_eq_some_iff.1 hjob
    have hperm : w.underWay.Perm (job :: w.underWay.eraseIdx i) := by
      rw [← hget]
      exact (List.getElem_cons_eraseIdx_perm hi).symm
    have hfinished := h.finish hperm
    rw [hreact, Engine.handle, Engine.started_commit, Engine.operations, List.append_cons]
    simp only [World.without, (hbrings _ _ hb).key_eq, hstarted, List.append_nil]
    split
    · exact hfinished.outcome _ now outcome
    · simpa using hfinished
  | straggle c hpassed =>
    have hnot : w.engine.scheduler.isCurrent c.outcome.key c.generation = false := by
      simpa [Scheduler.isCurrent] using Nat.ne_of_gt hpassed
    rw [hreact, Engine.handle, Engine.started_commit, hstarted, List.append_nil, Engine.operations,
      hnot]
    rw [hscheduler] at hnot
    exact h.discard hnot

end Events

end Ledger

/-! ## In the course of a history -/

section History

variable [DecidableEq P] {brings : Work P → Outcome P → Prop} {debounce start : Time}
  {ms : List (Moment P)} {w : World P}

theorem Run.ledger (hbrings : ∀ work outcome, brings work outcome → Outcome.Of work outcome)
    (hrun : Run brings (.start debounce start) ms w) :
    Ledger debounce (operationsOf start ms) w.underWay [] := by
  induction hrun with
  | refl => exact (Ledger.blank debounce).invalidate .context start
  | snoc hrun hoccurs ih =>
    have h := ih.occurs hbrings hrun.scheduler_eq (hrun.outbox_eq_nil rfl) hoccurs
    simpa [operationsOf, Moment.operations] using h

/-- Whatever happens to the inspector until it is shut down, each value has one job at most between
any two operations on the scheduler, for its current generation and while its slot does not wait.
Generations never go back, and to invalidate a value begins another one.  A generation is taken once
and accepted once, and those of a value are accepted in order.  A job that is started for a
generation that has passed in the meantime is dropped: the scheduler stays as it is and never holds
a job with this ticket, no such job is under way, and no result of it is accepted. -/
theorem Run.scheduler_linear {pluginOf : P → Grammar.Plugin}
    (hrun : Run (Work.MayBring pluginOf) (.start debounce start) ms w) :
    let s : Scheduler (Job P) := .blank debounce
    let ops := operationsOf start ms ++ [.cancelAll]
    w.engine.scheduler = performAll s (operationsOf start ms) ∧
    (∀ c ∈ demandsFrom s ops, c.before.Linear ∧ c.after.Linear) ∧
    (∀ c ∈ demandsFrom s ops, ∀ key,
      (c.before.slot key).generation ≤ (c.after.slot key).generation ∧
      ∀ now, c.operation = .invalidate key now →
        (c.before.slot key).generation < (c.after.slot key).generation) ∧
    (taken s ops).Nodup ∧
    (accepted s ops).Nodup ∧
    (accepted s ops).Pairwise (fun a b => a.1 = b.1 → a.2 < b.2) ∧
    ∀ earlier job later, ops = earlier ++ .track job :: later →
      (performAll s earlier).isCurrent job.work.key job.generation = false →
      performAll s (earlier ++ [.track job]) = performAll s earlier ∧
      (∀ c ∈ demandsFrom (performAll s earlier) (.track job :: later), ∀ key held,
        (c.after.slot key).job = some held → held.ticket ≠ job.ticket) ∧
      (∀ other ∈ w.underWay, other.ticket ≠ job.ticket) ∧
      job.ticket ∉ accepted s ops := by
  intro s ops
  have hledger := hrun.ledger fun _ _ h => h.of
  have hclosed : Ledger debounce ops [] [] := hledger.cancelAll
  refine ⟨hrun.scheduler_eq, hclosed.linear, fun c _ key => ⟨?_, ?_⟩, nodup_taken s ops, ?_,
    hclosed.rising, fun earlier job later hops hpassed => ?_⟩
  · exact c.operation.generation_le c.before key
  · rintro now hinvalidate
    rw [Demand.after, hinvalidate, Operation.perform, Scheduler.slot_invalidate_self]
    exact Nat.lt_succ_self _
  · exact hclosed.nodup_accepted
  · obtain ⟨hdropped, hnever⟩ := Ledger.superseded (hops ▸ hclosed) hpassed
    rw [← hops] at hdropped
    have hbefore : job.ticket ∈ dropped s (operationsOf start ms) := by
      have hsplit : dropped s ops = dropped s (operationsOf start ms) ++ [] := dropped_concat ..
      rwa [hsplit, List.append_nil] at hdropped
    refine ⟨?_, hnever, fun other hother hsame => ?_, (hclosed.gone hdropped).2⟩
    · rw [performAll_append]
      exact if_neg (by simp [hpassed])
    · exact (hledger.gone hbefore).1 (hsame ▸ List.mem_map_of_mem hother)

end History

namespace Sample

/-- What is asked for until the output is due together with the context that it is computed from,
and then in the turns of the context and of the tree. -/
def lateOperations : List (Operation Bool) :=
  [.invalidate .context 0, .invalidate .tree 0, .invalidate .tree 10, .takeDue 400,
    .invalidate .output 400, .track ⟨2, .parse true "1" none⟩, .finish .tree 2,
    .invalidate .output 500, .invalidate .context 510, .invalidate .tree 510, .takeDue 900,
    .invalidate .output 900, .track ⟨3, .parse true "1" (some "R")⟩]

/-- The evaluation that is started in the turn of the output. -/
def lateJob : Job Bool := ⟨2, .eval true ⟨"1", "R"⟩ (.object []) 1⟩

end Sample

/-- The context and the output are computed in the same pass.  Reading the context invalidates the
output, so the evaluation that is started in its turn comes too late: it is dropped, and only the
parse is under way. -/
theorem Run.scheduler_linear_of_late :
    ∃ (ms : List (Moment Bool)) (w : World Bool),
      Run (Work.MayBring Sample.plugin) (.start 300 0) ms w ∧
      operationsOf 0 ms = Sample.lateOperations ++ [.track Sample.lateJob] ∧
      w.engine.scheduler = performAll (.blank 300) Sample.lateOperations ∧
      w.underWay.map Job.ticket = [(.tree, 3)] ∧
      Sample.lateJob.ticket ∉ accepted (.blank 300) (operationsOf 0 ms ++ [.cancelAll]) ∧
      accepted (.blank 300) (operationsOf 0 ms ++ [.cancelAll]) = [(.tree, 2)] := by
  obtain ⟨ms, w, hrun, hops, hjobs⟩ :
      ∃ (ms : List (Moment Bool)) (w : World Bool),
      Run (Work.MayBring Sample.plugin) (.start 300 0) ms w ∧
      operationsOf 0 ms = Sample.lateOperations ++ [.track Sample.lateJob] ∧
      w.underWay.map Job.ticket = [(.tree, 3)] := by
    exact ⟨_, _, (((((Run.refl.command 0 (.setPlugin (some true))).command 10
      (.setExpression "1")).fire 400).arrive 500 0 _ _ rfl
      Sample.brings_tree).command 510 (.setContextText "{}")).fire 900, by cbv, by cbv⟩
  obtain ⟨hscheduler, -, -, -, -, -, hlate⟩ := hrun.scheduler_linear
  obtain ⟨hsame, -, -, hnever⟩ :=
    hlate Sample.lateOperations Sample.lateJob [.cancelAll] (by rw [hops]; rfl) (by cbv)
  refine ⟨ms, w, hrun, hops, ?_, hjobs, hnever, ?_⟩
  · rw [hscheduler, hops, hsame]
  · rw [hops]
    cbv

end GrammarDesk.Inspector
