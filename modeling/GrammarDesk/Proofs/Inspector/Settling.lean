import GrammarDesk.Proofs.Inspector.Commanded
import GrammarDesk.Proofs.Inspector.Publication
import GrammarDesk.Proofs.Inspector.Snapshots

/-!
# Whoever waits is told in time

Who asks to be told when everything is computed waits until an event leaves nothing to compute, and
is told at the end of that event.  By then the state is published as it is, and it shows the inputs
as they were commanded.

Main definitions:

- `Moment.settled?`, `Moment.released`: the request that is made at a moment, and those that are
  answered.

Main results:

- `Occurs.released_cases`: an event answers all requests or none.
- `Run.settled_eq`: the requests of a history are those that were answered and then those that wait.
- `Run.settled_sound`: what is published after an event, and when an answer is given.
-/

namespace GrammarDesk.Inspector

open Json GrammarDesk.Tree Grammar

variable {P : Type}

/-! ## Who waits -/

/-- The request to be told that is made at a moment. -/
def Moment.settled? (m : Moment P) : Option Nat :=
  match m.event with
  | .command (.settle waiter) => some waiter
  | _ => none

namespace Engine

@[simp]
theorem waiters_startJob (e : Engine P) (job : Job P) : (e.startJob job).waiters = e.waiters := by
  unfold startJob
  split <;> rfl

/-- The turn of a value releases nobody. -/
@[simp]
theorem waiters_recompute (e : Engine P) (now : Time) (key : Derived) (generation : Nat) :
    (e.recompute now key generation).waiters = e.waiters := by
  have hrecomputes := e.recomputes now key generation
  generalize e.recompute now key generation = e' at hrecomputes
  cases hrecomputes with
  | parseStarted | evalStarted => exact e.waiters_startJob _
  | _ => rfl

/-- A pass releases nobody before its end. -/
@[simp]
theorem waiters_fire (e : Engine P) (now : Time) : (e.fire now).waiters = e.waiters := by
  apply fire_induction (fun e' _ => e'.waiters = e.waiters)
  · rfl
  · intro e' key generation due hsame
    rw [waiters_recompute, hsame]

/-- An outcome releases nobody. -/
@[simp]
theorem waiters_takeOutcome [DecidableEq P] (e : Engine P) (now : Time) (outcome : Outcome P) :
    (e.takeOutcome now outcome).waiters = e.waiters := by
  have hreceives := e.receives now outcome
  generalize e.takeOutcome now outcome = e' at hreceives
  cases hreceives with
  | shown plugin source tree =>
    rcases e.afterParse_eq source tree with ⟨_, hafter⟩
    rw [hafter]
    rfl
  | _ => rfl

/-- Showing whether the engine is busy releases nobody. -/
@[simp]
theorem waiters_showBusy (e : Engine P) : e.showBusy.waiters = e.waiters := by
  rcases e.showBusy_cases with heq | heq
  · rw [heq]
  · rw [heq]
    rfl

/-- Only a request makes anybody wait. -/
theorem waiters_apply [DecidableEq P] (e : Engine P) (now : Time) (command : Command P) :
    (e.apply now command).waiters =
      match command with
      | .settle waiter => e.waiters ++ [waiter]
      | _ => e.waiters := by
  cases command with
  | settle waiter => rfl
  | select node => rfl
  | _ =>
    rw [apply, replaceInput]
    split <;> rfl

/-- Until the end of an event nobody is told. -/
theorem releasesOf_showBusy_handle [DecidableEq P] (e : Engine P) (now : Time) (event : Event P) :
    releasesOf (e.handle now event).showBusy.outbox = releasesOf e.outbox := by
  refine ((e.handle now event).filterMap_showBusy _ fun _ => rfl).trans ?_
  cases event with
  | command command => exact filterMap_apply _ e now command fun _ => rfl
  | fire => exact filterMap_fire _ e now (fun _ => rfl) fun _ => rfl
  | complete c => exact filterMap_commit _ e now c (fun _ => rfl) fun _ => rfl

end Engine

/-! ## In the course of a history -/

section History

variable [DecidableEq P] {brings : Work P → Outcome P → Prop} {debounce start now : Time}
  {ms : List (Moment P)} {w u : World P} {m : Moment P} {event : Event P}

/-- The requests that are answered at a moment. -/
def Moment.released (m : Moment P) : List Nat :=
  releasesOf (m.before.engine.step m.now m.event).2

/-- Until the end of an event everybody waits, also whoever asks in it. -/
theorem Moment.waiters_handle (m : Moment P) :
    (m.before.engine.handle m.now m.event).waiters =
      m.before.engine.waiters ++ m.settled?.toList := by
  unfold Moment.settled? Engine.handle
  cases m.event with
  | command command =>
    rw [Engine.waiters_apply]
    cases command <;> simp
  | fire => simp
  | complete c =>
    rcases m.before.engine.commit_cases m.now c with ⟨_, heq⟩ | ⟨_, heq⟩ <;> simp [heq]

/-- At the end of an event either there is something to compute and nobody is told, or there is
nothing to compute and everybody is told. -/
theorem Occurs.released_cases (hrest : w.engine.outbox = [])
    (hoccurs : Occurs brings w now event u) :
    let m : Moment P := ⟨w, now, event, u⟩
    (u.engine.isBusy = true ∧ m.released = [] ∧
      u.engine.waiters = w.engine.waiters ++ m.settled?.toList) ∨
    (u.engine.isBusy = false ∧ m.released = w.engine.waiters ++ m.settled?.toList ∧
      u.engine.waiters = []) := by
  intro m
  have hnobody : releasesOf (w.engine.handle now event).showBusy.outbox = [] := by
    rw [Engine.releasesOf_showBusy_handle, hrest]
    rfl
  have hwaiters := m.waiters_handle
  rw [← Engine.waiters_showBusy] at hwaiters
  have hengine := hoccurs.engine_eq
  have hreleased : m.released = releasesOf (w.engine.step now event).2 := rfl
  rw [Engine.step, Engine.releaseWaiters_eq] at hengine hreleased
  cases hbusy : (w.engine.handle now event).showBusy.isBusy with
  | true =>
    rw [if_pos hbusy] at hengine hreleased
    refine Or.inl ⟨?_, hreleased.trans hnobody, ?_⟩
    · rw [hengine]
      exact hbusy
    · rw [hengine]
      exact hwaiters
  | false =>
    rw [if_neg (by simp [hbusy])] at hengine hreleased
    refine Or.inr ⟨?_, ?_, ?_⟩
    · rw [hengine]
      exact hbusy
    · rw [hreleased, releasesOf_append_release, hnobody, List.nil_append, hwaiters]
    · rw [hengine]

/-- The requests of a history are those that were answered and then those that wait, in order. -/
theorem Run.settled_eq (hrun : Run brings (.start debounce start) ms w) :
    ms.filterMap Moment.settled? = ms.flatMap Moment.released ++ w.engine.waiters := by
  induction hrun with
  | refl => rfl
  | @snoc ms v u now event hrun hoccurs ih =>
    have hlast : List.filterMap Moment.settled? [⟨v, now, event, u⟩] =
        (⟨v, now, event, u⟩ : Moment P).settled?.toList := by
      cases hsettled : (⟨v, now, event, u⟩ : Moment P).settled? <;> simp [hsettled]
    rw [List.filterMap_append, ih, hlast, List.flatMap_append, List.flatMap_singleton]
    rcases hoccurs.released_cases (hrun.outbox_eq_nil rfl) with
      ⟨_, hreleased, hwaiters⟩ | ⟨_, hreleased, hwaiters⟩
    · rw [hreleased, hwaiters, List.append_nil, List.append_assoc]
    · rw [hreleased, hwaiters, List.append_nil, List.append_assoc]

/-- Whatever is answered was asked for. -/
theorem Run.settled_of_released (hrun : Run brings (.start debounce start) ms w) (hm : m ∈ ms)
    {waiter : Nat} (hreleased : waiter ∈ m.released) :
    ∃ m' ∈ ms, m'.event = .command (.settle waiter) := by
  have hmem : waiter ∈ ms.filterMap Moment.settled? := by
    rw [hrun.settled_eq]
    exact List.mem_append_left _ (List.mem_flatMap.mpr ⟨m, hm, hreleased⟩)
  rcases List.mem_filterMap.mp hmem with ⟨m', hm', hsettled⟩
  refine ⟨m', hm', ?_⟩
  unfold Moment.settled? at hsettled
  split at hsettled
  · next hevent =>
    cases hsettled
    exact hevent
  · cases hsettled

/-- After every event the state, as it is and as it was published last, shows whether some slot
waits or runs; it shows the inputs, and these are what was commanded; and it was published last as
it is but for inputs, or altogether if nothing waits or runs.  What is published has the revisions
from one on, and the latest is that of the state.  Whoever asked to be told is told at the end of an
event that leaves nothing to compute, and then all are told who have asked so far. -/
theorem Run.settled_sound {pluginOf : P → Plugin}
    (hrun : Run (Work.MayBring pluginOf) (.start debounce start) (ms ++ [m]) w) :
    (w.engine.state.isBusy = w.engine.isBusy ∧ w.engine.published.isBusy = w.engine.isBusy ∧
      (w.engine.isBusy = true ↔ ∃ key, (w.engine.scheduler.slot key).deadline ≠ none ∨
        (w.engine.scheduler.slot key).job ≠ none)) ∧
    (w.engine.Mirrors ∧ w.engine.state.selection = w.engine.inputs.selection ∧
      w.engine.Commanded (ms ++ [m])) ∧
    (w.engine.published.revision = w.engine.state.revision ∧
      { w.engine.published with
        expression := w.engine.state.expression
        contextText := w.engine.state.contextText
        grammarTag := w.engine.state.grammarTag } = w.engine.state ∧
      (w.engine.published ≠ w.engine.state → w.engine.isBusy = true)) ∧
    (((ms ++ [m]).flatMap Moment.snapshots).map Snapshot.revision =
        List.range' 1 w.engine.state.revision ∧
      ((ms ++ [m]).flatMap Moment.snapshots).getLast?.getD .blank = w.engine.published) ∧
    (∀ waiter ∈ m.released, w.engine.isBusy = false ∧ w.engine.published = w.engine.state ∧
      ∃ m' ∈ ms ++ [m], m'.event = .command (.settle waiter)) ∧
    (w.engine.isBusy = false → w.engine.waiters = []) ∧
    (ms ++ [m]).filterMap Moment.settled? =
      (ms ++ [m]).flatMap Moment.released ++ w.engine.waiters := by
  have hof : ∀ (work : Work P) (outcome : Outcome P),
      work.MayBring pluginOf outcome → Outcome.Of work outcome := fun _ _ h => h.of
  rcases hrun.last with ⟨hbefore, hat, rfl⟩
  rcases hrun.visible with ⟨hvisible, htimely⟩
  have hbusy := hat.isBusy_eq
  have hselected := ((coherent_stable _).of_run hrun).selected
  have hidle : m.after.engine.isBusy = false → m.after.engine.published = m.after.engine.state := by
    intro hidle
    apply htimely.resolve_right
    rw [hbusy, hidle]
    decide
  refine ⟨⟨hbusy, hvisible.isBusy_eq.trans hbusy, m.after.engine.isBusy_iff⟩,
    ⟨hvisible.mirrors, hselected, hrun.commanded hof⟩,
    ⟨hvisible.revision_eq, hvisible.alike, ?_⟩, ⟨?_, ?_⟩, ?_, ?_, hrun.settled_eq⟩
  · intro hdiffer
    cases hcase : m.after.engine.isBusy with
    | true => rfl
    | false => exact absurd (hidle hcase) hdiffer
  · simpa [snapshotsOf, hrun.outbox_eq_nil rfl] using hvisible.numbered
  · simpa [snapshotsOf, hrun.outbox_eq_nil rfl] using hvisible.latest
  · intro waiter hreleased
    have hcomputed : m.after.engine.isBusy = false := by
      rcases hat.released_cases (hbefore.outbox_eq_nil rfl) with ⟨_, hnobody, _⟩ | ⟨hcomputed, _⟩
      · rw [hnobody] at hreleased
        cases hreleased
      · exact hcomputed
    exact ⟨hcomputed, hidle hcomputed, hrun.settled_of_released (by simp) hreleased⟩
  · intro hcomputed
    rcases hat.released_cases (hbefore.outbox_eq_nil rfl) with ⟨hnot, _⟩ | ⟨_, _, hwaiters⟩
    · rw [hcomputed] at hnot
      cases hnot
    · exact hwaiters

end History

/-- The expression is changed while the engine is busy already, so that the change is not published
at once, and two ask to be told.  Both are told when the evaluation is back, and by then what is
published is the state, with that expression. -/
theorem Run.settled_sound_of_evaluated :
    ∃ (ms : List (Moment Bool)) (m : Moment Bool) (w : World Bool),
      Run (Work.MayBring Sample.plugin) (.start 300 0) (ms ++ [m]) w ∧
      (∃ m' ∈ ms, m'.after.engine.state.expression = "1" ∧
        m'.after.engine.published.expression = "") ∧
      m.released = [7, 8] ∧ w.engine.isBusy = false ∧ w.engine.waiters = [] ∧
      w.engine.published = w.engine.state ∧ w.engine.published.expression = "1" ∧
      w.engine.inputs.plugin = some true ∧
      List.flatMap Moment.released (ms ++ [m]) = [7, 8] := by
  obtain ⟨ms, m, w, hrun, hlate, hreleased, hplugin, hexpression, hsettled⟩ :
      ∃ (ms : List (Moment Bool)) (m : Moment Bool) (w : World Bool),
      Run (Work.MayBring Sample.plugin) (.start 300 0) (ms ++ [m]) w ∧
      (∃ m' ∈ ms, m'.after.engine.state.expression = "1" ∧
        m'.after.engine.published.expression = "") ∧
      m.released = [7, 8] ∧ lastOf? Moment.plugin? (ms ++ [m]) = some (some true) ∧
      lastOf? Moment.expression? (ms ++ [m]) = some "1" ∧
      List.filterMap Moment.settled? (ms ++ [m]) = [7, 8] := by
    exact ⟨_, _, _, (((((((Run.refl.command 0 (.setPlugin (some true))).command 10
      (.setExpression "1")).command 20 (.settle 7)).fire 400).arrive 500 0 _ _ rfl
      Sample.brings_tree).command 510 (.settle 8)).fire 800).arrive 900 0 _ _ (by cbv)
      (Sample.brings_output true),
      ⟨_, List.mem_append_left _ (List.mem_append_left _ (List.mem_append_left _
        (List.mem_append_left _ (List.mem_append_left _ (List.mem_append_right _ (.head _)))))),
        by cbv, by cbv⟩, by cbv, rfl, rfl, rfl⟩
  rcases hrun.settled_sound with
    ⟨_, ⟨hmirrors, _, hcommanded⟩, _, _, hanswers, hnobody, hledger⟩
  rcases hanswers 7 (by simp [hreleased]) with ⟨hidle, hpublished, _⟩
  refine ⟨ms, m, w, hrun, hlate, hreleased, hidle, hnobody hidle, hpublished, ?_, ?_, ?_⟩
  · rw [hpublished, hmirrors.expression, hcommanded.expression, hexpression, Option.getD_some]
  · rw [hcommanded.plugin, hplugin, Option.getD_some]
  · rw [hnobody hidle, List.append_nil, hsettled] at hledger
    exact hledger.symm

end GrammarDesk.Inspector
