import Mathlib
import GrammarDesk.Proofs.Inspector.Authorship

/-!
# Outputs fit what is shown

Whatever an evaluation has taken along is still shown when its result counts, so a result that
counts is never dropped for its tree.  And an output that nothing is to replace is what came of
evaluating the tree that is shown, from its source, in the context that is shown.

Main results:

- `Engine.evalWork?_of_started`: an evaluation is started from what the pass has left by then.
- `Run.captured_of_accepted`: what an evaluation was started from is kept until its result counts.
- `Run.output_coherent`: results that count, and outputs that stay, rest on what is shown.
-/

namespace GrammarDesk.Inspector

open Json GrammarDesk.Tree Grammar

variable {P : Type}

/-! ## Where evaluations start -/

namespace Engine

/-- A turn starts no evaluation but that of the output, and this one only of what is there. -/
theorem mem_started_stage (s : Scheduler (Job P)) (now : Time) (e : Engine P) (key : Derived)
    {job : Job P} (hmem : job ∈ (stage s now e key).started) (hkey : job.work.key = .output) :
    job ∈ e.started ∨ key = .output ∧ e.evalWork? = some job.work := by
  unfold stage at hmem
  split at hmem
  · rcases e.started_recompute now key (s.slot key).generation with
      hsame | ⟨work, plugin, hstarted, _, hnew⟩
    · rw [hsame] at hmem
      exact Or.inl hmem
    · rw [hstarted, List.mem_append, List.mem_singleton] at hmem
      refine hmem.imp id ?_
      rintro rfl
      rcases hnew with ⟨_, rfl⟩ | ⟨houtput, hwork, _⟩
      · cases hkey
      · exact ⟨houtput, hwork⟩
  · exact Or.inl hmem

/-- An evaluation is started from what the pass has left by the turn of the output. -/
theorem evalWork?_of_started (e : Engine P) (now : Time) (hrest : e.outbox = []) {job : Job P}
    (hstarted : job ∈ (e.fire now).started) (hkey : job.work.key = .output) :
    (e.evaluating now).evalWork? = some job.work := by
  have hother : ∀ (e' : Engine P) (key : Derived), key ≠ .output →
      job ∈ (stage e.scheduler now e' key).started → job ∈ e'.started := by
    intro e' key hne hmem
    rcases mem_started_stage e.scheduler now e' key hmem hkey with hold | ⟨hsame, _⟩
    · exact hold
    · exact absurd hsame hne
  rw [fire_eq_evaluating] at hstarted
  have houtput := hother _ .selectionMark (by decide) hstarted
  rcases mem_started_stage e.scheduler now _ .output houtput hkey with hbefore | ⟨_, hwork⟩
  · have hnone := hother _ .context (by decide) (hother _ .tree (by decide) hbefore)
    simp [started, hrest, jobsOf] at hnone
  · exact hwork

end Engine

section History

variable [DecidableEq P] {brings : Work P → Outcome P → Prop} {debounce start now : Time}
  {ms : List (Moment P)} {w u : World P} {m : Moment P}

/-- Evaluations are started in passes, of what the pass has left by the turn of the output. -/
theorem Moment.evalWork?_of_started (hrest : m.before.engine.outbox = []) {job : Job P}
    (hstarted : job ∈ m.started) (hkey : job.work.key = .output) :
    m.event = .fire ∧ (m.before.engine.evaluating m.now).evalWork? = some job.work := by
  rcases m.before.engine.step_eq m.now m.event with ⟨_, _, _, _, _, hjobs⟩
  rw [Moment.started, hjobs] at hstarted
  have hnone : job ∉ m.before.engine.started := by
    simp [Engine.started, hrest, jobsOf]
  cases hevent : m.event with
  | command command =>
    rw [hevent, Engine.handle, Engine.started_apply] at hstarted
    exact absurd hstarted hnone
  | complete c =>
    rw [hevent, Engine.handle, Engine.started_commit] at hstarted
    exact absurd hstarted hnone
  | fire =>
    rw [hevent] at hstarted
    exact ⟨rfl, m.before.engine.evalWork?_of_started m.now hrest hstarted hkey⟩

/-- A result counts only if all that its evaluation was started from has been shown ever since. -/
theorem Run.captured_of_accepted
    (hbrings : ∀ work outcome, brings work outcome → Outcome.Of work outcome)
    (hrun : Run brings (.start debounce start) ms w) {generation serial : Nat}
    {result : Except Failure (Option Value)}
    (hoccurs : Occurs brings w now (.complete ⟨generation, .output serial result⟩) u)
    (haccepted : w.engine.scheduler.isCurrent .output generation = true) :
    ∃ m later plugin tree source context, m :: later <:+ ms ∧
      ⟨generation, .eval plugin source context serial⟩ ∈ m.started ∧ m.event = .fire ∧
      (m.before.engine.evaluating m.now).inputs.plugin = some plugin ∧
      (m.before.engine.evaluating m.now).ground = .firm tree source serial context ∧
      (∀ m' ∈ m :: later, m'.after.engine.ground = .firm tree source serial context) ∧
      w.engine.ground = .firm tree source serial context ∧
      brings (.eval plugin source context serial) (.output serial result) := by
  rcases hrun.started_of_accepted hbrings hoccurs haccepted with
    ⟨m, later, plugin, source, context, ⟨past, rfl⟩, hstarted, _, hnot, hbrought⟩
  rcases hrun.cut rfl with ⟨hbefore, hat, hafter⟩
  rcases Moment.evalWork?_of_started (hbefore.outbox_eq_nil rfl) hstarted rfl with
    ⟨hfire, hwork⟩
  rcases (Engine.evalWork?_eq_some_iff_firm _ _).mp hwork with
    ⟨_, tree, _, _, hinstalled, hfirm, heq⟩
  injection heq with hplugin hsource hcontext hserial
  subst hplugin hsource hcontext
  rw [← hserial] at hfirm
  have hshown : m.after.engine.ground = .firm tree source serial context := by
    rw [hat.ground_eq, hfire, Engine.handle, Engine.ground_fire, hfirm]
  rcases hafter.ground_eq hnot with ⟨hlast, hlater⟩
  refine ⟨m, later, plugin, tree, source, context, List.suffix_append _ _, hstarted, hfire,
    hinstalled, hfirm, ?_, hlast.trans hshown, hbrought⟩
  rw [List.forall_mem_cons]
  exact ⟨hshown, fun m' hm' => (hlater m' hm').trans hshown⟩

/-- A result that counts is published. -/
theorem Run.published_of_accepted
    (hbrings : ∀ work outcome, brings work outcome → Outcome.Of work outcome)
    (hrun : Run brings (.start debounce start) ms w) {generation serial : Nat}
    {result : Except Failure (Option Value)}
    (hoccurs : Occurs brings w now (.complete ⟨generation, .output serial result⟩) u)
    (haccepted : w.engine.scheduler.isCurrent .output generation = true) :
    ∃ snapshot, .publish snapshot ∈
        (w.engine.step now (.complete ⟨generation, .output serial result⟩)).2 ∧
      (snapshot.output, snapshot.evalError) = answerOf result := by
  rcases hrun.eval_of_accepted hbrings hoccurs haccepted with
    ⟨_, tree, _, _, htree, _, _, _, hserial, _⟩
  refine ⟨{ w.engine.state with
      output := (answerOf result).1, evalError := (answerOf result).2
      revision := w.engine.state.revision + 1 }, w.engine.mem_step_of_mem_handle now _ ?_, rfl⟩
  rw [Engine.handle, w.engine.commit_of_output now haccepted (by simp [htree]) hserial]
  exact List.mem_append_right _ (List.mem_singleton_self _)

/-- Whenever a result counts, all that its evaluation was started from has been shown ever since:
the tree without errors, its source, and the context.  The result is shown, then, and the tree that
it belongs to is still there.  And an output that nothing is to replace is what came of evaluating
the tree that is shown, from its source, in the context that is shown. -/
theorem Run.output_coherent {pluginOf : P → Plugin}
    (hrun : Run (Work.MayBring pluginOf) (.start debounce start) ms w) :
    (∀ now u generation serial result,
      Occurs (Work.MayBring pluginOf) w now (.complete ⟨generation, .output serial result⟩) u →
      w.engine.scheduler.isCurrent .output generation = true →
      (∃ m later plugin tree source context, m :: later <:+ ms ∧
        ⟨generation, .eval plugin source context serial⟩ ∈ m.started ∧ m.event = .fire ∧
        (m.before.engine.evaluating m.now).inputs.plugin = some plugin ∧
        (m.before.engine.evaluating m.now).ground = .firm tree source serial context ∧
        (∀ m' ∈ m :: later, m'.after.engine.ground = .firm tree source serial context) ∧
        w.engine.ground = .firm tree source serial context ∧
        (Work.eval plugin source context serial).MayBring pluginOf (.output serial result)) ∧
      u.engine.ground = w.engine.ground ∧ u.engine.answer = answerOf result ∧
      ∃ snapshot, .publish snapshot ∈
          (w.engine.step now (.complete ⟨generation, .output serial result⟩)).2 ∧
        (snapshot.output, snapshot.evalError) = answerOf result) ∧
    ((w.engine.scheduler.slot .output).deadline = none →
      (w.engine.scheduler.slot .output).job = none → w.engine.answer ≠ (none, none) →
      ∃ plugin tree source context serial result,
        w.engine.ground = .firm tree source serial context ∧
        Evaluated ms plugin source context serial result ∧
        (Work.eval plugin source context serial).MayBring pluginOf (.output serial result) ∧
        w.engine.answer = answerOf result) := by
  have hof : ∀ (work : Work P) (outcome : Outcome P),
      work.MayBring pluginOf outcome → Outcome.Of work outcome := fun _ _ h => h.of
  constructor
  · intro now u generation serial result hoccurs haccepted
    refine ⟨hrun.captured_of_accepted hof hoccurs haccepted, ?_,
      hrun.output_of_accepted hof hoccurs haccepted,
      hrun.published_of_accepted hof hoccurs haccepted⟩
    rw [hoccurs.ground_eq]
    apply Engine.ground_handle
    rintro ⟨_, _, _, _, houtcome, _⟩
    cases houtcome
  · intro hdeadline hjob hanswer
    have hnot : ¬ w.engine.scheduler.Waits [] .output := by
      simp [Scheduler.Waits, hdeadline, hjob]
    rcases (hrun.restrict fun _ hm => hm).grounded fun _ _ h => hof _ _ h.1 with
      hnone | ⟨plugin, tree, source, context, serial, result, ⟨hmay, hbrought⟩, hresult, hfirm⟩
    · exact absurd hnone hanswer
    · exact ⟨plugin, tree, source, context, serial, result, hfirm hnot,
        hrun.evaluated_of_brought hbrought, hmay, hresult⟩

end History

/-- The context is read again in the pass in which the tree was to be evaluated, so that the
evaluation is given up and made anew.  Its result counts although another parse is under way, and it
is the evaluation of the tree that is shown. -/
theorem Run.output_coherent_of_reread :
    ∃ (ms : List (Moment Bool)) (v w : World Bool),
      Run (Work.MayBring Sample.plugin) (.start 300 0) ms v ∧
      Occurs (Work.MayBring Sample.plugin) v 1250
        (.complete ⟨3, .output 1 (.ok (some (Sample.verdict true)))⟩) w ∧
      v.engine.scheduler.isCurrent .output 3 = true ∧
      (v.engine.scheduler.slot .tree).job.isSome = true ∧
      (∃ m ∈ ms, ∃ plugin tree source context, m.event = .fire ∧
        ⟨3, .eval plugin source context 1⟩ ∈ m.started ∧
        v.engine.ground = .firm tree source 1 context) ∧
      w.engine.answer = (some (Sample.verdict true), none) ∧
      ∃ plugin tree source context serial result,
        w.engine.ground = .firm tree source serial context ∧
        Evaluated
          (ms ++ [⟨v, 1250, .complete ⟨3, .output 1 (.ok (some (Sample.verdict true)))⟩, w⟩])
          plugin source context serial result ∧
        answerOf result = (some (Sample.verdict true), none) := by
  obtain ⟨ms, v, w, hrun, hoccurs, hcurrent, hparsing, hdeadline, hjob⟩ : ∃ ms v w,
      Run (Work.MayBring Sample.plugin) (.start 300 0) ms v ∧
      Occurs (Work.MayBring Sample.plugin) v 1250
        (.complete ⟨3, .output 1 (.ok (some (Sample.verdict true)))⟩) w ∧
      v.engine.scheduler.isCurrent .output 3 = true ∧
      (v.engine.scheduler.slot .tree).job.isSome = true ∧
      (w.engine.scheduler.slot .output).deadline = none ∧
      (w.engine.scheduler.slot .output).job.isNone = true := by
    exact ⟨_, _, _, ((((((Run.refl.command 0 (.setExpression "1")).command 10
      (.setPlugin (some true))).fire 400).arrive 500 0 _ _ rfl Sample.brings_tree).command 600
      (.setContextText " ")).fire 900).fire 1200,
      .arrive 1 ⟨3, .eval true ⟨"1", "R"⟩ (.object []) 1⟩ _ (by cbv) (Sample.brings_output true),
      by cbv, by cbv, by cbv, by cbv⟩
  rcases (hrun.output_coherent.1 _ _ _ _ _ hoccurs hcurrent) with
    ⟨⟨m, later, plugin, tree, source, context, ⟨past, rfl⟩, hstarted, hfire, _, _, _, hground, _⟩,
      _, hanswer, _⟩
  rcases (hrun.snoc hoccurs).output_coherent.2 hdeadline (by simpa using hjob)
    (by rw [hanswer]; simp [answerOf]) with
    ⟨plugin', tree', source', context', serial, result, hshown, hevaluated, _, hresult⟩
  exact ⟨_, v, w, hrun, hoccurs, hcurrent, hparsing,
    ⟨m, by simp, plugin, tree, source, context, hfire, hstarted, hground⟩, hanswer,
    plugin', tree', source', context', serial, result, hshown, hevaluated,
    hresult.symm.trans hanswer⟩

end GrammarDesk.Inspector
