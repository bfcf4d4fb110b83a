import GrammarDesk.Proofs.Inspector.Linearity

/-!
# What jobs work on is current

A job carries all that it works on.  As long as its slot holds it, this is still what the engine
holds: the inputs for a parse; the tree, its source and the context for an evaluation.  For the
plugin of an evaluation this is not so.

Main definitions:

- `Engine.Current`: the jobs in the slots work on what the engine holds.
- `Engine.Takes`: what can become of a result that comes back.
- `Learnt`: a default tag that a plugin has been asked for in the course of a history.
- `Moment.Teaches`: what becomes of the default tag at a moment.

Main results:

- `current_stable`, `Run.current`: the jobs in the slots are current throughout.
- `Run.takes`: results are either late or right.
- `Run.default_induction`, `Run.learnt_of_default`: the default tag is that of the installed plugin.
- `Run.accepted_tree_current`: a tree that counts was parsed from the current inputs by the
  installed plugin.
-/

namespace GrammarDesk.Inspector

open Json GrammarDesk.Tree Grammar

variable {P : Type}

namespace Engine

/-! ## Jobs in slots -/

/-- The jobs in the slots work on what the engine holds. -/
structure Current (e : Engine P) : Prop where
  parse : ∀ job, (e.scheduler.slot .tree).job = some job →
    ∃ plugin, e.inputs.plugin = some plugin ∧ job.work = e.parseWork plugin
  /-- The plugin of an evaluation is missing here: it may have been replaced. -/
  eval : ∀ job, (e.scheduler.slot .output).job = some job →
    ∃ plugin tree source context, e.state.treeRoot = some tree ∧ e.source = some source ∧
      e.state.context = some context ∧ e.state.outputError = none ∧
      job.work = .eval plugin source context e.treeSerial

namespace Current

variable {e : Engine P}

/-- A parse is superseded by any change of its inputs, and no evaluation depends on these. -/
theorem inputChanged (h : e.Current) (now : Time) (inputs : Inputs P) {input : Input}
    (hinput : input ≠ .selection) :
    ({ e with inputs := inputs }.inputChanged now input).Current := by
  cases input with
  | selection => exact absurd rfl hinput
  | _ =>
    refine ⟨?_, h.eval⟩
    intro job hjob
    cases hjob

theorem apply [DecidableEq P] (h : e.Current) (now : Time) (command : Command P) :
    (e.apply now command).Current := by
  cases command with
  | select node => exact ⟨h.parse, h.eval⟩
  | settle waiter => exact ⟨h.parse, h.eval⟩
  | _ =>
    simp only [Engine.apply, replaceInput]
    split
    · exact h
    · exact h.inputChanged now _ (by decide)

/-- A job that is started works on what the engine holds at that time. -/
theorem startJob {job : Job P} (h : e.Current)
    (hwork : (∃ plugin, e.inputs.plugin = some plugin ∧ job.work = e.parseWork plugin) ∨
      ∃ plugin tree source context, e.state.treeRoot = some tree ∧ e.source = some source ∧
        e.state.context = some context ∧ e.state.outputError = none ∧
        job.work = .eval plugin source context e.treeSerial) : (e.startJob job).Current := by
  unfold Engine.startJob
  split
  · next hcurrent =>
    have hslot := fun other => e.scheduler.slot_track job.work.key other job.generation job hcurrent
    rcases hwork with ⟨plugin, hplugin, hparse⟩ | heval
    · have hkey : job.work.key = .tree := by rw [hparse]; rfl
      refine ⟨?_, ?_⟩
      · intro other hother
        rw [emit, hslot, if_pos hkey.symm] at hother
        obtain rfl := Option.some.inj hother
        exact ⟨plugin, hplugin, hparse⟩
      · intro other hother
        rw [emit, hslot, if_neg (by rw [hkey]; decide)] at hother
        exact h.eval other hother
    · have hkey : job.work.key = .output := by
        rcases heval with ⟨_, _, _, _, _, _, _, _, hjob⟩
        rw [hjob]
        rfl
      refine ⟨?_, ?_⟩
      · intro other hother
        rw [emit, hslot, if_neg (by rw [hkey]; decide)] at hother
        exact h.parse other hother
      · intro other hother
        rw [emit, hslot, if_pos hkey.symm] at hother
        obtain rfl := Option.some.inj hother
        exact heval
  · exact h

theorem recompute (h : e.Current) (now : Time) (key : Derived) (generation : Nat) :
    (e.recompute now key generation).Current := by
  have hrecomputes := e.recomputes now key generation
  generalize e.recompute now key generation = e' at hrecomputes
  cases hrecomputes with
  | contextRead | treeGone => exact ⟨h.parse, fun job hjob => by cases hjob⟩
  | parseStarted plugin hinstalled => exact h.startJob (Or.inl ⟨plugin, hinstalled, rfl⟩)
  | evalStarted plugin tree source context _ htree hsource hcontext herror =>
    exact h.startJob
      (Or.inr ⟨plugin, tree, source, context, htree, hsource, hcontext, herror, rfl⟩)
  | outputGone | marked => exact ⟨h.parse, h.eval⟩
  | treeless | outputless | unmarked => exact h

/-- A slot that is free runs nothing that could have become out of date. -/
theorem finish (h : e.Current) (key : Derived) (generation : Nat)
    (hcurrent : e.scheduler.isCurrent key generation = true) :
    ({ e with scheduler := e.scheduler.finish key generation } : Engine P).Current := by
  have hslot := fun other => e.scheduler.slot_finish key other generation hcurrent
  refine ⟨?_, ?_⟩
  · intro job hjob
    rw [hslot] at hjob
    split at hjob
    · cases hjob
    · exact h.parse job hjob
  · intro job hjob
    rw [hslot] at hjob
    split at hjob
    · cases hjob
    · exact h.eval job hjob

/-- A result that counts is taken while its own slot is free, and a new tree stops any
evaluation. -/
theorem takeOutcome [DecidableEq P] (h : e.Current) (now : Time) (outcome : Outcome P)
    (hfree : (e.scheduler.slot outcome.key).job = none) : (e.takeOutcome now outcome).Current := by
  cases outcome with
  | tree plugin source result =>
    have hnone : ∀ job, (e.scheduler.slot .tree).job ≠ some job := by
      intro job hjob
      exact absurd (hjob.symm.trans hfree) (by simp)
    rcases e.commitTree_cases now plugin source result with
      ⟨_, tree, _, heq⟩ | ⟨_, failure, _, heq⟩ | ⟨_, heq⟩
    · rw [Engine.takeOutcome, heq]
      refine ⟨fun job hjob => ?_, fun job hjob => by cases hjob⟩
      have hjob : ((e.afterParse source tree).scheduler.slot .tree).job = some job := hjob
      rw [scheduler_afterParse] at hjob
      exact absurd hjob (hnone job)
    · rw [Engine.takeOutcome, heq, learnDefaultTag_eq]
      exact ⟨fun job hjob => absurd hjob (hnone job), h.eval⟩
    · rw [Engine.takeOutcome, heq]
      exact h
  | output serial result =>
    have hnone : ∀ job, (e.scheduler.slot .output).job ≠ some job := by
      intro job hjob
      exact absurd (hjob.symm.trans hfree) (by simp)
    rcases e.commitOutput_cases serial result with ⟨_, _, heq⟩ | ⟨_, heq⟩
    · rw [Engine.takeOutcome, heq]
      exact ⟨h.parse, fun job hjob => absurd hjob (hnone job)⟩
    · rw [Engine.takeOutcome, heq]
      exact h

theorem commit [DecidableEq P] (h : e.Current) (now : Time) (c : Completion P) :
    (e.commit now c).Current := by
  rcases e.commit_cases now c with ⟨hcurrent, heq⟩ | ⟨_, heq⟩
  · rw [heq]
    refine (h.finish c.outcome.key c.generation hcurrent).takeOutcome now c.outcome ?_
    rw [e.scheduler.slot_finish c.outcome.key c.outcome.key c.generation hcurrent, if_pos rfl]
  · rw [heq]
    exact h

end Current

end Engine

/-- Every part of an event keeps the jobs in the slots current. -/
theorem current_stable [DecidableEq P] (brings : Work P → Outcome P → Prop) :
    Stable brings fun e _ _ => e.Current where
  start debounce now := by
    constructor <;> intro job hjob <;> cases hjob
  apply now command _ h := h.apply now command
  takeDue {e underWay} now _ h := by
    constructor
    · intro job hjob
      rw [Scheduler.job_takeDue] at hjob
      exact h.parse job hjob
    · intro job hjob
      rw [Scheduler.job_takeDue] at hjob
      exact h.eval job hjob
  recompute now h := h.recompute now _ _
  arrive now _ _ _ h := h.commit now _
  showBusy {e underWay} h := by
    rcases e.showBusy_cases with heq | heq
    · rw [heq]; exact h
    · rw [heq]; exact ⟨h.parse, h.eval⟩
  releaseWaiters {e underWay} h := by
    rcases e.releaseWaiters_cases with ⟨waiters, released, heq⟩
    rw [heq]
    exact ⟨h.parse, h.eval⟩
  deliver h := ⟨h.parse, h.eval⟩

/-- Between any two events the jobs in the slots are current. -/
theorem Run.current [DecidableEq P] {brings : Work P → Outcome P → Prop} {debounce start : Time}
    {ms : List (Moment P)} {w : World P} (hrun : Run brings (.start debounce start) ms w) :
    w.engine.Current :=
  (current_stable brings).of_run hrun

/-! ## Results that count -/

/-- What can become of a result: it is for an old generation and changes nothing, or it comes from a
job that works on what the engine holds, and is taken. -/
inductive Engine.Takes (brings : Work P → Outcome P → Prop) (e : Engine P) (now : Time) :
    Completion P → Engine P → Prop where
  | passed (c : Completion P)
      (hpassed : e.scheduler.isCurrent c.outcome.key c.generation = false) :
      Takes brings e now c e
  | parsed (generation : Nat) (plugin : P) (source : TreeSource) (tree : Node)
      (hcurrent : e.scheduler.isCurrent .tree generation = true)
      (hinstalled : e.inputs.plugin = some plugin)
      (hbrought : brings (e.parseWork plugin) (.tree plugin source (.ok tree))) :
      Takes brings e now ⟨generation, .tree plugin source (.ok tree)⟩
        ((({ e with scheduler := e.scheduler.finish .tree generation } : Engine P).afterParse source
          tree).publish.invalidate now Derived.tree.dependents)
  | failed (generation : Nat) (plugin : P) (source : TreeSource) (failure : Failure)
      (hcurrent : e.scheduler.isCurrent .tree generation = true)
      (hinstalled : e.inputs.plugin = some plugin)
      (hbrought : brings (e.parseWork plugin) (.tree plugin source (.error failure))) :
      Takes brings e now ⟨generation, .tree plugin source (.error failure)⟩
        ((({ e with scheduler := e.scheduler.finish .tree generation } : Engine P).learnDefaultTag
          source.rootTag).emit (.notify (Engine.parseFailed failure)))
  | evaluated (generation : Nat) (job : Job P) (plugin : P) (tree : Node) (source : TreeSource)
      (context : Value) (result : Except Failure (Option Value))
      (hcurrent : e.scheduler.isCurrent .output generation = true)
      (htree : e.state.treeRoot = some tree) (hsource : e.source = some source)
      (hcontext : e.state.context = some context) (herror : e.state.outputError = none)
      (hjob : (e.scheduler.slot .output).job = some job)
      (hwork : job.work = .eval plugin source context e.treeSerial)
      (hbrought : brings job.work (.output e.treeSerial result)) :
      Takes brings e now ⟨generation, .output e.treeSerial result⟩
        ({ e with
            scheduler := e.scheduler.finish .output generation
            state := { e.state with
              output := (answerOf result).1, evalError := (answerOf result).2 } } :
          Engine P).publish

section Accepted

variable [DecidableEq P] {brings : Work P → Outcome P → Prop} {debounce start now : Time}
  {ms : List (Moment P)} {w u : World P}

/-- A tree that counts comes from the parse of the current inputs by the installed plugin. -/
theorem Run.parse_of_accepted
    (hbrings : ∀ work outcome, brings work outcome → Outcome.Of work outcome)
    (hrun : Run brings (.start debounce start) ms w) {generation : Nat} {plugin : P}
    {source : TreeSource} {result : Except Failure Node}
    (hoccurs : Occurs brings w now (.complete ⟨generation, .tree plugin source result⟩) u)
    (haccepted : w.engine.scheduler.isCurrent .tree generation = true) :
    w.engine.inputs.plugin = some plugin ∧ source.expression = w.engine.inputs.expression ∧
      (∀ given, w.engine.inputs.grammarTag.or w.engine.inputs.defaultRootTag = some given →
        source.rootTag = given) ∧
      ∃ job ∈ w.underWay, job.generation = generation ∧ job.work = w.engine.parseWork plugin ∧
        brings job.work (.tree plugin source result) := by
  rcases hrun.job_of_accepted hbrings hoccurs haccepted with
    ⟨job, hmem, hgeneration, hbrought, hheld⟩
  rcases hrun.current.parse job hheld with ⟨installed, hinstalled, hwork⟩
  have hof := hbrings _ _ hbrought
  rw [hwork, Engine.parseWork] at hof
  cases hof with
  | parse _ _ _ rootTag _ hgiven =>
    exact ⟨hinstalled, rfl, hgiven, job, hmem, hgeneration, hwork, hbrought⟩

/-- An output that counts comes from an evaluation of the tree that is shown, in the context that is
shown. -/
theorem Run.eval_of_accepted
    (hbrings : ∀ work outcome, brings work outcome → Outcome.Of work outcome)
    (hrun : Run brings (.start debounce start) ms w) {generation serial : Nat}
    {result : Except Failure (Option Value)}
    (hoccurs : Occurs brings w now (.complete ⟨generation, .output serial result⟩) u)
    (haccepted : w.engine.scheduler.isCurrent .output generation = true) :
    ∃ plugin tree source context, w.engine.state.treeRoot = some tree ∧
      w.engine.source = some source ∧ w.engine.state.context = some context ∧
      w.engine.state.outputError = none ∧ w.engine.treeSerial = serial ∧
      ∃ job ∈ w.underWay, (w.engine.scheduler.slot .output).job = some job ∧
        job.generation = generation ∧ job.work = .eval plugin source context serial ∧
        brings job.work (.output serial result) := by
  rcases hrun.job_of_accepted hbrings hoccurs haccepted with
    ⟨job, hmem, hgeneration, hbrought, hheld⟩
  rcases hrun.current.eval job hheld with
    ⟨plugin, tree, source, context, htree, hsource, hcontext, herror, hwork⟩
  have hof := hbrings _ _ hbrought
  rw [hwork] at hof
  cases hof
  exact ⟨plugin, tree, source, context, htree, hsource, hcontext, herror, rfl, job, hmem, hheld,
    hgeneration, hwork, hbrought⟩

/-- In the course of a history results are either late or right. -/
theorem Run.takes (hbrings : ∀ work outcome, brings work outcome → Outcome.Of work outcome)
    (hrun : Run brings (.start debounce start) ms w) {c : Completion P}
    (hoccurs : Occurs brings w now (.complete c) u) :
    w.engine.Takes brings now c (w.engine.commit now c) := by
  obtain ⟨generation, outcome⟩ := c
  by_cases haccepted : w.engine.scheduler.isCurrent outcome.key generation = true
  · cases outcome with
    | tree plugin source result =>
      rcases hrun.parse_of_accepted hbrings hoccurs haccepted with
        ⟨hinstalled, _, _, job, _, _, hwork, hbrought⟩
      rw [hwork] at hbrought
      cases result with
      | ok tree =>
        rw [w.engine.commit_of_tree_ok now haccepted hinstalled]
        exact .parsed generation plugin source tree haccepted hinstalled hbrought
      | error failure =>
        rw [w.engine.commit_of_tree_error now haccepted hinstalled]
        exact .failed generation plugin source failure haccepted hinstalled hbrought
    | output serial result =>
      rcases hrun.eval_of_accepted hbrings hoccurs haccepted with
        ⟨plugin, tree, source, context, htree, hsource, hcontext, herror, rfl, job, _, hjob, _,
          hwork, hbrought⟩
      rw [w.engine.commit_of_output now haccepted (by rw [htree]; simp) rfl]
      exact .evaluated generation job plugin tree source context result haccepted htree hsource
        hcontext herror hjob hwork hbrought
  · have hpassed : w.engine.scheduler.isCurrent outcome.key generation = false := by
      simpa using haccepted
    rw [Engine.commit_of_not_current _ _ _ hpassed]
    exact .passed _ hpassed

/-! ## Default tags -/

/-- In the course of the history a parse by the plugin had to ask for the default tag, and was told
this one. -/
def Learnt (brings : Work P → Outcome P → Prop) (ms : List (Moment P)) (plugin : P)
    (tag : String) : Prop :=
  ∃ m ∈ ms, ∃ job ∈ m.before.underWay, ∃ expression result,
    job.work = .parse plugin expression none ∧
      brings job.work (.tree plugin ⟨expression, tag⟩ result) ∧
      m.event = .complete ⟨job.generation, .tree plugin ⟨expression, tag⟩ result⟩

omit [DecidableEq P] in
theorem Learnt.snoc {plugin : P} {tag : String} (h : Learnt brings ms plugin tag) (m : Moment P) :
    Learnt brings (ms ++ [m]) plugin tag := by
  rcases h with ⟨m', hmem, hlearnt⟩
  exact ⟨m', List.mem_append_left _ hmem, hlearnt⟩

omit [DecidableEq P] in
/-- What was learnt is what the plugin's own backend advertised. -/
theorem Learnt.advertised {pluginOf : P → Plugin} {plugin : P} {tag : String}
    (h : Learnt (Work.MayBring pluginOf) ms plugin tag) : MayAdvertise (pluginOf plugin) tag := by
  rcases h with ⟨_, _, job, _, expression, result, hwork, hbrought, _⟩
  rw [hwork] at hbrought
  exact hbrought.advertised

/-- The default tag that a parse used without being given one was learnt from its own plugin. -/
theorem Run.learnt_of_accepted
    (hbrings : ∀ work outcome, brings work outcome → Outcome.Of work outcome)
    (hrun : Run brings (.start debounce start) ms w) {generation : Nat} {plugin : P}
    {source : TreeSource} {result : Except Failure Node}
    (hoccurs : Occurs brings w now (.complete ⟨generation, .tree plugin source result⟩) u)
    (haccepted : w.engine.scheduler.isCurrent .tree generation = true)
    (hknown : ∀ tag, w.engine.inputs.defaultRootTag = some tag → Learnt brings ms plugin tag)
    (hnone : w.engine.inputs.grammarTag = none) :
    Learnt brings (ms ++ [⟨w, now, .complete ⟨generation, .tree plugin source result⟩, u⟩]) plugin
      source.rootTag := by
  rcases hrun.parse_of_accepted hbrings hoccurs haccepted with
    ⟨_, hexpression, hgiven, job, hmem, hgeneration, hwork, hbrought⟩
  rw [hnone, Option.none_or] at hgiven
  cases hdefault : w.engine.inputs.defaultRootTag with
  | some tag =>
    rw [hgiven tag hdefault]
    exact (hknown tag hdefault).snoc _
  | none =>
    rw [Engine.parseWork, hnone, hdefault] at hwork
    have hsource : source = ⟨w.engine.inputs.expression, source.rootTag⟩ := by
      rw [← hexpression]
    refine ⟨_, List.mem_append_right _ (List.mem_singleton_self _), job, hmem,
      w.engine.inputs.expression, result, hwork, ?_, ?_⟩
    · rw [← hsource]
      exact hbrought
    · rw [← hsource, hgeneration]

/-- What becomes of the default tag at a moment: it is kept with the plugin, it is forgotten when that
changes, or it becomes that of a parse for which no tag was set. -/
inductive Moment.Teaches (m : Moment P) : Prop where
  | kept (hplugin : m.after.engine.inputs.plugin = m.before.engine.inputs.plugin)
      (hdefault :
        m.after.engine.inputs.defaultRootTag = m.before.engine.inputs.defaultRootTag)
  | forgotten (command : Command P) (hevent : m.event = .command command)
      (hchanged : command.changed? m.before.engine.inputs = some .plugin)
      (hplugin : m.after.engine.inputs.plugin ≠ m.before.engine.inputs.plugin)
      (hdefault : m.after.engine.inputs.defaultRootTag = none)
  | learnt (generation : Nat) (plugin : P) (source : TreeSource) (result : Except Failure Node)
      (hevent : m.event = .complete ⟨generation, .tree plugin source result⟩)
      (haccepted : m.before.engine.scheduler.isCurrent .tree generation = true)
      (hnone : m.before.engine.inputs.grammarTag = none)
      (hplugin : m.after.engine.inputs.plugin = m.before.engine.inputs.plugin)
      (hdefault : m.after.engine.inputs.defaultRootTag = some source.rootTag)

/-- A default tag is kept, forgotten with its plugin, or learnt from a parse. -/
theorem Occurs.teaches {event : Event P} (hoccurs : Occurs brings w now event u) :
    (⟨w, now, event, u⟩ : Moment P).Teaches := by
  have hinputs := hoccurs.inputs_eq_handle
  cases event with
  | command command =>
    rw [Engine.handle] at hinputs
    rcases w.engine.default_apply now command with ⟨hplugin, hsame⟩ | ⟨hchanged, hplugin, hnone⟩
    · exact .kept (by rw [hinputs, hplugin]) (by rw [hinputs, hsame])
    · exact .forgotten command rfl hchanged (by rwa [hinputs]) (by rw [hinputs, hnone])
  | fire =>
    rcases w.engine.inputs_fire now with ⟨_, hfire⟩
    rw [Engine.handle, hfire] at hinputs
    exact .kept (by rw [hinputs]) (by rw [hinputs])
  | complete c =>
    rw [Engine.handle] at hinputs
    rcases w.engine.inputs_commit now c with
      ⟨hplugin, hsame | ⟨hnone, haccepted, plugin, source, result, houtcome, hdefault⟩⟩
    · exact .kept (by rw [hinputs, hplugin]) (by rw [hinputs, hsame])
    · obtain ⟨generation, outcome⟩ := c
      obtain rfl : outcome = .tree plugin source result := houtcome
      exact .learnt generation plugin source result rfl haccepted hnone (by rw [hinputs, hplugin])
        (by rw [hinputs, hdefault])

/-- What holds of a default tag when it is learnt for the first time, and goes on holding while the
plugin stays, holds of the default tag that the engine keeps. -/
theorem Run.default_induction
    (hbrings : ∀ work outcome, brings work outcome → Outcome.Of work outcome)
    (D : List (Moment P) → P → String → Prop)
    (hlearnt : ∀ {ms : List (Moment P)} {v u : World P} {now : Time} {generation : Nat} {plugin : P}
      {source : TreeSource} {result : Except Failure Node}, Run brings (.start debounce start) ms v →
      Occurs brings v now (.complete ⟨generation, .tree plugin source result⟩) u →
      v.engine.scheduler.isCurrent .tree generation = true → v.engine.inputs.grammarTag = none →
      v.engine.inputs.defaultRootTag = none →
      u.engine.inputs.plugin = v.engine.inputs.plugin →
      D (ms ++ [⟨v, now, .complete ⟨generation, .tree plugin source result⟩, u⟩]) plugin
        source.rootTag)
    (hkept : ∀ {ms : List (Moment P)} {m : Moment P} {plugin : P} {tag : String},
      m.after.engine.inputs.plugin = m.before.engine.inputs.plugin → D ms plugin tag →
      D (ms ++ [m]) plugin tag)
    (hrun : Run brings (.start debounce start) ms w) {tag : String}
    (hdefault : w.engine.inputs.defaultRootTag = some tag) :
    ∃ plugin, w.engine.inputs.plugin = some plugin ∧ D ms plugin tag := by
  induction hrun generalizing tag with
  | refl => cases hdefault
  | @snoc ms v u now event hrun hoccurs ih =>
    cases hoccurs.teaches with
    | kept hplugin hsame =>
      rcases ih (hsame.symm.trans hdefault) with ⟨plugin, hinstalled, hholds⟩
      exact ⟨plugin, hplugin.trans hinstalled, hkept hplugin hholds⟩
    | forgotten _ _ _ _ hnone =>
      rw [hnone] at hdefault
      cases hdefault
    | learnt generation plugin source result hevent haccepted hnone hplugin hsome =>
      obtain rfl : event = _ := hevent
      obtain rfl := Option.some.inj (hsome.symm.trans hdefault)
      rcases hrun.parse_of_accepted hbrings hoccurs haccepted with ⟨hinstalled, -, hgiven, -⟩
      refine ⟨plugin, hplugin.trans hinstalled, ?_⟩
      cases hbefore : v.engine.inputs.defaultRootTag with
      | none => exact hlearnt hrun hoccurs haccepted hnone hbefore hplugin
      | some known =>
        -- the parse was given the tag that was known
        rcases ih hbefore with ⟨other, hother, hholds⟩
        obtain rfl := Option.some.inj (hother.symm.trans hinstalled)
        rw [hgiven known (by rw [hnone, Option.none_or, hbefore])]
        exact hkept hplugin hholds

/-- The default tag that the engine keeps was learnt from the installed plugin. -/
theorem Run.learnt_of_default
    (hbrings : ∀ work outcome, brings work outcome → Outcome.Of work outcome)
    (hrun : Run brings (.start debounce start) ms w) {tag : String}
    (hdefault : w.engine.inputs.defaultRootTag = some tag) :
    ∃ plugin, w.engine.inputs.plugin = some plugin ∧ Learnt brings ms plugin tag := by
  refine Run.default_induction hbrings (Learnt brings) ?_ (fun _ h => h.snoc _) hrun hdefault
  intro ms v u now generation plugin source result hrun hoccurs haccepted hnone hunknown _
  refine hrun.learnt_of_accepted hbrings hoccurs haccepted ?_ hnone
  intro tag hknown
  rw [hunknown] at hknown
  cases hknown

/-! ## No stale tree -/

/-- A tree that counts was parsed from the current inputs by the installed plugin, from the tag that
is set or else from the default tag that this plugin has given.  It is shown, or its failure is
reported: that another plugin is installed is never found out so late. -/
theorem Run.accepted_tree_current {pluginOf : P → Plugin}
    (hrun : Run (Work.MayBring pluginOf) (.start debounce start) ms w) {generation : Nat}
    {plugin : P} {source : TreeSource} {result : Except Failure Node}
    (hoccurs : Occurs (Work.MayBring pluginOf) w now
      (.complete ⟨generation, .tree plugin source result⟩) u)
    (haccepted : w.engine.scheduler.isCurrent .tree generation = true) :
    w.engine.inputs.plugin = some plugin ∧
      source.expression = w.engine.inputs.expression ∧
      (∀ tag, w.engine.inputs.grammarTag = some tag → source.rootTag = tag) ∧
      (w.engine.inputs.grammarTag = none →
        (∀ tag, w.engine.inputs.defaultRootTag = some tag → source.rootTag = tag) ∧
          MayAdvertise (pluginOf plugin) source.rootTag ∧
          Learnt (Work.MayBring pluginOf)
            (ms ++ [⟨w, now, .complete ⟨generation, .tree plugin source result⟩, u⟩]) plugin
            source.rootTag) ∧
      (∀ tree, result = .ok tree →
        u.engine.state.treeRoot = some tree ∧ u.engine.source = some source) ∧
      (∀ failure, result = .error failure → Effect.notify (Engine.parseFailed failure) ∈
        (w.engine.step now (.complete ⟨generation, .tree plugin source result⟩)).2) := by
  have hof : ∀ (work : Work P) (outcome : Outcome P),
      work.MayBring pluginOf outcome → Outcome.Of work outcome := fun _ _ h => h.of
  rcases hrun.parse_of_accepted hof hoccurs haccepted with ⟨hinstalled, hexpression, hgiven, _⟩
  refine ⟨hinstalled, hexpression, ?_, ?_, ?_, ?_⟩
  · intro tag htag
    exact hgiven tag (by rw [htag, Option.some_or])
  · intro hnone
    have hlearnt : Learnt (Work.MayBring pluginOf)
        (ms ++ [⟨w, now, .complete ⟨generation, .tree plugin source result⟩, u⟩]) plugin
        source.rootTag := by
      refine hrun.learnt_of_accepted hof hoccurs haccepted ?_ hnone
      intro tag hdefault
      rcases hrun.learnt_of_default hof hdefault with ⟨other, hother, hlearnt⟩
      obtain rfl := Option.some.inj (hother.symm.trans hinstalled)
      exact hlearnt
    refine ⟨?_, hlearnt.advertised, hlearnt⟩
    intro tag hdefault
    exact hgiven tag (by rw [hnone, Option.none_or, hdefault])
  · rintro tree rfl
    rcases hoccurs.engine_eq_handle with ⟨_, _, _, _, hengine⟩
    rw [hengine, Engine.handle, w.engine.commit_of_tree_ok now haccepted hinstalled]
    exact ⟨rfl, rfl⟩
  · rintro failure rfl
    refine w.engine.mem_step_of_mem_handle now _ ?_
    rw [Engine.handle, w.engine.commit_of_tree_error now haccepted hinstalled]
    exact List.mem_append_right _ (List.mem_singleton_self _)

end Accepted

/-- A plugin is replaced and installed again while its parse is under way; the parse that is started
anew counts, and its tree is shown. -/
theorem Run.accepted_tree_of_reinstalled :
    ∃ (ms : List (Moment Bool)) (w u : World Bool),
      Run (Work.MayBring Sample.plugin) (.start 300 0) ms w ∧
      Occurs (Work.MayBring Sample.plugin) w 900
        (.complete ⟨4, .tree true ⟨"1", "R"⟩ (.ok Sample.leaf)⟩) u ∧
      w.engine.scheduler.isCurrent .tree 4 = true ∧ w.engine.inputs.plugin = some true ∧
      u.engine.state.treeRoot = some Sample.leaf := by
  obtain ⟨ms, w, hrun, hjob, hcurrent⟩ : ∃ ms w,
      Run (Work.MayBring Sample.plugin) (.start 300 0) ms w ∧
      w.underWay[1]? = some ⟨4, .parse true "1" none⟩ ∧
      w.engine.scheduler.isCurrent .tree 4 = true := by
    exact ⟨_, _, (((((Run.refl.command 0 (.setExpression "1")).command 10
      (.setPlugin (some true))).fire 400).command 410 (.setPlugin (some false))).command 420
      (.setPlugin (some true))).fire 800, rfl, rfl⟩
  have hoccurs := @Occurs.arrive Bool _ _ w 900 1 _ _ hjob Sample.brings_tree
  have haccepted := hrun.accepted_tree_current hoccurs hcurrent
  exact ⟨ms, w, _, hrun, hoccurs, hcurrent, haccepted.1, (haccepted.2.2.2.2.1 _ rfl).1⟩

end GrammarDesk.Inspector
