import Mathlib
import GrammarDesk.Proofs.Inspector.Currency
import GrammarDesk.Proofs.Inspector.Waiting
import GrammarDesk.Proofs.Tree.Walk

/-!
# The inspector at rest

If backends answer alike to like questions, then all that is shown when nothing is left to compute
is a function of the inputs.  It is what one would get by reading the context, parsing the
expression and evaluating the tree one after the other, whatever has happened on the way.

The only exception is a parse that fails, for then the old tree stays.

Main definitions:

- `Answers`: what plugins answer, as functions of what they are asked.
- `Engine.Fits`: whatever is not to be computed anew is what the inputs say it should be.

Main results:

- `Answers.outcome_ofKnow`: plugins whose backends know all answers are such functions.
- `Run.fits`: the engine fits its inputs between any two events.
- `Run.answer_of_isIdle`: at rest a tree is evaluated exactly if none of its nodes carries an error.
- `Run.batch_of_isIdle`: at rest all that is shown is computed from the inputs alone.
-/

namespace GrammarDesk.Inspector

open Json GrammarDesk.Tree Grammar

variable {P : Type}

/-! ## Answers -/

/-- What plugins answer, as functions of what they are asked. -/
structure Answers (P : Type) where
  rootTags : P → Except Failure (List String)
  parse : P → String → String → Except Failure Node
  eval : P → String → String → Value → Except Failure (Option Value)

namespace Answers

/-- The tag that parses by a plugin start with by default. -/
def defaultTag (answers : Answers P) (plugin : P) : String :=
  match answers.rootTags plugin with
  | .ok tags => tags.headD ""
  | .error _ => ""

/-- What work brings back. -/
def outcome (answers : Answers P) : Work P → Outcome P
  | .parse plugin expression tag =>
    let rootTag := tag.getD (answers.defaultTag plugin)
    .tree plugin ⟨expression, rootTag⟩ (answers.parse plugin rootTag expression)
  | .eval plugin source context serial =>
    .output serial (answers.eval plugin source.rootTag source.expression context)

theorem outcome_of (answers : Answers P) (work : Work P) :
    Outcome.Of work (answers.outcome work) := by
  cases work with
  | parse plugin expression tag =>
    refine Outcome.Of.parse plugin expression tag _ _ ?_
    rintro given rfl
    rfl
  | eval plugin source context serial => exact Outcome.Of.eval plugin source context serial _

/-- The answers of plugins, when a function knows the answers to all calls. -/
def ofKnow (pluginOf : P → Plugin) (know : (call : Call) → call.Answer) : Answers P where
  rootTags plugin := ((Task.attempt (pluginOf plugin).rootTags).runWith know).1
  parse plugin rootTag expression :=
    ((Task.attempt ((pluginOf plugin).parse rootTag expression)).runWith know).1
  eval plugin rootTag expression context :=
    ((Task.attempt ((pluginOf plugin).eval rootTag expression context)).runWith know).1

/-- Plugins whose backends know all answers are functions of what they are asked. -/
theorem outcome_ofKnow (pluginOf : P → Plugin) (know : (call : Call) → call.Answer)
    (work : Work P) :
    ((work.run pluginOf).runWith know).1 = (ofKnow pluginOf know).outcome work := by
  cases work with
  | parse plugin expression tag =>
    have htag : ((rootTagOf (pluginOf plugin) tag).runWith know).1 =
        tag.getD ((ofKnow pluginOf know).defaultTag plugin) := by
      cases tag with
      | some given => rfl
      | none =>
        have htags : (ofKnow pluginOf know).rootTags plugin =
            ((Task.attempt (pluginOf plugin).rootTags).runWith know).1 := rfl
        rw [rootTagOf_none, Dialogue.runWith_bind, Option.getD_none, defaultTag, htags]
        cases ((Task.attempt (pluginOf plugin).rootTags).runWith know).1 <;> rfl
    rw [Work.run_parse, Dialogue.runWith_bind, Dialogue.runWith_bind, htag]
    rfl
  | eval plugin source context serial =>
    rw [Work.run_eval, Dialogue.runWith_bind]
    rfl

end Answers

/-! ## What the inputs say -/

/-- What is shown of a tree besides it: its tokens, their marks, and its first error. -/
def walkOf : Option Node → List Node × List Mark × Option String
  | some tree => ((walk tree).tokens, (walk tree).marks, (walk tree).firstError)
  | none => ([], [], none)

namespace Engine

/-- The tag from which the inputs are parsed by a plugin. -/
def rootTag (answers : Answers P) (e : Engine P) (plugin : P) : String :=
  e.inputs.grammarTag.getD (answers.defaultTag plugin)

/-- The installed plugin is this one, and it parses the inputs to this tree. -/
def ParsesTo (answers : Answers P) (e : Engine P) (plugin : P) (tree : Node) : Prop :=
  e.inputs.plugin = some plugin ∧
    answers.parse plugin (e.rootTag answers plugin) e.inputs.expression = .ok tree

/-- Without a plugin nothing is parsed. -/
theorem not_parsesTo {answers : Answers P} {e : Engine P} {plugin : P} {tree : Node}
    (hnone : e.inputs.plugin = none) : ¬ e.ParsesTo answers plugin tree := by
  rintro ⟨hinstalled, _⟩
  exact absurd (hinstalled.symm.trans hnone) (Option.some_ne_none _)

/-- Whatever is not still to be computed is what the inputs say it should be. -/
structure Fits (answers : Answers P) (e : Engine P) (due : List (Derived × Nat)) : Prop where
  context : ¬ e.scheduler.Waits due .context →
    (e.state.context, e.state.contextError) = contextOf (parseContext e.inputs.contextText)
  walked : (e.state.tokens, e.state.marks, e.state.outputError) = walkOf e.state.treeRoot
  default : ∀ tag, e.inputs.defaultRootTag = some tag →
    ∃ plugin, e.inputs.plugin = some plugin ∧ tag = answers.defaultTag plugin
  gone : ¬ e.scheduler.Waits due .tree → e.inputs.plugin = none → e.state.treeRoot = none
  parsed : ¬ e.scheduler.Waits due .tree → ∀ plugin tree, e.ParsesTo answers plugin tree →
    e.state.treeRoot = some tree ∧
      e.source = some ⟨e.inputs.expression, e.rootTag answers plugin⟩
  /-- Once the tree is there it is evaluated by the plugin that has parsed it. -/
  evaluator : ¬ e.scheduler.Waits due .tree → ∀ plugin tree, e.ParsesTo answers plugin tree →
    ∀ job, (e.scheduler.slot .output).job = some job →
      ∃ source context serial, job.work = .eval plugin source context serial
  silent : ¬ e.scheduler.Waits due .output →
    e.state.treeRoot = none ∨ e.state.context = none ∨ e.state.outputError ≠ none →
    e.answer = (none, none)
  answered : ¬ e.scheduler.Waits due .output → ¬ e.scheduler.Waits due .tree →
    ∀ plugin tree context, e.ParsesTo answers plugin tree → e.state.context = some context →
      e.state.outputError = none → e.answer =
        answerOf (answers.eval plugin (e.rootTag answers plugin) e.inputs.expression context)

namespace Fits

variable {answers : Answers P} {e : Engine P} {due due' : List (Derived × Nat)}

theorem start (answers : Answers P) (debounce start : Time) :
    (Engine.start debounce start : Engine P).Fits answers [] := by
  refine ⟨?_, rfl, ?_, fun _ _ => rfl, fun _ _ _ hparses => absurd hparses (not_parsesTo rfl),
    fun _ _ _ hparses => absurd hparses (not_parsesTo rfl), fun _ _ => rfl,
    fun _ _ _ _ _ hparses => absurd hparses (not_parsesTo rfl)⟩
  · exact fun hnot => absurd (Scheduler.waits_invalidate _ [] .context start) hnot
  · intro tag htag
    cases htag

/-- Only what waits no longer has to fit. -/
theorem reschedule (h : e.Fits answers due) (s : Scheduler (Job P))
    (hwaits : ∀ key, key ≠ .selectionMark → e.scheduler.Waits due key → s.Waits due' key)
    (hjob : ∀ job, (s.slot .output).job = some job → (e.scheduler.slot .output).job = some job ∨
      ∀ plugin, e.inputs.plugin = some plugin →
        ∃ source context serial, job.work = .eval plugin source context serial) :
    ({ e with scheduler := s } : Engine P).Fits answers due' := by
  have hcontext : ¬ s.Waits due' .context → ¬ e.scheduler.Waits due .context :=
    fun hnot hwaited => hnot (hwaits _ (by decide) hwaited)
  have htree : ¬ s.Waits due' .tree → ¬ e.scheduler.Waits due .tree :=
    fun hnot hwaited => hnot (hwaits _ (by decide) hwaited)
  have houtput : ¬ s.Waits due' .output → ¬ e.scheduler.Waits due .output :=
    fun hnot hwaited => hnot (hwaits _ (by decide) hwaited)
  exact ⟨fun hnot => h.context (hcontext hnot), h.walked, h.default,
    fun hnot => h.gone (htree hnot), fun hnot => h.parsed (htree hnot),
    fun hnot plugin tree hparses job hruns => (hjob job hruns).elim
      (h.evaluator (htree hnot) plugin tree hparses job) fun hnew => hnew plugin hparses.1,
    fun hnot => h.silent (houtput hnot),
    fun hnot hthere => h.answered (houtput hnot) (htree hthere)⟩

theorem takeDue (h : e.Fits answers []) (now : Time) :
    ({ e with scheduler := (e.scheduler.takeDue now).2 } : Engine P).Fits answers
      (e.scheduler.takeDue now).1 := by
  refine h.reschedule _ (fun key _ hwaited => hwaited.takeDue now) ?_
  intro job hjob
  rw [Scheduler.job_takeDue] at hjob
  exact Or.inl hjob

/-- A change of what the tree is computed from leaves the tree to be computed anew. -/
theorem inputChanged (h : e.Fits answers due) (now : Time) (inputs : Inputs P) {input : Input}
    (hinput : input ≠ .selection)
    (hcontext : input = .contextText ∨ inputs.contextText = e.inputs.contextText)
    (hdefault : inputs.defaultRootTag = none ∨
      inputs.plugin = e.inputs.plugin ∧ inputs.defaultRootTag = e.inputs.defaultRootTag) :
    ({ e with inputs := inputs }.inputChanged now input).Fits answers due := by
  have hwaits : ∀ key, e.scheduler.Waits due key →
      (e.scheduler.invalidateAll input.dependents now).Waits due key :=
    fun key hwaited => hwaited.invalidateAll _ now
  have htree : (e.scheduler.invalidateAll input.dependents now).Waits due .tree := by
    refine Scheduler.waits_invalidateAll _ due ?_ now
    cases input <;> first | decide | exact absurd rfl hinput
  refine ⟨?_, h.walked, ?_, fun hnot => absurd htree hnot, fun hnot => absurd htree hnot,
    fun hnot => absurd htree hnot, fun hnot => h.silent fun hwaited => hnot (hwaits _ hwaited),
    fun _ hnot => absurd htree hnot⟩
  · intro hnot
    rcases hcontext with rfl | hsame
    · exact absurd (Scheduler.waits_invalidateAll _ due (by decide) now) hnot
    · have hfits := h.context fun hwaited => hnot (hwaits _ hwaited)
      rw [← hsame] at hfits
      exact hfits
  · intro tag htag
    rcases hdefault with hnone | ⟨hplugin, hsame⟩
    · exact absurd (htag.symm.trans hnone) (Option.some_ne_none _)
    · rcases h.default tag (hsame.symm.trans htag) with ⟨plugin, hinstalled, hdefault⟩
      exact ⟨plugin, hplugin.trans hinstalled, hdefault⟩

theorem apply [DecidableEq P] (h : e.Fits answers due) (now : Time) (command : Command P) :
    (e.apply now command).Fits answers due := by
  cases command with
  | select node =>
    have hselected := h.reschedule (e.scheduler.invalidateAll Input.selection.dependents now)
      (fun key _ hwaited => hwaited.invalidateAll _ now) fun job hjob => Or.inl hjob
    exact ⟨hselected.context, hselected.walked, hselected.default, hselected.gone,
      hselected.parsed, hselected.evaluator, hselected.silent, hselected.answered⟩
  | settle waiter =>
    exact ⟨h.context, h.walked, h.default, h.gone, h.parsed, h.evaluator, h.silent, h.answered⟩
  | setExpression text =>
    rw [Engine.apply, replaceInput]
    split
    · exact h
    · exact h.inputChanged now _ (by decide) (Or.inr rfl) (Or.inr ⟨rfl, rfl⟩)
  | setContextText text =>
    rw [Engine.apply, replaceInput]
    split
    · exact h
    · exact h.inputChanged now _ (by decide) (Or.inl rfl) (Or.inr ⟨rfl, rfl⟩)
  | setGrammarTag tag =>
    rw [Engine.apply, replaceInput]
    split
    · exact h
    · exact h.inputChanged now _ (by decide) (Or.inr rfl) (Or.inr ⟨rfl, rfl⟩)
  | setPlugin plugin =>
    rw [Engine.apply, replaceInput]
    split
    · exact h
    · exact h.inputChanged now _ (by decide) (Or.inr rfl) (Or.inl rfl)

/-! ### Turns in a pass -/

/-- A turn for an old generation, or one of the mark, is over without a trace. -/
theorem tail {key : Derived} {generation : Nat} (h : e.Fits answers ((key, generation) :: due))
    (hpassed : key ≠ .selectionMark → e.scheduler.isCurrent key generation = false) :
    e.Fits answers due := by
  refine h.reschedule e.scheduler ?_ fun job hjob => Or.inl hjob
  intro other hother hwaited
  refine hwaited.tail ?_
  rintro rfl
  exact hpassed hother

/-- A value waits for the job that is started when its turn has come. -/
theorem startJob {job : Job P} (h : e.Fits answers (job.ticket :: due))
    (heval : job.work.key = .output → ∀ plugin, e.inputs.plugin = some plugin →
      ∃ source context serial, job.work = .eval plugin source context serial) :
    (e.startJob job).Fits answers due := by
  unfold Engine.startJob
  split
  · next hcurrent =>
    have hwaits : ∀ key, key ≠ .selectionMark → e.scheduler.Waits (job.ticket :: due) key →
        (e.scheduler.track job.work.key job.generation job).Waits due key := by
      intro key _ hwaited
      by_cases hsame : key = job.work.key
      · rw [hsame]
        exact e.scheduler.waits_track due hcurrent job
      · exact (hwaited.tail fun heq => absurd heq.symm hsame).track _ _ _
    have htracked := h.reschedule _ hwaits fun other hother => by
      rw [e.scheduler.slot_track job.work.key .output job.generation job hcurrent] at hother
      split at hother
      · next hkey =>
        obtain rfl := Option.some.inj hother
        exact Or.inr (heval hkey.symm)
      · exact Or.inl hother
    exact ⟨htracked.context, htracked.walked, htracked.default, htracked.gone, htracked.parsed,
      htracked.evaluator, htracked.silent, htracked.answered⟩
  · next hpassed => exact tail h fun _ => Bool.eq_false_iff.mpr hpassed

theorem contextRead {generation : Nat} (h : e.Fits answers ((.context, generation) :: due))
    (now : Time) :
    (({ e with state := { e.state with
        context := (contextOf (parseContext e.inputs.contextText)).1
        contextError := (contextOf (parseContext e.inputs.contextText)).2 } } :
      Engine P).publish.invalidate now Derived.context.dependents).Fits answers due := by
  have houtput : (e.scheduler.invalidateAll Derived.context.dependents now).Waits due .output :=
    Scheduler.waits_invalidateAll _ due (by decide) now
  have htree : ¬ (e.scheduler.invalidateAll Derived.context.dependents now).Waits due .tree →
      ¬ e.scheduler.Waits ((.context, generation) :: due) .tree :=
    fun hnot hwaited => hnot ((hwaited.tail fun heq => by cases heq).invalidateAll _ now)
  exact ⟨fun _ => rfl, h.walked, h.default, fun hnot => h.gone (htree hnot),
    fun hnot => h.parsed (htree hnot), fun _ _ _ _ job hjob => (by cases hjob),
    fun hnot => absurd houtput hnot, fun hnot => absurd houtput hnot⟩

theorem treeGone {generation : Nat} (h : e.Fits answers ((.tree, generation) :: due))
    (hnone : e.inputs.plugin = none) (now : Time) :
    (e.clearTree.publish.invalidate now Derived.tree.dependents).Fits answers due := by
  have houtput : (e.scheduler.invalidateAll Derived.tree.dependents now).Waits due .output :=
    Scheduler.waits_invalidateAll _ due (by decide) now
  have hcontext : ¬ (e.scheduler.invalidateAll Derived.tree.dependents now).Waits due .context →
      ¬ e.scheduler.Waits ((.tree, generation) :: due) .context :=
    fun hnot hwaited => hnot ((hwaited.tail fun heq => by cases heq).invalidateAll _ now)
  exact ⟨fun hnot => h.context (hcontext hnot), rfl, h.default, fun _ _ => rfl,
    fun _ _ _ hparses => absurd hparses (not_parsesTo hnone),
    fun _ _ _ _ job hjob => (by cases hjob), fun hnot => absurd houtput hnot,
    fun hnot => absurd houtput hnot⟩

theorem treeless {generation : Nat} (h : e.Fits answers ((.tree, generation) :: due))
    (hnone : e.inputs.plugin = none) (htree : e.state.treeRoot = none) : e.Fits answers due := by
  have hkept : ∀ key, key ≠ .tree → ¬ e.scheduler.Waits due key →
      ¬ e.scheduler.Waits ((.tree, generation) :: due) key :=
    fun key hkey hnot hwaited => hnot (hwaited.tail fun heq => absurd heq.symm hkey)
  exact ⟨fun hnot => h.context (hkept _ (by decide) hnot), h.walked, h.default, fun _ _ => htree,
    fun _ _ _ hparses => absurd hparses (not_parsesTo hnone),
    fun _ _ _ hparses => absurd hparses (not_parsesTo hnone),
    fun hnot => h.silent (hkept _ (by decide) hnot),
    fun _ _ _ _ _ hparses => absurd hparses (not_parsesTo hnone)⟩

/-- When there is nothing to evaluate there is to be no output. -/
theorem outputGone {generation : Nat} (h : e.Fits answers ((.output, generation) :: due))
    (hnothing : e.evalWork? = none) :
    ({ e with state := { e.state with output := none, evalError := none } } : Engine P).publish.Fits
      answers due := by
  have hkept : ∀ key, key ≠ .output → ¬ e.scheduler.Waits due key →
      ¬ e.scheduler.Waits ((.output, generation) :: due) key :=
    fun key hkey hnot hwaited => hnot (hwaited.tail fun heq => absurd heq.symm hkey)
  have htree : ¬ e.scheduler.Waits due .tree →
      ¬ e.scheduler.Waits ((.output, generation) :: due) .tree := hkept _ (by decide)
  refine ⟨fun hnot => h.context (hkept _ (by decide) hnot), h.walked, h.default,
    fun hnot => h.gone (htree hnot), fun hnot => h.parsed (htree hnot),
    fun hnot => h.evaluator (htree hnot), fun _ _ => rfl, ?_⟩
  -- with a tree of the installed plugin and a context there would be something to evaluate
  intro _ hnot plugin tree context hparses hcontext herror
  rcases h.parsed (htree hnot) plugin tree hparses with ⟨hshown, hsource⟩
  have hsome := (e.evalWork?_eq_some_iff _).mpr
    ⟨plugin, tree, _, context, hparses.1, hshown, hsource, hcontext, herror, rfl⟩
  exact absurd (hsome.symm.trans hnothing) (Option.some_ne_none _)

theorem outputless {generation : Nat} (h : e.Fits answers ((.output, generation) :: due))
    (hnothing : e.evalWork? = none) (hanswer : e.answer = (none, none)) : e.Fits answers due := by
  have hgone := h.outputGone hnothing
  refine ⟨hgone.context, hgone.walked, hgone.default, hgone.gone, hgone.parsed, hgone.evaluator,
    fun _ _ => hanswer, ?_⟩
  intro hnot hthere plugin tree context hparses hcontext herror
  rw [hanswer]
  exact hgone.answered hnot hthere plugin tree context hparses hcontext herror

theorem recompute {key : Derived} {generation : Nat}
    (h : e.Fits answers ((key, generation) :: due)) (now : Time) :
    (e.recompute now key generation).Fits answers due := by
  have hrecomputes := e.recomputes now key generation
  generalize e.recompute now key generation = e' at hrecomputes
  cases hrecomputes with
  | contextRead => exact h.contextRead now
  | parseStarted plugin _ => exact startJob h fun hkey => by cases hkey
  | treeGone hnone _ => exact h.treeGone hnone now
  | treeless hnone htree => exact h.treeless hnone htree
  | evalStarted plugin tree source context hinstalled =>
    refine startJob h fun _ other hother => ?_
    obtain rfl := Option.some.inj (hother.symm.trans hinstalled)
    exact ⟨source, context, e.treeSerial, rfl⟩
  | outputGone hnothing => exact h.outputGone hnothing
  | outputless hnothing houtput herror => exact h.outputless hnothing (Prod.ext houtput herror)
  | marked =>
    have htail := h.tail fun hmark => absurd rfl hmark
    exact ⟨htail.context, htail.walked, htail.default, htail.gone, htail.parsed,
      htail.evaluator, htail.silent, htail.answered⟩
  | unmarked => exact h.tail fun hmark => absurd rfl hmark

/-! ### Results -/

/-- A parse starts with the tag that the inputs say, whether its default is known already or not. -/
theorem startTag_eq (h : e.Fits answers due) {plugin : P}
    (hinstalled : e.inputs.plugin = some plugin) :
    (e.inputs.grammarTag.or e.inputs.defaultRootTag).getD (answers.defaultTag plugin) =
      e.rootTag answers plugin := by
  rw [rootTag]
  cases htag : e.inputs.grammarTag with
  | some tag => rfl
  | none =>
    cases hdefault : e.inputs.defaultRootTag with
    | none => rfl
    | some tag =>
      rcases h.default tag hdefault with ⟨other, hother, rfl⟩
      obtain rfl := Option.some.inj (hother.symm.trans hinstalled)
      rfl

/-- What a parse by the installed plugin brings back is what the inputs parse to. -/
theorem parse_eq (h : e.Fits answers due) {plugin : P} {source : TreeSource}
    {result : Except Failure Node} (hinstalled : e.inputs.plugin = some plugin)
    (hbrought : .tree plugin source result = answers.outcome (e.parseWork plugin)) :
    source = ⟨e.inputs.expression, e.rootTag answers plugin⟩ ∧
      result = answers.parse plugin (e.rootTag answers plugin) e.inputs.expression := by
  rw [parseWork, Answers.outcome, h.startTag_eq hinstalled] at hbrought
  injection hbrought with _ hsource hresult
  exact ⟨hsource, hresult⟩

/-- The default tag of the installed plugin is what a parse without a tag has started with. -/
theorem learnt (h : e.Fits answers due) {plugin : P} (hinstalled : e.inputs.plugin = some plugin)
    (tag : String) (hlearnt : (if e.inputs.grammarTag = none then some (e.rootTag answers plugin)
      else e.inputs.defaultRootTag) = some tag) :
    ∃ plugin, e.inputs.plugin = some plugin ∧ tag = answers.defaultTag plugin := by
  split at hlearnt
  · next hnone =>
    rw [rootTag, hnone, Option.getD_none] at hlearnt
    exact ⟨plugin, hinstalled, (Option.some.inj hlearnt).symm⟩
  · exact h.default tag hlearnt

/-- A failed parse leaves the old tree, which does not have to fit. -/
theorem parseFailed (h : e.Fits answers []) {plugin : P} {failure : Failure}
    (hinstalled : e.inputs.plugin = some plugin)
    (hfails : answers.parse plugin (e.rootTag answers plugin) e.inputs.expression = .error failure)
    (generation : Nat) (effect : Effect P) :
    ((({ e with scheduler := e.scheduler.finish .tree generation } : Engine P).learnDefaultTag
      (e.rootTag answers plugin)).emit effect).Fits answers [] := by
  have hnever : ∀ plugin tree, ¬ e.ParsesTo answers plugin tree := by
    rintro other tree ⟨hother, hparses⟩
    obtain rfl := Option.some.inj (hother.symm.trans hinstalled)
    exact absurd (hparses.symm.trans hfails) (by simp)
  rw [learnDefaultTag_eq]
  exact ⟨fun hnot => h.context fun hwaited => hnot (hwaited.finish generation (by decide)),
    h.walked, h.learnt hinstalled,
    fun _ hnone => absurd (hinstalled.symm.trans hnone) (Option.some_ne_none _),
    fun _ plugin tree hparses => absurd hparses (hnever plugin tree),
    fun _ plugin tree hparses => absurd hparses (hnever plugin tree),
    fun hnot => h.silent fun hwaited => hnot (hwaited.finish generation (by decide)),
    fun _ _ plugin tree _ hparses => absurd hparses (hnever plugin tree)⟩

/-- A new tree fits, and its output is still to be computed. -/
theorem treeShown (h : e.Fits answers []) {plugin : P} {tree : Node}
    (hparses : e.ParsesTo answers plugin tree) (now : Time) (generation : Nat) :
    ((({ e with scheduler := e.scheduler.finish .tree generation } : Engine P).afterParse
      ⟨e.inputs.expression, e.rootTag answers plugin⟩ tree).publish.invalidate now
        Derived.tree.dependents).Fits answers [] := by
  rcases afterParse_eq ({ e with scheduler := e.scheduler.finish .tree generation } : Engine P)
    ⟨e.inputs.expression, e.rootTag answers plugin⟩ tree with ⟨shown, hafter⟩
  have htag : (if e.inputs.grammarTag = none ∧ e.rootTag answers plugin ≠ "" then
      some (e.rootTag answers plugin) else e.inputs.grammarTag).getD (answers.defaultTag plugin) =
        e.rootTag answers plugin := by
    split <;> rfl
  have houtput : ((e.scheduler.finish .tree generation).invalidateAll Derived.tree.dependents
      now).Waits [] .output := Scheduler.waits_invalidateAll _ [] (by decide) now
  rw [hafter]
  refine ⟨?_, rfl, h.learnt hparses.1, ?_, ?_, ?_, fun hnot => absurd houtput hnot,
    fun hnot => absurd houtput hnot⟩
  · intro hnot
    exact h.context fun hwaited =>
      hnot ((hwaited.finish generation (by decide)).invalidateAll Derived.tree.dependents now)
  · intro _ hnone
    exact absurd (hparses.1.symm.trans hnone) (Option.some_ne_none _)
  · rintro _ other shown ⟨hother, hshown⟩
    obtain rfl := Option.some.inj (hother.symm.trans hparses.1)
    have hsame := (congrArg (answers.parse other · e.inputs.expression) htag).symm.trans hshown
    obtain rfl := Except.ok.inj (hparses.2.symm.trans hsame)
    have hsource := congrArg (fun tag => some (TreeSource.mk e.inputs.expression tag)) htag.symm
    exact ⟨rfl, hsource⟩
  · intro _ _ _ _ job hjob
    cases hjob

/-- The output of what the inputs parse to fits. -/
theorem outputShown (h : e.Fits answers []) {job : Job P} {plugin : P} {tree : Node}
    {source : TreeSource} {context : Value} (htree : e.state.treeRoot = some tree)
    (hsource : e.source = some source) (hcontext : e.state.context = some context)
    (herror : e.state.outputError = none) (hjob : (e.scheduler.slot .output).job = some job)
    (hwork : job.work = .eval plugin source context e.treeSerial) (generation : Nat)
    (hcurrent : e.scheduler.isCurrent .output generation = true) :
    (({ e with
          scheduler := e.scheduler.finish .output generation
          state := { e.state with
            output := (answerOf
              (answers.eval plugin source.rootTag source.expression context)).1
            evalError := (answerOf
              (answers.eval plugin source.rootTag source.expression context)).2 } } :
        Engine P).publish).Fits answers [] := by
  have hnot : ¬ (e.scheduler.finish .output generation).Waits [] .tree →
      ¬ e.scheduler.Waits [] .tree :=
    fun hnot hwaited => hnot (hwaited.finish generation (by decide))
  refine ⟨fun hnot => h.context fun hwaited => hnot (hwaited.finish generation (by decide)),
    h.walked, h.default, fun hthere => h.gone (hnot hthere),
    fun hthere => h.parsed (hnot hthere), ?_, ?_, ?_⟩
  · intro _ _ _ _ other hother
    have hother : ((e.scheduler.finish .output generation).slot .output).job = some other := hother
    rw [e.scheduler.slot_finish .output .output generation hcurrent, if_pos rfl] at hother
    cases hother
  · rintro _ (hnone | hnone | hsome)
    · exact absurd (htree.symm.trans hnone) (Option.some_ne_none _)
    · exact absurd (hcontext.symm.trans hnone) (Option.some_ne_none _)
    · exact absurd herror hsome
  · intro _ hthere other shown given hparses hgiven _
    obtain rfl := Option.some.inj (hcontext.symm.trans hgiven)
    rcases h.evaluator (hnot hthere) other shown hparses job hjob with ⟨_, _, _, heval⟩
    rw [hwork] at heval
    cases heval
    obtain rfl := Option.some.inj
      (hsource.symm.trans (h.parsed (hnot hthere) plugin shown hparses).2)
    rfl

end Fits

end Engine

/-! ## At rest -/

section Run

variable [DecidableEq P] {brings : Work P → Outcome P → Prop} {answers : Answers P}
  {debounce start : Time} {ms : List (Moment P)} {w : World P}

/-- Between any two events whatever is not still to be computed fits the inputs. -/
theorem Run.fits (hbrings : ∀ work outcome, brings work outcome → outcome = answers.outcome work)
    (hrun : Run brings (.start debounce start) ms w) : w.engine.Fits answers [] := by
  have hof : ∀ work outcome, brings work outcome → Outcome.Of work outcome := by
    intro work outcome hbrought
    rw [hbrings work outcome hbrought]
    exact answers.outcome_of work
  induction hrun with
  | refl => exact Engine.Fits.start answers debounce start
  | @snoc ms v u now event hrun hoccurs ih =>
    rcases hoccurs.engine_eq_handle with ⟨_, _, _, _, hengine⟩
    have hdone : (v.engine.handle now event).Fits answers [] → u.engine.Fits answers [] := by
      rw [hengine]
      exact fun h => ⟨h.context, h.walked, h.default, h.gone, h.parsed, h.evaluator, h.silent,
        h.answered⟩
    apply hdone
    cases event with
    | command command => exact ih.apply now command
    | fire =>
      exact Engine.fire_induction (Engine.Fits answers) (ih.takeDue now)
        fun _ _ _ _ h => h.recompute now
    | complete c =>
      have htakes := hrun.takes hof hoccurs
      rw [Engine.handle]
      generalize v.engine.commit now c = e at htakes
      cases htakes with
      | passed _ _ => exact ih
      | parsed generation plugin source tree _ hinstalled hbrought =>
        rcases ih.parse_eq hinstalled (hbrings _ _ hbrought) with ⟨rfl, hparse⟩
        exact ih.treeShown ⟨hinstalled, hparse.symm⟩ now generation
      | failed generation plugin source failure _ hinstalled hbrought =>
        rcases ih.parse_eq hinstalled (hbrings _ _ hbrought) with ⟨rfl, hparse⟩
        exact ih.parseFailed hinstalled hparse.symm generation _
      | evaluated generation job plugin tree source context result hcurrent htree hsource hcontext
          herror hjob hwork hbrought =>
        have hresult := hbrings _ _ hbrought
        rw [hwork, Answers.outcome] at hresult
        cases hresult
        exact ih.outputShown htree hsource hcontext herror hjob hwork generation hcurrent

/-- When nothing is left to compute, the evaluation of a tree without errors in the context is
shown.  If there is no context, or some node of the tree carries an error, none is shown. -/
theorem Run.answer_of_isIdle (answers : Answers P)
    (hbrings : ∀ work outcome, brings work outcome → outcome = answers.outcome work)
    (hrun : Run brings (.start debounce start) ms w)
    (hidle : w.engine.scheduler.isIdle = true) {plugin : P} {tree : Node}
    (hparses : w.engine.ParsesTo answers plugin tree) :
    (∀ context, parseContext w.engine.inputs.contextText = .ok context →
      (∀ n : Node, n.Within tree → n.error = none) →
      w.engine.answer = answerOf (answers.eval plugin (w.engine.rootTag answers plugin)
        w.engine.inputs.expression context)) ∧
    ((∃ message, parseContext w.engine.inputs.contextText = .error message) ∨
      (∃ n : Node, n.Within tree ∧ n.error ≠ none) → w.engine.answer = (none, none)) := by
  have hnot := fun key => Scheduler.not_waits_of_isIdle hidle key
  have hfits := hrun.fits hbrings
  have hcontext := hfits.context (hnot .context)
  have herror : w.engine.state.outputError = none ↔ ∀ n : Node, n.Within tree → n.error = none := by
    have hwalked := hfits.walked
    rw [(hfits.parsed (hnot .tree) plugin tree hparses).1, walkOf, Prod.mk.injEq,
      Prod.mk.injEq] at hwalked
    rw [hwalked.2.2, walk_firstError_eq_none_iff]
  constructor
  · intro context hread hclean
    rw [hread, contextOf, Prod.mk.injEq] at hcontext
    exact hfits.answered (hnot .output) (hnot .tree) plugin tree context hparses hcontext.1
      (herror.2 hclean)
  · rintro (⟨message, hread⟩ | ⟨n, hn, hcarries⟩)
    · rw [hread, contextOf, Prod.mk.injEq] at hcontext
      exact hfits.silent (hnot .output) (.inr (.inl hcontext.1))
    · exact hfits.silent (hnot .output) (.inr (.inr fun hnone => hcarries (herror.1 hnone n hn)))

/-- What plugins answer may depend on nothing but what they are asked.  Then, when nothing is left
to compute, the context is what its text says; without a plugin nothing else is shown; and with a
plugin that parses the expression all that is shown is its tree, what one walk over the tree
collects, and its evaluation of the tree in the context, if there are a tree without errors and a
context. -/
theorem Run.batch_of_isIdle (answers : Answers P)
    (hbrings : ∀ work outcome, brings work outcome → outcome = answers.outcome work)
    (hrun : Run brings (.start debounce start) ms w)
    (hidle : w.engine.scheduler.isIdle = true) :
    (w.engine.state.context, w.engine.state.contextError) =
      contextOf (parseContext w.engine.inputs.contextText) ∧
    (w.engine.inputs.plugin = none →
      w.engine.state.treeRoot = none ∧ w.engine.state.tokens = [] ∧ w.engine.state.marks = [] ∧
        w.engine.state.outputError = none ∧ w.engine.state.output = none ∧
        w.engine.state.evalError = none) ∧
    (∀ plugin tag tree, w.engine.inputs.plugin = some plugin →
      tag = w.engine.inputs.grammarTag.getD (answers.defaultTag plugin) →
      answers.parse plugin tag w.engine.inputs.expression = .ok tree →
      w.engine.state.treeRoot = some tree ∧ w.engine.state.tokens = (walk tree).tokens ∧
        w.engine.state.marks = (walk tree).marks ∧
        w.engine.state.outputError = (walk tree).firstError ∧
        (w.engine.state.output, w.engine.state.evalError) =
          match parseContext w.engine.inputs.contextText, (walk tree).firstError with
          | .ok context, none =>
            answerOf (answers.eval plugin tag w.engine.inputs.expression context)
          | _, _ => (none, none)) := by
  have hnot := fun key => Scheduler.not_waits_of_isIdle hidle key
  have hfits := hrun.fits hbrings
  have hcontext := hfits.context (hnot .context)
  refine ⟨hcontext, ?_, ?_⟩
  · intro hnone
    have htree := hfits.gone (hnot .tree) hnone
    have hwalked := hfits.walked
    rw [htree, walkOf, Prod.mk.injEq, Prod.mk.injEq] at hwalked
    have hsilent := hfits.silent (hnot .output) (Or.inl htree)
    exact ⟨htree, hwalked.1, hwalked.2.1, hwalked.2.2, congrArg Prod.fst hsilent,
      congrArg Prod.snd hsilent⟩
  · rintro plugin tag tree hinstalled rfl hparse
    have hparses : w.engine.ParsesTo answers plugin tree := ⟨hinstalled, hparse⟩
    have htree := (hfits.parsed (hnot .tree) plugin tree hparses).1
    have hwalked := hfits.walked
    rw [htree, walkOf, Prod.mk.injEq, Prod.mk.injEq] at hwalked
    refine ⟨htree, hwalked.1, hwalked.2.1, hwalked.2.2, ?_⟩
    obtain ⟨hanswered, hsilent⟩ := hrun.answer_of_isIdle answers hbrings hidle hparses
    have hclean := walk_firstError_eq_none_iff tree
    cases hread : parseContext w.engine.inputs.contextText with
    | error message => exact hsilent (.inl ⟨message, hread⟩)
    | ok context =>
      cases herror : (walk tree).firstError with
      | none => exact hanswered context hread (hclean.1 herror)
      | some message =>
        refine hsilent (.inr ?_)
        by_contra hnone
        push Not at hnone
        rw [hclean.2 hnone] at herror
        cases herror

end Run

/-- An expression is replaced while its parse is under way.  At rest the tree and the output are
those of the second expression. -/
theorem Run.batch_of_replaced :
    ∃ (ms : List (Moment Bool)) (w : World Bool),
      Run (fun work outcome => outcome = ((work.run Sample.plugin).runWith Sample.answer).1)
        (.start 300 0) ms w ∧
      w.engine.scheduler.isIdle = true ∧ w.engine.inputs.expression = "1" ∧
      w.engine.state.treeRoot = some Sample.leaf ∧
      w.engine.answer = (some (Sample.verdict true), none) := by
  obtain ⟨ms, w, hrun, hidle, hplugin, hexpression, hcontext, htag⟩ : ∃ ms w,
      Run (fun work outcome => outcome = ((work.run Sample.plugin).runWith Sample.answer).1)
        (.start 300 0) ms w ∧
      w.engine.scheduler.isIdle = true ∧ w.engine.inputs.plugin = some true ∧
      w.engine.inputs.expression = "1" ∧ w.engine.inputs.contextText = "" ∧
      w.engine.inputs.grammarTag = some "R" := by
    exact ⟨_, _, ((((((((Run.refl.command 0 (.setExpression "0")).command 10
      (.setPlugin (some true))).fire 400).command 410 (.setExpression "1")).arrive 420 0
      ⟨2, .parse true "0" none⟩ _ (by cbv) rfl).fire 800).arrive 810 0
      ⟨3, .parse true "1" none⟩ _ (by cbv) rfl).fire 1200).arrive 1210 0
      ⟨2, .eval true ⟨"1", "R"⟩ (.object []) 1⟩ _ (by cbv) rfl,
      by decide +kernel, by decide +kernel, by decide +kernel, by decide +kernel,
      by decide +kernel⟩
  have hparse : (Answers.ofKnow Sample.plugin Sample.answer).parse true "R"
      w.engine.inputs.expression = .ok Sample.leaf := rfl
  have hread : parseContext w.engine.inputs.contextText = .ok (.object []) := by
    rw [hcontext]
    cbv
  have hclean : (walk Sample.leaf).firstError = none := by cbv
  rcases hrun.batch_of_isIdle (Answers.ofKnow Sample.plugin Sample.answer)
    (fun work outcome hknown =>
      hknown.trans (Answers.outcome_ofKnow Sample.plugin Sample.answer work))
    hidle with ⟨_, _, hbatch⟩
  rcases hbatch true "R" Sample.leaf hplugin (by rw [htag]; rfl) hparse with
    ⟨htree, _, _, _, hanswer⟩
  rw [hread, hclean] at hanswer
  exact ⟨ms, w, hrun, hidle, hexpression, htree, hanswer⟩

end GrammarDesk.Inspector
