import GrammarDesk.Proofs.Inspector.Run
import GrammarDesk.Proofs.Inspector.Slots

/-!
# What the parts of an event touch

Each part of an event comes to one of a few things, and each of these touches the scheduler in one
place at most.  Speaking to the outside starts no job.

Main definitions:

- `Command.changed?`: the input that a command changes.
- `Engine.answer`: the output that is shown, and why there is none.
- `Engine.Recomputes`: what can become of an engine when the turn of a value has come.
- `Engine.Receives`: what can become of an engine when an outcome is taken.
- `Engine.stage`: one value's turn in a pass.

Main results:

- `Engine.scheduler_apply`: a command invalidates what depends on the input that it changes.
- `Engine.recomputes`: what it can come to that a value is computed anew.
- `Engine.receives`: what it can come to that an outcome is taken.
- `Engine.started_startJob`: a job is started exactly when its generation is the current one.
- `Engine.fire_eq`: a pass computes the values that were due in their order.
-/

namespace GrammarDesk.Inspector

open Json GrammarDesk.Tree

variable {P : Type}

/-- The input that a command changes, if any; a selection counts as a change in any case. -/
def Command.changed? [DecidableEq P] (inputs : Inputs P) : Command P → Option Input
  | .setExpression text => if inputs.expression = text then none else some .expression
  | .setContextText text => if inputs.contextText = text then none else some .contextText
  | .setGrammarTag tag => if inputs.grammarTag = tag then none else some .grammarTag
  | .setPlugin plugin => if inputs.plugin = plugin then none else some .plugin
  | .select _ => some .selection
  | .settle _ => none

/-- What a command makes out of date. -/
def Command.outdates [DecidableEq P] (inputs : Inputs P) (c : Command P) : List Derived :=
  ((c.changed? inputs).map Input.dependents).getD []

/-- What is shown of a context that was read: the context, and why there is none. -/
def contextOf : Except String Value → Option Value × Option String
  | .ok context => (some context, none)
  | .error message => (none, some message)

/-- What is shown of the result of an evaluation: the output, and why there is none. -/
def answerOf : Except Failure (Option Value) → Option Value × Option String
  | .ok output => (output, none)
  | .error failure => (none, some failure.message)

namespace Engine

/-- The output that is shown, and why there is none. -/
def answer (e : Engine P) : Option Value × Option String := (e.state.output, e.state.evalError)

/-! ## Effects -/

@[simp]
theorem started_publish (e : Engine P) : e.publish.started = e.started := by
  simp [started, publish, emit, jobsOf]

@[simp]
theorem started_notify (e : Engine P) (notification : Notification) :
    (e.emit (.notify notification)).started = e.started := by
  simp [started, emit, jobsOf]

/-- A job is started exactly when its generation is the current one. -/
theorem started_startJob (e : Engine P) (job : Job P) :
    (e.startJob job).started =
      if e.scheduler.isCurrent job.work.key job.generation then e.started ++ [job]
      else e.started := by
  unfold startJob
  split
  · simp [started, emit, jobsOf]
  · rfl

theorem scheduler_startJob (e : Engine P) (job : Job P) :
    (e.startJob job).scheduler = e.scheduler.track job.work.key job.generation job := by
  unfold startJob
  split
  · rfl
  · next hpassed => rw [Scheduler.track, if_neg hpassed]

/-! ## Commands -/

/-- A command invalidates what depends on the input that it changes. -/
theorem scheduler_apply [DecidableEq P] (e : Engine P) (now : Time) (command : Command P) :
    (e.apply now command).scheduler =
      match command.changed? e.inputs with
      | some input => e.scheduler.invalidateAll input.dependents now
      | none => e.scheduler := by
  cases command with
  | select node => rfl
  | settle waiter => rfl
  | _ =>
    simp only [apply, replaceInput, Command.changed?, decide_eq_true_eq]
    split <;> rfl

theorem scheduler_apply_eq_outdates [DecidableEq P] (e : Engine P) (now : Time)
    (command : Command P) :
    (e.apply now command).scheduler =
      e.scheduler.invalidateAll (command.outdates e.inputs) now := by
  rw [scheduler_apply, Command.outdates]
  cases command.changed? e.inputs <;> rfl

@[simp]
theorem started_apply [DecidableEq P] (e : Engine P) (now : Time) (command : Command P) :
    (e.apply now command).started = e.started := by
  cases command with
  | select node => exact started_publish _
  | settle waiter => rfl
  | _ =>
    simp only [apply, replaceInput]
    split <;> rfl

/-- A default tag is kept with the plugin, and forgotten when that changes. -/
theorem default_apply [DecidableEq P] (e : Engine P) (now : Time) (command : Command P) :
    ((e.apply now command).inputs.plugin = e.inputs.plugin ∧
      (e.apply now command).inputs.defaultRootTag = e.inputs.defaultRootTag) ∨
    (command.changed? e.inputs = some .plugin ∧
      (e.apply now command).inputs.plugin ≠ e.inputs.plugin ∧
      (e.apply now command).inputs.defaultRootTag = none) := by
  cases command with
  | select node => exact Or.inl ⟨rfl, rfl⟩
  | settle waiter => exact Or.inl ⟨rfl, rfl⟩
  | setPlugin plugin =>
    simp only [apply, replaceInput, decide_eq_true_eq]
    split
    · exact Or.inl ⟨rfl, rfl⟩
    · next hother => exact Or.inr ⟨if_neg hother, Ne.symm hother, rfl⟩
  | _ =>
    rw [apply, replaceInput]
    split <;> exact Or.inl ⟨rfl, rfl⟩

/-! ## Values computed anew -/

/-- The context is read from its text, and the output waits to be computed anew. -/
theorem recomputeContext_eq (e : Engine P) (now : Time) :
    e.recomputeContext now =
      ({ e with state := { e.state with
          context := (contextOf (parseContext e.inputs.contextText)).1
          contextError := (contextOf (parseContext e.inputs.contextText)).2 } } :
        Engine P).publish.invalidate now Derived.context.dependents := by
  unfold recomputeContext
  cases parseContext e.inputs.contextText <;> rfl

/-- With a plugin a parse is started; without one there is no tree, and one that is shown goes. -/
theorem startParse_cases (e : Engine P) (now : Time) (generation : Nat) :
    (∃ plugin, e.inputs.plugin = some plugin ∧
      e.startParse now generation = e.startJob ⟨generation, e.parseWork plugin⟩) ∨
    (e.inputs.plugin = none ∧ e.state.treeRoot ≠ none ∧
      e.startParse now generation = e.clearTree.publish.invalidate now Derived.tree.dependents) ∨
    (e.inputs.plugin = none ∧ e.state.treeRoot = none ∧ e.startParse now generation = e) := by
  unfold startParse
  split
  · next plugin hplugin => exact Or.inl ⟨plugin, hplugin, rfl⟩
  · next hplugin =>
    split
    · next htree =>
      have hsome : e.state.treeRoot ≠ none := by simpa [Option.isSome_iff_ne_none] using htree
      exact Or.inr (Or.inl ⟨hplugin, hsome, rfl⟩)
    · next htree => exact Or.inr (Or.inr ⟨hplugin, by simpa using htree, rfl⟩)

/-- Either there is something to evaluate, or there is no output afterwards. -/
theorem startEval_cases (e : Engine P) (generation : Nat) :
    (∃ work, e.evalWork? = some work ∧ e.startEval generation = e.startJob ⟨generation, work⟩) ∨
    (e.evalWork? = none ∧ e.startEval generation = e.clearOutput) := by
  unfold startEval
  split
  · next work hwork => exact Or.inl ⟨work, hwork, rfl⟩
  · next hwork => exact Or.inr ⟨hwork, rfl⟩

/-- There is something to evaluate exactly when there are a plugin, a tree without errors, its
source and a context. -/
theorem evalWork?_eq_some_iff (e : Engine P) (work : Work P) :
    e.evalWork? = some work ↔
      ∃ plugin tree source context, e.inputs.plugin = some plugin ∧
        e.state.treeRoot = some tree ∧ e.source = some source ∧ e.state.context = some context ∧
        e.state.outputError = none ∧ work = .eval plugin source context e.treeSerial := by
  unfold evalWork?
  split
  · next plugin tree source context hplugin htree hsource hcontext herror =>
    simp [hplugin, htree, hsource, hcontext, herror, eq_comm]
  · next hnot =>
    constructor
    · intro h
      cases h
    · rintro ⟨plugin, tree, source, context, hplugin, htree, hsource, hcontext, herror, rfl⟩
      exact absurd herror (hnot plugin tree source context hplugin htree hsource hcontext)

/-- The output is gone, and nothing else has happened to the engine that a job could notice. -/
theorem clearOutput_cases (e : Engine P) :
    (e.state.output = none ∧ e.state.evalError = none ∧ e.clearOutput = e) ∨
      e.clearOutput =
        { e with state := { e.state with output := none, evalError := none } }.publish := by
  unfold clearOutput
  split
  · exact Or.inr rfl
  · next h =>
    rw [Bool.or_eq_true, not_or, Option.not_isSome_iff_eq_none, Option.not_isSome_iff_eq_none] at h
    exact Or.inl ⟨h.1, h.2, rfl⟩

/-- The mark is drawn unless it is that of the selection already. -/
theorem recomputeMark_cases (e : Engine P) :
    (e.inputs.selection.map Mark.selection = e.state.selectionMark ∧ e.recomputeMark = e) ∨
      e.recomputeMark =
        { e with state := { e.state with
            selectionMark := e.inputs.selection.map Mark.selection } }.publish := by
  by_cases hsame : e.inputs.selection.map Mark.selection = e.state.selectionMark
  · exact Or.inl ⟨hsame, if_pos hsame⟩
  · exact Or.inr (if_neg hsame)

/-- What it can come to that a value is computed anew. -/
inductive Recomputes (e : Engine P) (now : Time) (generation : Nat) :
    Derived → Engine P → Prop where
  | contextRead :
      Recomputes e now generation .context
        (({ e with state := { e.state with
            context := (contextOf (parseContext e.inputs.contextText)).1
            contextError := (contextOf (parseContext e.inputs.contextText)).2 } } :
          Engine P).publish.invalidate now Derived.context.dependents)
  | parseStarted (plugin : P) (hinstalled : e.inputs.plugin = some plugin) :
      Recomputes e now generation .tree (e.startJob ⟨generation, e.parseWork plugin⟩)
  | treeGone (hnone : e.inputs.plugin = none) (htree : e.state.treeRoot ≠ none) :
      Recomputes e now generation .tree
        (e.clearTree.publish.invalidate now Derived.tree.dependents)
  | treeless (hnone : e.inputs.plugin = none) (htree : e.state.treeRoot = none) :
      Recomputes e now generation .tree e
  | evalStarted (plugin : P) (tree : Node) (source : TreeSource) (context : Value)
      (hinstalled : e.inputs.plugin = some plugin) (htree : e.state.treeRoot = some tree)
      (hsource : e.source = some source) (hcontext : e.state.context = some context)
      (herror : e.state.outputError = none) :
      Recomputes e now generation .output
        (e.startJob ⟨generation, .eval plugin source context e.treeSerial⟩)
  | outputGone (hnothing : e.evalWork? = none) :
      Recomputes e now generation .output
        { e with state := { e.state with output := none, evalError := none } }.publish
  | outputless (hnothing : e.evalWork? = none) (houtput : e.state.output = none)
      (herror : e.state.evalError = none) : Recomputes e now generation .output e
  | marked :
      Recomputes e now generation .selectionMark
        { e with state := { e.state with
            selectionMark := e.inputs.selection.map Mark.selection } }.publish
  | unmarked (hsame : e.inputs.selection.map Mark.selection = e.state.selectionMark) :
      Recomputes e now generation .selectionMark e

theorem recomputes (e : Engine P) (now : Time) (key : Derived) (generation : Nat) :
    e.Recomputes now generation key (e.recompute now key generation) := by
  cases key with
  | context =>
    rw [recompute, recomputeContext_eq]
    exact .contextRead
  | tree =>
    rw [recompute]
    rcases e.startParse_cases now generation with
      ⟨plugin, hinstalled, heq⟩ | ⟨hnone, htree, heq⟩ | ⟨hnone, htree, heq⟩
    · rw [heq]
      exact .parseStarted plugin hinstalled
    · rw [heq]
      exact .treeGone hnone htree
    · rw [heq]
      exact .treeless hnone htree
  | output =>
    rw [recompute]
    rcases e.startEval_cases generation with ⟨work, hwork, heq⟩ | ⟨hnothing, heq⟩
    · rcases (e.evalWork?_eq_some_iff work).mp hwork with
        ⟨plugin, tree, source, context, hinstalled, htree, hsource, hcontext, herror, rfl⟩
      rw [heq]
      exact .evalStarted plugin tree source context hinstalled htree hsource hcontext herror
    · rw [heq]
      rcases e.clearOutput_cases with ⟨houtput, herror, hclear⟩ | hclear
      · rw [hclear]
        exact .outputless hnothing houtput herror
      · rw [hclear]
        exact .outputGone hnothing
  | selectionMark =>
    rw [recompute]
    rcases e.recomputeMark_cases with ⟨hsame, heq⟩ | heq
    · rw [heq]
      exact .unmarked hsame
    · rw [heq]
      exact .marked

/-- All that can be started is work of the installed plugin: a parse of the inputs in the turn of
the tree, and in the turn of the output an evaluation of what is there. -/
theorem started_recompute (e : Engine P) (now : Time) (key : Derived) (generation : Nat) :
    (e.recompute now key generation).started = e.started ∨
      ∃ work plugin, (e.recompute now key generation).started = e.started ++ [⟨generation, work⟩] ∧
        e.inputs.plugin = some plugin ∧ (key = .tree ∧ work = e.parseWork plugin ∨
          key = .output ∧ e.evalWork? = some work ∧
            ∃ source context, work = .eval plugin source context e.treeSerial) := by
  have hstart : ∀ job : Job P, (e.startJob job).started = e.started ∨
      (e.startJob job).started = e.started ++ [job] := by
    intro job
    rw [started_startJob]
    split
    · exact Or.inr rfl
    · exact Or.inl rfl
  have hrecomputes := e.recomputes now key generation
  generalize e.recompute now key generation = e' at hrecomputes
  cases hrecomputes with
  | contextRead | treeGone | outputGone | marked => exact Or.inl (started_publish _)
  | treeless | outputless | unmarked => exact Or.inl rfl
  | parseStarted plugin hinstalled =>
    exact (hstart _).imp id fun h => ⟨_, plugin, h, hinstalled, Or.inl ⟨rfl, rfl⟩⟩
  | evalStarted plugin tree source context hinstalled htree hsource hcontext herror =>
    have hwork := (e.evalWork?_eq_some_iff _).mpr
      ⟨plugin, tree, source, context, hinstalled, htree, hsource, hcontext, herror, rfl⟩
    exact (hstart _).imp id fun h =>
      ⟨_, plugin, h, hinstalled, Or.inr ⟨rfl, hwork, source, context, rfl⟩⟩

/-! ## A pass in its order -/

/-- One value's turn in a pass: it is computed anew if it was due at the beginning. -/
def stage (s : Scheduler (Job P)) (now : Time) (e : Engine P) (key : Derived) : Engine P :=
  if (s.slot key).isDue now then e.recompute now key (s.slot key).generation else e

/-- A pass computes the values that were due in their order. -/
theorem fire_eq (e : Engine P) (now : Time) :
    e.fire now = Derived.all.foldl (stage e.scheduler now)
      { e with scheduler := (e.scheduler.takeDue now).2 } := by
  have hfold : ∀ (keys : List Derived) (e' : Engine P),
      (((keys.filter fun key => (e.scheduler.slot key).isDue now).map fun key =>
        (key, (e.scheduler.slot key).generation)).foldl
          (fun e d => e.recompute now d.1 d.2) e') =
        keys.foldl (stage e.scheduler now) e' := by
    intro keys
    induction keys with
    | nil => exact fun _ => rfl
    | cons key keys ih =>
      intro e'
      by_cases hdue : (e.scheduler.slot key).isDue now = true
      · simp [hdue, stage, ih]
      · simp [hdue, stage, ih]
  exact hfold Derived.all _

/-! ## Results -/

/-- A result of an old generation changes nothing, and a result of the current one frees the slot
before it is taken. -/
theorem commit_cases [DecidableEq P] (e : Engine P) (now : Time) (c : Completion P) :
    (e.scheduler.isCurrent c.outcome.key c.generation = true ∧
      e.commit now c =
        { e with scheduler := e.scheduler.finish c.outcome.key c.generation }.takeOutcome now
          c.outcome) ∨
    (e.scheduler.isCurrent c.outcome.key c.generation = false ∧ e.commit now c = e) := by
  unfold commit
  split
  · next hcurrent => exact Or.inl ⟨hcurrent, rfl⟩
  · next hpassed => exact Or.inr ⟨by simpa using hpassed, rfl⟩

/-- The default tag is learnt from a parse for which no tag was set. -/
theorem learnDefaultTag_eq (e : Engine P) (rootTag : String) :
    e.learnDefaultTag rootTag =
      { e with inputs := { e.inputs with
          defaultRootTag :=
            if e.inputs.grammarTag = none then some rootTag else e.inputs.defaultRootTag } } := by
  unfold learnDefaultTag
  by_cases htag : e.inputs.grammarTag = none
  · rw [if_pos htag, if_pos (by rw [htag]; rfl)]
  · rw [if_neg htag, if_neg (by simpa using htag)]

/-- The tag becomes that of a parse for which none was set, unless that is empty. -/
theorem adoptTag_eq (e : Engine P) (rootTag : String) :
    ∃ shown, e.adoptTag rootTag =
      { e with
          inputs := { e.inputs with
            grammarTag :=
              if e.inputs.grammarTag = none ∧ rootTag ≠ "" then some rootTag
              else e.inputs.grammarTag }
          state := { e.state with grammarTag := shown } } := by
  unfold adoptTag
  by_cases hadopts : e.inputs.grammarTag = none ∧ rootTag ≠ ""
  · have hcond : (e.inputs.grammarTag.isNone && !rootTag.isEmpty) = true := by
      simpa using hadopts
    rw [if_pos hadopts, if_pos hcond]
    exact ⟨_, rfl⟩
  · have hcond : ¬ (e.inputs.grammarTag.isNone && !rootTag.isEmpty) = true := by
      simpa using hadopts
    rw [if_neg hadopts, if_neg hcond]
    exact ⟨_, rfl⟩

/-- The engine that shows a tree which has just been parsed, before it says so. -/
def afterParse (e : Engine P) (source : TreeSource) (tree : Node) : Engine P :=
  ((e.learnDefaultTag source.rootTag).adoptTag source.rootTag).showTree source tree

/-- A result of the installed plugin is shown or reported; one of another plugin is dropped. -/
theorem commitTree_cases [DecidableEq P] (e : Engine P) (now : Time) (plugin : P)
    (source : TreeSource) (result : Except Failure Node) :
    (e.inputs.plugin = some plugin ∧ ∃ tree, result = .ok tree ∧
      e.commitTree now plugin source result =
        (e.afterParse source tree).publish.invalidate now Derived.tree.dependents) ∨
    (e.inputs.plugin = some plugin ∧ ∃ failure, result = .error failure ∧
      e.commitTree now plugin source result =
        (e.learnDefaultTag source.rootTag).emit (.notify (parseFailed failure))) ∨
    (e.inputs.plugin ≠ some plugin ∧ e.commitTree now plugin source result = e) := by
  unfold commitTree
  split
  · next hplugin =>
    cases result with
    | ok tree => exact Or.inl ⟨hplugin, tree, rfl, rfl⟩
    | error failure => exact Or.inr (Or.inl ⟨hplugin, failure, rfl, rfl⟩)
  · next hplugin => exact Or.inr (Or.inr ⟨hplugin, rfl⟩)

/-- A tree by the installed plugin that counts is shown. -/
theorem commit_of_tree_ok [DecidableEq P] (e : Engine P) (now : Time) {generation : Nat}
    {plugin : P} {source : TreeSource} {tree : Node}
    (hcurrent : e.scheduler.isCurrent .tree generation = true)
    (hinstalled : e.inputs.plugin = some plugin) :
    e.commit now ⟨generation, .tree plugin source (.ok tree)⟩ =
      (({ e with scheduler := e.scheduler.finish .tree generation } : Engine P).afterParse source
        tree).publish.invalidate now Derived.tree.dependents := by
  rw [commit, Outcome.key, if_pos hcurrent, takeOutcome, commitTree, if_pos hinstalled]
  rfl

/-- A failure of the installed plugin that counts is reported. -/
theorem commit_of_tree_error [DecidableEq P] (e : Engine P) (now : Time) {generation : Nat}
    {plugin : P} {source : TreeSource} {failure : Failure}
    (hcurrent : e.scheduler.isCurrent .tree generation = true)
    (hinstalled : e.inputs.plugin = some plugin) :
    e.commit now ⟨generation, .tree plugin source (.error failure)⟩ =
      (({ e with scheduler := e.scheduler.finish .tree generation } : Engine P).learnDefaultTag
        source.rootTag).emit (.notify (parseFailed failure)) := by
  rw [commit, Outcome.key, if_pos hcurrent, takeOutcome, commitTree, if_pos hinstalled]

/-- A tree is shown with what one walk over it collects.  It may settle the tag, and it drops the
selection. -/
theorem afterParse_eq (e : Engine P) (source : TreeSource) (tree : Node) :
    ∃ shown, e.afterParse source tree =
      { e with
          inputs := { e.inputs with
            grammarTag :=
              if e.inputs.grammarTag = none ∧ source.rootTag ≠ "" then some source.rootTag
              else e.inputs.grammarTag
            selection := none
            defaultRootTag :=
              if e.inputs.grammarTag = none then some source.rootTag
              else e.inputs.defaultRootTag }
          state := { e.state with
            grammarTag := shown
            treeRoot := some tree
            tokens := (walk tree).tokens
            marks := (walk tree).marks
            outputError := (walk tree).firstError
            selection := none
            selectionMark := none }
          source := some source
          treeSerial := e.treeSerial + 1 } := by
  rcases (e.learnDefaultTag source.rootTag).adoptTag_eq source.rootTag with ⟨shown, hadopt⟩
  rw [afterParse, hadopt, learnDefaultTag_eq]
  exact ⟨shown, rfl⟩

@[simp]
theorem scheduler_afterParse (e : Engine P) (source : TreeSource) (tree : Node) :
    (e.afterParse source tree).scheduler = e.scheduler := by
  rcases e.afterParse_eq source tree with ⟨_, heq⟩
  rw [heq]

@[simp]
theorem started_afterParse (e : Engine P) (source : TreeSource) (tree : Node) :
    (e.afterParse source tree).started = e.started := by
  rcases e.afterParse_eq source tree with ⟨_, heq⟩
  rw [heq]
  rfl

@[simp]
theorem answer_afterParse (e : Engine P) (source : TreeSource) (tree : Node) :
    (e.afterParse source tree).answer = e.answer := by
  rcases e.afterParse_eq source tree with ⟨_, heq⟩
  rw [heq]
  rfl

/-- The output of the tree that is shown is taken; that of another is dropped. -/
theorem commitOutput_cases (e : Engine P) (serial : Nat) (result : Except Failure (Option Value)) :
    (e.state.treeRoot ≠ none ∧ e.treeSerial = serial ∧
      e.commitOutput serial result = { e with state := withOutput e.state result }.publish) ∨
    (¬ (e.state.treeRoot ≠ none ∧ e.treeSerial = serial) ∧ e.commitOutput serial result = e) := by
  unfold commitOutput
  by_cases hshown : e.state.treeRoot ≠ none ∧ e.treeSerial = serial
  · have hcond : (e.state.treeRoot.isSome && decide (e.treeSerial = serial)) = true := by
      simpa [Option.isSome_iff_ne_none] using hshown
    rw [if_pos hcond]
    exact Or.inl ⟨hshown.1, hshown.2, rfl⟩
  · have hcond : ¬ (e.state.treeRoot.isSome && decide (e.treeSerial = serial)) = true := by
      simpa [Option.isSome_iff_ne_none] using hshown
    rw [if_neg hcond]
    exact Or.inr ⟨hshown, rfl⟩

/-- What it can come to that an outcome is taken. -/
inductive Receives (e : Engine P) (now : Time) : Outcome P → Engine P → Prop where
  | shown (plugin : P) (source : TreeSource) (tree : Node)
      (hinstalled : e.inputs.plugin = some plugin) :
      Receives e now (.tree plugin source (.ok tree))
        ((e.afterParse source tree).publish.invalidate now Derived.tree.dependents)
  | reported (plugin : P) (source : TreeSource) (failure : Failure)
      (hinstalled : e.inputs.plugin = some plugin) :
      Receives e now (.tree plugin source (.error failure))
        (({ e with inputs := { e.inputs with
            defaultRootTag :=
              if e.inputs.grammarTag = none then some source.rootTag
              else e.inputs.defaultRootTag } } :
          Engine P).emit (.notify (parseFailed failure)))
  | foreign (plugin : P) (source : TreeSource) (result : Except Failure Node)
      (hother : e.inputs.plugin ≠ some plugin) : Receives e now (.tree plugin source result) e
  | answered (serial : Nat) (result : Except Failure (Option Value))
      (htree : e.state.treeRoot ≠ none) (hserial : e.treeSerial = serial) :
      Receives e now (.output serial result)
        ({ e with state := { e.state with
            output := (answerOf result).1, evalError := (answerOf result).2 } } :
          Engine P).publish
  | outdated (serial : Nat) (result : Except Failure (Option Value))
      (hnot : ¬ (e.state.treeRoot ≠ none ∧ e.treeSerial = serial)) :
      Receives e now (.output serial result) e

theorem receives [DecidableEq P] (e : Engine P) (now : Time) (outcome : Outcome P) :
    e.Receives now outcome (e.takeOutcome now outcome) := by
  cases outcome with
  | tree plugin source result =>
    rw [takeOutcome]
    rcases e.commitTree_cases now plugin source result with
      ⟨hinstalled, tree, rfl, heq⟩ | ⟨hinstalled, failure, rfl, heq⟩ | ⟨hother, heq⟩
    · rw [heq]
      exact .shown plugin source tree hinstalled
    · rw [heq, learnDefaultTag_eq]
      exact .reported plugin source failure hinstalled
    · rw [heq]
      exact .foreign plugin source result hother
  | output serial result =>
    rw [takeOutcome]
    rcases e.commitOutput_cases serial result with ⟨htree, hserial, heq⟩ | ⟨hnot, heq⟩
    · rw [heq]
      cases result <;> exact .answered serial _ htree hserial
    · rw [heq]
      exact .outdated serial result hnot

/-- The outcome is a tree by the installed plugin. -/
def Shows (e : Engine P) (outcome : Outcome P) : Prop :=
  ∃ plugin source tree, outcome = .tree plugin source (.ok tree) ∧ e.inputs.plugin = some plugin

/-- A tree that is shown invalidates the output, and no other outcome touches the slots. -/
theorem scheduler_takeOutcome [DecidableEq P] (e : Engine P) (now : Time) (outcome : Outcome P) :
    (e.Shows outcome ∧
      (e.takeOutcome now outcome).scheduler =
        e.scheduler.invalidateAll Derived.tree.dependents now) ∨
    (¬ e.Shows outcome ∧ (e.takeOutcome now outcome).scheduler = e.scheduler) := by
  cases outcome with
  | tree plugin source result =>
    rw [takeOutcome]
    rcases e.commitTree_cases now plugin source result with
      ⟨hplugin, tree, rfl, heq⟩ | ⟨_, failure, rfl, heq⟩ | ⟨hplugin, heq⟩
    · refine Or.inl ⟨⟨plugin, source, tree, rfl, hplugin⟩, ?_⟩
      rw [heq, ← scheduler_afterParse e source tree]
      rfl
    · refine Or.inr ⟨?_, by rw [heq, learnDefaultTag_eq]; rfl⟩
      rintro ⟨_, _, _, houtcome, _⟩
      cases houtcome
    · refine Or.inr ⟨?_, by rw [heq]⟩
      rintro ⟨_, _, _, houtcome, hinstalled⟩
      cases houtcome
      exact hplugin hinstalled
  | output serial result =>
    refine Or.inr ⟨?_, ?_⟩
    · rintro ⟨_, _, _, houtcome, _⟩
      cases houtcome
    · rw [takeOutcome]
      rcases e.commitOutput_cases serial result with ⟨_, _, heq⟩ | ⟨_, heq⟩
      · rw [heq]; rfl
      · rw [heq]

@[simp]
theorem started_takeOutcome [DecidableEq P] (e : Engine P) (now : Time) (outcome : Outcome P) :
    (e.takeOutcome now outcome).started = e.started := by
  cases outcome with
  | tree plugin source result =>
    rw [takeOutcome]
    rcases e.commitTree_cases now plugin source result with
      ⟨_, tree, rfl, heq⟩ | ⟨_, failure, rfl, heq⟩ | ⟨_, heq⟩
    · rw [heq]
      exact (started_publish _).trans (e.started_afterParse source tree)
    · rw [heq, learnDefaultTag_eq]
      exact started_notify _ _
    · rw [heq]
  | output serial result =>
    rw [takeOutcome]
    rcases e.commitOutput_cases serial result with ⟨_, _, heq⟩ | ⟨_, heq⟩
    · rw [heq]
      exact started_publish _
    · rw [heq]

@[simp]
theorem started_commit [DecidableEq P] (e : Engine P) (now : Time) (c : Completion P) :
    (e.commit now c).started = e.started := by
  rcases e.commit_cases now c with ⟨_, heq⟩ | ⟨_, heq⟩
  · rw [heq, started_takeOutcome]
    rfl
  · rw [heq]

/-- The output of the tree that is shown is shown if it counts. -/
theorem commit_of_output [DecidableEq P] (e : Engine P) (now : Time) {generation serial : Nat}
    {result : Except Failure (Option Value)}
    (hcurrent : e.scheduler.isCurrent .output generation = true)
    (htree : e.state.treeRoot ≠ none) (hserial : e.treeSerial = serial) :
    e.commit now ⟨generation, .output serial result⟩ =
      ({ e with
          scheduler := e.scheduler.finish .output generation
          state := { e.state with
            output := (answerOf result).1, evalError := (answerOf result).2 } } :
        Engine P).publish := by
  have hstate : withOutput e.state result =
      { e.state with output := (answerOf result).1, evalError := (answerOf result).2 } := by
    cases result <;> rfl
  have hcond : (e.state.treeRoot.isSome && decide (e.treeSerial = serial)) = true := by
    simpa [Option.isSome_iff_ne_none] using ⟨htree, hserial⟩
  rw [commit, Outcome.key, if_pos hcurrent, takeOutcome, commitOutput, if_pos hcond, ← hstate]

/-! ## The end of an event -/

/-- Whether the engine is busy shows in nothing but the state's own field. -/
theorem showBusy_cases (e : Engine P) :
    e.showBusy = e ∨
      e.showBusy = { e with state := { e.state with isBusy := e.isBusy } }.publish := by
  unfold showBusy
  split
  · exact Or.inl rfl
  · exact Or.inr rfl

theorem foldl_release (waiters : List Nat) (e : Engine P) :
    waiters.foldl (fun e waiter => e.emit (.release waiter)) e =
      { e with outbox := e.outbox ++ waiters.map Effect.release } := by
  induction waiters generalizing e with
  | nil => simp
  | cons waiter waiters ih =>
    rw [List.foldl_cons, ih, emit, List.append_assoc, List.map_cons, List.singleton_append]

/-- Whoever waited is told, and nothing else happens. -/
theorem releaseWaiters_cases (e : Engine P) :
    ∃ waiters released : List Nat, e.releaseWaiters =
      { e with waiters := waiters, outbox := e.outbox ++ released.map Effect.release } := by
  unfold releaseWaiters
  split
  · exact ⟨e.waiters, [], by simp⟩
  · exact ⟨[], e.waiters, by rw [foldl_release]⟩

@[simp]
theorem jobsOf_append_release (effects : List (Effect P)) (released : List Nat) :
    jobsOf (effects ++ released.map Effect.release) = jobsOf effects := by
  simp [jobsOf, List.filterMap_append, List.filterMap_map]

/-- Once an event has been handled, all that is left is to say so. -/
theorem step_eq [DecidableEq P] (e : Engine P) (now : Time) (event : Event P) :
    ∃ isBusy revision published waiters,
      (e.step now event).1 =
        { e.handle now event with
            state := { (e.handle now event).state with isBusy := isBusy, revision := revision }
            published := published
            waiters := waiters
            outbox := [] } ∧
      jobsOf (e.step now event).2 = (e.handle now event).started := by
  unfold step
  rcases (e.handle now event).showBusy.releaseWaiters_cases with ⟨waiters, released, hrelease⟩
  rw [hrelease]
  rcases (e.handle now event).showBusy_cases with hbusy | hbusy
  · rw [hbusy]
    exact ⟨_, _, _, waiters, rfl, jobsOf_append_release _ released⟩
  · rw [hbusy]
    exact ⟨_, _, _, waiters, rfl, (jobsOf_append_release _ released).trans (started_publish _)⟩

/-- What has been done to the outside when an event has been handled is not taken back. -/
theorem mem_step_of_mem_handle [DecidableEq P] (e : Engine P) (now : Time) (event : Event P)
    {effect : Effect P} (hmem : effect ∈ (e.handle now event).outbox) :
    effect ∈ (e.step now event).2 := by
  have hbusy : effect ∈ (e.handle now event).showBusy.outbox := by
    rcases (e.handle now event).showBusy_cases with heq | heq
    · rw [heq]; exact hmem
    · rw [heq]; exact List.mem_append_left _ hmem
  rcases (e.handle now event).showBusy.releaseWaiters_cases with ⟨waiters, released, hrelease⟩
  rw [step, hrelease]
  exact List.mem_append_left _ hbusy

/-! ## What a pass and a result leave of the inputs -/

/-- A pass changes no input but the selection, which goes when the tree goes. -/
theorem inputs_recompute (e : Engine P) (now : Time) (key : Derived) (generation : Nat) :
    ∃ selection,
      (e.recompute now key generation).inputs = { e.inputs with selection := selection } := by
  have hrecomputes := e.recomputes now key generation
  generalize e.recompute now key generation = e' at hrecomputes
  cases hrecomputes with
  | parseStarted | evalStarted =>
    unfold startJob
    split <;> exact ⟨_, rfl⟩
  | _ => exact ⟨_, rfl⟩

theorem inputs_fire (e : Engine P) (now : Time) :
    ∃ selection, (e.fire now).inputs = { e.inputs with selection := selection } := by
  refine fire_induction
    (fun e' _ => ∃ selection, e'.inputs = { e.inputs with selection := selection }) ⟨_, rfl⟩ ?_
  rintro e' key generation _ ⟨_, hinputs⟩
  rcases e'.inputs_recompute now key generation with ⟨selection, hrecompute⟩
  rw [hinputs] at hrecompute
  exact ⟨selection, hrecompute⟩

/-- A result leaves the plugin, and only a parse for which no tag was set teaches a default tag. -/
theorem inputs_takeOutcome [DecidableEq P] (e : Engine P) (now : Time) (outcome : Outcome P) :
    (e.takeOutcome now outcome).inputs.plugin = e.inputs.plugin ∧
      ((e.takeOutcome now outcome).inputs.defaultRootTag = e.inputs.defaultRootTag ∨
        e.inputs.grammarTag = none ∧ ∃ plugin source result, outcome = .tree plugin source result ∧
          (e.takeOutcome now outcome).inputs.defaultRootTag = some source.rootTag) := by
  cases outcome with
  | output serial result =>
    rw [takeOutcome]
    rcases e.commitOutput_cases serial result with ⟨_, _, heq⟩ | ⟨_, heq⟩ <;>
      rw [heq] <;> exact ⟨rfl, Or.inl rfl⟩
  | tree plugin source result =>
    have hlearns : ∀ inputs : Inputs P, inputs.defaultRootTag =
        (if e.inputs.grammarTag = none then some source.rootTag else e.inputs.defaultRootTag) →
        inputs.defaultRootTag = e.inputs.defaultRootTag ∨
          e.inputs.grammarTag = none ∧ inputs.defaultRootTag = some source.rootTag := by
      intro inputs hinputs
      by_cases hnone : e.inputs.grammarTag = none
      · rw [if_pos hnone] at hinputs
        exact Or.inr ⟨hnone, hinputs⟩
      · rw [if_neg hnone] at hinputs
        exact Or.inl hinputs
    rw [takeOutcome]
    rcases e.commitTree_cases now plugin source result with
      ⟨_, tree, _, heq⟩ | ⟨_, failure, _, heq⟩ | ⟨_, heq⟩
    · rcases e.afterParse_eq source tree with ⟨_, hafter⟩
      rw [heq, hafter]
      exact ⟨rfl, (hlearns _ rfl).imp id fun h => ⟨h.1, plugin, source, result, rfl, h.2⟩⟩
    · rw [heq, learnDefaultTag_eq]
      exact ⟨rfl, (hlearns _ rfl).imp id fun h => ⟨h.1, plugin, source, result, rfl, h.2⟩⟩
    · rw [heq]
      exact ⟨rfl, Or.inl rfl⟩

/-- A result of an old generation teaches nothing. -/
theorem inputs_commit [DecidableEq P] (e : Engine P) (now : Time) (c : Completion P) :
    (e.commit now c).inputs.plugin = e.inputs.plugin ∧
      ((e.commit now c).inputs.defaultRootTag = e.inputs.defaultRootTag ∨
        e.inputs.grammarTag = none ∧ e.scheduler.isCurrent c.outcome.key c.generation = true ∧
          ∃ plugin source result, c.outcome = .tree plugin source result ∧
            (e.commit now c).inputs.defaultRootTag = some source.rootTag) := by
  rcases e.commit_cases now c with ⟨hcurrent, heq⟩ | ⟨_, heq⟩
  · rw [heq]
    rcases inputs_takeOutcome { e with scheduler := e.scheduler.finish c.outcome.key c.generation }
      now c.outcome with ⟨hplugin, hsame | ⟨hnone, hlearns⟩⟩
    · exact ⟨hplugin, Or.inl hsame⟩
    · exact ⟨hplugin, Or.inr ⟨hnone, hcurrent, hlearns⟩⟩
  · rw [heq]
    exact ⟨rfl, Or.inl rfl⟩

end Engine

/-- After an event the engine is what the handling has left, but for what is said about it. -/
theorem Occurs.engine_eq_handle [DecidableEq P] {brings : Work P → Outcome P → Prop}
    {w u : World P} {now : Time} {event : Event P} (hoccurs : Occurs brings w now event u) :
    ∃ isBusy revision published waiters,
      u.engine =
        { w.engine.handle now event with
            state :=
              { (w.engine.handle now event).state with isBusy := isBusy, revision := revision }
            published := published
            waiters := waiters
            outbox := [] } := by
  rcases w.engine.step_eq now event with ⟨isBusy, revision, published, waiters, hstep, _⟩
  exact ⟨isBusy, revision, published, waiters, hoccurs.engine_eq.trans hstep⟩

theorem Occurs.inputs_eq_handle [DecidableEq P] {brings : Work P → Outcome P → Prop}
    {w u : World P} {now : Time} {event : Event P} (hoccurs : Occurs brings w now event u) :
    u.engine.inputs = (w.engine.handle now event).inputs := by
  rcases hoccurs.engine_eq_handle with ⟨_, _, _, _, hengine⟩
  rw [hengine]

end GrammarDesk.Inspector
