import GrammarDesk.Inspector.Context
import GrammarDesk.Inspector.Job
import GrammarDesk.Inspector.Scheduler
import GrammarDesk.Inspector.Snapshot

/-!
# The engine

The engine owns the inputs and everything that is derived from them.  It is moved by events: a
command, a quiet period that ends, or a job that comes back.  A change of an input marks what
depends on it as out of date; after the quiet period it is computed anew, by the engine itself or by
a job; and a result counts only while nothing it was computed from has been marked since.  Plugins
are told apart by identity, so the engine takes any type for them.

Main definitions:

- `Inputs`, `Engine`: the inputs, and the state of the engine.
- `Command`, `Event`, `Effect`: what moves the engine, and what it does to the outside.
- `Engine.step`: the engine after an event, and the effects in order.
- `Engine.potential`: a bound on the events that can follow without a command.
-/

namespace GrammarDesk.Inspector

open Json GrammarDesk.Tree

/-! ## Types -/

/-- What is set from outside, and the default tag that was learnt from the plugin. -/
structure Inputs (P : Type) where
  expression : String
  contextText : String
  grammarTag : Option String
  plugin : Option P
  selection : Option Node
  /-- The tag that parses by this plugin start with by default, once that is known. -/
  defaultRootTag : Option String

/-- An order from outside. -/
inductive Command (P : Type) where
  | setExpression (text : String)
  | setContextText (text : String)
  | setGrammarTag (tag : Option String)
  | setPlugin (plugin : Option P)
  | select (node : Option Node)
  /-- A request to be told when everything is computed; the number tells waiters apart. -/
  | settle (waiter : Nat)

/-- What moves the engine. -/
inductive Event (P : Type) where
  | command (command : Command P)
  /-- The quiet period of some derived value is over. -/
  | fire
  | complete (completion : Completion P)

/-- What the engine does to the outside. -/
inductive Effect (P : Type) where
  | publish (snapshot : Snapshot)
  | notify (notification : Notification)
  /-- A waiter is told that everything is computed. -/
  | release (waiter : Nat)
  | start (job : Job P)

/-- The notifications among effects. -/
def notesOf {P : Type} (effects : List (Effect P)) : List Notification :=
  effects.filterMap fun
    | .notify notification => some notification
    | _ => none

/-- The jobs that effects start. -/
def jobsOf {P : Type} (effects : List (Effect P)) : List (Job P) :=
  effects.filterMap fun
    | .start job => some job
    | _ => none

/-- The state of the engine. -/
structure Engine (P : Type) where
  inputs : Inputs P
  /-- The derived state; what was not published yet is not visible. -/
  state : Snapshot
  /-- What the tree was parsed from. -/
  source : Option TreeSource
  /-- The number of the latest tree. -/
  treeSerial : Nat
  scheduler : Scheduler (Job P)
  /-- The snapshot that was published last. -/
  published : Snapshot
  waiters : List Nat
  /-- The effects of the event that is being handled. -/
  outbox : List (Effect P)

namespace Engine

variable {P : Type}

/-- The engine before any event: only the context is to be derived, from blank text. -/
def start (debounce now : Time) : Engine P where
  inputs := ⟨"", "", none, none, none, none⟩
  state := .blank
  source := none
  treeSerial := 0
  scheduler := (Scheduler.blank debounce).invalidate .context now
  published := .blank
  waiters := []
  outbox := []

/-! ## Speaking to the outside -/

/-- The engine after an effect. -/
def emit (e : Engine P) (effect : Effect P) : Engine P :=
  { e with outbox := e.outbox ++ [effect] }

/-- Makes the state visible, under the next revision. -/
def publish (e : Engine P) : Engine P :=
  let state := { e.state with revision := e.state.revision + 1 }
  { e with state := state, published := state }.emit (.publish state)

/-! ## What is out of date -/

/-- Marks derived values as out of date. -/
def invalidate (e : Engine P) (now : Time) (keys : List Derived) : Engine P :=
  { e with scheduler := e.scheduler.invalidateAll keys now }

/-- Shows the inputs in the state. -/
def showInputs (e : Engine P) : Engine P :=
  { e with state := { e.state with
      expression := e.inputs.expression
      contextText := e.inputs.contextText
      grammarTag := e.inputs.grammarTag } }

/-- Takes note of a changed input. -/
def inputChanged (e : Engine P) (now : Time) (input : Input) : Engine P :=
  e.showInputs.invalidate now input.dependents

/-! ## Commands -/

/-- The engine with other inputs, of which the named one has changed if at all. -/
def replaceInput (e : Engine P) (now : Time) (input : Input) (isSame : Bool) (inputs : Inputs P) :
    Engine P :=
  if isSame then e else { e with inputs := inputs }.inputChanged now input

/-- Sets the selection; its mark is drawn anew in any case. -/
def select (e : Engine P) (now : Time) (node : Option Node) : Engine P :=
  { e with
      inputs := { e.inputs with selection := node }
      state := { e.state with selection := node, selectionMark := none } }.publish.inputChanged now
    .selection

/-- Carries out a command.  An input that is set to what it is does not change, and with another
plugin the default tag has to be learnt anew. -/
def apply [DecidableEq P] (e : Engine P) (now : Time) : Command P → Engine P
  | .setExpression text =>
    e.replaceInput now .expression (e.inputs.expression = text)
      { e.inputs with expression := text }
  | .setContextText text =>
    e.replaceInput now .contextText (e.inputs.contextText = text)
      { e.inputs with contextText := text }
  | .setGrammarTag tag =>
    e.replaceInput now .grammarTag (e.inputs.grammarTag = tag) { e.inputs with grammarTag := tag }
  | .setPlugin plugin =>
    e.replaceInput now .plugin (e.inputs.plugin = plugin)
      { e.inputs with plugin := plugin, defaultRootTag := none }
  | .select node => e.select now node
  | .settle waiter => { e with waiters := e.waiters ++ [waiter] }

/-! ## Computing anew -/

/-- The state with the context that the text writes, or with the reason why it writes none. -/
def withContext (s : Snapshot) : Except String Value → Snapshot
  | .ok context => { s with context := some context, contextError := none }
  | .error message => { s with context := none, contextError := some message }

/-- Reads the context text. -/
def recomputeContext (e : Engine P) (now : Time) : Engine P :=
  { e with state := withContext e.state (parseContext e.inputs.contextText) }.publish.invalidate now
    Derived.context.dependents

/-- Draws the mark of the selection. -/
def recomputeMark (e : Engine P) : Engine P :=
  let mark := e.inputs.selection.map Mark.selection
  if mark = e.state.selectionMark then e
  else { e with state := { e.state with selectionMark := mark } }.publish

/-- Starts a job, unless it is for a generation that has passed. -/
def startJob (e : Engine P) (job : Job P) : Engine P :=
  if e.scheduler.isCurrent job.work.key job.generation then
    { e with scheduler := e.scheduler.track job.work.key job.generation job }.emit (.start job)
  else e

/-- Drops the tree, and what belongs to it. -/
def clearTree (e : Engine P) : Engine P :=
  { e with
      inputs := { e.inputs with selection := none }
      state := { e.state with
        treeRoot := none, tokens := [], marks := [], outputError := none
        selection := none, selectionMark := none }
      source := none }

/-- The parse of the current inputs by a plugin. -/
def parseWork (e : Engine P) (plugin : P) : Work P :=
  .parse plugin e.inputs.expression (e.inputs.grammarTag.or e.inputs.defaultRootTag)

/-- Starts a parse; without a plugin there is no tree. -/
def startParse (e : Engine P) (now : Time) (generation : Nat) : Engine P :=
  match e.inputs.plugin with
  | some plugin => e.startJob ⟨generation, e.parseWork plugin⟩
  | none =>
    if e.state.treeRoot.isSome then
      e.clearTree.publish.invalidate now Derived.tree.dependents
    else e

/-- The evaluation of the tree, if there are a plugin, a tree without errors, and a context. -/
def evalWork? (e : Engine P) : Option (Work P) :=
  match e.inputs.plugin, e.state.treeRoot, e.source, e.state.context, e.state.outputError with
  | some plugin, some _, some source, some context, none =>
    some (.eval plugin source context e.treeSerial)
  | _, _, _, _, _ => none

/-- Drops the output, if there is any. -/
def clearOutput (e : Engine P) : Engine P :=
  if e.state.output.isSome || e.state.evalError.isSome then
    { e with state := { e.state with output := none, evalError := none } }.publish
  else e

/-- Starts an evaluation; if there is nothing to evaluate there is no output. -/
def startEval (e : Engine P) (generation : Nat) : Engine P :=
  match e.evalWork? with
  | some work => e.startJob ⟨generation, work⟩
  | none => e.clearOutput

/-- Computes a derived value anew, for a generation. -/
def recompute (e : Engine P) (now : Time) (key : Derived) (generation : Nat) : Engine P :=
  match key with
  | .context => e.recomputeContext now
  | .tree => e.startParse now generation
  | .output => e.startEval generation
  | .selectionMark => e.recomputeMark

/-- Computes all derived values anew whose quiet period is over. -/
def fire (e : Engine P) (now : Time) : Engine P :=
  let (due, scheduler) := e.scheduler.takeDue now
  due.foldl (fun e (key, generation) => e.recompute now key generation)
    { e with scheduler := scheduler }

/-! ## Results -/

/-- The message about a failed parse; a broken agreement is graver than an absent backend. -/
def parseFailed (failure : Failure) : Notification :=
  ⟨if failure.isContractViolation then .error else .warning, "Parse failed: " ++ failure.message⟩

/-- Keeps the default tag of a parse for which no tag was set. -/
def learnDefaultTag (e : Engine P) (rootTag : String) : Engine P :=
  if e.inputs.grammarTag.isNone then
    { e with inputs := { e.inputs with defaultRootTag := some rootTag } }
  else e

/-- Sets the tag to the one of a parse for which none was set. -/
def adoptTag (e : Engine P) (rootTag : String) : Engine P :=
  if e.inputs.grammarTag.isNone && !rootTag.isEmpty then
    { e with
        inputs := { e.inputs with grammarTag := some rootTag }
        state := { e.state with grammarTag := some rootTag } }
  else e

/-- Shows a new tree; a selection in the old one is dropped. -/
def showTree (e : Engine P) (source : TreeSource) (tree : Node) : Engine P :=
  let walked := walk tree
  { e with
      inputs := { e.inputs with selection := none }
      state := { e.state with
        treeRoot := some tree, tokens := walked.tokens, marks := walked.marks
        outputError := walked.firstError, selection := none, selectionMark := none }
      source := some source
      treeSerial := e.treeSerial + 1 }

/-- Takes the result of a parse.  A failure is reported and the old tree stays. -/
def commitTree [DecidableEq P] (e : Engine P) (now : Time) (plugin : P) (source : TreeSource)
    (result : Except Failure Node) : Engine P :=
  if e.inputs.plugin = some plugin then
    let e := e.learnDefaultTag source.rootTag
    match result with
    | .ok tree =>
      ((e.adoptTag source.rootTag).showTree source tree).publish.invalidate now
        Derived.tree.dependents
    | .error failure => e.emit (.notify (parseFailed failure))
  else e

/-- The state with the result of an evaluation. -/
def withOutput (s : Snapshot) : Except Failure (Option Value) → Snapshot
  | .ok output => { s with output := output, evalError := none }
  | .error failure => { s with output := none, evalError := some failure.message }

/-- Takes the result of the evaluation of the tree with a number. -/
def commitOutput (e : Engine P) (serial : Nat) (result : Except Failure (Option Value)) :
    Engine P :=
  if e.state.treeRoot.isSome && e.treeSerial = serial then
    { e with state := withOutput e.state result }.publish
  else e

/-- Takes the outcome of a job. -/
def takeOutcome [DecidableEq P] (e : Engine P) (now : Time) : Outcome P → Engine P
  | .tree plugin source result => e.commitTree now plugin source result
  | .output serial result => e.commitOutput serial result

/-- Takes what a job brings back, unless its generation has passed. -/
def commit [DecidableEq P] (e : Engine P) (now : Time) (c : Completion P) : Engine P :=
  if e.scheduler.isCurrent c.outcome.key c.generation then
    { e with scheduler := e.scheduler.finish c.outcome.key c.generation }.takeOutcome now c.outcome
  else e

/-! ## Events -/

/-- Something waits or runs. -/
def isBusy (e : Engine P) : Bool := !e.scheduler.isIdle

/-- Publishes whether the engine is busy, if that has changed. -/
def showBusy (e : Engine P) : Engine P :=
  if e.isBusy = e.state.isBusy then e
  else { e with state := { e.state with isBusy := e.isBusy } }.publish

/-- Tells all who wait that everything is computed, if it is. -/
def releaseWaiters (e : Engine P) : Engine P :=
  if e.isBusy then e
  else { e.waiters.foldl (fun e waiter => e.emit (.release waiter)) e with waiters := [] }

/-- Handles an event. -/
def handle [DecidableEq P] (e : Engine P) (now : Time) : Event P → Engine P
  | .command command => e.apply now command
  | .fire => e.fire now
  | .complete completion => e.commit now completion

/-- The engine after an event, and what it does to the outside, in order. -/
def step [DecidableEq P] (e : Engine P) (now : Time) (event : Event P) :
    Engine P × List (Effect P) :=
  let e := (e.handle now event).showBusy.releaseWaiters
  ({ e with outbox := [] }, e.outbox)

/-! ## Coming to rest -/

/-- How many events a pending derived value may still cause: computing the context or the tree may
lead to an evaluation, and a parse comes back before it does. -/
def pendingWeight : Derived → Nat
  | .context => 3
  | .tree => 4
  | .output => 2
  | .selectionMark => 1

/-- How many events a running job may still cause. -/
def runningWeight (key : Derived) : Nat := pendingWeight key - 1

/-- How many events a slot may still cause. -/
def slotPotential (key : Derived) (slot : Slot (Job P)) : Nat :=
  (if slot.deadline.isSome then pendingWeight key else 0)
    + (if slot.job.isSome then runningWeight key else 0)

/-- How many events can follow without a command, at most. -/
def potential (e : Engine P) : Nat :=
  Derived.all.foldr (fun key total => slotPotential key (e.scheduler.slot key) + total) 0

end Engine

end GrammarDesk.Inspector
