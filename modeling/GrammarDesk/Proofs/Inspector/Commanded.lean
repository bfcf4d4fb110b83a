import GrammarDesk.Proofs.Inspector.Authorship

/-!
# Inputs are what was commanded

An input is what the last command for it has said.  Two inputs are also set by the engine itself: a
tag that nobody has set becomes that of the tree which is shown, and a selection goes when its tree
is replaced or dropped.

Main definitions:

- `Moment.expression?`, `Moment.contextText?`, `Moment.grammarTag?`, `Moment.plugin?`,
  `Moment.selection?`: what a moment sets an input to.
- `Engine.Commanded`: each input is what the last moment that sets it has said.

Main results:

- `Occurs.inputs_eq`: an event sets the inputs that it sets, and no others.
- `Run.commanded`: after every history the inputs are what was commanded in it.
-/

namespace GrammarDesk.Inspector

open Json GrammarDesk.Tree Grammar

variable {P : Type}

/-! ## What a moment sets -/

namespace Moment

/-- The expression that is set at a moment. -/
def expression? (m : Moment P) : Option String :=
  match m.event with
  | .command (.setExpression text) => some text
  | _ => none

/-- The text of the context that is set at a moment. -/
def contextText? (m : Moment P) : Option String :=
  match m.event with
  | .command (.setContextText text) => some text
  | _ => none

/-- The plugin that is installed at a moment, or none if it is taken away. -/
def plugin? (m : Moment P) : Option (Option P) :=
  match m.event with
  | .command (.setPlugin plugin) => some plugin
  | _ => none

/-- The tag that is set at a moment: by a command, or by a tree that is shown while no tag is
set. -/
def grammarTag? (m : Moment P) : Option (Option String) :=
  match m.event with
  | .command (.setGrammarTag tag) => some tag
  | _ => m.parse?.bind fun parse =>
    if m.before.engine.inputs.grammarTag = none ∧ parse.source.rootTag ≠ "" then
      some (some parse.source.rootTag)
    else none

/-- The selection that is set at a moment: by a command, or to none when the tree goes or a new one
is shown. -/
def selection? (m : Moment P) : Option (Option Node) :=
  match m.event with
  | .command (.select node) => some node
  | .command _ => none
  | .fire =>
    if m.before.engine.state.treeRoot ≠ none ∧ m.after.engine.state.treeRoot = none then some none
    else none
  | .complete _ => m.parse?.map fun _ => none

end Moment

/-- Each input is what the last moment that sets it has said. -/
structure Engine.Commanded (e : Engine P) (ms : List (Moment P)) : Prop where
  expression : e.inputs.expression = (lastOf? Moment.expression? ms).getD ""
  contextText : e.inputs.contextText = (lastOf? Moment.contextText? ms).getD ""
  plugin : e.inputs.plugin = (lastOf? Moment.plugin? ms).getD none
  grammarTag : e.inputs.grammarTag = (lastOf? Moment.grammarTag? ms).getD none
  selection : e.inputs.selection = (lastOf? Moment.selection? ms).getD none

/-! ## What an event does to the inputs -/

namespace Engine

/-- A command sets its own input. -/
theorem inputs_apply [DecidableEq P] (e : Engine P) (now : Time) (command : Command P) :
    (e.apply now command).inputs =
      match command with
      | .setExpression text => { e.inputs with expression := text }
      | .setContextText text => { e.inputs with contextText := text }
      | .setGrammarTag tag => { e.inputs with grammarTag := tag }
      | .setPlugin plugin =>
        { e.inputs with
          plugin := plugin
          defaultRootTag := if e.inputs.plugin = plugin then e.inputs.defaultRootTag else none }
      | .select node => { e.inputs with selection := node }
      | .settle _ => e.inputs := by
  cases command with
  | select node => rfl
  | settle waiter => rfl
  | setPlugin plugin =>
    simp only [apply, replaceInput, decide_eq_true_eq]
    split
    · next hsame => rw [← hsame]
    · next hchanged => rfl
  | _ =>
    simp only [apply, replaceInput, decide_eq_true_eq]
    split
    · next hsame => rw [← hsame]
    · rfl

/-- A selection stays with the tree that is shown, and goes when this goes. -/
theorem selection_recompute (e : Engine P) (now : Time) (key : Derived) (generation : Nat) :
    ((e.recompute now key generation).inputs.selection = e.inputs.selection ∧
      (e.recompute now key generation).state.treeRoot = e.state.treeRoot) ∨
    ((e.recompute now key generation).inputs.selection = none ∧ e.state.treeRoot ≠ none ∧
      (e.recompute now key generation).state.treeRoot = none) := by
  have hrecomputes := e.recomputes now key generation
  generalize e.recompute now key generation = e' at hrecomputes
  cases hrecomputes with
  | treeGone _ htree => exact Or.inr ⟨rfl, htree, rfl⟩
  | parseStarted | evalStarted =>
    unfold startJob
    split <;> exact Or.inl ⟨rfl, rfl⟩
  | _ => exact Or.inl ⟨rfl, rfl⟩

theorem selection_fire (e : Engine P) (now : Time) :
    ((e.fire now).inputs.selection = e.inputs.selection ∧
      (e.fire now).state.treeRoot = e.state.treeRoot) ∨
    ((e.fire now).inputs.selection = none ∧ e.state.treeRoot ≠ none ∧
      (e.fire now).state.treeRoot = none) := by
  apply fire_induction (fun e' _ =>
    (e'.inputs.selection = e.inputs.selection ∧ e'.state.treeRoot = e.state.treeRoot) ∨
      (e'.inputs.selection = none ∧ e.state.treeRoot ≠ none ∧ e'.state.treeRoot = none))
  · exact Or.inl ⟨rfl, rfl⟩
  · intro e' key generation due hbefore
    rcases e'.selection_recompute now key generation with
      ⟨hselection, htree⟩ | ⟨hnone, htree, hgone⟩
    · rw [hselection, htree]
      exact hbefore
    · rcases hbefore with ⟨_, hsame⟩ | ⟨_, _, hnothing⟩
      · exact Or.inr ⟨hnone, by rwa [← hsame], hgone⟩
      · exact absurd hnothing htree

end Engine

/-! ## In the course of a history -/

/-- The inputs after a moment are those before it, but for what the moment sets. -/
structure Moment.SetsInputs (m : Moment P) : Prop where
  expression :
    m.after.engine.inputs.expression = m.expression?.getD m.before.engine.inputs.expression
  contextText :
    m.after.engine.inputs.contextText = m.contextText?.getD m.before.engine.inputs.contextText
  plugin : m.after.engine.inputs.plugin = m.plugin?.getD m.before.engine.inputs.plugin
  grammarTag :
    m.after.engine.inputs.grammarTag = m.grammarTag?.getD m.before.engine.inputs.grammarTag
  selection : m.after.engine.inputs.selection = m.selection?.getD m.before.engine.inputs.selection

section History

variable [DecidableEq P] {brings : Work P → Outcome P → Prop} {debounce start now : Time}
  {ms : List (Moment P)} {w u : World P} {m : Moment P} {event : Event P}

/-- An event sets what its moment says, and nothing else. -/
theorem Occurs.setsInputs
    (hbrings : ∀ work outcome, brings work outcome → Outcome.Of work outcome)
    (hrun : Run brings (.start debounce start) ms w) (hoccurs : Occurs brings w now event u) :
    (⟨w, now, event, u⟩ : Moment P).SetsInputs := by
  rcases hoccurs.engine_eq_handle with ⟨_, _, _, _, hengine⟩
  have hinputs : u.engine.inputs = (w.engine.handle now event).inputs := by
    rw [hengine]
  cases event with
  | command command =>
    rw [Engine.handle, Engine.inputs_apply] at hinputs
    cases command <;> constructor <;> rw [hinputs] <;> rfl
  | fire =>
    have htree : u.engine.state.treeRoot = (w.engine.fire now).state.treeRoot := by
      rw [hengine]
      rfl
    rcases w.engine.inputs_fire now with ⟨_, hfire⟩
    rw [Engine.handle] at hinputs
    constructor
    case selection =>
      rw [hinputs, Moment.selection?]
      rcases w.engine.selection_fire now with ⟨hselection, hsame⟩ | ⟨hnone, hshown, hgone⟩
      · rw [hselection, if_neg]
        · rfl
        · rintro ⟨hshown, hgone⟩
          exact hshown (hsame.symm.trans (htree.symm.trans hgone))
      · rw [hnone, if_pos ⟨hshown, htree.trans hgone⟩]
        rfl
    all_goals
      rw [hinputs, hfire]
      rfl
  | complete c =>
    rw [Engine.handle] at hinputs
    have htakes := hrun.takes hbrings hoccurs
    generalize w.engine.commit now c = e at htakes hinputs
    cases htakes with
    | passed _ hpassed =>
      have hparse : (⟨w, now, .complete c, u⟩ : Moment P).parse? = none :=
        Moment.parse?_of_passed rfl hpassed
      constructor <;> rw [hinputs]
      case grammarTag => rw [Moment.grammarTag?, hparse]; rfl
      case selection => rw [Moment.selection?, hparse]; rfl
      all_goals rfl
    | parsed generation plugin source tree hcurrent hinstalled hbrought =>
      have hparse : Moment.parse?
          ⟨w, now, .complete ⟨generation, .tree plugin source (.ok tree)⟩, u⟩ =
          some ⟨plugin, source, tree⟩ := if_pos hcurrent
      rcases Engine.afterParse_eq { w.engine with
        scheduler := w.engine.scheduler.finish .tree generation } source tree with ⟨_, hafter⟩
      rw [hafter] at hinputs
      constructor <;> rw [hinputs]
      case grammarTag =>
        rw [Moment.grammarTag?, hparse, Option.bind_some]
        dsimp only
        split <;> rfl
      case selection => rw [Moment.selection?, hparse]; rfl
      all_goals rfl
    | failed =>
      rw [Engine.learnDefaultTag_eq] at hinputs
      constructor <;> rw [hinputs] <;> rfl
    | evaluated => constructor <;> rw [hinputs] <;> rfl

/-- After every history the inputs are what was commanded in it. -/
theorem Run.commanded (hbrings : ∀ work outcome, brings work outcome → Outcome.Of work outcome)
    (hrun : Run brings (.start debounce start) ms w) : w.engine.Commanded ms := by
  induction hrun with
  | refl => exact ⟨rfl, rfl, rfl, rfl, rfl⟩
  | snoc hrun hoccurs ih =>
    have hsets := hoccurs.setsInputs hbrings hrun
    constructor
    · rw [hsets.expression, ih.expression, lastOf?_snoc, Option.getD_or]
    · rw [hsets.contextText, ih.contextText, lastOf?_snoc, Option.getD_or]
    · rw [hsets.plugin, ih.plugin, lastOf?_snoc, Option.getD_or]
    · rw [hsets.grammarTag, ih.grammarTag, lastOf?_snoc, Option.getD_or]
    · rw [hsets.selection, ih.selection, lastOf?_snoc, Option.getD_or]

end History

end GrammarDesk.Inspector
