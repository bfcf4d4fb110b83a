import GrammarDesk.Proofs.Inspector.Renewal
import GrammarDesk.Proofs.Inspector.Waiting

/-!
# What an evaluation is made of

An evaluation is made of the tree that is shown, of its source, and of the context that is shown.
Whatever touches these leaves the output to be computed anew in the same event.  Thus an output that
nothing is to replace rests on what is still shown.

Main definitions:

- `Ground`, `Engine.ground`: what an evaluation is made of.
- `Engine.Grounded`: the output rests on what is shown, unless it is still to be computed.

Main results:

- `Engine.ground_handle`: only an event after which the output is computed anew changes its ground.
- `Run.ground_eq`: the ground is the same as long as nothing has renewed the output.
- `Run.grounded`: between any two events the output rests on what is shown.
-/

namespace GrammarDesk.Inspector

open Json GrammarDesk.Tree Grammar

variable {P : Type}

/-- What an evaluation is made of. -/
structure Ground where
  tree : Option Node
  source : Option TreeSource
  /-- The number of the tree. -/
  serial : Nat
  context : Option Value
  /-- The first error in the tree. -/
  error : Option String

/-- The ground on which a tree without errors can be evaluated in a context. -/
def Ground.firm (tree : Node) (source : TreeSource) (serial : Nat) (context : Value) : Ground :=
  ⟨some tree, some source, serial, some context, none⟩

namespace Engine

/-- What an evaluation that starts now is made of. -/
def ground (e : Engine P) : Ground :=
  ⟨e.state.treeRoot, e.source, e.treeSerial, e.state.context, e.state.outputError⟩

/-- There is something to evaluate exactly when there are a plugin and a firm ground. -/
theorem evalWork?_eq_some_iff_firm (e : Engine P) (work : Work P) :
    e.evalWork? = some work ↔
      ∃ plugin tree source context, e.inputs.plugin = some plugin ∧
        e.ground = .firm tree source e.treeSerial context ∧
        work = .eval plugin source context e.treeSerial := by
  simp [evalWork?_eq_some_iff, ground, Ground.firm, and_assoc]

/-! ## Who touches the ground -/

section Frames

variable (e : Engine P) (now : Time)

@[simp]
theorem ground_startJob (job : Job P) : (e.startJob job).ground = e.ground := by
  unfold startJob
  split <;> rfl

@[simp]
theorem ground_apply [DecidableEq P] (command : Command P) :
    (e.apply now command).ground = e.ground := by
  cases command with
  | select node => rfl
  | settle waiter => rfl
  | _ =>
    rw [apply, replaceInput]
    split <;> rfl

/-- The turns of the context and of a tree that goes are the only ones that touch the ground. -/
theorem ground_recompute (key : Derived) (generation : Nat)
    (hcontext : key ≠ .context)
    (htree : ¬ (key = .tree ∧ e.inputs.plugin = none ∧ e.state.treeRoot ≠ none)) :
    (e.recompute now key generation).ground = e.ground := by
  have hrecomputes := e.recomputes now key generation
  generalize e.recompute now key generation = e' at hrecomputes
  cases hrecomputes with
  | contextRead => exact absurd rfl hcontext
  | treeGone hnone hshown => exact absurd ⟨rfl, hnone, hshown⟩ htree
  | parseStarted | evalStarted => exact ground_startJob e _
  | _ => rfl

/-- A turn that is not due touches nothing, and one that is due touches the ground only if it renews
the output. -/
theorem ground_stage (s : Scheduler (Job P)) (key : Derived)
    (hcontext : key = .context → (s.slot .context).isDue now ≠ true)
    (htree : key = .tree →
      ¬ ((s.slot .tree).isDue now = true ∧ e.inputs.plugin = none ∧ e.state.treeRoot ≠ none)) :
    (stage s now e key).ground = e.ground := by
  unfold stage
  split
  · next hdue =>
    apply ground_recompute
    · rintro rfl
      exact hcontext rfl hdue
    · rintro ⟨rfl, hgone⟩
      exact htree rfl ⟨hdue, hgone⟩
  · rfl

/-- The engine in the middle of a pass, when the turn of the output has come. -/
def evaluating : Engine P :=
  [Derived.context, Derived.tree].foldl (stage e.scheduler now)
    { e with scheduler := (e.scheduler.takeDue now).2 }

/-- After the turn of the output only that of the mark is left. -/
theorem fire_eq_evaluating :
    e.fire now = stage e.scheduler now (stage e.scheduler now (e.evaluating now) .output)
      .selectionMark :=
  e.fire_eq now

/-- The rest of a pass leaves the ground on which the output had its turn. -/
theorem ground_fire : (e.fire now).ground = (e.evaluating now).ground := by
  rw [fire_eq_evaluating, ground_stage, ground_stage] <;> simp

theorem ground_evaluating (hnot : ¬ e.Renews now .fire) :
    (e.evaluating now).ground = e.ground := by
  have hcontext : (e.scheduler.slot .context).isDue now ≠ true := fun hdue => hnot (Or.inl hdue)
  -- the turn of the context does not come, so the tree meets the engine as it was
  have hstage : ∀ e' : Engine P, stage e.scheduler now e' .context = e' := fun _ => if_neg hcontext
  simp only [evaluating, List.foldl_cons, List.foldl_nil, hstage]
  rw [ground_stage]
  · rfl
  · simp
  · exact fun _ hgone => hnot (Or.inr hgone)

variable [DecidableEq P]

/-- A result leaves the ground unless it is a new tree. -/
theorem ground_takeOutcome (outcome : Outcome P) (hnot : ¬ e.Shows outcome) :
    (e.takeOutcome now outcome).ground = e.ground := by
  have hreceives := e.receives now outcome
  generalize e.takeOutcome now outcome = e' at hreceives
  cases hreceives with
  | shown plugin source tree hinstalled =>
    exact absurd ⟨plugin, source, tree, rfl, hinstalled⟩ hnot
  | _ => rfl

theorem ground_commit (c : Completion P) (hnot : ¬ e.Renews now (.complete c)) :
    (e.commit now c).ground = e.ground := by
  rcases e.commit_cases now c with ⟨hcurrent, heq⟩ | ⟨_, heq⟩
  · rw [heq]
    exact ground_takeOutcome _ now c.outcome fun hshows => hnot ⟨hcurrent, hshows⟩
  · rw [heq]

/-- Only an event after which the output is to be computed anew changes its ground. -/
theorem ground_handle (event : Event P) (hnot : ¬ e.Renews now event) :
    (e.handle now event).ground = e.ground := by
  cases event with
  | command command => exact e.ground_apply now command
  | fire => exact (e.ground_fire now).trans (e.ground_evaluating now hnot)
  | complete c => exact e.ground_commit now c hnot

end Frames

/-! ## Outputs that stay -/

/-- The output came of an evaluation, and unless it is still to be computed this was made of what is
shown. -/
def Grounded (brings : Work P → Outcome P → Prop) (e : Engine P) (due : List (Derived × Nat)) :
    Prop :=
  e.answer = (none, none) ∨ ∃ plugin tree source context serial result,
    brings (.eval plugin source context serial) (.output serial result) ∧
      e.answer = answerOf result ∧
      (¬ e.scheduler.Waits due .output → e.ground = .firm tree source serial context)

namespace Grounded

variable {brings : Work P → Outcome P → Prop} {e e' : Engine P} {due due' : List (Derived × Nat)}

/-- Whatever leaves the ground alone, and takes no waiting from the output, keeps it grounded. -/
theorem of_eq (h : e.Grounded brings due) (hground : e'.ground = e.ground)
    (hanswer : e'.answer = e.answer)
    (hwaits : e.scheduler.Waits due .output → e'.scheduler.Waits due' .output) :
    e'.Grounded brings due' := by
  rw [Grounded, hground, hanswer]
  refine h.imp id ?_
  rintro ⟨plugin, tree, source, context, serial, result, hbrought, hresult, hfirm⟩
  exact ⟨plugin, tree, source, context, serial, result, hbrought, hresult,
    fun hnot => hfirm fun hwaited => hnot (hwaits hwaited)⟩

/-- Whatever leaves the output itself alone keeps it grounded while it is still to be computed. -/
theorem of_waits (h : e.Grounded brings due) (hanswer : e'.answer = e.answer)
    (hwaits : e'.scheduler.Waits due' .output) : e'.Grounded brings due' := by
  rw [Grounded, hanswer]
  refine h.imp id ?_
  rintro ⟨plugin, tree, source, context, serial, result, hbrought, hresult, _⟩
  exact ⟨plugin, tree, source, context, serial, result, hbrought, hresult,
    fun hnot => absurd hwaits hnot⟩

theorem apply [DecidableEq P] (h : e.Grounded brings due) (now : Time) (command : Command P) :
    (e.apply now command).Grounded brings due := by
  apply h.of_eq (e.ground_apply now command)
  · cases command with
    | select node => rfl
    | settle waiter => rfl
    | _ =>
      rw [Engine.apply, replaceInput]
      split <;> rfl
  · intro hwaited
    rw [scheduler_apply]
    split
    · exact hwaited.invalidateAll _ now
    · exact hwaited

theorem takeDue (h : e.Grounded brings []) (now : Time) :
    ({ e with scheduler := (e.scheduler.takeDue now).2 } : Engine P).Grounded brings
      (e.scheduler.takeDue now).1 :=
  h.of_eq rfl rfl fun hwaited => hwaited.takeDue now

/-- A job that is started leaves what is shown alone. -/
theorem startJob {job : Job P} (h : e.Grounded brings due) :
    (e.startJob job).Grounded brings due := by
  apply h.of_eq (e.ground_startJob job)
  · unfold Engine.startJob
    split <;> rfl
  · intro hwaited
    rw [scheduler_startJob]
    exact hwaited.track _ _ _

/-- When its turn comes the output waits for a job, or else there is nothing to evaluate. -/
theorem recompute {key : Derived} {generation : Nat}
    (h : e.Grounded brings ((key, generation) :: due)) (now : Time) :
    (e.recompute now key generation).Grounded brings due := by
  have htail : key ≠ .output → e.Grounded brings due := fun hkey =>
    h.of_eq rfl rfl fun hwaited => hwaited.tail fun heq => absurd heq hkey
  have hrecomputes := e.recomputes now key generation
  generalize e.recompute now key generation = e' at hrecomputes
  cases hrecomputes with
  | contextRead | treeGone =>
    exact h.of_waits rfl (Scheduler.waits_invalidateAll _ due (by decide) now)
  | parseStarted plugin _ => exact (htail (by decide)).startJob
  | treeless => exact htail (by decide)
  | evalStarted =>
    cases hcurrent : e.scheduler.isCurrent .output generation with
    | true =>
      apply h.of_waits
      · unfold Engine.startJob
        split <;> rfl
      · rw [scheduler_startJob]
        exact e.scheduler.waits_track due hcurrent _
    | false =>
      exact startJob (h.of_eq rfl rfl fun hwaited => hwaited.tail fun _ => hcurrent)
  | outputGone => exact Or.inl rfl
  | outputless _ houtput herror => exact Or.inl (Prod.ext houtput herror)
  | marked => exact (htail (by decide)).of_eq rfl rfl id
  | unmarked => exact htail (by decide)

end Grounded

end Engine

/-! ## In the course of a history -/

section History

variable [DecidableEq P] {brings : Work P → Outcome P → Prop} {debounce start now : Time}
  {ms : List (Moment P)} {w v u : World P} {event : Event P}

theorem Occurs.ground_eq (hoccurs : Occurs brings w now event u) :
    u.engine.ground = (w.engine.handle now event).ground := by
  rcases hoccurs.engine_eq_handle with ⟨_, _, _, _, hengine⟩
  rw [hengine]
  rfl

/-- The ground is the same as long as nothing has renewed the output. -/
theorem Run.ground_eq (hrun : Run brings w ms v) (hnot : ∀ m ∈ ms, ¬ m.Renews) :
    v.engine.ground = w.engine.ground ∧ ∀ m ∈ ms, m.after.engine.ground = w.engine.ground := by
  induction hrun with
  | refl => simp
  | @snoc ms v u now event hrun hoccurs ih =>
    rw [List.forall_mem_append, List.forall_mem_singleton] at hnot ⊢
    have hlater := ih hnot.1
    have hsame : u.engine.ground = w.engine.ground := by
      rw [hoccurs.ground_eq, v.engine.ground_handle now event hnot.2, hlater.1]
    exact ⟨hsame, hlater.2, hsame⟩

/-- Between any two events the output rests on what is shown, unless it is still to be computed. -/
theorem Run.grounded (hbrings : ∀ work outcome, brings work outcome → Outcome.Of work outcome)
    (hrun : Run brings (.start debounce start) ms w) : w.engine.Grounded brings [] := by
  induction hrun with
  | refl => exact Or.inl rfl
  | @snoc ms v u now event hrun hoccurs ih =>
    rcases hoccurs.engine_eq_handle with ⟨_, _, _, _, hengine⟩
    have hdone : (v.engine.handle now event).Grounded brings [] → u.engine.Grounded brings [] := by
      rw [hengine]
      exact fun h => h.of_eq rfl rfl id
    apply hdone
    cases event with
    | command command => exact ih.apply now command
    | fire =>
      exact Engine.fire_induction (Engine.Grounded brings) (ih.takeDue now)
        fun _ _ _ _ h => h.recompute now
    | complete c =>
      have htakes := hrun.takes hbrings hoccurs
      rw [Engine.handle]
      generalize v.engine.commit now c = e at htakes
      cases htakes with
      | passed _ _ => exact ih
      | parsed generation plugin source tree _ _ _ =>
        exact ih.of_waits (Engine.answer_afterParse _ source tree)
          (Scheduler.waits_invalidateAll _ [] (by decide) now)
      | failed generation plugin source failure _ _ _ =>
        rw [Engine.learnDefaultTag_eq]
        exact ih.of_eq rfl rfl fun hwaited => hwaited.finish generation (by decide)
      | evaluated generation job plugin tree source context result _ htree hsource hcontext herror _
          hwork hbrought =>
        rw [hwork] at hbrought
        refine Or.inr ⟨plugin, tree, source, context, _, result, hbrought, rfl, fun _ => ?_⟩
        simp [Engine.ground, Ground.firm, Engine.publish, Engine.emit, htree, hsource, hcontext,
          herror]

end History

end GrammarDesk.Inspector
