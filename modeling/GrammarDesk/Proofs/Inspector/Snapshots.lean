import Mathlib
import GrammarDesk.Proofs.Inspector.Batch
import GrammarDesk.Proofs.Inspector.Renewal
import GrammarDesk.Proofs.Tree.Walk

/-!
# Whatever is published hangs together

Many parts of an event write to the state, and most of them publish it at once, also while other
values are still to be computed in the same event.  In each snapshot all that belongs to a tree
belongs to its own tree, and a mark is that of its own selection.

Main definitions:

- `Snapshot.Coherent`: the parts of a snapshot fit one another.
- `Engine.Coherent`: what an engine holds and has published so far is coherent.

Main results:

- `coherent_stable`: every part of an event keeps all this coherent.
- `Run.published_coherent`: every snapshot that is ever published is coherent.
-/

namespace GrammarDesk.Inspector

open Json GrammarDesk.Tree Grammar

variable {P : Type}

/-- The parts of a snapshot fit one another. -/
structure Snapshot.Coherent (s : Snapshot) : Prop where
  /-- Tokens, marks and error are those of the tree, and without a tree there are none. -/
  walked : (s.tokens, s.marks, s.outputError) = walkOf s.treeRoot
  read : s.context = none ∨ s.contextError = none
  answered : s.evalError ≠ none → s.output = none
  /-- The mark of an earlier selection is never shown. -/
  marked : s.selectionMark = none ∨ s.selectionMark = s.selection.map Mark.selection

/-- No error is shown exactly when no node of the tree carries one. -/
theorem Snapshot.Coherent.outputError_eq_none_iff {s : Snapshot} (h : s.Coherent) {tree : Node}
    (htree : s.treeRoot = some tree) :
    s.outputError = none ↔ ∀ n : Node, n.Within tree → n.error = none := by
  have hwalked := h.walked
  rw [htree, walkOf, Prod.mk.injEq, Prod.mk.injEq] at hwalked
  rw [hwalked.2.2, walk_firstError_eq_none_iff]

namespace Engine

/-- The state is coherent, and so is all that has been published; and the mark is that of the
selection unless it is still to be drawn. -/
structure Coherent (e : Engine P) (due : List (Derived × Nat)) : Prop where
  state : e.state.Coherent
  published : e.published.Coherent
  sent : ∀ snapshot, .publish snapshot ∈ e.outbox → snapshot.Coherent
  selected : e.state.selection = e.inputs.selection
  drawn : ¬ e.scheduler.Waits due .selectionMark →
    e.state.selectionMark = e.state.selection.map Mark.selection

namespace Coherent

variable {e : Engine P} {due due' : List (Derived × Nat)}

/-- What is coherent may be published. -/
theorem publish (hstate : e.state.Coherent)
    (hsent : ∀ snapshot, .publish snapshot ∈ e.outbox → snapshot.Coherent)
    (hselected : e.state.selection = e.inputs.selection)
    (hdrawn : ¬ e.scheduler.Waits due .selectionMark →
      e.state.selectionMark = e.state.selection.map Mark.selection) :
    e.publish.Coherent due := by
  have hcounted : ({ e.state with revision := e.state.revision + 1 } : Snapshot).Coherent :=
    ⟨hstate.walked, hstate.read, hstate.answered, hstate.marked⟩
  refine ⟨hcounted, hcounted, ?_, hselected, hdrawn⟩
  intro snapshot hmem
  rcases List.mem_append.mp hmem with hold | hnew
  · exact hsent snapshot hold
  · cases List.mem_singleton.mp hnew
    exact hcounted

/-- A coherent state with the old selection may be published. -/
theorem replace (h : e.Coherent due) (s : Snapshot) (hstate : s.Coherent)
    (hselection : s.selection = e.state.selection)
    (hmark : s.selectionMark = e.state.selectionMark ∨
      s.selectionMark = s.selection.map Mark.selection) :
    ({ e with state := s } : Engine P).publish.Coherent due := by
  apply publish (e := { e with state := s }) hstate h.sent (hselection.trans h.selected)
  intro hnot
  rcases hmark with hsame | hdrawn
  · exact hsame.trans ((h.drawn hnot).trans (by rw [← hselection]))
  · exact hdrawn

/-- Only the mark depends on what is still to be computed. -/
theorem reschedule (h : e.Coherent due) (s : Scheduler (Job P))
    (hwaits : e.scheduler.Waits due .selectionMark → s.Waits due' .selectionMark) :
    ({ e with scheduler := s } : Engine P).Coherent due' :=
  ⟨h.state, h.published, h.sent, h.selected,
    fun hnot => h.drawn fun hwaited => hnot (hwaits hwaited)⟩

theorem invalidate (h : e.Coherent due) (now : Time) (keys : List Derived) :
    (e.invalidate now keys).Coherent due :=
  h.reschedule _ fun hwaited => hwaited.invalidateAll keys now

/-- An effect other than a publication shows nothing. -/
theorem emit (h : e.Coherent due) (effect : Effect P)
    (hother : ∀ snapshot, effect ≠ .publish snapshot) : (e.emit effect).Coherent due := by
  refine ⟨h.state, h.published, ?_, h.selected, h.drawn⟩
  intro snapshot hmem
  rcases List.mem_append.mp hmem with hold | hnew
  · exact h.sent snapshot hold
  · exact absurd (List.mem_singleton.mp hnew).symm (hother snapshot)

theorem inputChanged (h : e.Coherent due) (now : Time) (inputs : Inputs P) (input : Input)
    (hselection : inputs.selection = e.inputs.selection) :
    ({ e with inputs := inputs }.inputChanged now input).Coherent due := by
  have hshown : ({ e with inputs := inputs } : Engine P).showInputs.Coherent due :=
    ⟨⟨h.state.walked, h.state.read, h.state.answered, h.state.marked⟩, h.published, h.sent,
      h.selected.trans hselection.symm, h.drawn⟩
  exact hshown.invalidate now input.dependents

theorem apply [DecidableEq P] (h : e.Coherent due) (now : Time) (command : Command P) :
    (e.apply now command).Coherent due := by
  cases command with
  | settle waiter => exact ⟨h.state, h.published, h.sent, h.selected, h.drawn⟩
  | select node =>
    have hwaits : (e.scheduler.invalidateAll Input.selection.dependents now).Waits due
        .selectionMark := Scheduler.waits_invalidateAll _ due (by decide) now
    have hpublished : ({ e with
          inputs := { e.inputs with selection := node }
          state := { e.state with selection := node, selectionMark := none }
          scheduler := e.scheduler.invalidateAll Input.selection.dependents now } :
        Engine P).publish.Coherent due :=
      publish ⟨h.state.walked, h.state.read, h.state.answered, Or.inl rfl⟩ h.sent rfl
        fun hnot => absurd hwaits hnot
    exact ⟨⟨hpublished.state.walked, hpublished.state.read, hpublished.state.answered,
      hpublished.state.marked⟩, hpublished.published, hpublished.sent, rfl, hpublished.drawn⟩
  | _ =>
    rw [Engine.apply, replaceInput]
    split
    · exact h
    · exact h.inputChanged now _ _ rfl

/-- A job that is started shows nothing. -/
theorem startJob (h : e.Coherent due) (job : Job P) : (e.startJob job).Coherent due := by
  unfold Engine.startJob
  split
  · apply emit
    · exact h.reschedule _ fun hwaited => hwaited.track _ _ _
    · exact fun _ heq => by cases heq
  · exact h

/-- Without a tree nothing of it is shown, and nothing is selected in it. -/
theorem clearTree (h : e.Coherent due) (now : Time) :
    (e.clearTree.publish.invalidate now Derived.tree.dependents).Coherent due :=
  (publish (e := e.clearTree) ⟨rfl, h.state.read, h.state.answered, Or.inl rfl⟩ h.sent rfl
    fun _ => rfl).invalidate now _

theorem recompute {key : Derived} {generation : Nat} (h : e.Coherent ((key, generation) :: due))
    (now : Time) : (e.recompute now key generation).Coherent due := by
  have htail : key ≠ .selectionMark → e.Coherent due := fun hkey =>
    h.reschedule e.scheduler fun hwaited => hwaited.tail fun heq => absurd heq hkey
  have hrecomputes := e.recomputes now key generation
  generalize e.recompute now key generation = e' at hrecomputes
  cases hrecomputes with
  | contextRead =>
    have hcoherent := htail (by decide)
    have hread : (contextOf (parseContext e.inputs.contextText)).1 = none ∨
        (contextOf (parseContext e.inputs.contextText)).2 = none := by
      cases parseContext e.inputs.contextText with
      | ok context => exact Or.inr rfl
      | error message => exact Or.inl rfl
    have hstate : ({ e.state with
        context := (contextOf (parseContext e.inputs.contextText)).1
        contextError := (contextOf (parseContext e.inputs.contextText)).2 } : Snapshot).Coherent :=
      ⟨h.state.walked, hread, h.state.answered, h.state.marked⟩
    exact (hcoherent.replace _ hstate rfl (Or.inl rfl)).invalidate now Derived.context.dependents
  | parseStarted => exact (htail (by decide)).startJob _
  | treeGone => exact (htail (by decide)).clearTree now
  | treeless => exact htail (by decide)
  | evalStarted => exact (htail (by decide)).startJob _
  | outputGone =>
    have hstate : ({ e.state with output := none, evalError := none } : Snapshot).Coherent :=
      ⟨h.state.walked, h.state.read, fun _ => rfl, h.state.marked⟩
    exact (htail (by decide)).replace _ hstate rfl (Or.inl rfl)
  | outputless => exact htail (by decide)
  | marked =>
    have hdrawn : e.inputs.selection.map Mark.selection = e.state.selection.map Mark.selection := by
      rw [h.selected]
    exact publish ⟨h.state.walked, h.state.read, h.state.answered, Or.inr hdrawn⟩ h.sent h.selected
      fun _ => hdrawn
  | unmarked hsame =>
    refine ⟨h.state, h.published, h.sent, h.selected, fun _ => ?_⟩
    rw [h.selected, hsame]

/-- A tree is shown with what belongs to it, and the selection in the old one is gone. -/
theorem showTree (h : e.Coherent due) (source : TreeSource) (tree : Node) (now : Time) :
    ((e.afterParse source tree).publish.invalidate now Derived.tree.dependents).Coherent due := by
  rcases e.afterParse_eq source tree with ⟨shown, heq⟩
  rw [heq]
  apply invalidate
  apply publish
  · exact ⟨rfl, h.state.read, h.state.answered, Or.inl rfl⟩
  · exact h.sent
  · rfl
  · exact fun _ => rfl

theorem takeOutcome [DecidableEq P] (h : e.Coherent due) (now : Time) (outcome : Outcome P) :
    (e.takeOutcome now outcome).Coherent due := by
  have hreceives := e.receives now outcome
  generalize e.takeOutcome now outcome = e' at hreceives
  cases hreceives with
  | shown plugin source tree => exact h.showTree source tree now
  | reported =>
    apply emit
    · exact ⟨h.state, h.published, h.sent, h.selected, h.drawn⟩
    · exact fun _ heq => by cases heq
  | answered serial result =>
    have hanswered : (answerOf result).2 ≠ none → (answerOf result).1 = none := by
      cases result <;> simp [answerOf]
    exact h.replace _ ⟨h.state.walked, h.state.read, hanswered, h.state.marked⟩ rfl (Or.inl rfl)
  | foreign | outdated => exact h

theorem commit [DecidableEq P] (h : e.Coherent due) (now : Time) (c : Completion P) :
    (e.commit now c).Coherent due := by
  rcases e.commit_cases now c with ⟨hcurrent, heq⟩ | ⟨_, heq⟩
  · rw [heq]
    -- no job brings a mark back
    have hother : Derived.selectionMark ≠ c.outcome.key := by
      intro hkey
      cases houtcome : c.outcome <;> rw [houtcome] at hkey <;> cases hkey
    apply takeOutcome
    exact h.reschedule _ fun hwaited => hwaited.finish c.generation hother
  · rw [heq]
    exact h

end Coherent

end Engine

/-! ## In the course of a history -/

section History

variable [DecidableEq P] {brings : Work P → Outcome P → Prop} {debounce start : Time}
  {ms : List (Moment P)} {w : World P}

/-- Every part of an event keeps what is shown, and what has been published, coherent. -/
theorem coherent_stable (brings : Work P → Outcome P → Prop) :
    Stable brings fun e _ due => e.Coherent due where
  start debounce now := by
    have hblank : Snapshot.blank.Coherent :=
      ⟨rfl, Or.inl rfl, fun _ => rfl, Or.inl rfl⟩
    exact ⟨hblank, hblank, fun _ hmem => (by cases hmem), rfl, fun _ => rfl⟩
  apply now command _ h := h.apply now command
  takeDue now _ h := h.reschedule _ fun hwaited => hwaited.takeDue now
  recompute now h := h.recompute now
  arrive now _ _ _ h := h.commit now _
  showBusy {e underWay} h := by
    rcases e.showBusy_cases with heq | heq
    · rw [heq]
      exact h
    · have hstate : ({ e.state with isBusy := e.isBusy } : Snapshot).Coherent :=
        ⟨h.state.walked, h.state.read, h.state.answered, h.state.marked⟩
      rw [heq]
      exact h.replace _ hstate rfl (Or.inl rfl)
  releaseWaiters {e underWay} h := by
    rcases e.releaseWaiters_cases with ⟨waiters, released, heq⟩
    rw [heq]
    refine ⟨h.state, h.published, ?_, h.selected, h.drawn⟩
    intro snapshot hmem
    rcases List.mem_append.mp hmem with hold | hnew
    · exact h.sent snapshot hold
    · simp at hnew
  deliver h := ⟨h.state, h.published, fun _ hmem => (by cases hmem), h.selected, h.drawn⟩

/-- What is published in the course of an event is coherent when the event is over. -/
theorem Run.sent_coherent (hrun : Run brings (.start debounce start) ms w) {u : World P}
    {now : Time} {event : Event P} (hoccurs : Occurs brings w now event u) {snapshot : Snapshot}
    (hmem : .publish snapshot ∈ (w.engine.step now event).2) : snapshot.Coherent := by
  have hstable := coherent_stable brings
  rcases hstable.handle hoccurs (hrun.outbox_eq_nil rfl) (hstable.of_run hrun) with
    ⟨underWay, _, hhandled⟩
  have hshown := @Stable.showBusy _ _ _ _ hstable _ underWay hhandled
  exact (@Stable.releaseWaiters _ _ _ _ hstable _ underWay hshown).sent snapshot hmem

/-- Every snapshot that is ever published, also in the middle of an event, shows of its tree what
one walk over it collects and nothing without a tree, so that it shows no error exactly if no node
of the tree carries one; it has either a context or the reason why there is none, and no output
beside the failure of an evaluation; and the mark, if there is one, is that of its own selection.
Between two events the mark is there unless it is still to be drawn. -/
theorem Run.published_coherent {pluginOf : P → Plugin}
    (hrun : Run (Work.MayBring pluginOf) (.start debounce start) ms w) :
    (∀ m ∈ ms, ∀ snapshot, .publish snapshot ∈ (m.before.engine.step m.now m.event).2 →
      snapshot.Coherent ∧ ∀ tree, snapshot.treeRoot = some tree →
        (snapshot.outputError = none ↔ ∀ n : Node, n.Within tree → n.error = none)) ∧
    w.engine.published.Coherent ∧ w.engine.state.Coherent ∧
    w.engine.state.selection = w.engine.inputs.selection ∧
    ((w.engine.scheduler.slot .selectionMark).deadline = none →
      w.engine.state.selectionMark = w.engine.state.selection.map Mark.selection) := by
  have hcoherent := (coherent_stable _).of_run hrun
  refine ⟨?_, hcoherent.published, hcoherent.state, hcoherent.selected, ?_⟩
  · intro m hm snapshot hmem
    rcases List.append_of_mem hm with ⟨past, later, rfl⟩
    rcases hrun.cut rfl with ⟨hbefore, hat, _⟩
    have hsnapshot := hbefore.sent_coherent hat hmem
    exact ⟨hsnapshot, fun tree htree => hsnapshot.outputError_eq_none_iff htree⟩
  · intro hdeadline
    apply hcoherent.drawn
    -- marks are drawn by the engine itself, so their slot never runs a job
    have hidle : (w.engine.scheduler.slot .selectionMark).job = none := by
      cases hjob : (w.engine.scheduler.slot .selectionMark).job with
      | none => rfl
      | some job =>
        have hkey := ((hrun.inOrder fun _ _ h => h.of).runs _ _ hjob).2.1
        cases hwork : job.work <;> rw [hwork] at hkey <;> cases hkey
    simp [Scheduler.Waits, hdeadline, hidle]

end History

/-- A tree comes back, its root is selected, and the mark is drawn.  The snapshot that shows the
mark shows it with its own selection, in a tree without errors. -/
theorem Run.published_coherent_of_selected :
    ∃ (ms : List (Moment Bool)) (w : World Bool) (m : Moment Bool) (snapshot : Snapshot),
      Run (Work.MayBring Sample.plugin) (.start 300 0) ms w ∧ m ∈ ms ∧
      .publish snapshot ∈ (m.before.engine.step m.now m.event).2 ∧
      snapshot.treeRoot = some Sample.leaf ∧
      snapshot.selectionMark = some (Mark.selection Sample.leaf) ∧ snapshot.Coherent ∧
      (∀ n : Node, n.Within Sample.leaf → n.error = none) ∧
      (w.engine.scheduler.slot .selectionMark).deadline = none ∧
      w.engine.state.selectionMark = w.engine.state.selection.map Mark.selection := by
  obtain ⟨ms, w, hrun, hdeadline, snapshot, m, hm, hmem, htree, hmark, herror⟩ : ∃ ms w,
      Run (Work.MayBring Sample.plugin) (.start 300 0) ms w ∧
      (w.engine.scheduler.slot .selectionMark).deadline = none ∧ ∃ snapshot, ∃ m ∈ ms,
      .publish snapshot ∈ (m.before.engine.step m.now m.event).2 ∧
      snapshot.treeRoot = some Sample.leaf ∧
      snapshot.selectionMark = some (Mark.selection Sample.leaf) ∧
      snapshot.outputError = none := by
    exact ⟨_, _, ((((Run.refl.command 0 (.setExpression "1")).command 10
      (.setPlugin (some true))).fire 400).arrive 500 0 _ _ rfl Sample.brings_tree).command 510
      (.select (some Sample.leaf)) |>.fire 510, by cbv, _, _, List.mem_append_right _ (.head _),
      .head _, rfl, rfl, by cbv⟩
  have hcoherent := hrun.published_coherent
  rcases hcoherent.1 m hm snapshot hmem with ⟨hsnapshot, hclean⟩
  exact ⟨ms, w, m, snapshot, hrun, hm, hmem, htree, hmark, hsnapshot,
    (hclean _ htree).mp herror, hdeadline, hcoherent.2.2.2.2 hdeadline⟩

end GrammarDesk.Inspector
