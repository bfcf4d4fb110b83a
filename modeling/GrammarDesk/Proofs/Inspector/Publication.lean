import GrammarDesk.Proofs.Inspector.Telling
import GrammarDesk.Proofs.Inspector.Waiting

/-!
# What is published is the state

The state shows the inputs, and is published whenever a derived value has changed.  A command that
changes an input does not publish it.  But then the engine is busy, and either it was not before, so
that it says so and publishes the state with that, or it will say so when it comes to rest.

Main definitions:

- `Engine.Mirrors`: the state shows the inputs.
- `Engine.Speaks`: nothing is published, or the state under its next revision.
- `Engine.Visible`: what has been published in a history so far, and how it differs from the state.
- `Engine.Timely`: the state is published, or shown as busy.

Main results:

- `Engine.speaks_recompute`, `Engine.speaks_commit`: a value computed anew and a result that is
  taken are published at once.
- `Run.visible`: in every history revisions are counted up one by one, and what is shown differs
  from the state in inputs at most, and only while the engine is shown as busy.
-/

namespace GrammarDesk.Inspector

open Json GrammarDesk.Tree Grammar

variable {P : Type}

namespace Engine

/-! ## Inputs in the state -/

/-- The state shows the inputs. -/
structure Mirrors (e : Engine P) : Prop where
  expression : e.state.expression = e.inputs.expression
  contextText : e.state.contextText = e.inputs.contextText
  grammarTag : e.state.grammarTag = e.inputs.grammarTag

namespace Mirrors

variable {e : Engine P}

/-- Inputs that are shown need not be shown again. -/
theorem showInputs_eq (h : e.Mirrors) : e.showInputs = e := by
  unfold showInputs
  rw [← h.expression, ← h.contextText, ← h.grammarTag]

/-- A command leaves the inputs and the state in step. -/
theorem apply [DecidableEq P] (h : e.Mirrors) (now : Time) (command : Command P) :
    (e.apply now command).Mirrors := by
  cases command with
  | select node => exact ⟨rfl, rfl, rfl⟩
  | settle waiter => exact ⟨h.expression, h.contextText, h.grammarTag⟩
  | _ =>
    rw [Engine.apply, replaceInput]
    split
    · exact h
    · exact ⟨rfl, rfl, rfl⟩

/-- A job that starts leaves the inputs and the state in step. -/
theorem startJob (h : e.Mirrors) (job : Job P) : (e.startJob job).Mirrors := by
  unfold Engine.startJob
  split
  · exact ⟨h.expression, h.contextText, h.grammarTag⟩
  · exact h

/-- The turn of a value leaves the inputs and the state in step. -/
theorem recompute (h : e.Mirrors) (now : Time) (key : Derived) (generation : Nat) :
    (e.recompute now key generation).Mirrors := by
  have hrecomputes := e.recomputes now key generation
  generalize e.recompute now key generation = e' at hrecomputes
  cases hrecomputes with
  | contextRead | treeGone | outputGone | marked =>
    exact ⟨h.expression, h.contextText, h.grammarTag⟩
  | parseStarted | evalStarted => exact h.startJob _
  | treeless | outputless | unmarked => exact h

/-- A tag that is adopted is shown at once. -/
theorem adoptTag (h : e.Mirrors) (rootTag : String) : (e.adoptTag rootTag).Mirrors := by
  unfold Engine.adoptTag
  split
  · exact ⟨h.expression, h.contextText, rfl⟩
  · exact h

/-- A tree that is shown leaves the inputs and the state in step. -/
theorem afterParse (h : e.Mirrors) (source : TreeSource) (tree : Node) :
    (e.afterParse source tree).Mirrors := by
  have hlearnt : (e.learnDefaultTag source.rootTag).Mirrors := by
    rw [learnDefaultTag_eq]
    exact ⟨h.expression, h.contextText, h.grammarTag⟩
  have hadopted := hlearnt.adoptTag source.rootTag
  exact ⟨hadopted.expression, hadopted.contextText, hadopted.grammarTag⟩

/-- An outcome leaves the inputs and the state in step. -/
theorem takeOutcome [DecidableEq P] (h : e.Mirrors) (now : Time) (outcome : Outcome P) :
    (e.takeOutcome now outcome).Mirrors := by
  have hreceives := e.receives now outcome
  generalize e.takeOutcome now outcome = e' at hreceives
  cases hreceives with
  | shown plugin source tree =>
    have hparsed := h.afterParse source tree
    exact ⟨hparsed.expression, hparsed.contextText, hparsed.grammarTag⟩
  | reported | answered => exact ⟨h.expression, h.contextText, h.grammarTag⟩
  | foreign | outdated => exact h

/-- A job that comes back leaves the inputs and the state in step. -/
theorem commit [DecidableEq P] (h : e.Mirrors) (now : Time) (c : Completion P) :
    (e.commit now c).Mirrors := by
  rcases e.commit_cases now c with ⟨_, heq⟩ | ⟨_, heq⟩
  · rw [heq]
    apply takeOutcome
    exact ⟨h.expression, h.contextText, h.grammarTag⟩
  · rw [heq]
    exact h

end Mirrors

/-! ## One publication at most -/

/-- Nothing is published and the state stays, or the state is published under its next revision. -/
inductive Speaks (e e' : Engine P) : Prop where
  | silent (hstate : e'.state = e.state) (hpublished : e'.published = e.published)
      (hsent : snapshotsOf e'.outbox = snapshotsOf e.outbox)
  | aloud (hrevision : e'.state.revision = e.state.revision + 1)
      (hpublished : e'.published = e'.state)
      (hsent : snapshotsOf e'.outbox = snapshotsOf e.outbox ++ [e'.state])

/-- What is published is told after all else. -/
theorem snapshotsOf_publish (e : Engine P) :
    snapshotsOf e.publish.outbox = snapshotsOf e.outbox ++ [e.publish.state] := by
  simp [publish, emit, snapshotsOf]

/-- To change derived values and to publish the state is to speak once. -/
theorem speaks_publish {e e' : Engine P} (hrevision : e'.state.revision = e.state.revision)
    (houtbox : e'.outbox = e.outbox) : e.Speaks e'.publish := by
  refine .aloud ?_ rfl ?_
  · rw [← hrevision]
    rfl
  · rw [snapshotsOf_publish, houtbox]

theorem speaks_startJob (e : Engine P) (job : Job P) : e.Speaks (e.startJob job) := by
  have hsent := e.snapshotsOf_startJob job
  unfold startJob at hsent ⊢
  split
  · next hcurrent =>
    rw [if_pos hcurrent] at hsent
    exact .silent rfl rfl hsent
  · exact .silent rfl rfl rfl

/-- A value that has changed is published at once. -/
theorem speaks_recompute (e : Engine P) (now : Time) (key : Derived) (generation : Nat) :
    e.Speaks (e.recompute now key generation) := by
  have hrecomputes := e.recomputes now key generation
  generalize e.recompute now key generation = e' at hrecomputes
  cases hrecomputes with
  | contextRead => exact .aloud rfl rfl (snapshotsOf_publish _)
  | treeGone => exact .aloud rfl rfl (snapshotsOf_publish _)
  | outputGone | marked => exact speaks_publish rfl rfl
  | parseStarted | evalStarted => exact e.speaks_startJob _
  | treeless | outputless | unmarked => exact .silent rfl rfl rfl

/-- A result that is taken is published at once. -/
theorem speaks_takeOutcome [DecidableEq P] (e : Engine P) (now : Time) (outcome : Outcome P) :
    e.Speaks (e.takeOutcome now outcome) := by
  have hreceives := e.receives now outcome
  generalize e.takeOutcome now outcome = e' at hreceives
  cases hreceives with
  | shown plugin source tree =>
    rcases e.afterParse_eq source tree with ⟨_, hafter⟩
    rw [hafter]
    exact .aloud rfl rfl (snapshotsOf_publish _)
  | reported =>
    refine .silent rfl rfl ?_
    simp [emit, snapshotsOf]
  | answered => exact speaks_publish rfl rfl
  | foreign | outdated => exact .silent rfl rfl rfl

/-- A job that comes back tells every state that it publishes. -/
theorem speaks_commit [DecidableEq P] (e : Engine P) (now : Time) (c : Completion P) :
    e.Speaks (e.commit now c) := by
  rcases e.commit_cases now c with ⟨_, heq⟩ | ⟨_, heq⟩
  · rw [heq]
    cases speaks_takeOutcome { e with scheduler := e.scheduler.finish c.outcome.key c.generation }
        now c.outcome with
    | silent hstate hpublished hsent => exact .silent hstate hpublished hsent
    | aloud hrevision hpublished hsent => exact .aloud hrevision hpublished hsent
  · rw [heq]
    exact .silent rfl rfl rfl

/-- Showing whether the engine is busy tells the state that it publishes. -/
theorem speaks_showBusy (e : Engine P) : e.Speaks e.showBusy := by
  rcases e.showBusy_cases with heq | heq
  · rw [heq]
    exact .silent rfl rfl rfl
  · rw [heq]
    exact speaks_publish rfl rfl

/-! ## What can be seen of the state -/

/-- An engine is busy exactly if some slot waits or runs. -/
theorem isBusy_iff (e : Engine P) :
    e.isBusy = true ↔
      ∃ key, (e.scheduler.slot key).deadline ≠ none ∨ (e.scheduler.slot key).job ≠ none := by
  have hidle : e.isBusy = true ↔ ¬ e.scheduler.isIdle = true := by
    simp [isBusy]
  rw [hidle, Scheduler.isIdle_iff, Classical.not_forall]
  simp only [Classical.not_and_iff_not_or_not, ne_eq]

/-- After a change of an input there is something to compute. -/
theorem isBusy_inputChanged (e : Engine P) (now : Time) (input : Input) :
    (e.inputChanged now input).isBusy = true := by
  obtain ⟨key, hkey⟩ : ∃ key, key ∈ input.dependents := by
    cases input <;> exact ⟨_, List.mem_cons_self⟩
  have hwaits : (e.inputChanged now input).scheduler.Waits [] key :=
    e.scheduler.waits_invalidateAll [] hkey now
  rw [isBusy_iff]
  rcases hwaits with hdeadline | hjob | hturn
  · exact ⟨key, Or.inl hdeadline⟩
  · exact ⟨key, Or.inr hjob⟩
  · cases hturn

/-- The state shows the inputs, and what was published last is the state but for inputs; the
snapshots that were published, after those of earlier events, are numbered one by one. -/
structure Visible (e : Engine P) (told : List Snapshot) : Prop where
  mirrors : e.Mirrors
  alike : { e.published with
    expression := e.state.expression
    contextText := e.state.contextText
    grammarTag := e.state.grammarTag } = e.state
  numbered : (told ++ snapshotsOf e.outbox).map Snapshot.revision = List.range' 1 e.state.revision
  latest : (told ++ snapshotsOf e.outbox).getLast?.getD .blank = e.published

/-- The state is published, or it shows that the engine is busy. -/
def Timely (e : Engine P) : Prop := e.published = e.state ∨ e.state.isBusy = true

/-- An engine that was timely is so after all that it tells. -/
theorem Timely.of_speaks {e e' : Engine P} (h : e.Timely) (hspeaks : e.Speaks e') : e'.Timely := by
  cases hspeaks with
  | silent hstate hpublished _ =>
    rw [Timely, hstate, hpublished]
    exact h
  | aloud _ hpublished _ => exact Or.inl hpublished

namespace Visible

variable {e e' : Engine P} {told : List Snapshot}

/-- What has been published last says whether the engine is shown as busy. -/
theorem isBusy_eq (h : e.Visible told) : e.published.isBusy = e.state.isBusy := by
  have halike := congrArg Snapshot.isBusy h.alike
  exact halike

/-- What has been published last is of the current revision. -/
theorem revision_eq (h : e.Visible told) : e.published.revision = e.state.revision := by
  have halike := congrArg Snapshot.revision h.alike
  exact halike

/-- What a part of an event publishes is the latest snapshot then, with the next number. -/
theorem of_speaks (h : e.Visible told) (hspeaks : e.Speaks e') (hmirrors : e'.Mirrors) :
    e'.Visible told := by
  cases hspeaks with
  | silent hstate hpublished hsent =>
    refine ⟨hmirrors, ?_, ?_, ?_⟩
    · rw [hpublished, hstate]
      exact h.alike
    · rw [hsent, hstate]
      exact h.numbered
    · rw [hsent, hpublished]
      exact h.latest
  | aloud hrevision hpublished hsent =>
    refine ⟨hmirrors, ?_, ?_, ?_⟩
    · rw [hpublished]
    · calc
        (told ++ snapshotsOf e'.outbox).map Snapshot.revision
            = (told ++ snapshotsOf e.outbox).map Snapshot.revision ++ [e'.state.revision] := by
              simp [hsent]
        _ = List.range' 1 e.state.revision ++ [1 + e.state.revision] := by
              rw [h.numbered, hrevision, Nat.add_comm]
        _ = List.range' 1 e'.state.revision := by
              rw [hrevision, List.range'_1_concat]
    · rw [hsent, hpublished]
      simp

/-- A changed input is shown in the state, but it is not published. -/
theorem inputChanged (h : e.Visible told) (now : Time) (inputs : Inputs P) (input : Input) :
    (({ e with inputs := inputs } : Engine P).inputChanged now input).Visible told := by
  refine ⟨⟨rfl, rfl, rfl⟩, ?_, h.numbered, h.latest⟩
  exact congrArg (fun s : Snapshot =>
    { s with
      expression := inputs.expression
      contextText := inputs.contextText
      grammarTag := inputs.grammarTag }) h.alike

/-- What a command leaves unpublished has made the engine busy. -/
theorem apply [DecidableEq P] (h : e.Visible told) (htimely : e.Timely) (now : Time)
    (command : Command P) :
    (e.apply now command).Visible told ∧
      ((e.apply now command).Timely ∨ (e.apply now command).isBusy = true) := by
  cases command with
  | settle waiter =>
    exact ⟨⟨h.mirrors.apply now (.settle waiter), h.alike, h.numbered, h.latest⟩, Or.inl htimely⟩
  | select node =>
    have hshown : (e.select now node).state =
        { e.state with
          selection := node, selectionMark := none, revision := e.state.revision + 1 } := by
      rw [select, Engine.inputChanged, Mirrors.showInputs_eq]
      · rfl
      · exact ⟨h.mirrors.expression, h.mirrors.contextText, h.mirrors.grammarTag⟩
    have hspeaks : e.Speaks (e.select now node) := by
      refine .aloud ?_ ?_ ?_
      · rw [hshown]
      · rw [hshown]
        rfl
      · rw [hshown]
        exact snapshotsOf_publish _
    exact ⟨h.of_speaks hspeaks (h.mirrors.apply now (.select node)),
      Or.inl (htimely.of_speaks hspeaks)⟩
  | _ =>
    rw [Engine.apply, replaceInput]
    split
    · exact ⟨h, Or.inl htimely⟩
    · exact ⟨h.inputChanged now _ _, Or.inr (isBusy_inputChanged _ now _)⟩

/-- A pass leaves nothing unpublished that was published before. -/
theorem fire (h : e.Visible told) (htimely : e.Timely) (now : Time) :
    (e.fire now).Visible told ∧ (e.fire now).Timely := by
  apply fire_induction (fun e' _ => e'.Visible told ∧ e'.Timely)
  · have hmirrors := h.mirrors
    exact ⟨⟨⟨hmirrors.expression, hmirrors.contextText, hmirrors.grammarTag⟩, h.alike, h.numbered,
      h.latest⟩, htimely⟩
  · rintro e' key generation due ⟨hvisible, htimely⟩
    have hspeaks := e'.speaks_recompute now key generation
    exact ⟨hvisible.of_speaks hspeaks (hvisible.mirrors.recompute now key generation),
      htimely.of_speaks hspeaks⟩

/-- An event leaves all visible, and the engine is timely then or has something to compute. -/
theorem handle [DecidableEq P] (h : e.Visible told) (htimely : e.Timely) (now : Time)
    (event : Event P) :
    (e.handle now event).Visible told ∧
      ((e.handle now event).Timely ∨ (e.handle now event).isBusy = true) := by
  cases event with
  | command command => exact h.apply htimely now command
  | fire =>
    rcases h.fire htimely now with ⟨hvisible, htimely⟩
    exact ⟨hvisible, Or.inl htimely⟩
  | complete c =>
    have hspeaks := e.speaks_commit now c
    exact ⟨h.of_speaks hspeaks (h.mirrors.commit now c), Or.inl (htimely.of_speaks hspeaks)⟩

/-- Whether the engine is busy is shown at the end of an event, and with it what was not published.
-/
theorem showBusy (h : e.Visible told) (htimely : e.Timely ∨ e.isBusy = true) :
    e.showBusy.Visible told ∧ e.showBusy.Timely := by
  have hmirrors : e.showBusy.Mirrors := by
    rcases e.showBusy_cases with heq | heq
    · rw [heq]
      exact h.mirrors
    · rw [heq]
      exact ⟨h.mirrors.expression, h.mirrors.contextText, h.mirrors.grammarTag⟩
  refine ⟨h.of_speaks e.speaks_showBusy hmirrors, ?_⟩
  by_cases hsame : e.isBusy = e.state.isBusy
  · rw [Engine.showBusy, if_pos hsame]
    rcases htimely with htimely | hbusy
    · exact htimely
    · exact Or.inr (hsame.symm.trans hbusy)
  · rw [Engine.showBusy, if_neg hsame]
    exact Or.inl rfl

end Visible

/-- At the end of an event the state shows whether the engine is busy. -/
theorem isBusy_showBusy (e : Engine P) : e.showBusy.state.isBusy = e.showBusy.isBusy := by
  unfold showBusy
  split
  · next hsame => exact hsame.symm
  · rfl

end Engine

/-! ## In the course of a history -/

section History

variable [DecidableEq P] {brings : Work P → Outcome P → Prop} {debounce start now : Time}
  {ms : List (Moment P)} {w u : World P} {event : Event P}

/-- The snapshots that are published at a moment. -/
def Moment.snapshots (m : Moment P) : List Snapshot :=
  snapshotsOf (m.before.engine.step m.now m.event).2

/-- Once it is shown whether the engine is busy, an event changes nothing but who waits. -/
theorem Occurs.engine_eq_showBusy (hoccurs : Occurs brings w now event u) :
    ∃ waiters, u.engine =
      { (w.engine.handle now event).showBusy with waiters := waiters, outbox := [] } := by
  rcases (w.engine.handle now event).showBusy.releaseWaiters_cases with ⟨waiters, _, heq⟩
  rw [hoccurs.engine_eq, Engine.step, heq]
  exact ⟨waiters, rfl⟩

/-- After an event the state shows whether the engine is busy. -/
theorem Occurs.isBusy_eq (hoccurs : Occurs brings w now event u) :
    u.engine.state.isBusy = u.engine.isBusy := by
  rcases hoccurs.engine_eq_showBusy with ⟨_, hengine⟩
  rw [hengine]
  exact (w.engine.handle now event).isBusy_showBusy

/-- In every history revisions are counted up one by one, and the state is published but for its
inputs; if these are not published either the state shows that the engine is busy. -/
theorem Run.visible (hrun : Run brings (.start debounce start) ms w) :
    w.engine.Visible (ms.flatMap Moment.snapshots) ∧ w.engine.Timely := by
  induction hrun with
  | refl => exact ⟨⟨⟨rfl, rfl, rfl⟩, rfl, rfl, rfl⟩, Or.inl rfl⟩
  | @snoc ms v u now event hrun hoccurs ih =>
    rcases ih.1.handle ih.2 now event with ⟨hhandled, hpublishes⟩
    rcases hhandled.showBusy hpublishes with ⟨hshown, htimely⟩
    have hsnapshots : Moment.snapshots ⟨v, now, event, u⟩ =
        snapshotsOf (v.engine.handle now event).showBusy.outbox :=
      v.engine.filterMap_step _ now event fun _ => rfl
    have htold : List.flatMap Moment.snapshots (ms ++ [⟨v, now, event, u⟩]) =
        ms.flatMap Moment.snapshots ++ snapshotsOf (v.engine.handle now event).showBusy.outbox := by
      rw [List.flatMap_append, List.flatMap_singleton, hsnapshots]
    rcases hoccurs.engine_eq_showBusy with ⟨_, hengine⟩
    have hmirrors := hshown.mirrors
    rw [hengine, htold]
    refine ⟨⟨⟨hmirrors.expression, hmirrors.contextText, hmirrors.grammarTag⟩, hshown.alike, ?_,
      ?_⟩, htimely⟩
    · simpa [snapshotsOf] using hshown.numbered
    · simpa [snapshotsOf] using hshown.latest

end History

end GrammarDesk.Inspector
