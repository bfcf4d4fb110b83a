import Mathlib
import GrammarDesk.Proofs.Inspector.Currency

/-!
# When results go out of date

The generation of the tree moves with every change of an input.  That of the output moves only when
the context or the tree has been computed anew, which is a quiet period and a parse later.  An
evaluation that comes back in between still counts, although an input of its tree has changed.

Main definitions:

- `Engine.Changes`: a command that changes what the tree or the context is computed from.
- `Engine.Renews`: an event after which the output is to be computed anew.
- `Moment.StartsEval`: a moment at which an evaluation is started, and not given up at once.
- `Derived.MovesAt`: the moments at which a generation moves on.

Main results:

- `Run.generation_tree_eq_iff`: the generation of the tree tells whether an input has changed.
- `Run.generation_output_eq_iff`: the generation of the output tells whether it was renewed.
- `Run.started_of_current`: nothing has moved a generation on since a job that is still current was
  started.
- `Run.output_current_iff`: an output counts exactly when it was not renewed after its evaluation
  was started, whatever has become of the inputs.
- `Run.output_shown_iff`: what counts is shown, and what does not count is dropped.
- `Run.not_output_fresh`: an output is shown although the expression has changed.
-/

namespace GrammarDesk.Inspector

open Json GrammarDesk.Tree Grammar

variable {P : Type}

namespace Engine

/-! ## What one event moves -/

/-- The event changes an input that the tree is computed from. -/
def Changes [DecidableEq P] (e : Engine P) (event : Event P) : Prop :=
  ∃ command input, event = .command command ∧ command.changed? e.inputs = some input ∧
    input ≠ .selection

/-- The output is to be computed anew after the event: the context has been read again, the tree has
gone with its plugin, or there is a new tree. -/
def Renews (e : Engine P) (now : Time) : Event P → Prop
  | .command _ => False
  | .fire => (e.scheduler.slot .context).isDue now = true ∨
      (e.scheduler.slot .tree).isDue now = true ∧ e.inputs.plugin = none ∧ e.state.treeRoot ≠ none
  | .complete c => e.scheduler.isCurrent c.outcome.key c.generation = true ∧ e.Shows c.outcome

theorem generation_renew (s : Scheduler (Job P)) (now : Time) (other : Derived) :
    ((s.invalidateAll [.output] now).slot other).generation =
      (s.slot other).generation + if other = .output then 1 else 0 := by
  cases other <;> rfl

/-- Only what goes into the output can renew it, and it renews nothing else. -/
theorem generation_recompute (e : Engine P) (now : Time) (key other : Derived) (generation : Nat) :
    ((e.recompute now key generation).scheduler.slot other).generation =
      (e.scheduler.slot other).generation +
        if other = .output ∧ (key = .context ∨
          key = .tree ∧ e.inputs.plugin = none ∧ e.state.treeRoot ≠ none) then 1 else 0 := by
  have hrecomputes := e.recomputes now key generation
  generalize e.recompute now key generation = e' at hrecomputes
  cases hrecomputes with
  | contextRead =>
    simp only [true_or, and_true]
    exact generation_renew e.scheduler now other
  | parseStarted plugin hinstalled =>
    rw [scheduler_startJob, Scheduler.generation_track]
    simp [hinstalled]
  | treeGone hnone htree =>
    simp only [hnone, htree, ne_eq, not_false_eq_true, and_self, or_true, and_true]
    exact generation_renew e.scheduler now other
  | treeless hnone htree => simp [htree]
  | evalStarted =>
    rw [scheduler_startJob, Scheduler.generation_track]
    simp
  | _ => simp [publish, emit]

theorem generation_stage (s : Scheduler (Job P)) (now : Time) (e : Engine P)
    (key other : Derived) :
    ((stage s now e key).scheduler.slot other).generation =
      (e.scheduler.slot other).generation +
        if (s.slot key).isDue now = true ∧ other = .output ∧ (key = .context ∨
          key = .tree ∧ e.inputs.plugin = none ∧ e.state.treeRoot ≠ none) then 1 else 0 := by
  unfold stage
  by_cases hdue : (s.slot key).isDue now = true
  · rw [if_pos hdue, generation_recompute]
    simp only [hdue, true_and]
  · rw [if_neg hdue]
    simp [hdue]

/-- A pass counts the output up for the context and for a tree that goes. -/
theorem generation_fire (e : Engine P) (now : Time) (other : Derived) :
    ((e.fire now).scheduler.slot other).generation = (e.scheduler.slot other).generation +
      (if (e.scheduler.slot .context).isDue now = true ∧ other = .output then 1 else 0) +
      (if (e.scheduler.slot .tree).isDue now = true ∧ other = .output ∧ e.inputs.plugin = none ∧
        e.state.treeRoot ≠ none then 1 else 0) := by
  have hframe : ∀ e' : Engine P,
      (stage e.scheduler now e' .context).inputs = e'.inputs ∧
        (stage e.scheduler now e' .context).state.treeRoot = e'.state.treeRoot := by
    intro e'
    unfold stage
    split
    · rw [recompute, recomputeContext_eq]
      exact ⟨rfl, rfl⟩
    · exact ⟨rfl, rfl⟩
  simp only [fire_eq, Derived.all, List.foldl_cons, List.foldl_nil, generation_stage,
    (hframe _).1, (hframe _).2, Scheduler.generation_takeDue]
  simp

variable [DecidableEq P]

theorem generation_apply (e : Engine P) (now : Time) (command : Command P) (other : Derived) :
    ((e.apply now command).scheduler.slot other).generation = (e.scheduler.slot other).generation +
      if (command.changed? e.inputs).any fun input => other ∈ input.dependents then 1 else 0 := by
  rw [scheduler_apply]
  cases command.changed? e.inputs with
  | none => rfl
  | some input => cases input <;> cases other <;> rfl

/-- A result renews the output if it counts and is shown. -/
theorem generation_commit (e : Engine P) (now : Time) (c : Completion P) :
    (e.Renews now (.complete c) ∧ ∀ other, ((e.commit now c).scheduler.slot other).generation =
      (e.scheduler.slot other).generation + if other = .output then 1 else 0) ∨
    (¬ e.Renews now (.complete c) ∧ ∀ other, ((e.commit now c).scheduler.slot other).generation =
      (e.scheduler.slot other).generation) := by
  rcases e.commit_cases now c with ⟨hcurrent, heq⟩ | ⟨hpassed, heq⟩
  · have hfinish := fun other => e.scheduler.generation_finish c.outcome.key other c.generation
    rw [heq]
    rcases scheduler_takeOutcome
      { e with scheduler := e.scheduler.finish c.outcome.key c.generation } now c.outcome with
      ⟨hshows, hinvalidated⟩ | ⟨hnot, hsame⟩
    · refine Or.inl ⟨⟨hcurrent, hshows⟩, fun other => ?_⟩
      rw [hinvalidated, ← hfinish]
      exact generation_renew _ now other
    · exact Or.inr ⟨fun hrenews => hnot hrenews.2, fun other => by rw [hsame, hfinish]⟩
  · refine Or.inr ⟨?_, fun other => by rw [heq]⟩
    intro hrenews
    rw [hrenews.1] at hpassed
    cases hpassed

/-! ## What an event moves -/

/-- The tree is out of date exactly after a change of an input. -/
theorem generation_tree_handle (e : Engine P) (now : Time) (event : Event P) :
    (e.Changes event ∧
      (e.scheduler.slot .tree).generation <
        ((e.handle now event).scheduler.slot .tree).generation) ∨
    (¬ e.Changes event ∧
      ((e.handle now event).scheduler.slot .tree).generation =
        (e.scheduler.slot .tree).generation) := by
  cases event with
  | command command =>
    rw [handle, generation_apply]
    cases hchanged : command.changed? e.inputs with
    | none =>
      refine Or.inr ⟨?_, rfl⟩
      rintro ⟨_, input, hcommand, hinput, _⟩
      cases hcommand
      rw [hchanged] at hinput
      cases hinput
    | some input =>
      by_cases hselection : input = .selection
      · subst hselection
        refine Or.inr ⟨?_, rfl⟩
        rintro ⟨_, input, hcommand, hinput, hother⟩
        cases hcommand
        rw [hchanged] at hinput
        exact hother (Option.some.inj hinput).symm
      · refine Or.inl ⟨⟨command, input, rfl, hchanged, hselection⟩, ?_⟩
        have hdepends : Derived.tree ∈ input.dependents := by
          cases input <;> first | decide | exact absurd rfl hselection
        simp [hdepends]
  | fire =>
    refine Or.inr ⟨?_, by rw [handle, generation_fire]; simp⟩
    rintro ⟨_, _, hcommand, _⟩
    cases hcommand
  | complete c =>
    refine Or.inr ⟨?_, ?_⟩
    · rintro ⟨_, _, hcommand, _⟩
      cases hcommand
    · rw [handle]
      rcases e.generation_commit now c with ⟨_, hcounts⟩ | ⟨_, hsame⟩
      · rw [hcounts]; rfl
      · rw [hsame]

/-- The output is out of date exactly after what renews it. -/
theorem generation_output_handle (e : Engine P) (now : Time) (event : Event P) :
    (e.Renews now event ∧
      (e.scheduler.slot .output).generation <
        ((e.handle now event).scheduler.slot .output).generation) ∨
    (¬ e.Renews now event ∧
      ((e.handle now event).scheduler.slot .output).generation =
        (e.scheduler.slot .output).generation) := by
  cases event with
  | command command =>
    refine Or.inr ⟨id, ?_⟩
    rw [handle, generation_apply]
    cases command.changed? e.inputs with
    | none => rfl
    | some input => cases input <;> rfl
  | fire =>
    rw [handle, generation_fire]
    by_cases hcontext : (e.scheduler.slot .context).isDue now = true
    · refine Or.inl ⟨Or.inl hcontext, ?_⟩
      rw [if_pos ⟨hcontext, rfl⟩]
      omega
    · by_cases htree : (e.scheduler.slot .tree).isDue now = true ∧ e.inputs.plugin = none ∧
          e.state.treeRoot ≠ none
      · refine Or.inl ⟨Or.inr htree, ?_⟩
        rw [if_neg fun h => hcontext h.1, if_pos ⟨htree.1, rfl, htree.2⟩]
        omega
      · refine Or.inr ⟨?_, ?_⟩
        · rintro (hdue | hgone)
          · exact hcontext hdue
          · exact htree hgone
        · rw [if_neg fun h => hcontext h.1, if_neg fun h => htree ⟨h.1, h.2.2⟩]
          rfl
  | complete c =>
    rw [handle]
    rcases e.generation_commit now c with ⟨hrenews, hcounts⟩ | ⟨hnot, hsame⟩
    · exact Or.inl ⟨hrenews, by rw [hcounts]; exact Nat.lt_succ_self _⟩
    · exact Or.inr ⟨hnot, by rw [hsame]⟩

end Engine

/-! ## What a history moves -/

section History

variable [DecidableEq P] {brings : Work P → Outcome P → Prop} {debounce start now : Time}
  {w v u : World P} {ms past later : List (Moment P)} {m : Moment P} {event : Event P}

/-- The jobs that are started at a moment. -/
def Moment.started (m : Moment P) : List (Job P) := jobsOf (m.before.engine.step m.now m.event).2

/-- An evaluation for this generation is started at the moment, and not given up at once. -/
def Moment.StartsEval (m : Moment P) (generation : Nat) : Prop :=
  (∃ job ∈ m.started, job.work.key = .output ∧ job.generation = generation) ∧
    m.after.engine.scheduler.isCurrent .output generation = true

/-- The moment is a change of an input that the tree is computed from. -/
def Moment.Changes (m : Moment P) : Prop := m.before.engine.Changes m.event

/-- The output is to be computed anew after the moment. -/
def Moment.Renews (m : Moment P) : Prop := m.before.engine.Renews m.now m.event

theorem Occurs.scheduler_eq (hoccurs : Occurs brings w now event u) :
    u.engine.scheduler = (w.engine.handle now event).scheduler := by
  rcases hoccurs.engine_eq_handle with ⟨_, _, _, _, hengine⟩
  rw [hengine]

theorem Run.append (hrun : Run brings w ms v) (hlater : Run brings v later u) :
    Run brings w (ms ++ later) u := by
  induction hlater with
  | refl => rw [List.append_nil]; exact hrun
  | snoc _ hoccurs ih => rw [← List.append_assoc]; exact ih.snoc hoccurs

/-- A history can be cut at any moment. -/
theorem Run.cut (hrun : Run brings w ms v) (hms : ms = past ++ m :: later) :
    Run brings w past m.before ∧ Occurs brings m.before m.now m.event m.after ∧
      Run brings m.after later v := by
  induction hrun generalizing later with
  | refl => simp at hms
  | @snoc ms v u now event hrun hoccurs ih =>
    rcases List.eq_nil_or_concat later with rfl | ⟨middle, last, rfl⟩
    · rw [List.append_inj_left' hms rfl] at hrun
      obtain rfl := List.singleton_inj.mp (List.append_inj_right' hms rfl)
      exact ⟨hrun, hoccurs, .refl⟩
    · have hsplit : ms ++ [⟨v, now, event, u⟩] = (past ++ m :: middle) ++ [last] := by
        simpa using hms
      obtain rfl := List.singleton_inj.mp (List.append_inj_right' hsplit rfl)
      rcases ih (List.append_inj_left' hsplit rfl) with ⟨hbefore, hat, hafter⟩
      rw [List.concat_eq_append]
      exact ⟨hbefore, hat, hafter.snoc hoccurs⟩

/-- A history ends with its last moment. -/
theorem Run.last (hrun : Run brings w (ms ++ [m]) v) :
    Run brings w ms m.before ∧ Occurs brings m.before m.now m.event m.after ∧ v = m.after := by
  generalize hms : ms ++ [m] = all at hrun
  cases hrun with
  | refl => simp at hms
  | snoc hrun hoccurs =>
    rw [List.append_inj_left' hms rfl]
    obtain rfl := List.singleton_inj.mp (List.append_inj_right' hms rfl)
    exact ⟨hrun, hoccurs, rfl⟩

theorem Run.split (hrun : Run brings w (past ++ later) u) :
    ∃ v, Run brings w past v ∧ Run brings v later u := by
  induction later using List.reverseRecOn generalizing u with
  | nil => exact ⟨u, by simpa using hrun, .refl⟩
  | append_singleton later m ih =>
    rw [← List.append_assoc] at hrun
    rcases hrun.last with ⟨hbefore, hat, rfl⟩
    rcases ih hbefore with ⟨v, hpast, hlater⟩
    exact ⟨v, hpast, hlater.snoc hat⟩

/-- The generation of the key moves on at these moments, and at no others. -/
def Derived.MovesAt (key : Derived) (Moves : Moment P → Prop) : Prop :=
  ∀ m : Moment P,
    (Moves m ∧ (m.before.engine.scheduler.slot key).generation <
      ((m.before.engine.handle m.now m.event).scheduler.slot key).generation) ∨
    (¬ Moves m ∧ ((m.before.engine.handle m.now m.event).scheduler.slot key).generation =
      (m.before.engine.scheduler.slot key).generation)

theorem movesAt_changes : Derived.tree.MovesAt (Moment.Changes (P := P)) :=
  fun m => m.before.engine.generation_tree_handle m.now m.event

theorem movesAt_renews : Derived.output.MovesAt (Moment.Renews (P := P)) :=
  fun m => m.before.engine.generation_output_handle m.now m.event

/-- A generation never goes back, and it is the same exactly while nothing moves it on. -/
theorem Run.generation_eq_iff {key : Derived} {Moves : Moment P → Prop}
    (hmoves : key.MovesAt Moves) (hrun : Run brings w ms v) :
    (w.engine.scheduler.slot key).generation ≤ (v.engine.scheduler.slot key).generation ∧
      ((v.engine.scheduler.slot key).generation = (w.engine.scheduler.slot key).generation ↔
        ∀ m ∈ ms, ¬ Moves m) := by
  induction hrun with
  | refl => simp
  | @snoc ms v u now event hrun hoccurs ih =>
    rw [hoccurs.scheduler_eq, List.forall_mem_append, ← ih.2, List.forall_mem_singleton]
    have hle := ih.1
    rcases hmoves ⟨v, now, event, u⟩ with ⟨hmove, hlt⟩ | ⟨hstay, hsame⟩
    · dsimp only at hlt
      exact ⟨by omega, by omega, fun h => absurd hmove h.2⟩
    · dsimp only at hsame
      rw [hsame]
      exact ⟨hle, fun h => ⟨h, hstay⟩, fun h => h.1⟩

/-- The generation of the tree tells whether an input has changed. -/
theorem Run.generation_tree_eq_iff (hrun : Run brings w ms v) :
    (v.engine.scheduler.slot .tree).generation = (w.engine.scheduler.slot .tree).generation ↔
      ∀ m ∈ ms, ¬ m.Changes :=
  (hrun.generation_eq_iff movesAt_changes).2

/-- The generation of the output tells whether it was renewed. -/
theorem Run.generation_output_eq_iff (hrun : Run brings w ms v) :
    (v.engine.scheduler.slot .output).generation = (w.engine.scheduler.slot .output).generation ↔
      ∀ m ∈ ms, ¬ m.Renews :=
  (hrun.generation_eq_iff movesAt_renews).2

theorem Occurs.mem_of_started (hoccurs : Occurs brings w now event u) {job : Job P}
    (hstarted : job ∈ jobsOf (w.engine.step now event).2) : job ∈ u.underWay := by
  cases hoccurs <;> exact List.mem_append_right _ hstarted

/-- Whatever is under way was started at some moment. -/
theorem Run.started_of_underWay (hrun : Run brings (.start debounce start) ms v) {job : Job P}
    (hjob : job ∈ v.underWay) : ∃ m later, m :: later <:+ ms ∧ job ∈ m.started := by
  induction hrun with
  | refl => cases hjob
  | @snoc ms v u now event hrun hoccurs ih =>
    have hsplit : job ∈ v.underWay ∨ job ∈ jobsOf (v.engine.step now event).2 := by
      cases hoccurs with
      | arrive i _ _ _ _ =>
        exact (List.mem_append.mp hjob).imp (fun h => List.mem_of_mem_eraseIdx h) id
      | _ => exact List.mem_append.mp hjob
    rcases hsplit with hold | hnew
    · rcases ih hold with ⟨m, later, ⟨past, rfl⟩, hstarted⟩
      exact ⟨m, later ++ [⟨v, now, event, u⟩], ⟨past, by simp⟩, hstarted⟩
    · exact ⟨⟨v, now, event, u⟩, [], List.suffix_append _ _, hnew⟩

/-- A job that is under way and still current was started at a moment since which nothing has moved
its generation on. -/
theorem Run.started_of_current
    (hbrings : ∀ work outcome, brings work outcome → Outcome.Of work outcome)
    {key : Derived} {Moves : Moment P → Prop} (hmoves : key.MovesAt Moves)
    (hrun : Run brings (.start debounce start) ms v) {job : Job P} (hjob : job ∈ v.underWay)
    (hkey : job.work.key = key)
    (hcurrent : v.engine.scheduler.isCurrent key job.generation = true) :
    ∃ m later, m :: later <:+ ms ∧ job ∈ m.started ∧
      m.after.engine.scheduler.isCurrent key job.generation = true ∧
      ∀ m' ∈ later, ¬ Moves m' := by
  subst hkey
  rcases hrun.started_of_underWay hjob with ⟨m, later, ⟨past, rfl⟩, hstarted⟩
  rcases hrun.cut rfl with ⟨hbefore, hat, hafter⟩
  rw [Scheduler.isCurrent_iff] at hcurrent
  -- a job is never ahead of its slot, and generations only grow
  have hbegun : job.generation ≤ (m.after.engine.scheduler.slot job.work.key).generation :=
    ((hbefore.snoc hat).inOrder hbrings).begun _
      (List.mem_append_left _ (hat.mem_of_started hstarted))
  rcases hafter.generation_eq_iff hmoves with ⟨hle, hsame⟩
  have hkept := Nat.le_antisymm (hcurrent ▸ hle) hbegun
  refine ⟨m, later, List.suffix_append _ _, hstarted, ?_, hsame.mp (by rw [hkept, hcurrent])⟩
  rw [Scheduler.isCurrent_iff, hkept]

/-! ## Outputs that count -/

/-- An output that counts is shown, for its tree is still there. -/
theorem Run.output_of_accepted
    (hbrings : ∀ work outcome, brings work outcome → Outcome.Of work outcome)
    (hrun : Run brings (.start debounce start) ms v) {generation serial : Nat}
    {result : Except Failure (Option Value)}
    (hoccurs : Occurs brings v now (.complete ⟨generation, .output serial result⟩) u)
    (haccepted : v.engine.scheduler.isCurrent .output generation = true) :
    u.engine.answer = answerOf result := by
  rcases hrun.eval_of_accepted hbrings hoccurs haccepted with
    ⟨_, tree, _, _, htree, _, _, _, hserial, _⟩
  rcases hoccurs.engine_eq_handle with ⟨_, _, _, _, hengine⟩
  rw [hengine, Engine.handle,
    v.engine.commit_of_output now haccepted (by rw [htree]; simp) hserial]
  rfl

/-- An output that does not count is not shown. -/
theorem Occurs.output_of_passed {generation serial : Nat} {result : Except Failure (Option Value)}
    (hoccurs : Occurs brings v now (.complete ⟨generation, .output serial result⟩) u)
    (hpassed : v.engine.scheduler.isCurrent .output generation = false) :
    u.engine.answer = v.engine.answer := by
  rcases hoccurs.engine_eq_handle with ⟨_, _, _, _, hengine⟩
  rw [hengine, Engine.handle, Engine.commit_of_not_current _ _ _ hpassed]
  rfl

/-- An output that counts comes from an evaluation that was started at some moment, and nothing has
renewed the output since. -/
theorem Run.started_of_accepted
    (hbrings : ∀ work outcome, brings work outcome → Outcome.Of work outcome)
    (hrun : Run brings (.start debounce start) ms v) {generation serial : Nat}
    {result : Except Failure (Option Value)}
    (hoccurs : Occurs brings v now (.complete ⟨generation, .output serial result⟩) u)
    (haccepted : v.engine.scheduler.isCurrent .output generation = true) :
    ∃ m later plugin source context, m :: later <:+ ms ∧
      ⟨generation, .eval plugin source context serial⟩ ∈ m.started ∧
      m.after.engine.scheduler.isCurrent .output generation = true ∧
      (∀ m' ∈ later, ¬ m'.Renews) ∧
      brings (.eval plugin source context serial) (.output serial result) := by
  rcases hrun.eval_of_accepted hbrings hoccurs haccepted with
    ⟨plugin, _, source, context, _, _, _, _, _, ⟨_, _⟩, hmem, _, rfl, rfl, hbrought⟩
  rcases hrun.started_of_current hbrings movesAt_renews hmem rfl haccepted with
    ⟨m, later, hlater, hstarted, hkept, hnot⟩
  exact ⟨m, later, plugin, source, context, hlater, hstarted, hkept, hnot, hbrought⟩

/-- An output counts exactly when it was not renewed after its evaluation was started. -/
theorem Run.output_current_iff
    (hbrings : ∀ work outcome, brings work outcome → Outcome.Of work outcome)
    (hrun : Run brings (.start debounce start) ms v) {generation serial : Nat}
    {result : Except Failure (Option Value)}
    (hoccurs : Occurs brings v now (.complete ⟨generation, .output serial result⟩) u) :
    v.engine.scheduler.isCurrent .output generation = true ↔
      ∃ m later, m :: later <:+ ms ∧ m.StartsEval generation ∧ ∀ m' ∈ later, ¬ m'.Renews := by
  constructor
  · intro haccepted
    rcases hrun.started_of_accepted hbrings hoccurs haccepted with
      ⟨m, later, _, _, _, hlater, hstarted, hkept, hnot, _⟩
    exact ⟨m, later, hlater, ⟨⟨_, hstarted, rfl, rfl⟩, hkept⟩, hnot⟩
  · rintro ⟨m, later, ⟨past, rfl⟩, hstarts, hnot⟩
    rcases hrun.cut rfl with ⟨_, _, hafter⟩
    rw [Scheduler.isCurrent_iff, hafter.generation_output_eq_iff.mpr hnot]
    exact (Scheduler.isCurrent_iff _ _ _).mp hstarts.2

/-- An output is shown exactly if it was not renewed after its evaluation was started.  Changes of
the inputs do not count, and whether there have been any since shows in the generation of the
tree. -/
theorem Run.output_shown_iff {pluginOf : P → Plugin}
    (hrun : Run (Work.MayBring pluginOf) (.start debounce start) ms v) {generation serial : Nat}
    {result : Except Failure (Option Value)}
    (hoccurs : Occurs (Work.MayBring pluginOf) v now
      (.complete ⟨generation, .output serial result⟩) u) :
    (v.engine.scheduler.isCurrent .output generation = true ↔
      ∃ m later, m :: later <:+ ms ∧ m.StartsEval generation ∧ ∀ m' ∈ later, ¬ m'.Renews) ∧
    (v.engine.scheduler.isCurrent .output generation = true →
      u.engine.answer = answerOf result) ∧
    (v.engine.scheduler.isCurrent .output generation = false →
      u.engine.answer = v.engine.answer) ∧
    ∀ m later, m :: later <:+ ms → ((∃ m' ∈ later, m'.Changes) ↔
      (v.engine.scheduler.slot .tree).generation ≠
        (m.after.engine.scheduler.slot .tree).generation) := by
  have hof : ∀ (work : Work P) (outcome : Outcome P),
      work.MayBring pluginOf outcome → Outcome.Of work outcome := fun _ _ h => h.of
  refine ⟨hrun.output_current_iff hof hoccurs, hrun.output_of_accepted hof hoccurs,
    hoccurs.output_of_passed, ?_⟩
  rintro m later ⟨past, rfl⟩
  rcases hrun.cut rfl with ⟨_, _, hafter⟩
  rw [ne_eq, hafter.generation_tree_eq_iff]
  simp only [Classical.not_forall, Classical.not_not, exists_prop]

end History

/-- An evaluation is under way and would count, although the expression has changed meanwhile. -/
theorem Sample.run_overtaken :
    ∃ (ms : List (Moment Bool)) (v : World Bool),
      Run (Work.MayBring Sample.plugin) (.start 300 0) ms v ∧
      v.underWay[0]? = some ⟨2, .eval true ⟨"1", "R"⟩ (.object []) 1⟩ ∧
      v.engine.scheduler.isCurrent .output 2 = true ∧ v.engine.answer = (none, none) ∧
      ∃ m later, m :: later <:+ ms ∧ m.StartsEval 2 ∧ ∃ m' ∈ later, m'.Changes := by
  obtain ⟨past, v₀, v₁, v, hrun, hfire, hchange, hstarted, hkept, hexpression, hjob, hcurrent,
      hanswer⟩ : ∃ past v₀ v₁ v, Run (Work.MayBring Sample.plugin) (.start 300 0) past v₀ ∧
      Occurs (Work.MayBring Sample.plugin) v₀ 900 .fire v₁ ∧
      Occurs (Work.MayBring Sample.plugin) v₁ 1000 (.command (.setExpression "2")) v ∧
      jobsOf (v₀.engine.step 900 .fire).2 = [⟨2, .eval true ⟨"1", "R"⟩ (.object []) 1⟩] ∧
      v₁.engine.scheduler.isCurrent .output 2 = true ∧ v₁.engine.inputs.expression = "1" ∧
      v.underWay[0]? = some ⟨2, .eval true ⟨"1", "R"⟩ (.object []) 1⟩ ∧
      v.engine.scheduler.isCurrent .output 2 = true ∧ v.engine.answer = (none, none) := by
    exact ⟨_, _, _, _, (((Run.refl.command 0 (.setExpression "1")).command 10
      (.setPlugin (some true))).fire 400).arrive 500 0 _ _ rfl Sample.brings_tree,
      .fire, .command _, by cbv, by cbv, by cbv, by cbv, by cbv, by cbv⟩
  refine ⟨_, v, (hrun.snoc hfire).snoc hchange, hjob, hcurrent, hanswer, ⟨v₀, 900, .fire, v₁⟩, [_],
    ⟨past, List.append_cons _ _ _⟩,
    ⟨⟨⟨2, .eval true ⟨"1", "R"⟩ (.object []) 1⟩, ?_, rfl, rfl⟩, hkept⟩, ?_⟩
  · rw [Moment.started, hstarted]
    exact List.mem_singleton_self _
  · refine ⟨_, List.mem_singleton_self _, .setExpression "2", .expression, rfl, ?_, by decide⟩
    have hother : v₁.engine.inputs.expression ≠ "2" := by
      rw [hexpression]
      decide
    exact if_neg hother

/-- What is shown need not be up to date with the inputs. -/
theorem Run.not_output_fresh :
    ¬ ∀ (ms : List (Moment Bool)) (v u : World Bool) (now : Time) (generation serial : Nat)
      (result : Except Failure (Option Value)),
      Run (Work.MayBring Sample.plugin) (.start 300 0) ms v →
      Occurs (Work.MayBring Sample.plugin) v now (.complete ⟨generation, .output serial result⟩) u →
      v.engine.scheduler.isCurrent .output generation = true →
      u.engine.answer ≠ v.engine.answer →
      ∀ m later, m :: later <:+ ms → m.StartsEval generation → ∀ m' ∈ later, ¬ m'.Changes := by
  intro hfresh
  rcases Sample.run_overtaken with
    ⟨ms, v, hrun, hjob, hcurrent, hnone, m, later, hlater, hstarts, m', hmem, hchanges⟩
  have hoccurs := @Occurs.arrive Bool _ _ v 1100 0 _ _ hjob (Sample.brings_output true)
  have hshown := hrun.output_of_accepted (fun _ _ h => h.of) hoccurs hcurrent
  refine hfresh ms v _ 1100 2 1 _ hrun hoccurs hcurrent ?_ m later hlater hstarts m' hmem hchanges
  rw [hshown, hnone, answerOf]
  exact fun heq => Option.some_ne_none _ (congrArg Prod.fst heq)

/-- The output for the old expression is shown, though the generation of the tree has moved. -/
theorem Run.output_shown_of_overtaken :
    ∃ (ms : List (Moment Bool)) (v u : World Bool),
      Run (Work.MayBring Sample.plugin) (.start 300 0) ms v ∧
      Occurs (Work.MayBring Sample.plugin) v 1100
        (.complete ⟨2, .output 1 (.ok (some (Sample.verdict true)))⟩) u ∧
      (∃ m later, m :: later <:+ ms ∧ m.StartsEval 2 ∧ (∃ m' ∈ later, m'.Changes) ∧
        (v.engine.scheduler.slot .tree).generation ≠
          (m.after.engine.scheduler.slot .tree).generation) ∧
      u.engine.answer = (some (Sample.verdict true), none) := by
  rcases Sample.run_overtaken with
    ⟨ms, v, hrun, hjob, hcurrent, hnone, m, later, hlater, hstarts, hchanges⟩
  have hoccurs := @Occurs.arrive Bool _ _ v 1100 0 _ _ hjob (Sample.brings_output true)
  rcases hrun.output_shown_iff hoccurs with ⟨_, hshown, _, hmoved⟩
  exact ⟨ms, v, _, hrun, hoccurs,
    ⟨m, later, hlater, hstarts, hchanges, (hmoved m later hlater).mp hchanges⟩,
    hshown hcurrent⟩

end GrammarDesk.Inspector
