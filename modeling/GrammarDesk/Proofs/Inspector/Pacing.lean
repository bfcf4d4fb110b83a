import GrammarDesk.Proofs.Inspector.Renewal

/-!
# The quiet period of the tree

Every change of an input that the tree is computed from begins the tree's quiet period anew, and
nothing else does.  A pass that finds it over has the tree parsed, if there is a plugin, and nothing
else starts a parse.

Main definitions:

- `Moment.parses`: the parses that are started at a moment.
- `Engine.draft`: what a parse would be made of.
- `Moment.Paces`: what a moment does to the quiet period of the tree.

Main results:

- `Engine.parses_fire`: in a pass the tree is parsed if it was due.
- `Engine.deadline_tree_fire`, `Engine.deadline_tree_commit`: only a pass ends the quiet period.
- `Run.paces`: a moment begins the quiet period, ends it, or lets it pass.
-/

namespace GrammarDesk.Inspector

open Json GrammarDesk.Tree Grammar

variable {P : Type}

namespace Engine

/-! ## The length of the quiet period -/

@[simp]
theorem debounce_recompute (e : Engine P) (now : Time) (key : Derived) (generation : Nat) :
    (e.recompute now key generation).scheduler.debounce = e.scheduler.debounce := by
  have hrecomputes := e.recomputes now key generation
  generalize e.recompute now key generation = e' at hrecomputes
  cases hrecomputes with
  | contextRead | treeGone => exact e.scheduler.debounce_invalidateAll [.output] now
  | parseStarted | evalStarted =>
    rw [scheduler_startJob]
    exact e.scheduler.debounce_track _ _ _
  | _ => rfl

/-- No event changes the length of the quiet period. -/
theorem debounce_handle [DecidableEq P] (e : Engine P) (now : Time) (event : Event P) :
    (e.handle now event).scheduler.debounce = e.scheduler.debounce := by
  cases event with
  | command command =>
    rw [handle, scheduler_apply]
    split <;> simp
  | fire =>
    refine fire_induction (fun e' _ => e'.scheduler.debounce = e.scheduler.debounce)
      (e.scheduler.debounce_takeDue now) ?_
    intro e' key generation _ hsame
    rw [debounce_recompute, hsame]
  | complete c =>
    rw [handle]
    rcases e.commit_cases now c with ⟨_, heq⟩ | ⟨_, heq⟩
    · rw [heq]
      rcases scheduler_takeOutcome
        { e with scheduler := e.scheduler.finish c.outcome.key c.generation } now c.outcome with
        ⟨_, hscheduler⟩ | ⟨_, hscheduler⟩
      · rw [hscheduler, Scheduler.debounce_invalidateAll, Scheduler.debounce_finish]
      · rw [hscheduler, Scheduler.debounce_finish]
    · rw [heq]

/-! ## Parses that are started -/

/-- The parses that the event at hand has started so far. -/
def parses (e : Engine P) : List (Job P) := e.started.filter fun job => job.work.key = .tree

/-- What a parse would be made of: all inputs but the selection. -/
def draft (e : Engine P) : Inputs P := { e.inputs with selection := none }

/-- The parse of a generation by the plugin that is installed, if there is one. -/
def parseJob? (e : Engine P) (generation : Nat) : Option (Job P) :=
  e.inputs.plugin.map fun plugin => ⟨generation, e.parseWork plugin⟩

theorem parseJob?_congr {e e' : Engine P} (hdraft : e.draft = e'.draft) (generation : Nat) :
    e.parseJob? generation = e'.parseJob? generation := by
  rw [draft, draft, Inputs.mk.injEq] at hdraft
  rcases hdraft with ⟨hexpression, _, htag, hplugin, _, hdefault⟩
  simp only [parseJob?, parseWork, hexpression, htag, hplugin, hdefault]

/-- A parse is started in the turn of the tree alone. -/
theorem parses_recompute_of_ne (e : Engine P) (now : Time) {key : Derived} (generation : Nat)
    (hkey : key ≠ .tree) : (e.recompute now key generation).parses = e.parses := by
  rcases e.started_recompute now key generation with hsame | ⟨work, _, hstarted, _, hwork⟩
  · rw [parses, hsame, parses]
  · rcases hwork with ⟨htree, _⟩ | ⟨_, _, _, _, rfl⟩
    · exact absurd htree hkey
    · rw [parses, hstarted, List.filter_append]
      simp [parses, Work.key]

/-- In its turn a parse is started if there is a plugin. -/
theorem parses_startParse (e : Engine P) (now : Time) (generation : Nat)
    (hcurrent : e.scheduler.isCurrent .tree generation = true) :
    (e.startParse now generation).parses = e.parses ++ (e.parseJob? generation).toList := by
  rcases e.startParse_cases now generation with
    ⟨plugin, hinstalled, heq⟩ | ⟨hnone, _, heq⟩ | ⟨hnone, _, heq⟩
  · have hstarts : e.scheduler.isCurrent (e.parseWork plugin).key generation = true := hcurrent
    rw [heq, parses, started_startJob, if_pos hstarts, List.filter_append, parseJob?, hinstalled]
    simp [parses, parseWork, Work.key]
  · have hstarted : (e.clearTree.publish.invalidate now Derived.tree.dependents).started =
        e.started := started_publish _
    rw [heq, parses, hstarted, parseJob?, hnone]
    simp [parses]
  · rw [heq, parseJob?, hnone]
    simp

/-- Only the turn of the tree touches its slot, and then it is a job that comes. -/
theorem deadline_tree_recompute (e : Engine P) (now : Time) (key : Derived) (generation : Nat) :
    ((e.recompute now key generation).scheduler.slot .tree).deadline =
      (e.scheduler.slot .tree).deadline := by
  have htrack : ∀ (key : Derived) (generation : Nat) (job : Job P),
      ((e.scheduler.track key generation job).slot .tree).deadline =
        (e.scheduler.slot .tree).deadline := by
    intro key generation job
    unfold Scheduler.track
    split
    · cases key <;> rfl
    · rfl
  have hrecomputes := e.recomputes now key generation
  generalize e.recompute now key generation = e' at hrecomputes
  cases hrecomputes with
  | parseStarted | evalStarted =>
    rw [scheduler_startJob]
    exact htrack _ _ _
  | _ => rfl

/-- In a pass the tree is parsed if it was due. -/
theorem parses_fire (e : Engine P) (now : Time) :
    (e.fire now).parses =
      if (e.scheduler.slot .tree).isDue now = true then
        e.parses ++ (e.parseJob? (e.scheduler.slot .tree).generation).toList
      else e.parses := by
  have hother : ∀ (e' : Engine P) (key : Derived), key ≠ .tree →
      (stage e.scheduler now e' key).parses = e'.parses := by
    intro e' key hkey
    unfold stage
    split
    · exact e'.parses_recompute_of_ne now _ hkey
    · rfl
  -- the context is computed before the tree, and leaves the inputs and the tree's slot alone
  have hcontext : ∀ e' : Engine P,
      (stage e.scheduler now e' .context).draft = e'.draft ∧
        (stage e.scheduler now e' .context).scheduler.slot .tree = e'.scheduler.slot .tree := by
    intro e'
    unfold stage
    split
    · rw [recompute, recomputeContext_eq]
      exact ⟨rfl, rfl⟩
    · exact ⟨rfl, rfl⟩
  simp only [fire_eq, Derived.all, List.foldl_cons, List.foldl_nil]
  rw [hother _ .selectionMark (by decide), hother _ .output (by decide), stage]
  split
  · rw [recompute, parses_startParse, hother _ .context (by decide),
      parseJob?_congr (hcontext _).1]
    · rfl
    · rw [Scheduler.isCurrent_iff, (hcontext _).2, Scheduler.generation_takeDue]
  · rw [hother _ .context (by decide)]
    rfl

/-- A pass ends the quiet period of the tree if it is over. -/
theorem deadline_tree_fire (e : Engine P) (now : Time) :
    ((e.fire now).scheduler.slot .tree).deadline =
      if (e.scheduler.slot .tree).isDue now = true then none
      else (e.scheduler.slot .tree).deadline := by
  refine fire_induction (fun e' _ => (e'.scheduler.slot .tree).deadline =
    if (e.scheduler.slot .tree).isDue now = true then none
    else (e.scheduler.slot .tree).deadline) ?_ ?_
  · dsimp only
    rw [Scheduler.slot_takeDue]
    split <;> rfl
  · intro e' key generation _ hsame
    rw [deadline_tree_recompute, hsame]

/-- A result that is taken leaves the quiet period of the tree. -/
theorem deadline_tree_commit [DecidableEq P] (e : Engine P) (now : Time) (c : Completion P) :
    ((e.commit now c).scheduler.slot .tree).deadline = (e.scheduler.slot .tree).deadline := by
  rcases e.commit_cases now c with ⟨hcurrent, heq⟩ | ⟨_, heq⟩
  · have hfinish : ((e.scheduler.finish c.outcome.key c.generation).slot .tree).deadline =
        (e.scheduler.slot .tree).deadline := by
      rw [Scheduler.slot_finish _ _ _ _ hcurrent]
      split
      · next hkey => rw [← hkey]
      · rfl
    rw [heq]
    rcases scheduler_takeOutcome
      { e with scheduler := e.scheduler.finish c.outcome.key c.generation } now c.outcome with
      ⟨_, hscheduler⟩ | ⟨_, hscheduler⟩
    · rw [hscheduler]
      exact hfinish
    · rw [hscheduler]
      exact hfinish
  · rw [heq]

/-! ## What a parse is made of -/

/-- A pass leaves what a parse is made of. -/
theorem draft_fire (e : Engine P) (now : Time) : (e.fire now).draft = e.draft := by
  rcases e.inputs_fire now with ⟨_, hinputs⟩
  rw [draft, hinputs]
  rfl

/-- A command that changes nothing a parse is made of leaves it. -/
theorem draft_apply [DecidableEq P] (e : Engine P) (now : Time) {command : Command P}
    (hnot : ¬ e.Changes (.command command)) : (e.apply now command).draft = e.draft := by
  have hsame : ∀ input, command.changed? e.inputs = some input → input = .selection := by
    intro input hinput
    by_contra hother
    exact hnot ⟨command, input, rfl, hinput, hother⟩
  have hkept : ∀ (input : Input) (isSame : Bool) (inputs : Inputs P), isSame = true →
      (e.replaceInput now input isSame inputs).draft = e.draft := by
    rintro input isSame inputs rfl
    rfl
  cases command with
  | select node => rfl
  | settle waiter => rfl
  | _ =>
    refine hkept _ _ _ ?_
    by_contra hchanged
    rw [decide_eq_true_eq] at hchanged
    have hinput := hsame _ (if_neg hchanged)
    cases hinput

/-- A result leaves what a parse is made of, unless it is that of a parse and counts. -/
theorem draft_commit [DecidableEq P] (e : Engine P) (now : Time) {c : Completion P}
    (hnot : c.outcome.key = .tree → e.scheduler.isCurrent .tree c.generation = false) :
    (e.commit now c).draft = e.draft := by
  rcases e.commit_cases now c with ⟨hcurrent, heq⟩ | ⟨_, heq⟩
  · obtain ⟨generation, outcome⟩ := c
    rw [heq]
    cases outcome with
    | tree plugin source result => exact absurd hcurrent (Bool.eq_false_iff.mp (hnot rfl))
    | output serial result =>
      rcases commitOutput_cases
        { e with scheduler := e.scheduler.finish .output generation } serial result with
        ⟨_, _, htaken⟩ | ⟨_, htaken⟩
      · exact (congrArg draft htaken).trans rfl
      · exact (congrArg draft htaken).trans rfl
  · rw [heq]

end Engine

/-! ## The quiet period of the tree -/

section History

variable [DecidableEq P] {brings : Work P → Outcome P → Prop} {debounce start now : Time}
  {ms past later : List (Moment P)} {v w u : World P} {m c : Moment P} {event : Event P}

/-- The parses that are started at a moment. -/
def Moment.parses (m : Moment P) : List (Job P) :=
  m.started.filter fun job => job.work.key = .tree

theorem Moment.parses_eq (m : Moment P) :
    m.parses = (m.before.engine.handle m.now m.event).parses := by
  rcases m.before.engine.step_eq m.now m.event with ⟨_, _, _, _, _, hstarted⟩
  rw [Moment.parses, Moment.started, hstarted, Engine.parses]

/-- The slot of the tree. -/
def World.treeSlot (w : World P) : Slot (Job P) := w.engine.scheduler.slot .tree

/-- What a moment does to the quiet period of the tree: a change begins it anew, a pass that is not
too early ends it and has the tree parsed, and all else lets it pass. -/
inductive Moment.Paces (m : Moment P) : Prop where
  | begun (hchanges : m.Changes)
      (hslot : m.after.treeSlot = ⟨m.before.treeSlot.generation + 1,
        some (m.now + m.before.engine.scheduler.debounce), none⟩)
      (hparses : m.parses = [])
  | ended (hunchanged : ¬ m.Changes) (hfire : m.event = .fire) (deadline : Time)
      (hdeadline : m.before.treeSlot.deadline = some deadline) (hdue : deadline ≤ m.now)
      (hover : m.after.treeSlot.deadline = none)
      (hgeneration : m.after.treeSlot.generation = m.before.treeSlot.generation)
      (hparses : m.parses = (m.before.engine.parseJob? m.before.treeSlot.generation).toList)
  | passed (hunchanged : ¬ m.Changes)
      (hearly : m.event = .fire → ∀ deadline, m.before.treeSlot.deadline = some deadline →
        m.now < deadline)
      (hdeadline : m.after.treeSlot.deadline = m.before.treeSlot.deadline)
      (hgeneration : m.after.treeSlot.generation = m.before.treeSlot.generation)
      (hdraft : m.before.treeSlot.deadline ≠ none → m.after.engine.draft = m.before.engine.draft)
      (hparses : m.parses = [])

/-- A change begins the quiet period of the tree anew. -/
theorem Engine.slot_tree_apply (e : Engine P) (now : Time) {command : Command P} {input : Input}
    (hinput : command.changed? e.inputs = some input) (hother : input ≠ .selection) :
    (e.apply now command).scheduler.slot .tree =
      ⟨(e.scheduler.slot .tree).generation + 1, some (now + e.scheduler.debounce), none⟩ := by
  rw [scheduler_apply, hinput]
  cases input with
  | selection => exact absurd rfl hother
  | _ => rfl

theorem Engine.slot_tree_apply_of_not_changes (e : Engine P) (now : Time) {command : Command P}
    (hnot : ¬ e.Changes (.command command)) :
    (e.apply now command).scheduler.slot .tree = e.scheduler.slot .tree := by
  rw [scheduler_apply]
  cases hchanged : command.changed? e.inputs with
  | none => rfl
  | some input =>
    by_cases hselection : input = .selection
    · rw [hselection]
      rfl
    · exact absurd ⟨command, input, rfl, hchanged, hselection⟩ hnot

/-- A moment begins the quiet period of the tree, ends it, or lets it pass. -/
theorem Run.paces (hbrings : ∀ work outcome, brings work outcome → Outcome.Of work outcome)
    (hrun : Run brings (.start debounce start) ms w) (hoccurs : Occurs brings w now event u) :
    (⟨w, now, event, u⟩ : Moment P).Paces := by
  have hslot : u.treeSlot = (w.engine.handle now event).scheduler.slot .tree :=
    congrArg (·.slot .tree) hoccurs.scheduler_eq
  have hdraft : u.engine.draft = (w.engine.handle now event).draft := by
    rcases hoccurs.engine_eq_handle with ⟨_, _, _, _, hengine⟩
    rw [hengine]
    rfl
  have hnone : w.engine.parses = [] := by
    rw [Engine.parses, Engine.started, hrun.outbox_eq_nil rfl]
    rfl
  have hparses := (⟨w, now, event, u⟩ : Moment P).parses_eq
  have hgeneration : ¬ w.engine.Changes event →
      u.treeSlot.generation = w.treeSlot.generation := by
    intro hunchanged
    rw [hslot]
    exact ((w.engine.generation_tree_handle now event).resolve_left
      fun h => hunchanged h.1).2
  cases event with
  | command command =>
    rw [Engine.handle, Engine.parses, Engine.started_apply] at hparses
    by_cases hchanges : w.engine.Changes (.command command)
    · refine .begun hchanges ?_ (hparses.trans hnone)
      rcases hchanges with ⟨_, input, hcommand, hinput, hother⟩
      cases hcommand
      exact hslot.trans (w.engine.slot_tree_apply now hinput hother)
    · have hkept := hslot.trans (w.engine.slot_tree_apply_of_not_changes now hchanges)
      exact .passed hchanges (fun hfire => by cases hfire) (congrArg Slot.deadline hkept)
        (hgeneration hchanges) (fun _ => hdraft.trans (w.engine.draft_apply now hchanges))
        (hparses.trans hnone)
  | fire =>
    have hunchanged : ¬ w.engine.Changes .fire := by
      rintro ⟨_, _, hcommand, _⟩
      cases hcommand
    have hdeadline := congrArg Slot.deadline hslot
    rw [Engine.handle, Engine.deadline_tree_fire] at hdeadline
    rw [Engine.handle, Engine.parses_fire, hnone] at hparses
    by_cases hdue : (w.engine.scheduler.slot .tree).isDue now = true
    · rw [if_pos hdue] at hdeadline hparses
      cases hwaits : (w.engine.scheduler.slot .tree).deadline with
      | none => simp [Slot.isDue, hwaits] at hdue
      | some deadline =>
        have hover : deadline ≤ now := by simpa [Slot.isDue, hwaits] using hdue
        exact .ended hunchanged rfl deadline hwaits hover hdeadline (hgeneration hunchanged) hparses
    · rw [if_neg hdue] at hdeadline hparses
      refine .passed hunchanged ?_ hdeadline (hgeneration hunchanged)
        (fun _ => hdraft.trans (w.engine.draft_fire now)) hparses
      intro _ deadline hwaits
      have hwaits : (w.engine.scheduler.slot .tree).deadline = some deadline := hwaits
      simpa [Slot.isDue, hwaits] using hdue
  | complete c =>
    have hunchanged : ¬ w.engine.Changes (.complete c) := by
      rintro ⟨_, _, hcommand, _⟩
      cases hcommand
    have hdeadline := congrArg Slot.deadline hslot
    rw [Engine.handle, Engine.deadline_tree_commit] at hdeadline
    rw [Engine.handle, Engine.parses, Engine.started_commit] at hparses
    refine .passed hunchanged (fun hfire => by cases hfire) hdeadline (hgeneration hunchanged) ?_
      (hparses.trans hnone)
    intro hwaits
    refine hdraft.trans (w.engine.draft_commit now fun hkey => ?_)
    -- while the tree waits no parse is under way for its generation
    by_contra haccepted
    rw [Bool.not_eq_false, ← hkey] at haccepted
    rcases hrun.job_of_accepted hbrings hoccurs haccepted with ⟨job, _, _, _, hjob⟩
    rw [hkey] at hjob
    exact hwaits ((hrun.inOrder hbrings).runs .tree job hjob).2.2.2

end History

end GrammarDesk.Inspector
