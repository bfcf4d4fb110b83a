import GrammarDesk.Proofs.Inspector.Settling

/-!
# Inputs that are set at the same instant

Commands on different inputs share much: most of them make the tree out of date, each shows all the
texts anew, and whichever makes the engine busy publishes that.  Still it does not matter in which
order they come.  What a command sets and what it makes out of date depends on its own input alone,
values are out of date in the same way in whatever order they are marked, and the state follows from
the inputs, from the number of selections, and from whether the engine is busy.  No command ends
that, so it is published once at most, by whichever command comes first.

What has been published last does depend on the order, since only some commands publish.

Main definitions:

- `Command.input?`, `Command.set`: the input that a command sets, and the inputs after it.
- `Engine.showing`: the state that follows.
- `Engine.Ready`, `Engine.Obeyed`: an engine between two events, and after commands.
- `Engine.obey`: the engine after commands at one instant.

Main results:

- `Command.perform_comm`: what two commands do to the inputs and the scheduler.
- `Engine.Obeyed.snoc`, `Engine.Ready.obeyed`: what one command more, and what all of them show.
- `Run.commands_commute`: commands on different inputs may come in any order.
-/

namespace GrammarDesk.Inspector

open Json GrammarDesk.Tree Grammar

variable {P : Type}

/-! ## What a command sets -/

namespace Command

/-- The input that a command sets. -/
def input? : Command P → Option Input
  | .setExpression _ => some .expression
  | .setContextText _ => some .contextText
  | .setGrammarTag _ => some .grammarTag
  | .setPlugin _ => some .plugin
  | .select _ => some .selection
  | .settle _ => none

variable [DecidableEq P]

/-- The inputs after a command. -/
def set (inputs : Inputs P) : Command P → Inputs P
  | .setExpression text => { inputs with expression := text }
  | .setContextText text => { inputs with contextText := text }
  | .setGrammarTag tag => { inputs with grammarTag := tag }
  | .setPlugin plugin =>
    { inputs with
      plugin := plugin
      defaultRootTag := if inputs.plugin = plugin then inputs.defaultRootTag else none }
  | .select node => { inputs with selection := node }
  | .settle _ => inputs

/-- Commands on different inputs set them in any order. -/
theorem set_comm {c d : Command P} (h : c.input? ≠ d.input?) (inputs : Inputs P) :
    d.set (c.set inputs) = c.set (d.set inputs) := by
  cases c <;> cases d <;> first | rfl | exact absurd rfl h

/-- Whether a command changes its input depends on that alone. -/
theorem changed?_set {c d : Command P} (h : c.input? ≠ d.input?) (inputs : Inputs P) :
    d.changed? (c.set inputs) = d.changed? inputs := by
  cases c <;> cases d <;> first | rfl | exact absurd rfl h

/-- The selection is set by selecting alone. -/
theorem selection_set {c : Command P} (h : c.input? ≠ some .selection) (inputs : Inputs P) :
    (c.set inputs).selection = inputs.selection := by
  cases c <;> first | rfl | exact absurd rfl h

/-- What a command does to the inputs and to the scheduler. -/
def perform (now : Time) (desk : Inputs P × Scheduler (Job P)) (c : Command P) :
    Inputs P × Scheduler (Job P) :=
  (c.set desk.1, desk.2.invalidateAll (c.outdates desk.1) now)

theorem perform_comm {c d : Command P} (h : c.input? ≠ d.input?) (now : Time)
    (desk : Inputs P × Scheduler (Job P)) :
    d.perform now (c.perform now desk) = c.perform now (d.perform now desk) := by
  obtain ⟨inputs, s⟩ := desk
  have hscheduler :
      (s.invalidateAll (c.outdates inputs) now).invalidateAll (d.outdates inputs) now =
        (s.invalidateAll (d.outdates inputs) now).invalidateAll (c.outdates inputs) now := by
    rw [← Scheduler.invalidateAll_append, ← Scheduler.invalidateAll_append]
    exact s.invalidateAll_perm List.perm_append_comm now
  simp only [perform, outdates, changed?_set h, changed?_set h.symm, set_comm h]
  exact congrArg (Prod.mk _) hscheduler

/-- What commands do to the inputs and to the scheduler, one after the other. -/
def performAll (now : Time) (desk : Inputs P × Scheduler (Job P)) (cs : List (Command P)) :
    Inputs P × Scheduler (Job P) :=
  cs.foldl (fun desk c => c.perform now desk) desk

/-- On the inputs and the scheduler, commands on different inputs have the same effect in every
order. -/
theorem performAll_perm {cs ds : List (Command P)} (hperm : cs.Perm ds)
    (hdifferent : (cs.map input?).Nodup) (now : Time) (desk : Inputs P × Scheduler (Job P)) :
    performAll now desk cs = performAll now desk ds := by
  refine hperm.foldl_eq' (fun c hc d hd desk => ?_) desk
  by_cases hsame : c = d
  · rw [hsame]
  · refine perform_comm (fun hinput => hsame ?_) now desk
    exact List.inj_on_of_nodup_map hdifferent hc hd hinput

end Command

/-! ## What a command shows -/

namespace Engine

/-- The state with other inputs, after some selections, that shows whether the engine is busy. -/
def showing (e : Engine P) (inputs : Inputs P) (selections : Nat) (busy : Bool) : Snapshot :=
  { e.state with
    expression := inputs.expression
    contextText := inputs.contextText
    grammarTag := inputs.grammarTag
    selection := inputs.selection
    selectionMark := if selections = 0 then e.state.selectionMark else none
    isBusy := busy
    revision := e.state.revision + selections + (busy != e.state.isBusy).toNat }

/-- An engine between two events: its state shows the inputs, and shows the engine as busy only if
it is. -/
structure Ready (e : Engine P) : Prop where
  mirrors : e.Mirrors
  selected : e.state.selection = e.inputs.selection
  isBusy : e.state.isBusy = true → e.isBusy = true

theorem Ready.showing_eq {e : Engine P} (h : e.Ready) :
    e.showing e.inputs 0 e.state.isBusy = e.state := by
  rw [showing, ← h.mirrors.expression, ← h.mirrors.contextText, ← h.mirrors.grammarTag,
    ← h.selected]
  simp

/-- One after the other, states are shown as if at once, if the first that is shown as busy is
followed by such states only. -/
theorem showing_showing {e e' : Engine P} {inputs inputs' : Inputs P} {n k : Nat}
    {busy busy' : Bool} (hstate : e'.state = e.showing inputs n busy)
    (hbusy : e.state.isBusy = true → busy = true) (hbusy' : busy = true → busy' = true) :
    e'.showing inputs' k busy' = e.showing inputs' (n + k) busy' := by
  have hmark : (if k = 0 then if n = 0 then e.state.selectionMark else none else none) =
      if n + k = 0 then e.state.selectionMark else none := by
    cases k <;> rfl
  have hflips : (busy != e.state.isBusy).toNat + (busy' != busy).toNat =
      (busy' != e.state.isBusy).toNat := by
    revert hbusy hbusy'
    cases e.state.isBusy <;> cases busy <;> cases busy' <;> decide
  have hrevision : e.state.revision + n + (busy != e.state.isBusy).toNat + k
      + (busy' != busy).toNat = e.state.revision + (n + k) + (busy' != e.state.isBusy).toNat := by
    omega
  rw [showing, hstate]
  simp only [showing, hmark, hrevision]

variable [DecidableEq P] {e e' : Engine P} {now : Time} {c : Command P} {cs ds : List (Command P)}

/-- An input that is set, but for the selection, is shown and that is all. -/
theorem Mirrors.state_apply (h : e.Mirrors) (now : Time) (hinput : c.input? ≠ none)
    (hother : c.input? ≠ some .selection) :
    (e.apply now c).state =
      { e.state with
        expression := (c.set e.inputs).expression
        contextText := (c.set e.inputs).contextText
        grammarTag := (c.set e.inputs).grammarTag } := by
  cases c with
  | settle waiter => exact absurd rfl hinput
  | select node => exact absurd rfl hother
  | _ =>
    simp only [Engine.apply, replaceInput, decide_eq_true_eq]
    split
    · next hsame =>
      simp [Command.set, ← hsame, ← h.expression, ← h.contextText, ← h.grammarTag]
    · rfl

theorem perform_apply (e : Engine P) (now : Time) (c : Command P) :
    ((e.apply now c).inputs, (e.apply now c).scheduler) =
      c.perform now (e.inputs, e.scheduler) := by
  rw [inputs_apply, scheduler_apply_eq_outdates]
  cases c <;> rfl

/-- What a command that sets an input shows at once. -/
theorem Ready.state_apply (h : e.Ready) (now : Time) (hinput : c.input? ≠ none) :
    (e.apply now c).state =
      e.showing (c.set e.inputs) (if c.input? = some .selection then 1 else 0) e.state.isBusy := by
  by_cases hother : c.input? = some .selection
  · cases c <;> cases hother
    simp [apply, select, inputChanged, showInputs, invalidate, publish, emit, Command.set,
      Command.input?, showing]
  · rw [h.mirrors.state_apply now hinput hother, if_neg hother, showing,
      Command.selection_set hother, ← h.selected]
    simp

/-- At the end of an event it is shown whether the engine is busy. -/
theorem state_step (e : Engine P) (now : Time) (event : Event P) :
    (e.step now event).1.state =
      { (e.handle now event).state with
        isBusy := (e.handle now event).isBusy
        revision := (e.handle now event).state.revision
          + ((e.handle now event).isBusy != (e.handle now event).state.isBusy).toNat } := by
  have hshown : (e.step now event).1.state = (e.handle now event).showBusy.state := by
    obtain ⟨_, _, heq⟩ := (e.handle now event).showBusy.releaseWaiters_cases
    rw [step, heq]
  rw [hshown, showBusy]
  split
  · next hsame =>
    rw [hsame]
    simp
  · next hother =>
    rw [bne_iff_ne.2 hother]
    rfl

theorem perform_step (e : Engine P) (now : Time) (c : Command P) :
    ((e.step now (.command c)).1.inputs, (e.step now (.command c)).1.scheduler) =
      c.perform now (e.inputs, e.scheduler) := by
  obtain ⟨_, _, _, _, heq, -⟩ := e.step_eq now (.command c)
  rw [heq, ← perform_apply]
  rfl

/-- What has to be computed is not done with by a command. -/
theorem isBusy_step_command (h : e.isBusy = true) :
    (e.step now (.command c)).1.isBusy = true := by
  have hscheduler : (e.step now (.command c)).1.scheduler = _ :=
    congrArg Prod.snd (e.perform_step now c)
  rw [isBusy] at h ⊢
  rw [hscheduler, Command.perform, Scheduler.isIdle_invalidateAll]
  simp_all

/-- What an event with a command that sets an input shows. -/
theorem Ready.state_step_command (h : e.Ready) (now : Time) (hinput : c.input? ≠ none) :
    (e.step now (.command c)).1.state =
      e.showing (c.set e.inputs) (if c.input? = some .selection then 1 else 0)
        (e.step now (.command c)).1.isBusy := by
  have hbusy : (e.step now (.command c)).1.isBusy = (e.apply now c).isBusy := by
    obtain ⟨_, _, _, _, heq, -⟩ := e.step_eq now (.command c)
    rw [heq]
    rfl
  rw [state_step, hbusy, handle, h.state_apply now hinput]
  simp [showing]

/-- After a command the engine is between two events again. -/
theorem Ready.step (h : e.Ready) (now : Time) (hinput : c.input? ≠ none) :
    (e.step now (.command c)).1.Ready := by
  have hstate := h.state_step_command now hinput
  have hinputs : (e.step now (.command c)).1.inputs = c.set e.inputs :=
    congrArg Prod.fst (e.perform_step now c)
  refine ⟨⟨?_, ?_, ?_⟩, ?_, fun hbusy => ?_⟩
  case refine_5 =>
    rw [hstate] at hbusy
    exact hbusy
  all_goals
    rw [hstate, hinputs]
    rfl

/-! ## A burst of commands -/

/-- The engine after commands that are carried out one after the other at one instant. -/
def obey (e : Engine P) (now : Time) (cs : List (Command P)) : Engine P :=
  cs.foldl (fun e c => (e.step now (.command c)).1) e

/-- What commands have done to the inputs and the scheduler, and what of it is shown. -/
structure Obeyed (e : Engine P) (now : Time) (cs : List (Command P)) (e' : Engine P) : Prop where
  ready : e'.Ready
  desk : (e'.inputs, e'.scheduler) = Command.performAll now (e.inputs, e.scheduler) cs
  state : e'.state =
    e.showing e'.inputs (cs.countP (·.input? = some .selection)) e'.state.isBusy
  stays : e.state.isBusy = true → e'.state.isBusy = true
  shown : cs ≠ [] → e'.state.isBusy = e'.isBusy

/-- One command more. -/
theorem Obeyed.snoc (h : e.Obeyed now cs e') (hinput : c.input? ≠ none) :
    e.Obeyed now (cs ++ [c]) (e'.step now (.command c)).1 := by
  have hstate := h.ready.state_step_command now hinput
  have hinputs : (e'.step now (.command c)).1.inputs = c.set e'.inputs :=
    congrArg Prod.fst (e'.perform_step now c)
  have hshown : (e'.step now (.command c)).1.state.isBusy = (e'.step now (.command c)).1.isBusy :=
    congrArg Snapshot.isBusy hstate
  have hstays : e'.state.isBusy = true → (e'.step now (.command c)).1.isBusy = true :=
    fun hbusy => isBusy_step_command (h.ready.isBusy hbusy)
  refine ⟨h.ready.step now hinput, ?_, ?_, fun hbusy => ?_, fun _ => hshown⟩
  · rw [perform_step, h.desk, Command.performAll, Command.performAll, List.foldl_append]
    rfl
  · rw [hshown, hinputs, hstate, showing_showing h.state h.stays hstays, List.countP_append]
    simp [List.countP_cons]
  · rw [hshown]
    exact hstays (h.stays hbusy)

theorem Ready.obeyed (h : e.Ready) (now : Time) (hinputs : ∀ c ∈ cs, c.input? ≠ none) :
    e.Obeyed now cs (e.obey now cs) := by
  induction cs using List.reverseRecOn with
  | nil => exact ⟨h, rfl, h.showing_eq.symm, id, fun hne => absurd rfl hne⟩
  | append_singleton cs c ih =>
    rw [obey, List.foldl_append, List.foldl_cons, List.foldl_nil]
    exact (ih fun d hd => hinputs d (List.mem_append_left _ hd)).snoc (hinputs c (by simp))

/-- Two engines have the same inputs, show the same state and have the same to do. -/
structure Alike (e e' : Engine P) : Prop where
  inputs : e.inputs = e'.inputs
  state : e.state = e'.state
  scheduler : e.scheduler = e'.scheduler

/-- Commands on different inputs do the same in every order. -/
theorem Ready.alike_of_perm (h : e.Ready) (now : Time) (hperm : cs.Perm ds)
    (hinputs : ∀ c ∈ cs, c.input? ≠ none) (hdifferent : (cs.map Command.input?).Nodup) :
    (e.obey now cs).Alike (e.obey now ds) := by
  have hcs := h.obeyed now hinputs
  have hds := h.obeyed now fun d hd => hinputs d (hperm.mem_iff.2 hd)
  have hdesk := Command.performAll_perm hperm hdifferent now (e.inputs, e.scheduler)
  rw [← hcs.desk, ← hds.desk] at hdesk
  obtain ⟨heqs, hscheduler⟩ := Prod.mk.inj hdesk
  have hbusy : (e.obey now cs).state.isBusy = (e.obey now ds).state.isBusy := by
    by_cases hnil : cs = []
    · subst hnil
      rw [hperm.nil_eq]
    · have hnil' : ds ≠ [] := by
        rintro rfl
        exact hnil hperm.eq_nil
      rw [hcs.shown hnil, hds.shown hnil', Engine.isBusy, Engine.isBusy, hscheduler]
  refine ⟨heqs, ?_, hscheduler⟩
  rw [hcs.state, hds.state, heqs, hbusy, hperm.countP_eq]

end Engine

/-! ## In the course of a history -/

section History

variable [DecidableEq P] {brings : Work P → Outcome P → Prop} {debounce start : Time}
  {ms : List (Moment P)} {w : World P}

theorem Run.ready (hrun : Run brings (.start debounce start) ms w) : w.engine.Ready := by
  refine ⟨hrun.visible.1.mirrors, ((coherent_stable brings).of_run hrun).selected, ?_⟩
  cases hrun with
  | refl => exact fun hbusy => absurd hbusy nofun
  | snoc _ hoccurs => exact fun hbusy => hoccurs.isBusy_eq ▸ hbusy

/-- At whatever point of a history, two commands on different inputs that come at the same instant
leave the same inputs, the same state and the same to do in either order, and so does every number
of commands on different inputs in every order. -/
theorem Run.commands_commute (hrun : Run brings (.start debounce start) ms w) (now : Time) :
    (∀ c d : Command P, c.input? ≠ none → d.input? ≠ none → c.input? ≠ d.input? →
      (w.engine.obey now [c, d]).Alike (w.engine.obey now [d, c])) ∧
    ∀ cs ds : List (Command P), cs.Perm ds → (∀ c ∈ cs, c.input? ≠ none) →
      (cs.map Command.input?).Nodup → (w.engine.obey now cs).Alike (w.engine.obey now ds) := by
  have hready := hrun.ready
  refine ⟨fun c d hc hd hdifferent => ?_, fun cs ds hperm hinputs hdifferent =>
    hready.alike_of_perm now hperm hinputs hdifferent⟩
  refine hready.alike_of_perm now (.swap d c []) ?_ ?_
  · simp [hc, hd]
  · simpa using hdifferent

end History

namespace Sample

/-- Commands on all inputs, one of which sets what is set already. -/
def burst : List (Command Bool) :=
  [.setContextText "[", .setExpression "1", .select (some leaf), .setPlugin none,
    .setGrammarTag (some "R")]

end Sample

/-- While a parse is under way, all inputs are set in one order and in the other.  What has been
published last is not the same, for it was published with the selection. -/
theorem Run.commands_commute_of_parsing :
    ∃ (ms : List (Moment Bool)) (w : World Bool),
      Run (Work.MayBring Sample.plugin) (.start 300 0) ms w ∧ w.underWay.length = 1 ∧
      (w.engine.obey 410 Sample.burst).Alike (w.engine.obey 410 Sample.burst.reverse) ∧
      (w.engine.obey 410 Sample.burst).published ≠
        (w.engine.obey 410 Sample.burst.reverse).published := by
  obtain ⟨ms, w, hrun, hparses, hfirst, hlast⟩ :
      ∃ (ms : List (Moment Bool)) (w : World Bool),
      Run (Work.MayBring Sample.plugin) (.start 300 0) ms w ∧ w.underWay.length = 1 ∧
      (w.engine.obey 410 Sample.burst).published.grammarTag = none ∧
      (w.engine.obey 410 Sample.burst.reverse).published.grammarTag = some "R" := by
    exact ⟨_, _, ((Run.refl.command 0 (.setPlugin (some true))).command 10
      (.setExpression "1")).fire 400, by cbv, by cbv, by cbv⟩
  refine ⟨ms, w, hrun, hparses, ?_, fun hsame => ?_⟩
  · exact (hrun.commands_commute 410).2 _ _ Sample.burst.reverse_perm.symm (by decide) (by decide)
  · rw [hsame, hlast] at hfirst
    cases hfirst

end GrammarDesk.Inspector
