import GrammarDesk.Proofs.Inspector.Renewal
import GrammarDesk.Proofs.Inspector.Telling

/-!
# Failed parses are reported once

A parse that fails while it counts leaves everything that is shown as it is, and one notification
says so.  Nothing else is ever reported: not a parse that was superseded, whatever became of it, and
neither a context that cannot be read nor an evaluation that fails, for these show in the state.

Main definitions:

- `Engine.notes`: what has been reported so far in the event at hand.
- `Moment.failure?`: the failure of a parse that counts.

Main results:

- `Engine.notes_fire`: no value that is computed anew is reported.
- `Occurs.notes_eq`: what an event reports is the failure of the parse that counts in it.
- `Run.notes_eq_failures`: a failed parse changes nothing that is shown, and the notifications of a
  history are its failed parses, in order.
-/

namespace GrammarDesk.Inspector

open Json GrammarDesk.Tree Grammar

variable {P : Type}

/-! ## What the parts of an event report -/

namespace Engine

/-- The notifications of the event at hand so far. -/
def notes (e : Engine P) : List Notification := notesOf e.outbox

@[simp]
theorem notes_publish (e : Engine P) : e.publish.notes = e.notes := by
  simp [notes, publish, emit, notesOf]

@[simp]
theorem notes_notify (e : Engine P) (notification : Notification) :
    (e.emit (.notify notification)).notes = e.notes ++ [notification] := by
  simp [notes, emit, notesOf]

/-- No command is reported. -/
@[simp]
theorem notes_apply [DecidableEq P] (e : Engine P) (now : Time) (command : Command P) :
    (e.apply now command).notes = e.notes :=
  filterMap_apply _ e now command fun _ => rfl

/-- No value that is computed anew is reported, and so no context that cannot be read. -/
@[simp]
theorem notes_fire (e : Engine P) (now : Time) : (e.fire now).notes = e.notes :=
  filterMap_fire _ e now (fun _ => rfl) fun _ => rfl

@[simp]
theorem notes_afterParse (e : Engine P) (source : TreeSource) (tree : Node) :
    (e.afterParse source tree).notes = e.notes := by
  rcases e.afterParse_eq source tree with ⟨_, heq⟩
  rw [heq]
  rfl

@[simp]
theorem notes_learnDefaultTag (e : Engine P) (rootTag : String) :
    (e.learnDefaultTag rootTag).notes = e.notes := by
  rw [learnDefaultTag_eq]
  rfl

/-- What an event reports is reported while it is handled. -/
theorem notesOf_step [DecidableEq P] (e : Engine P) (now : Time) (event : Event P) :
    notesOf (e.step now event).2 = (e.handle now event).notes := by
  rw [notesOf, filterMap_step _ e now event fun _ => rfl]
  exact filterMap_showBusy _ _ fun _ => rfl

/-- A failed parse is an error exactly if the backend has broken the agreement. -/
theorem level_parseFailed (failure : Failure) :
    ((parseFailed failure).level = .error ↔
      failure = .missingMapping ∨ ∃ hint, failure = .unknownShape hint) ∧
    ((parseFailed failure).level = .error ∨ (parseFailed failure).level = .warning) := by
  cases failure <;> simp [parseFailed, Failure.isContractViolation]

/-- A failure that counts frees the slot of the tree, may teach a default tag, and is reported; all
else stays. -/
theorem commit_of_failure [DecidableEq P] (e : Engine P) (now : Time) {generation : Nat}
    {plugin : P} (source : TreeSource) (failure : Failure) (hrest : e.outbox = [])
    (hcurrent : e.scheduler.isCurrent .tree generation = true)
    (hinstalled : e.inputs.plugin = some plugin) :
    e.commit now ⟨generation, .tree plugin source (.error failure)⟩ =
      { e with
        inputs := { e.inputs with
          defaultRootTag :=
            if e.inputs.grammarTag = none then some source.rootTag else e.inputs.defaultRootTag }
        scheduler := { e.scheduler with tree := { e.scheduler.tree with job := none } }
        outbox := [.notify (parseFailed failure)] } := by
  have hfinish : e.scheduler.finish .tree generation =
      { e.scheduler with tree := { e.scheduler.tree with job := none } } := if_pos hcurrent
  rw [e.commit_of_tree_error now hcurrent hinstalled, learnDefaultTag_eq, hfinish, emit, hrest]
  rfl

end Engine

/-! ## The parses that fail -/

/-- The failure of a parse that counts at a moment, if there is one. -/
def Moment.failure? (m : Moment P) : Option Failure :=
  match m.event with
  | .complete ⟨generation, .tree _ _ (.error failure)⟩ =>
    if m.before.engine.scheduler.isCurrent .tree generation then some failure else none
  | _ => none

theorem Moment.failure?_eq_some_iff (m : Moment P) (failure : Failure) :
    m.failure? = some failure ↔ ∃ generation plugin source,
      m.event = .complete ⟨generation, .tree plugin source (.error failure)⟩ ∧
        m.before.engine.scheduler.isCurrent .tree generation = true := by
  unfold Moment.failure?
  split
  · next generation plugin source failure' hevent =>
    constructor
    · intro hsome
      rw [Option.ite_none_right_eq_some] at hsome
      obtain ⟨hcurrent, heq⟩ := hsome
      cases heq
      exact ⟨generation, plugin, source, hevent, hcurrent⟩
    · rintro ⟨_, _, _, heq, hcurrent⟩
      rw [hevent] at heq
      cases heq
      exact if_pos hcurrent
  · next hnot =>
    constructor
    · intro hsome
      cases hsome
    · rintro ⟨generation, plugin, source, heq, _⟩
      exact absurd heq (hnot generation plugin source failure)

/-! ## What a history reports -/

section History

variable [DecidableEq P] {brings : Work P → Outcome P → Prop} {debounce start now : Time}
  {ms : List (Moment P)} {w u : World P} {event : Event P}

/-- What is reported at a moment. -/
def Moment.notes (m : Moment P) : List Notification :=
  notesOf (m.before.engine.step m.now m.event).2

/-- What an event reports is the failure of the parse that counts in it, if one does and fails. -/
theorem Occurs.notes_eq (hbrings : ∀ work outcome, brings work outcome → Outcome.Of work outcome)
    (hrun : Run brings (.start debounce start) ms w) (hoccurs : Occurs brings w now event u) :
    notesOf (w.engine.step now event).2 =
      ((⟨w, now, event, u⟩ : Moment P).failure?.map Engine.parseFailed).toList := by
  have hsilent : w.engine.notes = [] := by
    rw [Engine.notes, hrun.outbox_eq_nil rfl]
    rfl
  rw [Engine.notesOf_step]
  cases event with
  | command command => rw [Engine.handle, Engine.notes_apply, hsilent]; rfl
  | fire => rw [Engine.handle, Engine.notes_fire, hsilent]; rfl
  | complete c =>
    rw [Engine.handle]
    have htakes := hrun.takes hbrings hoccurs
    generalize w.engine.commit now c = e at htakes
    cases htakes with
    | passed _ hpassed =>
      have hnone : (⟨w, now, .complete c, u⟩ : Moment P).failure? = none := by
        rw [Option.eq_none_iff_forall_ne_some]
        intro failure hsome
        rcases (Moment.failure?_eq_some_iff _ failure).mp hsome with ⟨_, _, _, heq, hcurrent⟩
        cases heq
        exact absurd (hcurrent.symm.trans hpassed) (by decide)
      rw [hnone, hsilent]
      rfl
    | parsed generation plugin source tree hcurrent hinstalled hbrought =>
      have hnotes := Engine.notes_publish
        (Engine.afterParse { w.engine with scheduler := w.engine.scheduler.finish .tree generation }
          source tree)
      rw [Engine.notes_afterParse] at hnotes
      exact hnotes.trans hsilent
    | failed generation plugin source failure hcurrent hinstalled hbrought =>
      have hsome : (⟨w, now, .complete ⟨generation, .tree plugin source (.error failure)⟩, u⟩ :
          Moment P).failure? = some failure := if_pos hcurrent
      rw [hsome, Engine.notes_notify, Engine.notes_learnDefaultTag]
      exact congrArg (· ++ [Engine.parseFailed failure]) hsilent
    | evaluated => exact (Engine.notes_publish _).trans hsilent

/-- A history reports its failed parses, in order. -/
theorem Run.flatMap_notes
    (hbrings : ∀ work outcome, brings work outcome → Outcome.Of work outcome)
    (hrun : Run brings (.start debounce start) ms w) :
    ms.flatMap Moment.notes = (ms.filterMap Moment.failure?).map Engine.parseFailed := by
  induction hrun with
  | refl => rfl
  | @snoc ms v u now event hrun hoccurs ih =>
    have hlast : Moment.notes ⟨v, now, event, u⟩ =
        ((⟨v, now, event, u⟩ : Moment P).failure?.map Engine.parseFailed).toList :=
      hoccurs.notes_eq hbrings hrun
    rw [List.flatMap_append, ih, List.flatMap_singleton, hlast, List.filterMap_append,
      List.map_append]
    cases hfailure : (⟨v, now, event, u⟩ : Moment P).failure? <;> simp [hfailure]

/-- A parse that fails while it counts leaves all that is shown, the tree's source, the inputs, and
what waits and runs, but that its own slot is free and the default tag may have been learnt; it
starts nothing, and is reported once, as an error exactly if the backend has broken the agreement.
And throughout a history as many notifications are sent as there are failed parses that count, one
for each of them at its own moment. -/
theorem Run.notes_eq_failures {pluginOf : P → Plugin}
    (hrun : Run (Work.MayBring pluginOf) (.start debounce start) ms w) :
    (∀ now u generation plugin source failure,
      Occurs (Work.MayBring pluginOf) w now
        (.complete ⟨generation, .tree plugin source (.error failure)⟩) u →
      w.engine.scheduler.isCurrent .tree generation = true →
      w.engine.commit now ⟨generation, .tree plugin source (.error failure)⟩ =
        { w.engine with
          inputs := { w.engine.inputs with
            defaultRootTag :=
              if w.engine.inputs.grammarTag = none then some source.rootTag
              else w.engine.inputs.defaultRootTag }
          scheduler :=
            { w.engine.scheduler with tree := { w.engine.scheduler.tree with job := none } }
          outbox := [.notify (Engine.parseFailed failure)] } ∧
      jobsOf (w.engine.step now
        (.complete ⟨generation, .tree plugin source (.error failure)⟩)).2 = [] ∧
      notesOf (w.engine.step now
        (.complete ⟨generation, .tree plugin source (.error failure)⟩)).2 =
          [Engine.parseFailed failure] ∧
      (∃ isBusy revision,
        u.engine.state = { w.engine.state with isBusy := isBusy, revision := revision }) ∧
      ((Engine.parseFailed failure).level = .error ↔
        failure = .missingMapping ∨ ∃ hint, failure = .unknownShape hint) ∧
      ((Engine.parseFailed failure).level = .error ∨
        (Engine.parseFailed failure).level = .warning)) ∧
    (∀ m ∈ ms, m.notes = (m.failure?.map Engine.parseFailed).toList) ∧
    ms.flatMap Moment.notes = (ms.filterMap Moment.failure?).map Engine.parseFailed ∧
    (ms.flatMap Moment.notes).length = ms.countP fun m => m.failure?.isSome := by
  have hof : ∀ (work : Work P) (outcome : Outcome P),
      work.MayBring pluginOf outcome → Outcome.Of work outcome := fun _ _ h => h.of
  refine ⟨?_, ?_, hrun.flatMap_notes hof, ?_⟩
  · intro now u generation plugin source failure hoccurs hcurrent
    have hrest := hrun.outbox_eq_nil rfl
    have hcommit := w.engine.commit_of_failure now source failure hrest hcurrent
      (hrun.parse_of_accepted hof hoccurs hcurrent).1
    refine ⟨hcommit, ?_, ?_, ?_, Engine.level_parseFailed failure⟩
    · rcases w.engine.step_eq now
        (.complete ⟨generation, .tree plugin source (.error failure)⟩) with ⟨_, _, _, _, _, hjobs⟩
      rw [hjobs, Engine.handle, hcommit]
      rfl
    · rw [Engine.notesOf_step, Engine.handle, hcommit]
      rfl
    · rcases hoccurs.engine_eq_handle with ⟨isBusy, revision, _, _, hengine⟩
      rw [hengine, Engine.handle, hcommit]
      exact ⟨isBusy, revision, rfl⟩
  · intro m hm
    rcases List.append_of_mem hm with ⟨past, later, rfl⟩
    rcases hrun.cut rfl with ⟨hbefore, hat, _⟩
    exact hat.notes_eq hof hbefore
  · rw [hrun.flatMap_notes hof, List.length_map, List.length_filterMap_eq_countP]

end History

/-- A plugin that parses nothing takes over from one whose tree is shown.  Its first parse is given
up before it fails, and nobody hears of that; its second fails while it counts, and so there is one
notification in the whole history, and the tree stays. -/
theorem Run.notes_eq_failures_of_superseded :
    ∃ (ms : List (Moment Bool)) (w u : World Bool) (failed : Moment Bool),
      Run (Work.MayBring Sample.plugin) (.start 300 0) ms w ∧
      failed = ⟨w, 1400, .complete ⟨5, .tree false ⟨"1", "R"⟩ (.error .emptyResult)⟩, u⟩ ∧
      Occurs (Work.MayBring Sample.plugin) w failed.now failed.event u ∧
      w.engine.scheduler.isCurrent .tree 5 = true ∧
      u.engine.state.treeRoot = some Sample.leaf ∧
      (∃ m ∈ ms, m.event = .complete ⟨3, .tree false ⟨"1", "R"⟩ (.error .emptyResult)⟩ ∧
        m.notes = []) ∧
      failed.notes = [⟨.warning, "Parse failed: Grammar returned an empty result"⟩] ∧
      ((ms ++ [failed]).flatMap Moment.notes).length = 1 := by
  obtain ⟨ms, w, u, failed, hrun, hfailed, hoccurs, hcurrent, htree, ⟨m, hm, hevent, hnone⟩,
      hcount⟩ : ∃ (ms : List (Moment Bool)) (w u : World Bool) (failed : Moment Bool),
      Run (Work.MayBring Sample.plugin) (.start 300 0) ms w ∧
      failed = ⟨w, 1400, .complete ⟨5, .tree false ⟨"1", "R"⟩ (.error .emptyResult)⟩, u⟩ ∧
      Occurs (Work.MayBring Sample.plugin) w 1400
        (.complete ⟨5, .tree false ⟨"1", "R"⟩ (.error .emptyResult)⟩) u ∧
      w.engine.scheduler.isCurrent .tree 5 = true ∧ w.engine.state.treeRoot = some Sample.leaf ∧
      (∃ m ∈ ms, m.event = .complete ⟨3, .tree false ⟨"1", "R"⟩ (.error .emptyResult)⟩ ∧
        m.failure? = none) ∧
      (ms ++ [failed]).countP (fun m => m.failure?.isSome) = 1 := by
    exact ⟨_, _, _, _, ((((((((Run.refl.command 0 (.setExpression "1")).command 10
      (.setPlugin (some true))).fire 400).arrive 500 0 _ _ rfl Sample.brings_tree).command 510
      (.setPlugin (some false))).fire 900).command 910 (.setPlugin (some true))).command 920
      (.setPlugin (some false))).arrive 950 0 ⟨3, .parse false "1" (some "R")⟩ _ (by cbv)
        Sample.brings_failure |>.fire 1300, rfl,
      .arrive 1 ⟨5, .parse false "1" (some "R")⟩ _ (by cbv) Sample.brings_failure,
      by cbv, by cbv, ⟨_, List.mem_append_left _ (List.mem_append_right _ (.head _)), rfl, by cbv⟩,
      by decide +kernel⟩
  subst hfailed
  have hnotes := hrun.notes_eq_failures
  rcases hnotes.1 _ _ _ _ _ _ hoccurs hcurrent with ⟨_, _, hone, ⟨_, _, hstate⟩, _⟩
  have hquiet := hnotes.2.1 m hm
  rw [hnone] at hquiet
  exact ⟨ms, w, u, _, hrun, rfl, hoccurs, hcurrent, by rw [hstate]; exact htree,
    ⟨m, hm, hevent, hquiet⟩, hone.trans (by decide),
    (hrun.snoc hoccurs).notes_eq_failures.2.2.2.trans hcount⟩

end GrammarDesk.Inspector
