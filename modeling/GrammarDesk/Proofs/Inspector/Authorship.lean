import Mathlib
import GrammarDesk.Proofs.Inspector.Ground

/-!
# Which grammar evaluates a tree

A tree is shown until another one is parsed, or until it goes together with its plugin.  It is
evaluated by whatever plugin is installed when its turn comes, and that need not be the one which
parsed it: a plugin is replaced at once, and the tree only after a quiet period and a parse that
succeeds.

Main definitions:

- `lastParse?`: the last parse in a history whose tree was shown.
- `Engine.Answered`: the output was evaluated from the tree that is shown.
- `Evaluated`: a history in which a tree was evaluated, and what came of it.

Main results:

- `Run.exhibit_eq`: the tree that is shown, and its source, are those of the last parse.
- `Run.installed_of_started`: an evaluation is made by the plugin that is installed.
- `Run.answered`: an output that nothing is to replace was evaluated from the tree that is shown.
- `Run.evaluated_by_installed`: the tree is evaluated by its own grammar exactly if that is the one
  which is installed.
- `Run.not_evaluated_by_author`: a tree is evaluated by another grammar.
-/

namespace GrammarDesk.Inspector

open Json GrammarDesk.Tree Grammar

variable {P : Type}

/-! ## What is shown -/

namespace Engine

/-- The tree that is shown, and its source. -/
def exhibit (e : Engine P) : Option Node × Option TreeSource := (e.state.treeRoot, e.source)

@[simp]
theorem exhibit_apply [DecidableEq P] (e : Engine P) (now : Time) (command : Command P) :
    (e.apply now command).exhibit = e.exhibit := by
  cases command with
  | select node => rfl
  | settle waiter => rfl
  | _ =>
    rw [apply, replaceInput]
    split <;> rfl

/-- A tree goes together with its source. -/
theorem exhibit_recompute (e : Engine P) (now : Time) (key : Derived) (generation : Nat) :
    (e.recompute now key generation).exhibit = e.exhibit ∨
      (e.recompute now key generation).exhibit = (none, none) := by
  have hrecomputes := e.recomputes now key generation
  generalize e.recompute now key generation = e' at hrecomputes
  cases hrecomputes with
  | treeGone => exact Or.inr rfl
  | parseStarted | evalStarted =>
    refine Or.inl ?_
    unfold startJob
    split <;> rfl
  | _ => exact Or.inl rfl

theorem exhibit_fire (e : Engine P) (now : Time) :
    (e.fire now).exhibit = e.exhibit ∨ (e.fire now).exhibit = (none, none) := by
  refine fire_induction (fun e' _ => e'.exhibit = e.exhibit ∨ e'.exhibit = (none, none))
    (Or.inl rfl) ?_
  intro e' key generation _ h
  rcases e'.exhibit_recompute now key generation with hsame | hgone
  · exact h.imp hsame.trans hsame.trans
  · exact Or.inr hgone

end Engine

/-! ## The last parse -/

/-- What is read off the last moment in a history that has something to read. -/
def lastOf? {α : Type} (read : Moment P → Option α) (ms : List (Moment P)) : Option α :=
  (ms.filterMap read).getLast?

theorem lastOf?_snoc {α : Type} (read : Moment P → Option α) (ms : List (Moment P)) (m : Moment P) :
    lastOf? read (ms ++ [m]) = (read m).or (lastOf? read ms) := by
  rw [lastOf?, List.filterMap_append, List.getLast?_append]
  cases hread : read m <;> simp [hread, lastOf?]

/-- A parse, and the tree that it has come to. -/
structure Parse (P : Type) where
  plugin : P
  source : TreeSource
  tree : Node

/-- The parse that counts at a moment, if one does and has come to a tree. -/
def Moment.parse? (m : Moment P) : Option (Parse P) :=
  match m.event with
  | .complete ⟨generation, .tree plugin source (.ok tree)⟩ =>
    if m.before.engine.scheduler.isCurrent .tree generation then some ⟨plugin, source, tree⟩
    else none
  | _ => none

/-- A parse that was superseded does not count. -/
theorem Moment.parse?_of_passed {m : Moment P} {c : Completion P} (hevent : m.event = .complete c)
    (hpassed : m.before.engine.scheduler.isCurrent c.outcome.key c.generation = false) :
    m.parse? = none := by
  unfold Moment.parse?
  split
  · next heq =>
    rw [hevent] at heq
    cases heq
    exact if_neg (Bool.eq_false_iff.mp hpassed)
  · rfl

/-- The last parse in a history whose tree was shown. -/
def lastParse? (ms : List (Moment P)) : Option (Parse P) := (ms.filterMap Moment.parse?).getLast?

theorem lastParse?_snoc (ms : List (Moment P)) (m : Moment P) :
    lastParse? (ms ++ [m]) = m.parse?.or (lastParse? ms) :=
  lastOf?_snoc Moment.parse? ms m

section History

variable [DecidableEq P] {brings : Work P → Outcome P → Prop} {debounce start now : Time}
  {ms : List (Moment P)} {w u : World P} {event : Event P}

theorem Occurs.exhibit_eq (hoccurs : Occurs brings w now event u) :
    u.engine.exhibit = (w.engine.handle now event).exhibit := by
  rcases hoccurs.engine_eq_handle with ⟨_, _, _, _, hengine⟩
  rw [hengine]
  rfl

/-- The tree that is shown, and its source, are those of the last parse. -/
theorem Run.exhibit_eq (hbrings : ∀ work outcome, brings work outcome → Outcome.Of work outcome)
    (hrun : Run brings (.start debounce start) ms w) :
    w.engine.exhibit = (none, none) ∨ ∃ parse, lastParse? ms = some parse ∧
      w.engine.exhibit = (some parse.tree, some parse.source) := by
  induction hrun with
  | refl => exact Or.inl rfl
  | @snoc ms v u now event hrun hoccurs ih =>
    have hkept : Moment.parse? ⟨v, now, event, u⟩ = none →
        (u.engine.exhibit = v.engine.exhibit ∨ u.engine.exhibit = (none, none)) →
        u.engine.exhibit = (none, none) ∨
          ∃ parse, lastParse? (ms ++ [⟨v, now, event, u⟩]) = some parse ∧
            u.engine.exhibit = (some parse.tree, some parse.source) := by
      intro hnone hexhibit
      rw [lastParse?_snoc, hnone, Option.none_or]
      rcases hexhibit with hsame | hgone
      · rw [hsame]
        exact ih
      · exact Or.inl hgone
    cases event with
    | command command =>
      refine hkept rfl (Or.inl ?_)
      rw [hoccurs.exhibit_eq, Engine.handle, Engine.exhibit_apply]
    | fire =>
      refine hkept rfl ?_
      rw [hoccurs.exhibit_eq, Engine.handle]
      exact v.engine.exhibit_fire now
    | complete c =>
      have hexhibit := hoccurs.exhibit_eq
      rw [Engine.handle] at hexhibit
      have htakes := hrun.takes hbrings hoccurs
      generalize v.engine.commit now c = e at htakes hexhibit
      cases htakes with
      | passed _ hpassed =>
        exact hkept (Moment.parse?_of_passed rfl hpassed) (Or.inl hexhibit)
      | parsed generation plugin source tree hcurrent _ _ =>
        have hparse : Moment.parse?
            ⟨v, now, .complete ⟨generation, .tree plugin source (.ok tree)⟩, u⟩ =
            some ⟨plugin, source, tree⟩ := if_pos hcurrent
        refine Or.inr ⟨⟨plugin, source, tree⟩, ?_, hexhibit⟩
        rw [lastParse?_snoc, hparse, Option.some_or]
      | failed generation plugin source failure _ _ _ =>
        rw [Engine.learnDefaultTag_eq] at hexhibit
        exact hkept rfl (Or.inl hexhibit)
      | evaluated => exact hkept rfl (Or.inl hexhibit)

/-! ## Who evaluates -/

/-- The evaluations that the event at hand has started are made by the plugin that is installed. -/
theorem installed_stable (brings : Work P → Outcome P → Prop) :
    Stable brings fun e _ _ => ∀ job ∈ e.started, ∀ plugin source context serial,
      job.work = .eval plugin source context serial → e.inputs.plugin = some plugin where
  start debounce now := by
    intro job hjob
    cases hjob
  apply {e underWay} now command hrest _ := by
    intro job hjob
    rw [Engine.started_apply, Engine.started, hrest] at hjob
    cases hjob
  takeDue now _ h := h
  recompute {e underWay key generation due} now h := by
    rcases e.inputs_recompute now key generation with ⟨selection, hinputs⟩
    intro job hjob plugin source context serial hwork
    rw [hinputs]
    rcases e.started_recompute now key generation with
      hsame | ⟨new, installed, hstarted, hinstalled, hnew⟩
    · rw [hsame] at hjob
      exact h job hjob plugin source context serial hwork
    · rw [hstarted] at hjob
      rcases List.mem_append.mp hjob with hold | hmem
      · exact h job hold plugin source context serial hwork
      · obtain rfl := List.mem_singleton.mp hmem
        obtain rfl : new = .eval plugin source context serial := hwork
        rcases hnew with ⟨_, hparse⟩ | ⟨_, _, _, _, heval⟩
        · cases hparse
        · cases heval
          exact hinstalled
  arrive {e underWay i job outcome} now hrest _ _ _ := by
    intro job hjob
    rw [Engine.started_commit, Engine.started, hrest] at hjob
    cases hjob
  showBusy {e underWay} h := by
    rcases e.showBusy_cases with heq | heq
    · rw [heq]; exact h
    · rw [heq, Engine.started_publish]; exact h
  releaseWaiters {e underWay} h := by
    rcases e.releaseWaiters_cases with ⟨waiters, released, heq⟩
    rw [heq, Engine.started, Engine.jobsOf_append_release]
    exact h
  deliver {e underWay} _ := by
    intro job hjob
    cases hjob

/-- An evaluation is made by the plugin that is installed when it is started. -/
theorem Run.installed_of_started (hrun : Run brings (.start debounce start) ms w)
    (hoccurs : Occurs brings w now event u) {job : Job P}
    (hstarted : job ∈ jobsOf (w.engine.step now event).2) {plugin : P} {source : TreeSource}
    {context : Value} {serial : Nat} (hwork : job.work = .eval plugin source context serial) :
    u.engine.inputs.plugin = some plugin := by
  have hrest := hrun.outbox_eq_nil rfl
  have hnone : ∀ job ∈ w.engine.started, ∀ plugin source context serial,
      job.work = .eval plugin source context serial → w.engine.inputs.plugin = some plugin := by
    intro job hjob
    rw [Engine.started, hrest] at hjob
    cases hjob
  rcases (installed_stable brings).handle hoccurs hrest hnone with ⟨_, _, hhandle⟩
  rcases w.engine.step_eq now event with ⟨_, _, _, _, hstep, hjobs⟩
  rw [hjobs] at hstarted
  rw [hoccurs.engine_eq, hstep]
  exact hhandle job hstarted plugin source context serial hwork

/-- An evaluation that is not given up at once is made of the tree that is shown, from the source of
the last parse. -/
theorem Run.shown_of_started
    (hbrings : ∀ work outcome, brings work outcome → Outcome.Of work outcome)
    (hrun : Run brings (.start debounce start) ms w) {job : Job P} (hjob : job ∈ w.underWay)
    {plugin : P} {source : TreeSource} {context : Value} {serial : Nat}
    (hwork : job.work = .eval plugin source context serial)
    (hkept : w.engine.scheduler.isCurrent .output job.generation = true) :
    ∃ parse, lastParse? ms = some parse ∧ w.engine.state.treeRoot = some parse.tree ∧
      source = parse.source ∧ w.engine.treeSerial = serial := by
  rw [Scheduler.isCurrent_iff] at hkept
  have hkey : job.work.key = .output := by rw [hwork]; rfl
  have hheld := (hrun.inOrder hbrings).held job (List.mem_append_left _ hjob)
  rw [hkey] at hheld
  rcases hrun.current.eval job (hheld hkept.symm) with
    ⟨_, tree, _, _, htree, hsource, _, _, hother⟩
  rw [hwork] at hother
  cases hother
  rcases hrun.exhibit_eq hbrings with hnone | ⟨parse, hparse, hexhibit⟩
  · exact absurd (htree.symm.trans (congrArg Prod.fst hnone)) (Option.some_ne_none _)
  · refine ⟨parse, hparse, congrArg Prod.fst hexhibit, ?_, rfl⟩
    exact Option.some.inj (hsource.symm.trans (congrArg Prod.snd hexhibit))

end History

/-! ## Outputs that stay -/

namespace Engine

/-- The output came of an evaluation, and unless it is still to be computed this was an evaluation
of the tree that is shown. -/
def Answered (brings : Work P → Outcome P → Prop) (e : Engine P) (due : List (Derived × Nat)) :
    Prop :=
  e.answer = (none, none) ∨ ∃ plugin source context serial result,
    brings (.eval plugin source context serial) (.output serial result) ∧
      e.answer = answerOf result ∧
      (¬ e.scheduler.Waits due .output →
        serial = e.treeSerial ∧ ∃ tree, e.exhibit = (some tree, some source))

/-- An output that rests on what is shown was evaluated from the tree that is shown. -/
theorem Grounded.answered {brings : Work P → Outcome P → Prop} {e : Engine P}
    {due : List (Derived × Nat)} (h : e.Grounded brings due) : e.Answered brings due := by
  apply Or.imp id _ h
  rintro ⟨plugin, tree, source, context, serial, result, hbrought, hresult, hfirm⟩
  refine ⟨plugin, source, context, serial, result, hbrought, hresult, ?_⟩
  intro hnot
  injection hfirm hnot with htree hsource hserial
  exact ⟨hserial.symm, tree, Prod.ext htree hsource⟩

end Engine

section History

variable [DecidableEq P] {brings : Work P → Outcome P → Prop} {debounce start now : Time}
  {ms : List (Moment P)} {w u : World P} {event : Event P}

/-- An output that nothing is to replace was evaluated from the tree that is shown. -/
theorem Run.answered (hbrings : ∀ work outcome, brings work outcome → Outcome.Of work outcome)
    (hrun : Run brings (.start debounce start) ms w) : w.engine.Answered brings [] :=
  (hrun.grounded hbrings).answered

/-- What was brought back in the course of a history. -/
def Brought (ms : List (Moment P)) (work : Work P) (outcome : Outcome P) : Prop :=
  ∃ m ∈ ms, ∃ job ∈ m.before.underWay, job.work = work ∧
    m.event = .complete ⟨job.generation, outcome⟩

/-- A history needs no outcomes but those that were brought back in it. -/
theorem Run.restrict {all : List (Moment P)} (hrun : Run brings w ms u)
    (hall : ∀ m ∈ ms, m ∈ all) :
    Run (fun work outcome => brings work outcome ∧ Brought all work outcome) w ms u := by
  induction hrun with
  | refl => exact .refl
  | @snoc ms v u now event hrun hoccurs ih =>
    refine (ih fun m hm => hall m (List.mem_append_left _ hm)).snoc ?_
    have hthis := hall _ (List.mem_append_right _ (List.mem_singleton_self _))
    cases hoccurs with
    | command command => exact .command command
    | fire => exact .fire
    | arrive i job outcome hjob hbrought =>
      exact .arrive i job outcome hjob
        ⟨hbrought, _, hthis, job, List.mem_of_getElem? hjob, rfl, rfl⟩
    | straggle c hpassed => exact .straggle c hpassed

/-- In the course of the history the source of a tree was evaluated by this plugin, which was
installed when the evaluation was started, and the result came back. -/
def Evaluated (ms : List (Moment P)) (plugin : P) (source : TreeSource) (context : Value)
    (serial : Nat) (result : Except Failure (Option Value)) : Prop :=
  ∃ m later, m :: later <:+ ms ∧ ∃ job ∈ m.started,
    job.work = .eval plugin source context serial ∧
      m.after.engine.inputs.plugin = some plugin ∧
      ∃ m' ∈ later, m'.event = .complete ⟨job.generation, .output serial result⟩

theorem Run.evaluated_of_brought (hrun : Run brings (.start debounce start) ms w) {plugin : P}
    {source : TreeSource} {context : Value} {serial : Nat}
    {result : Except Failure (Option Value)}
    (hbrought : Brought ms (.eval plugin source context serial) (.output serial result)) :
    Evaluated ms plugin source context serial result := by
  rcases hbrought with ⟨m', hmem, job, hjob, hwork, hevent⟩
  rcases List.append_of_mem hmem with ⟨past, after, rfl⟩
  rcases (hrun.cut rfl).1.started_of_underWay hjob with ⟨m, later, ⟨past, rfl⟩, hstarted⟩
  rcases (hrun.cut rfl).1.cut rfl with ⟨hbefore, hat, _⟩
  refine ⟨m, later ++ m' :: after, ⟨past, by simp⟩, job, hstarted, hwork, ?_, m', by simp, hevent⟩
  exact hbefore.installed_of_started hat hstarted hwork

/-! ## Whose evaluation is shown -/

/-- Every evaluation is made of the tree that is shown, from the source of the last parse, by the
plugin that is installed when it is started, and so is whatever output is shown once it is no more
to be computed.  The tree is evaluated by its own grammar, then, exactly if that is the one
installed. -/
theorem Run.evaluated_by_installed {pluginOf : P → Plugin}
    (hrun : Run (Work.MayBring pluginOf) (.start debounce start) ms w) :
    (∀ past m later generation plugin source context serial, ms = past ++ m :: later →
      ⟨generation, .eval plugin source context serial⟩ ∈ m.started →
      m.after.engine.scheduler.isCurrent .output generation = true →
      ∃ parse, lastParse? (past ++ [m]) = some parse ∧
        m.after.engine.state.treeRoot = some parse.tree ∧ source = parse.source ∧
        m.after.engine.inputs.plugin = some plugin ∧
        (plugin = parse.plugin ↔ m.after.engine.inputs.plugin = some parse.plugin)) ∧
    (w.engine.answer ≠ (none, none) → ∃ plugin source context serial result,
      Evaluated ms plugin source context serial result ∧ w.engine.answer = answerOf result ∧
        (¬ w.engine.scheduler.Waits [] .output → serial = w.engine.treeSerial ∧
          ∃ parse, lastParse? ms = some parse ∧ w.engine.state.treeRoot = some parse.tree ∧
            source = parse.source)) := by
  have hof : ∀ (work : Work P) (outcome : Outcome P),
      work.MayBring pluginOf outcome → Outcome.Of work outcome := fun _ _ h => h.of
  refine ⟨?_, ?_⟩
  · rintro past m later generation plugin source context serial rfl hstarted hkept
    rcases hrun.cut rfl with ⟨hbefore, hat, _⟩
    have hinstalled := hbefore.installed_of_started hat hstarted rfl
    rcases (hbefore.snoc hat).shown_of_started hof (hat.mem_of_started hstarted) rfl hkept with
      ⟨parse, hparse, htree, hsource, _⟩
    refine ⟨parse, hparse, htree, hsource, hinstalled, ?_⟩
    rw [hinstalled, Option.some.injEq]
  · intro hanswer
    have hrestricted := hrun.restrict fun _ hm => hm
    rcases hrestricted.answered fun _ _ h => hof _ _ h.1 with
      hnone | ⟨plugin, source, context, serial, result, ⟨_, hbrought⟩, hresult, hshown⟩
    · exact absurd hnone hanswer
    · refine ⟨plugin, source, context, serial, result, hrun.evaluated_of_brought hbrought, hresult,
        ?_⟩
      intro hnot
      rcases hshown hnot with ⟨hserial, tree, hexhibit⟩
      refine ⟨hserial, ?_⟩
      rcases hrun.exhibit_eq hof with hnone | ⟨parse, hparse, hsame⟩
      · rw [hnone] at hexhibit
        cases hexhibit
      · rw [hsame] at hexhibit
        cases hexhibit
        exact ⟨parse, hparse, congrArg Prod.fst hsame, rfl⟩

end History

/-- The text of an answer, if it is one. -/
def Sample.text? : Option Value × Option String → Option String
  | (some (.string text), none) => some text
  | _ => none

theorem Sample.eq_of_text? {shown : Option Value × Option String} {text : String}
    (htext : text? shown = some text) : shown = (some (.string text), none) := by
  unfold text? at htext
  split at htext
  · cases htext
    rfl
  · cases htext

/-- The first plugin's tree is evaluated by the second, which has been installed meanwhile.  The
second cannot parse the expression, so the tree and the evaluation both stay. -/
theorem Sample.run_switched :
    ∃ (ms past : List (Moment Bool)) (m : Moment Bool) (later : List (Moment Bool))
      (w : World Bool),
      Run (Work.MayBring Sample.plugin) (.start 300 0) ms w ∧ ms = past ++ m :: later ∧
      ⟨2, .eval false ⟨"1", "R"⟩ (.object []) 1⟩ ∈ m.started ∧
      m.after.engine.scheduler.isCurrent .output 2 = true ∧
      lastParse? (past ++ [m]) = some ⟨true, ⟨"1", "R"⟩, Sample.leaf⟩ ∧
      lastParse? ms = some ⟨true, ⟨"1", "R"⟩, Sample.leaf⟩ ∧
      Evaluated ms false ⟨"1", "R"⟩ (.object []) 1 (.ok (some (Sample.verdict false))) ∧
      w.engine.scheduler.isIdle = true ∧ w.engine.treeSerial = 1 ∧
      w.engine.answer = (some (Sample.verdict false), none) := by
  obtain ⟨past, v₀, v₁, v₂, v₃, w, hrun, heval, hanswer, hparse, hfail, hstarted, hkept,
      hinstalled, hlast, hidle, hserial, hshown⟩ :
      ∃ past v₀ v₁ v₂ v₃ w, Run (Work.MayBring Sample.plugin) (.start 300 0) past v₀ ∧
      Occurs (Work.MayBring Sample.plugin) v₀ 850 .fire v₁ ∧
      Occurs (Work.MayBring Sample.plugin) v₁ 860
        (.complete ⟨2, .output 1 (.ok (some (Sample.verdict false)))⟩) v₂ ∧
      Occurs (Work.MayBring Sample.plugin) v₂ 1200 .fire v₃ ∧
      Occurs (Work.MayBring Sample.plugin) v₃ 1210
        (.complete ⟨3, .tree false ⟨"1", "R"⟩ (.error .emptyResult)⟩) w ∧
      jobsOf (v₀.engine.step 850 .fire).2 = [⟨2, .eval false ⟨"1", "R"⟩ (.object []) 1⟩] ∧
      v₁.engine.scheduler.isCurrent .output 2 = true ∧ v₁.engine.inputs.plugin = some false ∧
      lastParse? past = some ⟨true, ⟨"1", "R"⟩, Sample.leaf⟩ ∧
      w.engine.scheduler.isIdle = true ∧ w.engine.treeSerial = 1 ∧
      Sample.text? w.engine.answer = some "second" := by
    exact ⟨_, _, _, _, _, _, ((((Run.refl.command 0 (.setExpression "1")).command 10
      (.setPlugin (some true))).fire 400).arrive 500 0 _ _ rfl Sample.brings_tree).command 600
      (.setPlugin (some false)), .fire,
      .arrive 0 ⟨2, .eval false ⟨"1", "R"⟩ (.object []) 1⟩ _ (by cbv) (Sample.brings_output false),
      .fire, .arrive 0 ⟨3, .parse false "1" (some "R")⟩ _ (by cbv) Sample.brings_failure,
      by cbv, by cbv, by cbv, by cbv, by decide +kernel, by decide +kernel, by decide +kernel⟩
  have hmem : ⟨2, .eval false ⟨"1", "R"⟩ (.object []) 1⟩ ∈
      (⟨v₀, 850, .fire, v₁⟩ : Moment Bool).started := by
    rw [Moment.started, hstarted]
    exact List.mem_singleton_self _
  refine ⟨_, past, ⟨v₀, 850, .fire, v₁⟩, _, w,
    (hrun.snoc heval).append (((Run.refl.snoc hanswer).snoc hparse).snoc hfail),
    (List.append_cons _ _ _).symm, hmem, hkept, ?_, ?_, ?_, hidle, hserial,
    Sample.eq_of_text? hshown⟩
  · rw [lastParse?_snoc]
    exact hlast
  · simp only [← List.append_assoc, List.append_nil, lastParse?_snoc]
    exact hlast
  · exact ⟨_, _, ⟨past, List.append_cons _ _ _⟩, _, hmem, rfl, hinstalled,
      ⟨v₁, 860, .complete ⟨2, .output 1 (.ok (some (Sample.verdict false)))⟩, v₂⟩, by simp, rfl⟩

/-- The grammar that evaluates a tree need not be the one that has parsed it, and what another one
has made of the tree may be shown even when nothing is left to compute. -/
theorem Run.not_evaluated_by_author :
    (¬ ∀ (ms past : List (Moment Bool)) (m : Moment Bool) (later : List (Moment Bool))
        (w : World Bool) (generation : Nat) (plugin : Bool) (source : TreeSource) (context : Value)
        (serial : Nat) (parse : Parse Bool),
        Run (Work.MayBring Sample.plugin) (.start 300 0) ms w → ms = past ++ m :: later →
        ⟨generation, .eval plugin source context serial⟩ ∈ m.started →
        m.after.engine.scheduler.isCurrent .output generation = true →
        lastParse? (past ++ [m]) = some parse → plugin = parse.plugin) ∧
    (¬ ∀ (ms : List (Moment Bool)) (w : World Bool) (plugin : Bool) (source : TreeSource)
        (context : Value) (result : Except Failure (Option Value)) (parse : Parse Bool),
        Run (Work.MayBring Sample.plugin) (.start 300 0) ms w →
        w.engine.scheduler.isIdle = true → lastParse? ms = some parse →
        Evaluated ms plugin source context w.engine.treeSerial result →
        w.engine.answer = answerOf result → plugin = parse.plugin) := by
  rcases Sample.run_switched with ⟨ms, past, m, later, w, hrun, hms, hstarted, hkept, hthen, hlast,
    hevaluated, hidle, hserial, hanswer⟩
  constructor
  · intro hown
    cases hown ms past m later w 2 false _ _ _ _ hrun hms hstarted hkept hthen
  · intro hown
    rw [← hserial] at hevaluated
    cases hown ms w false _ _ _ _ hrun hidle hlast hevaluated hanswer

/-- The second plugin evaluates the first plugin's tree, for it is installed by then, and what comes
of it is still shown when the second plugin has failed to parse the expression. -/
theorem Run.evaluated_by_second :
    ∃ (ms : List (Moment Bool)) (w : World Bool) (m : Moment Bool) (parse : Parse Bool),
      Run (Work.MayBring Sample.plugin) (.start 300 0) ms w ∧ m ∈ ms ∧
      m.after.engine.inputs.plugin = some false ∧ parse.plugin = true ∧
      m.after.engine.state.treeRoot = some parse.tree ∧
      w.engine.scheduler.isIdle = true ∧ w.engine.state.treeRoot = some parse.tree ∧
      ∃ plugin context result,
        Evaluated ms plugin parse.source context w.engine.treeSerial result ∧
        answerOf result = (some (Sample.verdict false), none) := by
  rcases Sample.run_switched with ⟨ms, past, m, later, w, hrun, hms, hstarted, hkept, hthen, hlast,
    _, hidle, _, hanswer⟩
  rcases hrun.evaluated_by_installed with ⟨hstarts, hshows⟩
  rcases hstarts past m later 2 false _ _ _ hms hstarted hkept with
    ⟨parse, hparse, htree, _, hinstalled, _⟩
  obtain rfl := Option.some.inj (hthen.symm.trans hparse)
  rcases hshows (by rw [hanswer]; simp) with
    ⟨plugin, source, context, serial, result, hevaluated, hresult, hshown⟩
  rcases hshown (Scheduler.not_waits_of_isIdle hidle .output) with
    ⟨rfl, other, hother, htreeNow, rfl⟩
  obtain rfl := Option.some.inj (hlast.symm.trans hother)
  exact ⟨ms, w, m, _, hrun, by rw [hms]; simp, hinstalled, rfl, htree, hidle, htreeNow, plugin,
    context, result, hevaluated, hresult.symm.trans hanswer⟩

end GrammarDesk.Inspector
