import GrammarDesk.Proofs.Grammar.Questions
import GrammarDesk.Proofs.Inspector.Pinning

/-!
# A default tag is looked up once

A parse for which no tag is set asks its plugin for a default, and the engine keeps the answer as
long as the plugin stays.  What it keeps was told by the plugin that is installed, to a parse that
was started since it was installed; an answer that comes back after the plugin has been replaced is
dropped, also when the same plugin has been installed again.  Once a parse without a tag has come
back, no other parse by this plugin asks again.

Main definitions:

- `KeepsPlugin`: moments at which the plugin stays.
- `Work.Finds`, `LookedUp`: the look-up of a default tag, and one made since the plugin was
  installed.
- `Moment.TakesUntagged`: a parse counts while no tag is set.

Main results:

- `Run.parse_started_of_accepted`: the plugin of a parse that counts has stayed since it was started.
- `Run.lookedUp_of_default`: the default tag that is kept was looked up.
- `Run.default_of_takesUntagged`, `Run.default_ne_none`: after a parse without a tag there is a
  default tag until the plugin changes.
- `Run.default_learnt_once`: the default tag is sound, and is looked up once.
-/

namespace GrammarDesk.Inspector

open Json GrammarDesk.Tree Grammar

variable {P : Type}

/-! ## Look-ups -/

/-- The plugin is the same after each of the moments as before it. -/
def KeepsPlugin (ms : List (Moment P)) : Prop :=
  ∀ m ∈ ms, m.after.engine.inputs.plugin = m.before.engine.inputs.plugin

theorem keepsPlugin_snoc (ms : List (Moment P)) (m : Moment P) :
    KeepsPlugin (ms ++ [m]) ↔
      KeepsPlugin ms ∧ m.after.engine.inputs.plugin = m.before.engine.inputs.plugin := by
  rw [KeepsPlugin, List.forall_mem_append, List.forall_mem_singleton, KeepsPlugin]

/-- A parse that is given no tag may bring the result from this one, and whenever it does, whatever
the backend is, this is the first of the root tags for which it has asked the plugin, or empty if
there are none or the question has failed. -/
def Work.Finds (pluginOf : P → Plugin) (plugin : P) (expression tag : String)
    (result : Except Failure Node) : Prop :=
  (Work.parse plugin expression none).MayBring pluginOf (.tree plugin ⟨expression, tag⟩ result) ∧
    ∀ (σ : Type) (respond : (call : Call) → σ → call.Answer × σ) (environment : σ),
      (((Work.parse plugin expression none).run pluginOf).runIn respond environment).1 =
          .tree plugin ⟨expression, tag⟩ result →
        firstTag ((Task.attempt (pluginOf plugin).rootTags).runIn respond environment).1 = tag

/-- A parse that brings a result without having been given a tag has found one. -/
theorem Work.MayBring.finds {pluginOf : P → Plugin} {plugin : P} {expression tag : String}
    {result : Except Failure Node}
    (h : (Work.parse plugin expression none).MayBring pluginOf
      (.tree plugin ⟨expression, tag⟩ result)) :
    Work.Finds pluginOf plugin expression tag result := by
  refine ⟨h, fun σ respond environment houtcome => ?_⟩
  rw [Work.run_parse, runIn_bind, runIn_bind, rootTagOf_none, runIn_bind] at houtcome
  cases hfirst : ((Task.attempt (pluginOf plugin).rootTags).runIn respond environment).1 with
  | ok tags =>
    rw [hfirst] at houtcome
    cases houtcome
    rfl
  | error failure =>
    rw [hfirst] at houtcome
    cases houtcome
    rfl

/-- A parse that is given a tag does not look for another. -/
theorem Work.asksOnly_of_tag (pluginOf : P → Plugin) (plugin : P) (expression tag : String) :
    ((Work.parse plugin expression (some tag)).run pluginOf).AsksOnly
      fun call => ¬ call.AsksFor rootTagsKey := by
  have hrun : (Work.parse plugin expression (some tag)).run pluginOf =
      (Task.attempt ((pluginOf plugin).parse tag expression)).bind fun result =>
        .done (.tree plugin ⟨expression, tag⟩ result) := rfl
  rw [hrun]
  exact Dialogue.AsksOnly.bind ((pluginOf plugin).asksOnly_parse rootTagsKey tag expression)
    fun _ => trivial

/-- An evaluation does not look for a tag. -/
theorem Work.asksOnly_eval (pluginOf : P → Plugin) (plugin : P) (source : TreeSource)
    (context : Value) (serial : Nat) :
    ((Work.eval plugin source context serial).run pluginOf).AsksOnly
      fun call => ¬ call.AsksFor rootTagsKey := by
  rw [Work.run_eval]
  exact Dialogue.AsksOnly.bind
    ((pluginOf plugin).asksOnly_eval rootTagsKey source.rootTag source.expression context)
    fun _ => trivial

/-- The moment takes what a parse brings, a tree or a failure, while no tag is set. -/
def Moment.TakesUntagged (m : Moment P) : Prop :=
  m.before.engine.inputs.grammarTag = none ∧
    ∃ generation plugin source result,
      m.event = .complete ⟨generation, .tree plugin source result⟩ ∧
        m.before.engine.scheduler.isCurrent .tree generation = true

section History

variable [DecidableEq P] {brings : Work P → Outcome P → Prop} {debounce start now : Time}
  {ms : List (Moment P)} {w v u : World P} {m : Moment P} {event : Event P}

/-! ## As long as the plugin stays -/

/-- The plugin stays at a moment that changes nothing a tree is computed from. -/
theorem Occurs.plugin_eq (hoccurs : Occurs brings w now event u) (hnot : ¬ w.engine.Changes event) :
    u.engine.inputs.plugin = w.engine.inputs.plugin := by
  cases hoccurs.teaches with
  | kept hplugin | learnt _ _ _ _ _ _ _ hplugin => exact hplugin
  | forgotten command hevent hchanged =>
    exact absurd ⟨command, .plugin, hevent, hchanged, by decide⟩ hnot

theorem Run.keepsPlugin (hrun : Run brings w ms v) (hnot : ∀ m ∈ ms, ¬ m.Changes) :
    KeepsPlugin ms := by
  intro m hm
  rcases List.append_of_mem hm with ⟨past, later, rfl⟩
  exact (hrun.cut rfl).2.1.plugin_eq (hnot m hm)

theorem Run.plugin_eq (hrun : Run brings w ms v) (hkeeps : KeepsPlugin ms) :
    v.engine.inputs.plugin = w.engine.inputs.plugin := by
  induction hrun with
  | refl => rfl
  | snoc hrun hoccurs ih =>
    rw [keepsPlugin_snoc] at hkeeps
    exact hkeeps.2.trans (ih hkeeps.1)

/-- A default tag is not forgotten as long as the plugin stays. -/
theorem Run.default_ne_none (hrun : Run brings w ms v) (hkeeps : KeepsPlugin ms)
    (hdefault : w.engine.inputs.defaultRootTag ≠ none) :
    v.engine.inputs.defaultRootTag ≠ none := by
  induction hrun with
  | refl => exact hdefault
  | snoc hrun hoccurs ih =>
    rw [keepsPlugin_snoc] at hkeeps
    cases hoccurs.teaches with
    | kept _ hsame =>
      rw [hsame]
      exact ih hkeeps.1
    | forgotten _ _ _ hplugin => exact absurd hkeeps.2 hplugin
    | learnt _ _ _ _ _ _ _ _ hlearnt =>
      rw [hlearnt]
      exact Option.some_ne_none _

/-- After a parse that counts while no tag is set there is a default tag. -/
theorem Run.default_of_takesUntagged
    (hbrings : ∀ work outcome, brings work outcome → Outcome.Of work outcome)
    (hrun : Run brings (.start debounce start) ms w) (hoccurs : Occurs brings w now event u)
    (htakes : (⟨w, now, event, u⟩ : Moment P).TakesUntagged) :
    u.engine.inputs.defaultRootTag ≠ none := by
  rcases htakes with ⟨hnone, generation, plugin, source, result, rfl, haccepted⟩
  have hinstalled := (hrun.parse_of_accepted hbrings hoccurs haccepted).1
  have hsome : u.engine.inputs.defaultRootTag = some source.rootTag := by
    rw [hoccurs.inputs_eq_handle, Engine.handle]
    cases result with
    | ok tree =>
      rcases Engine.afterParse_eq { w.engine with
        scheduler := w.engine.scheduler.finish .tree generation } source tree with ⟨_, hafter⟩
      rw [w.engine.commit_of_tree_ok now haccepted hinstalled, hafter]
      exact if_pos hnone
    | error failure =>
      rw [w.engine.commit_of_tree_error now haccepted hinstalled, Engine.learnDefaultTag_eq]
      exact if_pos hnone
  rw [hsome]
  exact Option.some_ne_none _

/-! ## Where a default tag comes from -/

/-- A parse that counts was started while its plugin was installed, and the plugin has stayed
since. -/
theorem Run.parse_started_of_accepted
    (hbrings : ∀ work outcome, brings work outcome → Outcome.Of work outcome)
    (hrun : Run brings (.start debounce start) ms w) {generation : Nat} {plugin : P}
    {source : TreeSource} {result : Except Failure Node}
    (hoccurs : Occurs brings w now (.complete ⟨generation, .tree plugin source result⟩) u)
    (haccepted : w.engine.scheduler.isCurrent .tree generation = true) :
    ∃ m later, m :: later <:+ ms ∧ KeepsPlugin (m :: later) ∧
      ⟨generation, w.engine.parseWork plugin⟩ ∈ m.started := by
  rcases hrun.parse_of_accepted hbrings hoccurs haccepted with
    ⟨hinstalled, -, -, ⟨_, _⟩, hmem, rfl, rfl, -⟩
  rcases hrun.started_of_current hbrings movesAt_changes hmem rfl haccepted with
    ⟨m, later, ⟨past, rfl⟩, hstarted, -, hnot⟩
  rcases hrun.cut rfl with ⟨hbefore, hat, hafter⟩
  have hlater : KeepsPlugin later := hafter.keepsPlugin hnot
  rcases hbefore.parseWork_of_started hbrings hat hstarted rfl with ⟨starter, hstarter, hwork⟩
  obtain rfl : plugin = starter := (Work.parse.inj hwork).1
  refine ⟨m, later, List.suffix_append _ _, ?_, hstarted⟩
  rw [KeepsPlugin, List.forall_mem_cons]
  exact ⟨((hafter.plugin_eq hlater).symm.trans hinstalled).trans hstarter.symm, hlater⟩

/-- Since the plugin was installed, a parse by it has looked up its default tag and come back with
this one. -/
def LookedUp (pluginOf : P → Plugin) (ms : List (Moment P)) (plugin : P) (tag : String) : Prop :=
  ∃ m later, m :: later <:+ ms ∧ KeepsPlugin (m :: later) ∧
    ∃ generation expression result,
      ⟨generation, .parse plugin expression none⟩ ∈ m.started ∧
      (∃ m' ∈ later, m'.event = .complete ⟨generation, .tree plugin ⟨expression, tag⟩ result⟩) ∧
      Work.Finds pluginOf plugin expression tag result

theorem LookedUp.snoc {pluginOf : P → Plugin} {plugin : P} {tag : String}
    (h : LookedUp pluginOf ms plugin tag)
    (hplugin : m.after.engine.inputs.plugin = m.before.engine.inputs.plugin) :
    LookedUp pluginOf (ms ++ [m]) plugin tag := by
  rcases h with ⟨first, later, ⟨past, rfl⟩, hkeeps, generation, expression, result, hstarted,
    ⟨m', hm', hevent⟩, hfinds⟩
  refine ⟨first, later ++ [m], ⟨past, by simp⟩, ?_, generation, expression, result, hstarted,
    ⟨m', List.mem_append_left _ hm', hevent⟩, hfinds⟩
  rw [← List.cons_append, keepsPlugin_snoc]
  exact ⟨hkeeps, hplugin⟩

section Default

variable {pluginOf : P → Plugin}

/-- A parse that counts although it was given no tag has looked one up. -/
theorem Run.lookedUp_of_accepted
    (hrun : Run (Work.MayBring pluginOf) (.start debounce start) ms w) {generation : Nat}
    {plugin : P} {source : TreeSource} {result : Except Failure Node}
    (hoccurs : Occurs (Work.MayBring pluginOf) w now
      (.complete ⟨generation, .tree plugin source result⟩) u)
    (haccepted : w.engine.scheduler.isCurrent .tree generation = true)
    (hnone : w.engine.inputs.grammarTag = none) (hdefault : w.engine.inputs.defaultRootTag = none)
    (hplugin : u.engine.inputs.plugin = w.engine.inputs.plugin) :
    LookedUp pluginOf (ms ++ [⟨w, now, .complete ⟨generation, .tree plugin source result⟩, u⟩])
      plugin source.rootTag := by
  have hof : ∀ (work : Work P) (outcome : Outcome P),
      work.MayBring pluginOf outcome → Outcome.Of work outcome := fun _ _ h => h.of
  rcases hrun.parse_of_accepted hof hoccurs haccepted with
    ⟨-, hexpression, -, job, -, -, hwork, hbrought⟩
  rcases hrun.parse_started_of_accepted hof hoccurs haccepted with
    ⟨m, later, ⟨past, rfl⟩, hkeeps, hstarted⟩
  have hparse : w.engine.parseWork plugin = .parse plugin source.expression none := by
    rw [Engine.parseWork, hnone, hdefault, hexpression]
    rfl
  rw [hwork, hparse] at hbrought
  rw [hparse] at hstarted
  refine ⟨m, later ++ [⟨w, now, .complete ⟨generation, .tree plugin source result⟩, u⟩],
    ⟨past, by simp⟩, ?_, generation, source.expression, result, hstarted,
    ⟨_, List.mem_append_right _ (List.mem_singleton_self _), rfl⟩, hbrought.finds⟩
  rw [← List.cons_append, keepsPlugin_snoc]
  exact ⟨hkeeps, hplugin⟩

/-- The default tag that the engine keeps was looked up since the plugin was installed. -/
theorem Run.lookedUp_of_default
    (hrun : Run (Work.MayBring pluginOf) (.start debounce start) ms w) {tag : String}
    (hdefault : w.engine.inputs.defaultRootTag = some tag) :
    ∃ plugin, w.engine.inputs.plugin = some plugin ∧ LookedUp pluginOf ms plugin tag :=
  Run.default_induction (fun _ _ h => h.of) (LookedUp pluginOf)
    (fun hrun hoccurs haccepted hnone hunknown hplugin =>
      hrun.lookedUp_of_accepted hoccurs haccepted hnone hunknown hplugin)
    (fun hplugin h => h.snoc hplugin) hrun hdefault

/-- No job that is started while a default tag is kept looks one up. -/
theorem Run.asksOnly_of_started
    (hrun : Run (Work.MayBring pluginOf) (.start debounce start) ms w)
    (hoccurs : Occurs (Work.MayBring pluginOf) w now event u)
    (hdefault : w.engine.inputs.defaultRootTag ≠ none) {job : Job P}
    (hstarted : job ∈ (⟨w, now, event, u⟩ : Moment P).started) :
    (job.work.run pluginOf).AsksOnly fun call => ¬ call.AsksFor rootTagsKey := by
  obtain ⟨generation, work⟩ := job
  cases work with
  | parse plugin expression tag =>
    rcases hrun.parseWork_of_started (fun _ _ h => h.of) hoccurs hstarted rfl with
      ⟨installed, -, hwork⟩
    obtain rfl : tag = _ := (Work.parse.inj hwork).2.2
    obtain ⟨known, hknown⟩ := Option.ne_none_iff_exists'.mp hdefault
    cases htag : w.engine.inputs.grammarTag with
    | none =>
      rw [hknown, Option.none_or]
      exact Work.asksOnly_of_tag pluginOf plugin expression known
    | some given =>
      rw [Option.some_or]
      exact Work.asksOnly_of_tag pluginOf plugin expression given
  | eval plugin source context serial =>
    exact Work.asksOnly_eval pluginOf plugin source context serial

/-- A default tag that is kept is the answer of the plugin that is installed to a look-up that was
made since it was installed.  Once a parse has counted while no tag was set, whether it brought a
tree or a failure, no job looks for root tags until the plugin changes, whatever happens in
between. -/
theorem Run.default_learnt_once
    (hrun : Run (Work.MayBring pluginOf) (.start debounce start) ms w) :
    (∀ tag, w.engine.inputs.defaultRootTag = some tag →
      ∃ plugin, w.engine.inputs.plugin = some plugin ∧ LookedUp pluginOf ms plugin tag) ∧
    ∀ past m between next later, ms = past ++ m :: (between ++ next :: later) →
      m.TakesUntagged → KeepsPlugin between → ∀ job ∈ next.started,
        (job.work.run pluginOf).AsksOnly fun call => ¬ call.AsksFor rootTagsKey := by
  refine ⟨fun tag hdefault => hrun.lookedUp_of_default hdefault, ?_⟩
  rintro past m between next later rfl htakes hkeeps job hstarted
  have hsplit : past ++ m :: (between ++ next :: later) =
      (past ++ m :: between) ++ next :: later := by simp
  rcases hrun.cut hsplit with ⟨hbefore, hat, -⟩
  rcases hbefore.cut rfl with ⟨hpast, htaken, hbetween⟩
  have hlearnt : m.after.engine.inputs.defaultRootTag ≠ none :=
    hpast.default_of_takesUntagged (fun _ _ h => h.of) htaken htakes
  exact hbefore.asksOnly_of_started hat (hbetween.default_ne_none hkeeps hlearnt) hstarted

end Default

end History

/-- A plugin is replaced and installed again while its parse is under way.  The parse that is
started anew looks the default tag up, and when the tag that it settles has been set back to none,
the next one does not. -/
theorem Run.default_learnt_once_of_reinstalled :
    ∃ (past between : List (Moment Bool)) (m next : Moment Bool),
      Run (Work.MayBring Sample.plugin) (.start 300 0) (past ++ m :: (between ++ [next]))
        next.after ∧
      LookedUp Sample.plugin (past ++ m :: (between ++ [next])) true "R" ∧
      m.TakesUntagged ∧ KeepsPlugin between ∧
      ⟨5, .parse true "1" (some "R")⟩ ∈ next.started ∧
      ∀ job ∈ next.started, (job.work.run Sample.plugin).AsksOnly
        fun call => ¬ call.AsksFor rootTagsKey := by
  obtain ⟨past, v, v₁, v₂, v₃, hrun, harrive, hunset, hfire, hcurrent, hnone, hkept, hdefault,
      hinstalled, hstarted⟩ : ∃ past v v₁ v₂ v₃,
      Run (Work.MayBring Sample.plugin) (.start 300 0) past v ∧
      Occurs (Work.MayBring Sample.plugin) v 900
        (.complete ⟨4, .tree true ⟨"1", "R"⟩ (.ok Sample.leaf)⟩) v₁ ∧
      Occurs (Work.MayBring Sample.plugin) v₁ 1000 (.command (.setGrammarTag none)) v₂ ∧
      Occurs (Work.MayBring Sample.plugin) v₂ 1400 .fire v₃ ∧
      v.engine.scheduler.isCurrent .tree 4 = true ∧ v.engine.inputs.grammarTag = none ∧
      v₂.engine.inputs.plugin = v₁.engine.inputs.plugin ∧
      v₃.engine.inputs.defaultRootTag = some "R" ∧ v₃.engine.inputs.plugin = some true ∧
      ⟨5, .parse true "1" (some "R")⟩ ∈ jobsOf (v₂.engine.step 1400 .fire).2 := by
    refine ⟨_, _, _, _, _, (((((Run.refl.command 0 (.setExpression "1")).command 10
      (.setPlugin (some true))).fire 400).command 410 (.setPlugin (some false))).command 420
      (.setPlugin (some true))).fire 800, .arrive 1 ⟨4, .parse true "1" none⟩ _ rfl
      Sample.brings_tree, .command _, .fire, by cbv, by cbv, by cbv, by cbv, by cbv, ?_⟩
    cbv
    exact .head _
  have htakes : (⟨v, 900, .complete ⟨4, .tree true ⟨"1", "R"⟩ (.ok Sample.leaf)⟩, v₁⟩ :
      Moment Bool).TakesUntagged := ⟨hnone, _, _, _, _, rfl, hcurrent⟩
  have hkeeps : KeepsPlugin [(⟨v₁, 1000, .command (.setGrammarTag none), v₂⟩ : Moment Bool)] :=
    List.forall_mem_singleton.2 hkept
  have hall : Run (Work.MayBring Sample.plugin) (.start 300 0) (past ++
      ⟨v, 900, .complete ⟨4, .tree true ⟨"1", "R"⟩ (.ok Sample.leaf)⟩, v₁⟩ ::
      ([⟨v₁, 1000, .command (.setGrammarTag none), v₂⟩] ++ [⟨v₂, 1400, .fire, v₃⟩])) v₃ := by
    simpa using ((hrun.snoc harrive).snoc hunset).snoc hfire
  rcases hall.default_learnt_once with ⟨hsound, honce⟩
  rcases hsound "R" hdefault with ⟨plugin, hplugin, hlookedUp⟩
  obtain rfl := Option.some.inj (hplugin.symm.trans hinstalled)
  exact ⟨past, _, _, _, hall, hlookedUp, htakes, hkeeps, hstarted,
    honce past _ _ _ [] rfl htakes hkeeps⟩

end GrammarDesk.Inspector
