import GrammarDesk.Proofs.Inspector.Commanded
import GrammarDesk.Proofs.Inspector.Pacing

/-!
# Which grammar a tag comes from

As long as no tag is set, a grammar is parsed from the first tag that it advertises.  But the first
tree that is shown settles the tag, and a tag that is settled stays when the plugin is replaced:
from then on every grammar is parsed from the tag of the one that came first.

Main definitions:

- `Advertises`: a backend in which each plugin always names the same root tags.
- `Work.ParsesFrom`: work that comes to a parse by a plugin from a tag.
- `Moment.settles?`, `settler?`: the plugin whose tree has settled the tag.

Main results:

- `Run.default_eq`: the default tag that is kept is the installed plugin's own.
- `Run.grammarTag_eq_settler`: a tag that nobody has set is the own tag of the plugin that has
  settled it.
- `Run.parsesFrom_settler`: a grammar is parsed from the tag of the plugin that has settled it, and
  from its own if none has.
- `Run.not_parsesFrom_own`: a grammar is parsed from the tag of another.
-/

namespace GrammarDesk.Inspector

open Json GrammarDesk.Tree Grammar

variable {P : Type} {pluginOf : P → Plugin} {advertised : P → Except Failure (List String)}

/-! ## Own tags -/

/-- Whenever a plugin is asked for its root tags, the backend gives the same answer. -/
def Advertises (pluginOf : P → Plugin) (advertised : P → Except Failure (List String)) {σ : Type}
    (respond : (call : Call) → σ → call.Answer × σ) : Prop :=
  ∀ plugin environment,
    ((Task.attempt (pluginOf plugin).rootTags).runIn respond environment).1 = advertised plugin

/-- The first tag of those advertised, or else the empty one. -/
def firstTag : Except Failure (List String) → String
  | .ok tags => tags.headD ""
  | .error _ => ""

/-- Some backend in which the root tags are fixed answers the calls of the work in such a way that
it brings the outcome. -/
def Work.MayBringFixed (pluginOf : P → Plugin) (advertised : P → Except Failure (List String))
    (work : Work P) (outcome : Outcome P) : Prop :=
  ∃ (σ : Type) (respond : (call : Call) → σ → call.Answer × σ) (environment : σ),
    Advertises pluginOf advertised respond ∧
      ((work.run pluginOf).runIn respond environment).1 = outcome

theorem Work.MayBringFixed.of {work : Work P} {outcome : Outcome P}
    (h : work.MayBringFixed pluginOf advertised outcome) : Outcome.Of work outcome := by
  rcases h with ⟨σ, respond, environment, _, houtcome⟩
  exact Work.MayBring.of ⟨σ, respond, environment, houtcome⟩

/-- A parse starts from the tag that it is given, or else from the plugin's own. -/
theorem runIn_rootTagOf {σ : Type} {respond : (call : Call) → σ → call.Answer × σ}
    (hfixed : Advertises pluginOf advertised respond) (plugin : P) (tag : Option String)
    (environment : σ) :
    ((rootTagOf (pluginOf plugin) tag).runIn respond environment).1 =
      tag.getD (firstTag (advertised plugin)) := by
  cases tag with
  | some given => rfl
  | none =>
    rw [rootTagOf_none, runIn_bind, hfixed, Option.getD_none]
    cases advertised plugin <;> rfl

/-- Wherever the root tags are fixed, the work comes to a parse by this plugin from this tag. -/
def Work.ParsesFrom (pluginOf : P → Plugin) (advertised : P → Except Failure (List String))
    (work : Work P) (plugin : P) (rootTag : String) : Prop :=
  ∃ expression, ∀ (σ : Type) (respond : (call : Call) → σ → call.Answer × σ) (environment : σ),
    Advertises pluginOf advertised respond → ∃ environment',
      (work.run pluginOf).runIn respond environment =
        ((Task.attempt ((pluginOf plugin).parse rootTag expression)).bind fun result =>
          .done (.tree plugin ⟨expression, rootTag⟩ result)).runIn respond environment'

theorem Work.parsesFrom (pluginOf : P → Plugin)
    (advertised : P → Except Failure (List String)) (plugin : P) (expression : String)
    (tag : Option String) :
    (Work.parse plugin expression tag).ParsesFrom pluginOf advertised plugin
      (tag.getD (firstTag (advertised plugin))) := by
  refine ⟨expression, fun σ respond environment hfixed => ?_⟩
  rw [Work.run_parse, runIn_bind, runIn_rootTagOf hfixed]
  exact ⟨_, rfl⟩

/-- The outcome of a parse names the tag that it has started from. -/
theorem Work.ParsesFrom.source_eq {work : Work P} {plugin : P} {rootTag : String}
    (h : work.ParsesFrom pluginOf advertised plugin rootTag) {author : P} {source : TreeSource}
    {result : Except Failure Node}
    (hbrings : work.MayBringFixed pluginOf advertised (.tree author source result)) :
    author = plugin ∧ source.rootTag = rootTag := by
  rcases h with ⟨expression, hparses⟩
  rcases hbrings with ⟨σ, respond, environment, hfixed, houtcome⟩
  rcases hparses σ respond environment hfixed with ⟨environment', hrun⟩
  rw [hrun, runIn_bind] at houtcome
  cases houtcome
  exact ⟨rfl, rfl⟩

/-- A default tag that was learnt is the plugin's own. -/
theorem Learnt.eq_firstTag {ms : List (Moment P)} {plugin : P} {tag : String}
    (h : Learnt (Work.MayBringFixed pluginOf advertised) ms plugin tag) :
    tag = firstTag (advertised plugin) := by
  rcases h with ⟨_, _, job, _, expression, result, hwork, hbrought, _⟩
  rw [hwork] at hbrought
  exact ((Work.parsesFrom pluginOf advertised plugin expression none).source_eq hbrought).2

/-! ## Who has settled the tag -/

/-- What a moment does to the tag that is in force: a tree that is shown while none is set settles
it, and a command to set none unsettles it. -/
def Moment.settles? (m : Moment P) : Option (Option P) :=
  match m.event with
  | .command (.setGrammarTag _) => some none
  | _ => m.parse?.bind fun parse =>
    if m.before.engine.inputs.grammarTag = none ∧ parse.source.rootTag ≠ "" then
      some (some parse.plugin)
    else none

/-- The plugin whose tree has settled the tag that is in force, if one has. -/
def settler? (ms : List (Moment P)) : Option P := (lastOf? Moment.settles? ms).getD none

theorem settler?_snoc (ms : List (Moment P)) (m : Moment P) :
    settler? (ms ++ [m]) = m.settles?.getD (settler? ms) := by
  rw [settler?, lastOf?_snoc, Option.getD_or, settler?]

/-- Nobody has set a tag in the course of the history. -/
def Untagged (ms : List (Moment P)) : Prop :=
  ∀ m ∈ ms, ∀ tag, m.event ≠ .command (.setGrammarTag (some tag))

theorem Moment.event_of_parse? {m : Moment P} {parse : Parse P} (h : m.parse? = some parse) :
    ∃ generation, m.before.engine.scheduler.isCurrent .tree generation = true ∧
      m.event = .complete ⟨generation, .tree parse.plugin parse.source (.ok parse.tree)⟩ := by
  unfold Moment.parse? at h
  split at h
  · next generation plugin source tree hevent =>
    rw [Option.ite_none_right_eq_some] at h
    rcases h with ⟨hcurrent, hparse⟩
    obtain rfl := Option.some.inj hparse
    exact ⟨generation, hcurrent, hevent⟩
  · cases h

/-- If trees that settle the tag were parsed from their plugins' own, a moment sets the tag to that
of the plugin by which it is settled. -/
theorem Moment.grammarTag?_eq {m : Moment P}
    (hset : ∀ tag, m.event ≠ .command (.setGrammarTag (some tag)))
    (hown : ∀ parse, m.parse? = some parse → m.before.engine.inputs.grammarTag = none →
      parse.source.rootTag = firstTag (advertised parse.plugin)) :
    m.grammarTag? =
      m.settles?.map (Option.map fun plugin => firstTag (advertised plugin)) := by
  obtain ⟨before, now, event, after⟩ := m
  cases event with
  | command command =>
    cases command with
    | setGrammarTag tag =>
      cases tag with
      | none => rfl
      | some tag => exact absurd rfl (hset tag)
    | _ => rfl
  | fire => rfl
  | complete c =>
    simp only [Moment.grammarTag?, Moment.settles?]
    cases hparse : Moment.parse? ⟨before, now, .complete c, after⟩ with
    | none => rfl
    | some parse =>
      simp only [Option.bind_some]
      split
      · next hsettles =>
        rw [hown parse hparse hsettles.1]
        rfl
      · rfl

section History

variable [DecidableEq P] {debounce start now : Time} {ms : List (Moment P)} {w u : World P}
  {event : Event P}

/-- The default tag that is kept is the installed plugin's own. -/
theorem Run.default_eq
    (hrun : Run (Work.MayBringFixed pluginOf advertised) (.start debounce start) ms w)
    {tag : String} (hdefault : w.engine.inputs.defaultRootTag = some tag) :
    ∃ plugin, w.engine.inputs.plugin = some plugin ∧ tag = firstTag (advertised plugin) := by
  rcases hrun.learnt_of_default (fun _ _ h => h.of) hdefault with ⟨plugin, hinstalled, hlearnt⟩
  exact ⟨plugin, hinstalled, hlearnt.eq_firstTag⟩

/-- A parse that counts while no tag is set has started from its plugin's own. -/
theorem Run.own_of_accepted
    (hrun : Run (Work.MayBringFixed pluginOf advertised) (.start debounce start) ms w)
    {generation : Nat} {plugin : P} {source : TreeSource} {result : Except Failure Node}
    (hoccurs : Occurs (Work.MayBringFixed pluginOf advertised) w now
      (.complete ⟨generation, .tree plugin source result⟩) u)
    (haccepted : w.engine.scheduler.isCurrent .tree generation = true)
    (hnone : w.engine.inputs.grammarTag = none) :
    source.rootTag = firstTag (advertised plugin) := by
  have hof : ∀ (work : Work P) (outcome : Outcome P),
      work.MayBringFixed pluginOf advertised outcome → Outcome.Of work outcome :=
    fun _ _ h => h.of
  refine (hrun.learnt_of_accepted hof hoccurs haccepted ?_ hnone).eq_firstTag
  intro tag hdefault
  rcases hrun.learnt_of_default hof hdefault with ⟨other, hother, hlearnt⟩
  rcases hrun.parse_of_accepted hof hoccurs haccepted with ⟨hinstalled, _⟩
  obtain rfl := Option.some.inj (hother.symm.trans hinstalled)
  exact hlearnt

/-- A tag that nobody has set is the own tag of the plugin that has settled it. -/
theorem Run.grammarTag_eq_settler
    (hrun : Run (Work.MayBringFixed pluginOf advertised) (.start debounce start) ms w)
    (huntagged : Untagged ms) :
    w.engine.inputs.grammarTag =
      (settler? ms).map fun plugin => firstTag (advertised plugin) := by
  induction hrun with
  | refl => rfl
  | @snoc ms v u now event hrun hoccurs ih =>
    have hbefore := ih fun m hm => huntagged m (List.mem_append_left _ hm)
    have hthis := huntagged _ (List.mem_append_right _ (List.mem_singleton_self _))
    have hsets := (hoccurs.setsInputs (fun _ _ h => h.of) hrun).grammarTag
    have hown : ∀ parse, Moment.parse? ⟨v, now, event, u⟩ = some parse →
        v.engine.inputs.grammarTag = none →
        parse.source.rootTag = firstTag (advertised parse.plugin) := by
      intro parse hparse hnone
      rcases Moment.event_of_parse? hparse with ⟨generation, haccepted, hevent⟩
      obtain rfl : event = _ := hevent
      exact hrun.own_of_accepted hoccurs haccepted hnone
    rw [hsets, Moment.grammarTag?_eq hthis hown, settler?_snoc, hbefore]
    cases Moment.settles? ⟨v, now, event, u⟩ <;> rfl

/-- Whatever parse is started is a parse of the inputs by the installed plugin. -/
theorem Run.parseWork_of_started {brings : Work P → Outcome P → Prop}
    (hbrings : ∀ work outcome, brings work outcome → Outcome.Of work outcome)
    (hrun : Run brings (.start debounce start) ms w) (hoccurs : Occurs brings w now event u)
    {job : Job P} (hstarted : job ∈ (⟨w, now, event, u⟩ : Moment P).started)
    (hkey : job.work.key = .tree) :
    ∃ plugin, w.engine.inputs.plugin = some plugin ∧ job.work = w.engine.parseWork plugin := by
  have hmem : job ∈ (⟨w, now, event, u⟩ : Moment P).parses :=
    List.mem_filter.mpr ⟨hstarted, by simpa using hkey⟩
  cases hrun.paces hbrings hoccurs with
  | begun _ _ hparses | passed _ _ _ _ _ hparses =>
    rw [hparses] at hmem
    cases hmem
  | ended _ _ _ _ _ _ _ hparses =>
    rw [hparses, Option.mem_toList, Engine.parseJob?, Option.map_eq_some_iff] at hmem
    rcases hmem with ⟨plugin, hinstalled, rfl⟩
    exact ⟨plugin, hinstalled, rfl⟩

/-- As long as nobody sets a tag, a grammar is parsed from the tag of the plugin that has settled
it, and from its own only if none has. -/
theorem Run.parsesFrom_settler
    (hrun : Run (Work.MayBringFixed pluginOf advertised) (.start debounce start) ms w)
    (huntagged : Untagged ms)
    (hoccurs : Occurs (Work.MayBringFixed pluginOf advertised) w now event u)
    {generation : Nat} {plugin : P} {expression : String} {tag : Option String}
    (hstarted : ⟨generation, .parse plugin expression tag⟩ ∈
      (⟨w, now, event, u⟩ : Moment P).started) :
    w.engine.inputs.plugin = some plugin ∧
      (Work.parse plugin expression tag).ParsesFrom pluginOf advertised plugin
        (firstTag (advertised ((settler? ms).getD plugin))) := by
  rcases hrun.parseWork_of_started (fun _ _ h => h.of) hoccurs hstarted rfl with
    ⟨installed, hinstalled, hwork⟩
  have htag := hrun.grammarTag_eq_settler huntagged
  rw [Engine.parseWork] at hwork
  cases hwork
  refine ⟨hinstalled, ?_⟩
  have hparses := Work.parsesFrom pluginOf advertised plugin w.engine.inputs.expression
    (w.engine.inputs.grammarTag.or w.engine.inputs.defaultRootTag)
  cases hsettler : settler? ms with
  | some author =>
    rw [htag, hsettler] at hparses ⊢
    exact hparses
  | none =>
    rw [htag, hsettler] at hparses ⊢
    cases hdefault : w.engine.inputs.defaultRootTag with
    | none =>
      rw [hdefault] at hparses
      exact hparses
    | some learnt =>
      rcases hrun.default_eq hdefault with ⟨other, hother, rfl⟩
      obtain rfl := Option.some.inj (hother.symm.trans hinstalled)
      rw [hdefault] at hparses
      exact hparses

end History

/-! ## A tag that stays -/

namespace Sample

/-- Two plugins that advertise a tag each, and not the same. -/
def ownTags (first : Bool) : Except Failure (List String) := .ok [if first then "R" else "S"]

/-- The plugins answer as before, but each advertises its own tag. -/
def offer : (call : Call) → call.Answer
  | .getOption m _ _ => .ok (some (.array [.string (if m.serial = 0 then "R" else "S")]))
  | call => answer call

theorem advertises_ownTags :
    Advertises plugin ownTags fun call (_ : Unit) => (offer call, ()) := by
  rintro (_ | _) _ <;> rfl

/-- A parse brings what the two plugins answer. -/
theorem brings_offer (work : Work Bool) :
    work.MayBringFixed plugin ownTags ((work.run plugin).runIn
      (fun call (_ : Unit) => (offer call, ())) ()).1 :=
  ⟨Unit, _, (), advertises_ownTags, rfl⟩

/-- The tag was settled by the tree of the first plugin, and the second is parsed from it. -/
theorem run_settled :
    ∃ (ms : List (Moment Bool)) (w u : World Bool) (generation : Nat),
      Run (Work.MayBringFixed plugin ownTags) (.start 300 0) ms w ∧ Untagged ms ∧
      settler? ms = some true ∧ Occurs (Work.MayBringFixed plugin ownTags) w 1000 .fire u ∧
      ⟨generation, .parse false "1" (some "R")⟩ ∈ (⟨w, 1000, .fire, u⟩ : Moment Bool).started ∧
      u.engine.scheduler.isCurrent .tree generation = true := by
  have hbrings : (Work.parse true "1" none).MayBringFixed plugin ownTags
      (.tree true ⟨"1", "R"⟩ (.ok leaf)) := brings_offer _
  refine ⟨_, _, _, 3, ((((Run.refl.command 0 (.setExpression "1")).command 10
    (.setPlugin (some true))).fire 400).arrive 500 0 _ _ rfl hbrings).command 600
    (.setPlugin (some false)), ?_, by cbv, .fire, ?_, by cbv⟩
  · intro m hm tag hevent
    simp only [List.nil_append, List.cons_append, List.mem_cons, List.not_mem_nil,
      or_false] at hm
    rcases hm with rfl | rfl | rfl | rfl | rfl <;> cases hevent
  · cbv
    exact .head _

end Sample

/-- After the plugin was replaced, the second is parsed from the tag of the first. -/
theorem Run.parsesFrom_settler_of_replaced :
    ∃ (ms : List (Moment Bool)) (w u : World Bool) (generation : Nat),
      Run (Work.MayBringFixed Sample.plugin Sample.ownTags) (.start 300 0) ms w ∧
      Untagged ms ∧ settler? ms = some true ∧
      Occurs (Work.MayBringFixed Sample.plugin Sample.ownTags) w 1000 .fire u ∧
      ⟨generation, .parse false "1" (some "R")⟩ ∈ (⟨w, 1000, .fire, u⟩ : Moment Bool).started ∧
      w.engine.inputs.plugin = some false ∧
      (Work.parse false "1" (some "R")).ParsesFrom Sample.plugin Sample.ownTags false "R" := by
  rcases Sample.run_settled with
    ⟨ms, w, u, generation, hrun, huntagged, hsettler, hoccurs, hstarted, _⟩
  have hparses := hrun.parsesFrom_settler huntagged hoccurs hstarted
  rw [hsettler] at hparses
  exact ⟨ms, w, u, generation, hrun, huntagged, hsettler, hoccurs, hstarted, hparses⟩

/-- A grammar need not be parsed from its own tag, although nobody has set another. -/
theorem Run.not_parsesFrom_own :
    ¬ ∀ (ms : List (Moment Bool)) (w u : World Bool) (now : Time) (event : Event Bool)
      (generation : Nat) (plugin : Bool) (expression : String) (tag : Option String),
      Run (Work.MayBringFixed Sample.plugin Sample.ownTags) (.start 300 0) ms w →
      Untagged ms →
      Occurs (Work.MayBringFixed Sample.plugin Sample.ownTags) w now event u →
      ⟨generation, .parse plugin expression tag⟩ ∈
        (⟨w, now, event, u⟩ : Moment Bool).started →
      u.engine.scheduler.isCurrent .tree generation = true →
      (Work.parse plugin expression tag).ParsesFrom Sample.plugin Sample.ownTags plugin
        (firstTag (Sample.ownTags plugin)) := by
  intro hown
  rcases Sample.run_settled with
    ⟨ms, w, u, generation, hrun, huntagged, _, hoccurs, hstarted, hkept⟩
  have hparses := hown ms w u 1000 .fire generation false "1" (some "R") hrun huntagged hoccurs
    hstarted hkept
  have hbrings : (Work.parse false "1" (some "R")).MayBringFixed Sample.plugin Sample.ownTags
      (.tree false ⟨"1", "R"⟩ (.error .emptyResult)) := Sample.brings_offer _
  have hsame : "R" = "S" := (hparses.source_eq hbrings).2
  exact absurd hsame (by decide)

end GrammarDesk.Inspector
