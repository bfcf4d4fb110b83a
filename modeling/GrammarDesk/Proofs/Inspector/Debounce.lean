import GrammarDesk.Proofs.Inspector.Pacing

/-!
# Changes rest before they are parsed

A parse is started when the inputs have not changed for a whole quiet period.  It is made of them as
the last change has left them, and there is no other until the next change.  So changes that come
quickly one after the other lead to one parse together.

Main definitions:

- `Timed`: a history in which time does not run backwards.
- `LastChange`, `Burst`: the last change of a history, and changes that come quickly one after the
  other.

Main results:

- `Run.lastChange_of_deadline`: a quiet period was begun by the last change.
- `Run.generation_parses`: each change has one parse at most.
- `Run.cases_of_unchanged`: after a change one parse is started, if any.
- `Run.debounced`: parses are of inputs that have rested, and there is one for a burst of changes.
-/

namespace GrammarDesk.Inspector

open Json GrammarDesk.Tree Grammar

variable {P : Type}

section History

variable [DecidableEq P] {brings : Work P → Outcome P → Prop} {debounce start now : Time}
  {ms past later : List (Moment P)} {v w u : World P} {m c : Moment P} {event : Event P}

/-! ## What a quiet period goes back to -/

/-- Time does not run backwards in the history. -/
def Timed (ms : List (Moment P)) : Prop :=
  ms.Pairwise fun earlier later => earlier.now ≤ later.now

/-- The moment is the last of the history at which an input of the tree changes. -/
def LastChange (ms : List (Moment P)) (c : Moment P) : Prop :=
  ∃ before between, ms = before ++ c :: between ∧ c.Changes ∧ ∀ m ∈ between, ¬ m.Changes

theorem LastChange.snoc (h : LastChange ms c) (hunchanged : ¬ m.Changes) :
    LastChange (ms ++ [m]) c := by
  rcases h with ⟨before, between, rfl, hchanges, hnot⟩
  refine ⟨before, between ++ [m], by simp, hchanges, ?_⟩
  rw [List.forall_mem_append, List.forall_mem_singleton]
  exact ⟨hnot, hunchanged⟩

/-- No change of a history comes after the last one. -/
theorem LastChange.now_le (h : LastChange ms c) (htimed : Timed ms) (hm : m ∈ ms)
    (hchanges : m.Changes) : m.now ≤ c.now := by
  rcases h with ⟨before, between, rfl, _, hnot⟩
  rcases List.mem_append.mp hm with hbefore | hrest
  · exact (List.pairwise_append.mp htimed).2.2 m hbefore c List.mem_cons_self
  · rcases List.mem_cons.mp hrest with rfl | hbetween
    · exact Nat.le_refl _
    · exact absurd hchanges (hnot m hbetween)

theorem Run.debounce_eq (hrun : Run brings (.start debounce start) ms w) :
    w.engine.scheduler.debounce = debounce := by
  induction hrun with
  | refl => rfl
  | snoc _ hoccurs ih => rw [hoccurs.scheduler_eq, Engine.debounce_handle, ih]

/-- A quiet period of the tree was begun by the last change, for the generation that began with it,
and nothing a parse is made of is different since. -/
theorem Run.lastChange_of_deadline
    (hbrings : ∀ work outcome, brings work outcome → Outcome.Of work outcome)
    (hrun : Run brings (.start debounce start) ms w) {deadline : Time}
    (hdeadline : w.treeSlot.deadline = some deadline) :
    ∃ c, LastChange ms c ∧ c.now + debounce = deadline ∧
      c.after.treeSlot.generation = w.treeSlot.generation ∧
      c.after.engine.draft = w.engine.draft := by
  induction hrun with
  | refl => cases hdeadline
  | @snoc ms v u now event hrun hoccurs ih =>
    cases hrun.paces hbrings hoccurs with
    | begun hchanges hslot _ =>
      rw [hslot, hrun.debounce_eq] at hdeadline
      exact ⟨⟨v, now, event, u⟩, ⟨ms, [], rfl, hchanges, by simp⟩, Option.some.inj hdeadline, rfl,
        rfl⟩
    | ended _ _ _ _ _ hover =>
      rw [hover] at hdeadline
      cases hdeadline
    | passed hunchanged _ hkept hgeneration hdraft _ =>
      dsimp only at hkept hgeneration hdraft
      rw [hkept] at hdeadline
      rcases ih hdeadline with ⟨c, hlast, hbegun, hsame, halike⟩
      have hwaits : v.treeSlot.deadline ≠ none := by simp [hdeadline]
      exact ⟨c, hlast.snoc hunchanged, hbegun, hsame.trans hgeneration.symm,
        halike.trans (hdraft hwaits).symm⟩

/-- The generations of parses rise, and none is that of a quiet period which is not over. -/
theorem Run.generation_parses
    (hbrings : ∀ work outcome, brings work outcome → Outcome.Of work outcome)
    (hrun : Run brings (.start debounce start) ms w) :
    (∀ job ∈ ms.flatMap Moment.parses, job.generation ≤ w.treeSlot.generation ∧
      (w.treeSlot.deadline ≠ none → job.generation < w.treeSlot.generation)) ∧
    ((ms.flatMap Moment.parses).map Job.generation).Pairwise (· < ·) := by
  induction hrun with
  | refl => simp
  | @snoc ms v u now event hrun hoccurs ih =>
    rcases ih with ⟨hbounded, hrises⟩
    rw [List.flatMap_append, List.flatMap_singleton]
    cases hrun.paces hbrings hoccurs with
    | begun _ hslot hparses =>
      dsimp only at hslot
      rw [hparses, List.append_nil, hslot]
      refine ⟨fun job hjob => ?_, hrises⟩
      have hle := (hbounded job hjob).1
      exact ⟨Nat.le_succ_of_le hle, fun _ => Nat.lt_succ_of_le hle⟩
    | ended _ _ deadline hdeadline _ hover hgeneration hparses =>
      dsimp only at hdeadline hover hgeneration hparses
      have hwaits : v.treeSlot.deadline ≠ none := by simp [hdeadline]
      have hnew : ∀ job ∈ (v.engine.parseJob? v.treeSlot.generation).toList,
          job.generation = v.treeSlot.generation := by
        intro job hjob
        rw [Option.mem_toList, Engine.parseJob?, Option.map_eq_some_iff] at hjob
        rcases hjob with ⟨_, _, rfl⟩
        rfl
      rw [hparses, hover, hgeneration, List.map_append, List.pairwise_append]
      refine ⟨fun job hjob => ⟨?_, fun h => absurd rfl h⟩, hrises, ?_, ?_⟩
      · rcases List.mem_append.mp hjob with hold | hlast
        · exact (hbounded job hold).1
        · exact Nat.le_of_eq (hnew job hlast)
      · cases v.engine.parseJob? v.treeSlot.generation <;> simp
      · intro earlier hearlier generation hgeneration
        rcases List.mem_map.mp hearlier with ⟨job, hjob, rfl⟩
        rcases List.mem_map.mp hgeneration with ⟨last, hlast, rfl⟩
        rw [hnew last hlast]
        exact (hbounded job hjob).2 hwaits
    | passed _ _ hkept hgeneration _ hparses =>
      dsimp only at hkept hgeneration
      rw [hparses, List.append_nil, hkept, hgeneration]
      exact ⟨hbounded, hrises⟩

/-! ## Bursts -/

/-- While no input changes, the quiet period goes on until a pass finds it over.  That pass has the
tree parsed, of the inputs as they were before, and nothing else does. -/
theorem Run.cases_of_unchanged
    (hbrings : ∀ work outcome, brings work outcome → Outcome.Of work outcome)
    (hpast : Run brings (.start debounce start) past v) (hlater : Run brings v later w)
    (hunchanged : ∀ m ∈ later, ¬ m.Changes) {deadline : Time}
    (hdeadline : v.treeSlot.deadline = some deadline) :
    ((∀ m ∈ later, m.event = .fire → m.now < deadline) ∧ (∀ m ∈ later, m.parses = []) ∧
      w.treeSlot.deadline = some deadline ∧ w.treeSlot.generation = v.treeSlot.generation ∧
      w.engine.draft = v.engine.draft) ∨
    (w.treeSlot.deadline = none ∧ ∃ before m after, later = before ++ m :: after ∧
      m.event = .fire ∧ deadline ≤ m.now ∧ (∀ m' ∈ before, m'.parses = []) ∧
      m.parses = (v.engine.parseJob? v.treeSlot.generation).toList ∧
      ∀ m' ∈ after, m'.parses = []) := by
  induction hlater with
  | refl => exact Or.inl ⟨by simp, by simp, hdeadline, rfl, rfl⟩
  | @snoc later w u now event hlater hoccurs ih =>
    rw [List.forall_mem_append, List.forall_mem_singleton] at hunchanged
    have hpaces := (hpast.append hlater).paces hbrings hoccurs
    rcases ih hunchanged.1 with
      ⟨hearly, hnone, hwaits, hgeneration, hdraft⟩ |
      ⟨hover, before, m, after, rfl, hfire, hdue, hbefore, hparse, hafter⟩
    · cases hpaces with
      | begun hchanges => exact absurd hchanges hunchanged.2
      | ended _ hfire other hother hdue hover _ hparses =>
        obtain rfl := Option.some.inj (hother.symm.trans hwaits)
        rw [hgeneration, Engine.parseJob?_congr hdraft] at hparses
        exact Or.inr ⟨hover, later, ⟨w, now, event, u⟩, [], rfl, hfire, hdue, hnone, hparses,
          by simp⟩
      | passed _ hpassed hkept hsame halike hparses =>
        dsimp only at hkept hsame halike
        refine Or.inl ⟨?_, ?_, hkept.trans hwaits, hsame.trans hgeneration, ?_⟩
        · rw [List.forall_mem_append, List.forall_mem_singleton]
          exact ⟨hearly, fun hfire => hpassed hfire deadline hwaits⟩
        · rw [List.forall_mem_append, List.forall_mem_singleton]
          exact ⟨hnone, hparses⟩
        · exact (halike (by simp [hwaits])).trans hdraft
    · cases hpaces with
      | begun hchanges => exact absurd hchanges hunchanged.2
      | ended _ _ _ hother =>
        rw [hover] at hother
        cases hother
      | passed _ _ hkept _ _ hparses =>
        refine Or.inr ⟨hkept.trans hover, before, m, after ++ [⟨w, now, event, u⟩], by simp, hfire,
          hdue, hbefore, hparse, ?_⟩
        rw [List.forall_mem_append, List.forall_mem_singleton]
        exact ⟨hafter, hparses⟩

/-- Changes of which each comes before the quiet period of the one before it is over, whatever else
happens in between; the moment is the last of them. -/
inductive Burst (debounce : Time) : List (Moment P) → Moment P → Prop where
  | first (c : Moment P) (hchanges : c.Changes) : Burst debounce [c] c
  | next {ms : List (Moment P)} {c : Moment P} (between : List (Moment P)) (c' : Moment P)
      (hburst : Burst debounce ms c) (hunchanged : ∀ m ∈ between, ¬ m.Changes)
      (hchanges : c'.Changes) (hgap : c'.now < c.now + debounce) :
      Burst debounce (ms ++ (between ++ [c'])) c'

/-- In a burst nothing is parsed, and with its last change the quiet period begins. -/
theorem Run.parses_of_burst
    (hbrings : ∀ work outcome, brings work outcome → Outcome.Of work outcome)
    (hpast : Run brings (.start debounce start) past v) {burst : List (Moment P)}
    (hrun : Run brings v burst w) (htimed : Timed burst) (hburst : Burst debounce burst c) :
    (∀ m ∈ burst, m.parses = []) ∧ w = c.after ∧
      w.treeSlot.deadline = some (c.now + debounce) := by
  have hlast : ∀ {past : List (Moment P)} {v w : World P} {m : Moment P},
      Run brings (.start debounce start) past v → Run brings v [m] w → m.Changes →
      m.parses = [] ∧ w = m.after ∧ w.treeSlot.deadline = some (m.now + debounce) := by
    intro past v w m hpast hrun hchanges
    rcases (hpast.append hrun).last with ⟨hbefore, hat, rfl⟩
    cases hbefore.paces hbrings hat with
    | begun _ hslot hparses =>
      refine ⟨hparses, rfl, ?_⟩
      rw [hslot, hbefore.debounce_eq]
    | ended hunchanged => exact absurd hchanges hunchanged
    | passed hunchanged => exact absurd hchanges hunchanged
  induction hburst generalizing w with
  | first c hchanges =>
    rw [List.forall_mem_singleton]
    exact hlast hpast hrun hchanges
  | @next ms c between c' hburst hunchanged hchanges hgap ih =>
    rcases hrun.split with ⟨v₁, hms, hrest⟩
    rcases hrest.split with ⟨v₂, hbetween, hlater⟩
    rcases List.pairwise_append.mp htimed with ⟨htimed, htail, _⟩
    rcases ih hms htimed with ⟨hnone, _, hwaits⟩
    have hpast₁ := hpast.append hms
    rcases hpast₁.cases_of_unchanged hbrings hbetween hunchanged hwaits with
      ⟨_, hquiet, _⟩ | ⟨_, before, m, after, rfl, _, hdue, _⟩
    · rcases hlast (hpast₁.append hbetween) hlater hchanges with ⟨hparses, hafter⟩
      rw [List.forall_mem_append, List.forall_mem_append, List.forall_mem_singleton]
      exact ⟨⟨hnone, hquiet, hparses⟩, hafter⟩
    · -- a pass between the two changes would come when the gap is over
      have hle : m.now ≤ c'.now := by
        refine (List.pairwise_append.mp htail).2.2 m ?_ c' (List.mem_singleton_self _)
        exact List.mem_append_right _ List.mem_cons_self
      exact absurd hgap (Nat.not_lt.mpr (Nat.le_trans hdue hle))

/-- After a burst of changes nothing is parsed until the inputs have rested, and one parse is
started by the pass that finds them so. -/
theorem Run.parses_after_burst
    (hbrings : ∀ work outcome, brings work outcome → Outcome.Of work outcome)
    {burst rest : List (Moment P)} (hrun : Run brings (.start debounce start) ms w)
    (htimed : Timed ms) (hms : ms = past ++ (burst ++ rest)) (hburst : Burst debounce burst c)
    (hunchanged : ∀ m ∈ rest, ¬ m.Changes) :
    (∀ m ∈ burst ++ rest, m.parses ≠ [] → c.now + debounce ≤ m.now) ∧
    ((∃ m ∈ rest, m.event = .fire ∧ c.now + debounce ≤ m.now) →
      (burst ++ rest).flatMap Moment.parses =
        (c.after.engine.parseJob? c.after.treeSlot.generation).toList) ∧
    ((∀ m ∈ rest, m.event = .fire → m.now < c.now + debounce) →
      w.treeSlot.deadline = some (c.now + debounce)) := by
  subst hms
  rcases hrun.split with ⟨v, hpast, hlater⟩
  rcases hlater.split with ⟨v', hduring, hafter⟩
  have htimed' : Timed burst :=
    (List.pairwise_append.mp (List.pairwise_append.mp htimed).2.1).1
  rcases hpast.parses_of_burst hbrings hduring htimed' hburst with ⟨hnone, rfl, hwaits⟩
  have hempty : burst.flatMap Moment.parses = [] := List.flatMap_eq_nil_iff.mpr hnone
  rw [List.forall_mem_append, List.flatMap_append, hempty, List.nil_append]
  rcases (hpast.append hduring).cases_of_unchanged hbrings hafter hunchanged hwaits with
    ⟨hearly, hquiet, hkept, _⟩ |
    ⟨_, before, m, after, rfl, hfire, hdue, hbefore, hparse, hrest⟩
  · refine ⟨⟨fun m hm hparses => absurd (hnone m hm) hparses,
      fun m hm hparses => absurd (hquiet m hm) hparses⟩, ?_, fun _ => hkept⟩
    rintro ⟨m, hm, hfire, hdue⟩
    exact absurd hdue (Nat.not_le.mpr (hearly m hm hfire))
  · have hm : m ∈ before ++ m :: after := List.mem_append_right _ List.mem_cons_self
    refine ⟨⟨fun m hm hparses => absurd (hnone m hm) hparses, ?_⟩, fun _ => ?_, fun hearly => ?_⟩
    · intro m' hm' hparses
      rcases List.mem_append.mp hm' with hb | hr
      · exact absurd (hbefore m' hb) hparses
      · rcases List.mem_cons.mp hr with rfl | hr
        · exact hdue
        · exact absurd (hrest m' hr) hparses
    · rw [List.flatMap_append, List.flatMap_cons, hparse, List.flatMap_eq_nil_iff.mpr hbefore,
        List.flatMap_eq_nil_iff.mpr hrest, List.nil_append, List.append_nil]
    · exact absurd hdue (Nat.not_le.mpr (hearly m hm hfire))

/-- A parse is started only when all changes so far have rested for the whole quiet period, and it
is made of the inputs as the last of them has left them.  Each change begins a generation of the
tree, for which there is one parse at most.  And for a burst of changes one parse is started, not
before the last of them has rested: until then the tree waits for that very time, whatever else
becomes due meanwhile. -/
theorem Run.debounced {pluginOf : P → Plugin}
    (hrun : Run (Work.MayBring pluginOf) (.start debounce start) ms w) (htimed : Timed ms) :
    (∀ past m later job, ms = past ++ m :: later → job ∈ m.parses →
      (∀ m' ∈ past, m'.Changes → m'.now + debounce ≤ m.now) ∧
      ∃ c plugin, LastChange past c ∧ c.after.engine.inputs.plugin = some plugin ∧
        job = ⟨c.after.treeSlot.generation, .parse plugin c.after.engine.inputs.expression
          (c.after.engine.inputs.grammarTag.or c.after.engine.inputs.defaultRootTag)⟩ ∧
        m.before.engine.draft = c.after.engine.draft) ∧
    ((∀ m ∈ ms,
      (m.Changes ∧ m.after.treeSlot.generation = m.before.treeSlot.generation + 1) ∨
      (¬ m.Changes ∧ m.after.treeSlot.generation = m.before.treeSlot.generation)) ∧
      ((ms.flatMap Moment.parses).map Job.generation).Pairwise (· < ·)) ∧
    (∀ past burst rest c, ms = past ++ (burst ++ rest) → Burst debounce burst c →
      (∀ m ∈ rest, ¬ m.Changes) → c.after.engine.inputs.plugin ≠ none →
      (∀ m ∈ burst ++ rest, m.parses ≠ [] → c.now + debounce ≤ m.now) ∧
      ((∃ m ∈ rest, m.event = .fire ∧ c.now + debounce ≤ m.now) →
        ((burst ++ rest).flatMap Moment.parses).length = 1) ∧
      ((∀ m ∈ rest, m.event = .fire → m.now < c.now + debounce) →
        w.treeSlot.deadline = some (c.now + debounce))) := by
  have hof : ∀ (work : Work P) (outcome : Outcome P),
      work.MayBring pluginOf outcome → Outcome.Of work outcome := fun _ _ h => h.of
  refine ⟨?_, ⟨?_, (hrun.generation_parses hof).2⟩, ?_⟩
  · rintro past m later job rfl hjob
    rcases hrun.cut rfl with ⟨hbefore, hat, _⟩
    cases hbefore.paces hof hat with
    | begun _ _ hparses | passed _ _ _ _ _ hparses =>
      have hnone : m.parses = [] := hparses
      rw [hnone] at hjob
      cases hjob
    | ended _ _ deadline hdeadline hdue _ _ hparses =>
      rcases hbefore.lastChange_of_deadline hof hdeadline with
        ⟨c, hlast, rfl, hgeneration, hdraft⟩
      refine ⟨fun m' hm' hchanges => ?_, c, ?_⟩
      · have hle := hlast.now_le (List.pairwise_append.mp htimed).1 hm' hchanges
        exact Nat.le_trans (Nat.add_le_add_right hle debounce) hdue
      · have hparse : job ∈ (m.before.engine.parseJob? m.before.treeSlot.generation).toList :=
          hparses ▸ hjob
        rw [Option.mem_toList, ← Engine.parseJob?_congr hdraft, Engine.parseJob?,
          Option.map_eq_some_iff] at hparse
        rcases hparse with ⟨plugin, hplugin, rfl⟩
        refine ⟨plugin, hlast, hplugin, ?_, hdraft.symm⟩
        rw [hgeneration]
        rfl
  · intro m hm
    rcases List.mem_iff_append.mp hm with ⟨before, rest, rfl⟩
    rcases hrun.cut rfl with ⟨hbefore, hat, _⟩
    cases hbefore.paces hof hat with
    | begun hchanges hslot _ => exact Or.inl ⟨hchanges, congrArg Slot.generation hslot⟩
    | ended hunchanged _ _ _ _ _ hgeneration _ => exact Or.inr ⟨hunchanged, hgeneration⟩
    | passed hunchanged _ _ hgeneration _ _ => exact Or.inr ⟨hunchanged, hgeneration⟩
  · intro past burst rest c hms hburst hunchanged hinstalled
    rcases hrun.parses_after_burst hof htimed hms hburst hunchanged with ⟨hlate, hone, hwaits⟩
    refine ⟨hlate, fun hover => ?_, hwaits⟩
    rcases Option.ne_none_iff_exists'.mp hinstalled with ⟨plugin, hplugin⟩
    rw [hone hover, Engine.parseJob?, hplugin]
    rfl

end History

/-- A plugin is installed and the expression is changed twice, each time before the tree was due.
Meanwhile the context becomes due, and the output after it.  One parse is started for all of it, of
the second expression. -/
theorem Run.debounced_of_burst :
    ∃ (burst rest : List (Moment Bool)) (c m : Moment Bool) (w : World Bool),
      Run (Work.MayBring Sample.plugin) (.start 300 0) (burst ++ (rest ++ [m])) w ∧
      Timed (burst ++ (rest ++ [m])) ∧ Burst 300 burst c ∧ c.now = 350 ∧ m.event = .fire ∧
      m.now = 650 ∧ m.parses = [⟨3, .parse true "12" none⟩] ∧
      ((burst ++ (rest ++ [m])).flatMap Moment.parses).length = 1 ∧
      ∀ m' ∈ burst ++ rest, m'.Changes → m'.now + 300 ≤ 650 := by
  obtain ⟨m₁, m₂, m₃, c, m₄, m, w, hrun, ⟨htime₁, htime₂, htime₃, htime, htime₄, hlate⟩,
      hplugin, hfirst, hfire, hsecond, hquiet, hover, hinstalled, hparses⟩ :
      ∃ (m₁ m₂ m₃ c m₄ m : Moment Bool) (w : World Bool),
      Run (Work.MayBring Sample.plugin) (.start 300 0) [m₁, m₂, m₃, c, m₄, m] w ∧
      (m₁.now = 0 ∧ m₂.now = 100 ∧ m₃.now = 300 ∧ c.now = 350 ∧ m₄.now = 600 ∧ m.now = 650) ∧
      m₁.Changes ∧ m₂.Changes ∧ m₃.event = .fire ∧ c.Changes ∧ m₄.event = .fire ∧
      m.event = .fire ∧ c.after.engine.inputs.plugin = some true ∧
      m.parses = [⟨3, .parse true "12" none⟩] := by
    exact ⟨_, _, _, _, _, _, _, (((((Run.refl.command 0 (.setPlugin (some true))).command 100
      (.setExpression "1")).fire 300).command 350 (.setExpression "12")).fire 600).fire 650,
      ⟨rfl, rfl, rfl, rfl, rfl, rfl⟩, ⟨_, .plugin, rfl, by cbv, by decide⟩,
      ⟨_, .expression, rfl, by cbv, by decide⟩, rfl, ⟨_, .expression, rfl, by cbv, by decide⟩, rfl,
      rfl, by cbv, by cbv⟩
  have hunchanged : ∀ {m : Moment Bool}, m.event = .fire → ¬ m.Changes := by
    rintro m hfire ⟨_, _, hcommand, _⟩
    rw [hfire] at hcommand
    cases hcommand
  have htimed : Timed [m₁, m₂, m₃, c, m₄, m] := by
    simp [Timed, htime₁, htime₂, htime₃, htime, htime₄, hlate]
  have hburst : Burst 300 [m₁, m₂, m₃, c] c := by
    refine .next [m₃] c (.next [] m₂ (.first m₁ hplugin) (by simp) hfirst ?_) ?_ hsecond ?_
    · rw [htime₁, htime₂]
      decide
    · simpa using hunchanged hfire
    · rw [htime₂, htime]
      decide
  rcases hrun.debounced htimed with ⟨hrested, _, hone⟩
  refine ⟨[m₁, m₂, m₃, c], [m₄], c, m, w, hrun, htimed, hburst, htime, hover, hlate, hparses,
    ?_, ?_⟩
  · refine (hone [] [m₁, m₂, m₃, c] [m₄, m] c rfl hburst ?_ (by simp [hinstalled])).2.1 ?_
    · simpa using ⟨hunchanged hquiet, hunchanged hover⟩
    · exact ⟨m, by simp, hover, by rw [htime, hlate]⟩
  · have hjob := (hrested [m₁, m₂, m₃, c, m₄] m [] _ rfl (hparses ▸ List.mem_singleton_self _)).1
    rwa [hlate] at hjob

end GrammarDesk.Inspector
