import GrammarDesk.Inspector.Engine

/-!
# Runs of the inspector

An engine runs beside the jobs that it has started.  Commands come from outside in any order and at
any time, quiet periods end whenever they are looked at, and jobs come back in any order.  A job
that the engine has given up may come back all the same, for nobody can call a message back.

Main definitions:

- `World`: an engine and the jobs under way beside it.
- `Occurs`: an event that can happen in a world, and the world after it.
- `Run`: a history of moments from one world to another.
- `Outcome.Of`: the outcomes that some work can have at all.
- `Work.MayBring`: the outcomes that work can bring back from the backend of a plugin.

Main results:

- `Engine.fire_induction`: what the turn of every value preserves holds after a pass.
- `Stable.of_run`: what every part of an event preserves holds after every run.
- `Work.MayBring.of`: a backend decides what an outcome says, but not what it is about.
-/

namespace GrammarDesk.Inspector

open Json GrammarDesk.Tree Grammar

variable {P : Type}

/-! ## Outcomes -/

/-- The outcomes that some work can have: a parse brings a result for its own plugin and expression,
from the given tag if there is one, and an evaluation brings a result for its own tree. -/
inductive Outcome.Of : Work P → Outcome P → Prop where
  | parse (plugin : P) (expression : String) (tag : Option String) (rootTag : String)
      (result : Except Failure Node) (hgiven : ∀ given, tag = some given → rootTag = given) :
      Outcome.Of (.parse plugin expression tag) (.tree plugin ⟨expression, rootTag⟩ result)
  | eval (plugin : P) (source : TreeSource) (context : Value) (serial : Nat)
      (result : Except Failure (Option Value)) :
      Outcome.Of (.eval plugin source context serial) (.output serial result)

/-- What work brings back is of the value that it computes. -/
theorem Outcome.Of.key_eq {work : Work P} {outcome : Outcome P} (h : Outcome.Of work outcome) :
    outcome.key = work.key := by
  cases h <;> rfl

/-- Some backend answers the calls of the work in such a way that it brings the outcome.  The
answers may depend on everything that was asked before. -/
def Work.MayBring (pluginOf : P → Plugin) (work : Work P) (outcome : Outcome P) : Prop :=
  ∃ (σ : Type) (respond : (call : Call) → σ → call.Answer × σ) (environment : σ),
    ((work.run pluginOf).runIn respond environment).1 = outcome

/-- The second of two dialogues runs in the environment that the first one leaves. -/
theorem runIn_bind {question : Type} {answer : question → Type} {σ α β : Type}
    (respond : (q : question) → σ → answer q × σ) (d : Dialogue question answer α)
    (f : α → Dialogue question answer β) (environment : σ) :
    (d.bind f).runIn respond environment =
      (f (d.runIn respond environment).1).runIn respond (d.runIn respond environment).2 := by
  induction d generalizing environment with
  | done => rfl
  | ask q next ih => exact ih _ _

/-- The first of the productions that the plugin advertises, and none if it advertises none. -/
theorem rootTagOf_none (plugin : Plugin) :
    rootTagOf plugin none = (Task.attempt plugin.rootTags).bind fun
      | .ok tags => .done (tags.headD "")
      | .error _ => .done "" :=
  rfl

/-- A parse asks for the tag first, if it has none, and for the tree then. -/
theorem Work.run_parse (pluginOf : P → Plugin) (plugin : P) (expression : String)
    (tag : Option String) :
    (Work.parse plugin expression tag).run pluginOf =
      (rootTagOf (pluginOf plugin) tag).bind fun rootTag =>
        (Task.attempt ((pluginOf plugin).parse rootTag expression)).bind fun result =>
          .done (.tree plugin ⟨expression, rootTag⟩ result) :=
  rfl

/-- An evaluation asks for nothing but its answer. -/
theorem Work.run_eval (pluginOf : P → Plugin) (plugin : P) (source : TreeSource) (context : Value)
    (serial : Nat) :
    (Work.eval plugin source context serial).run pluginOf =
      (Task.attempt ((pluginOf plugin).eval source.rootTag source.expression context)).bind
        fun result => .done (.output serial result) :=
  rfl

/-- A backend decides what an outcome says, but not what it is about. -/
theorem Work.MayBring.of {pluginOf : P → Plugin} {work : Work P} {outcome : Outcome P}
    (h : work.MayBring pluginOf outcome) : Outcome.Of work outcome := by
  rcases h with ⟨σ, respond, environment, rfl⟩
  cases work with
  | parse plugin expression tag =>
    rw [Work.run_parse, runIn_bind, runIn_bind]
    refine Outcome.Of.parse plugin expression tag _ _ ?_
    rintro given rfl
    rfl
  | eval plugin source context serial =>
    rw [Work.run_eval, runIn_bind]
    exact Outcome.Of.eval plugin source context serial _

/-- Some backend answers in such a way that the plugin starts its parses with this tag by
default. -/
def MayAdvertise (p : Plugin) (tag : String) : Prop :=
  ∃ (σ : Type) (respond : (call : Call) → σ → call.Answer × σ) (environment : σ),
    ((defaultRootTag p).runIn respond environment).1 = tag

/-- A parse that is given no tag starts with one that its plugin advertises. -/
theorem Work.MayBring.advertised {pluginOf : P → Plugin} {plugin : P} {expression : String}
    {source : TreeSource} {result : Except Failure Node}
    (h : (Work.parse plugin expression none).MayBring pluginOf (.tree plugin source result)) :
    MayAdvertise (pluginOf plugin) source.rootTag := by
  rcases h with ⟨σ, respond, environment, houtcome⟩
  rw [Work.run_parse, runIn_bind, runIn_bind] at houtcome
  cases houtcome
  exact ⟨σ, respond, environment, rfl⟩

/-! ## Passes -/

/-- What the turn of every value preserves holds after a pass. -/
theorem Engine.fire_induction (I : Engine P → List (Derived × Nat) → Prop) {e : Engine P}
    {now : Time}
    (htaken : I { e with scheduler := (e.scheduler.takeDue now).2 } (e.scheduler.takeDue now).1)
    (hrecompute : ∀ (e : Engine P) (key : Derived) (generation : Nat) (due : List (Derived × Nat)),
      I e ((key, generation) :: due) → I (e.recompute now key generation) due) :
    I (e.fire now) [] := by
  have hpass : ∀ (due : List (Derived × Nat)) (e : Engine P), I e due →
      I (due.foldl (fun e d => e.recompute now d.1 d.2) e) [] := by
    intro due
    induction due with
    | nil => exact fun _ h => h
    | cons d due ih => exact fun e h => ih _ (hrecompute e d.1 d.2 due h)
  exact hpass _ _ htaken

/-! ## Worlds -/

/-- An engine, and the jobs under way beside it. -/
structure World (P : Type) where
  engine : Engine P
  underWay : List (Job P)

/-- The world of a new engine. -/
def World.start (debounce now : Time) : World P := ⟨.start debounce now, []⟩

/-- The world in which one of the jobs is under way no more. -/
def World.without (w : World P) (i : Nat) : World P := ⟨w.engine, w.underWay.eraseIdx i⟩

variable [DecidableEq P]

/-- The world after an event: what the engine starts joins the jobs under way. -/
def World.react (w : World P) (now : Time) (event : Event P) : World P :=
  ⟨(w.engine.step now event).1, w.underWay ++ jobsOf (w.engine.step now event).2⟩

/-- The events that can happen in a world, and the world after each.  What a job brings back is
limited by `brings` alone. -/
inductive Occurs (brings : Work P → Outcome P → Prop) (w : World P) (now : Time) :
    Event P → World P → Prop where
  | command (command : Command P) :
      Occurs brings w now (.command command) (w.react now (.command command))
  | fire : Occurs brings w now .fire (w.react now .fire)
  /-- One of the jobs under way comes back. -/
  | arrive (i : Nat) (job : Job P) (outcome : Outcome P) (hjob : w.underWay[i]? = some job)
      (hbrings : brings job.work outcome) :
      Occurs brings w now (.complete ⟨job.generation, outcome⟩)
        ((w.without i).react now (.complete ⟨job.generation, outcome⟩))
  /-- Something comes back for a generation that has passed, from a job that was given up as soon as
  it was started. -/
  | straggle (completion : Completion P)
      (hpassed :
        completion.generation < (w.engine.scheduler.slot completion.outcome.key).generation) :
      Occurs brings w now (.complete completion)
        (w.react now (.complete completion))

/-- An event in its place in a history. -/
structure Moment (P : Type) where
  before : World P
  now : Time
  event : Event P
  after : World P

/-- The histories that lead from one world to another. -/
inductive Run (brings : Work P → Outcome P → Prop) (w : World P) :
    List (Moment P) → World P → Prop where
  | refl : Run brings w [] w
  | snoc {ms : List (Moment P)} {v u : World P} {now : Time} {event : Event P}
      (hrun : Run brings w ms v) (hoccurs : Occurs brings v now event u) :
      Run brings w (ms ++ [⟨v, now, event, u⟩]) u

/-! ## What holds throughout -/

/-- The jobs that the event at hand has started so far. -/
def Engine.started (e : Engine P) : List (Job P) := jobsOf e.outbox

/-- A property of an engine in the middle of an event, of the jobs that were under way before it,
and of the values that are still to be computed in the same pass.  It is stable if every part of
every event preserves it. -/
structure Stable (brings : Work P → Outcome P → Prop)
    (I : Engine P → List (Job P) → List (Derived × Nat) → Prop) : Prop where
  start (debounce now : Time) : I (.start debounce now) [] []
  apply {e : Engine P} {underWay : List (Job P)} (now : Time) (command : Command P)
    (hrest : e.outbox = []) (h : I e underWay []) : I (e.apply now command) underWay []
  takeDue {e : Engine P} {underWay : List (Job P)} (now : Time) (hrest : e.outbox = [])
    (h : I e underWay []) :
    I { e with scheduler := (e.scheduler.takeDue now).2 } underWay (e.scheduler.takeDue now).1
  recompute {e : Engine P} {underWay : List (Job P)} {key : Derived} {generation : Nat}
    {due : List (Derived × Nat)} (now : Time) (h : I e underWay ((key, generation) :: due)) :
    I (e.recompute now key generation) underWay due
  arrive {e : Engine P} {underWay : List (Job P)} {i : Nat} {job : Job P} {outcome : Outcome P}
    (now : Time) (hrest : e.outbox = []) (hjob : underWay[i]? = some job)
    (hbrings : brings job.work outcome) (h : I e underWay []) :
    I (e.commit now ⟨job.generation, outcome⟩) (underWay.eraseIdx i) []
  showBusy {e : Engine P} {underWay : List (Job P)} (h : I e underWay []) : I e.showBusy underWay []
  releaseWaiters {e : Engine P} {underWay : List (Job P)} (h : I e underWay []) :
    I e.releaseWaiters underWay []
  deliver {e : Engine P} {underWay : List (Job P)} (h : I e underWay []) :
    I { e with outbox := [] } (underWay ++ e.started) []

/-- A result for a generation that has passed changes nothing. -/
theorem Engine.commit_of_not_current (e : Engine P) (now : Time) (c : Completion P)
    (hpassed : e.scheduler.isCurrent c.outcome.key c.generation = false) : e.commit now c = e := by
  simp [Engine.commit, hpassed]

namespace Stable

variable {brings : Work P → Outcome P → Prop}
  {I : Engine P → List (Job P) → List (Derived × Nat) → Prop}

/-- What the handling of an event preserves is preserved until the event is over. -/
theorem react (hI : Stable brings I) {e : Engine P} {underWay : List (Job P)} {now : Time}
    {event : Event P} (h : I (e.handle now event) underWay []) :
    I (World.react ⟨e, underWay⟩ now event).engine (World.react ⟨e, underWay⟩ now event).underWay
      [] :=
  hI.deliver (hI.releaseWaiters (hI.showBusy h))

/-- The handling of an event preserves what each of its parts does. -/
theorem handle (hI : Stable brings I) {w u : World P} {now : Time} {event : Event P}
    (hoccurs : Occurs brings w now event u) (hrest : w.engine.outbox = [])
    (h : I w.engine w.underWay []) :
    ∃ underWay, u = World.react ⟨w.engine, underWay⟩ now event ∧
      I (w.engine.handle now event) underWay [] := by
  cases hoccurs with
  | command command => exact ⟨w.underWay, rfl, hI.apply now command hrest h⟩
  | fire =>
    refine ⟨w.underWay, rfl, ?_⟩
    exact Engine.fire_induction (fun e due => I e w.underWay due) (hI.takeDue now hrest h)
      fun _ _ _ _ => hI.recompute now
  | arrive i job outcome hjob hbrings => exact ⟨_, rfl, hI.arrive now hrest hjob hbrings h⟩
  | straggle completion hpassed =>
    have hnot :
        w.engine.scheduler.isCurrent completion.outcome.key completion.generation = false := by
      simpa [Scheduler.isCurrent] using Nat.ne_of_gt hpassed
    refine ⟨w.underWay, rfl, ?_⟩
    rw [Engine.handle, Engine.commit_of_not_current _ _ _ hnot]
    exact h

/-- What is stable survives everything that can occur. -/
theorem of_occurs (hI : Stable brings I) {w u : World P} {now : Time} {event : Event P}
    (hoccurs : Occurs brings w now event u) (hrest : w.engine.outbox = [])
    (h : I w.engine w.underWay []) : I u.engine u.underWay [] := by
  rcases hI.handle hoccurs hrest h with ⟨underWay, rfl, hhandle⟩
  exact hI.react hhandle

end Stable

/-- Whatever occurs is one step of the engine. -/
theorem Occurs.engine_eq {brings : Work P → Outcome P → Prop} {w u : World P} {now : Time}
    {event : Event P} (hoccurs : Occurs brings w now event u) :
    u.engine = (w.engine.step now event).1 := by
  cases hoccurs <;> rfl

/-- Between events nothing waits to be told to the outside. -/
theorem Occurs.outbox_eq_nil {brings : Work P → Outcome P → Prop} {w u : World P} {now : Time}
    {event : Event P} (hoccurs : Occurs brings w now event u) : u.engine.outbox = [] := by
  cases hoccurs <;> rfl

/-- Between two events nothing is left to be carried out. -/
theorem Run.outbox_eq_nil {brings : Work P → Outcome P → Prop} {w v : World P}
    {ms : List (Moment P)} (hrun : Run brings w ms v) (hrest : w.engine.outbox = []) :
    v.engine.outbox = [] := by
  cases hrun with
  | refl => exact hrest
  | snoc _ hoccurs => exact hoccurs.outbox_eq_nil

/-- What every part of an event preserves holds after every run. -/
theorem Stable.of_run {brings : Work P → Outcome P → Prop}
    {I : Engine P → List (Job P) → List (Derived × Nat) → Prop} (hI : Stable brings I)
    {debounce start : Time} {ms : List (Moment P)} {w : World P}
    (hrun : Run brings (.start debounce start) ms w) : I w.engine w.underWay [] := by
  induction hrun with
  | refl => exact hI.start debounce start
  | snoc hrun hoccurs ih => exact hI.of_occurs hoccurs (hrun.outbox_eq_nil rfl) ih

/-! ## Runs to try things on -/

namespace Run

variable {brings : Work P → Outcome P → Prop} {w v : World P} {ms : List (Moment P)}

/-- A command may come at any time. -/
theorem command (hrun : Run brings w ms v) (now : Time) (command : Command P) :
    Run brings w
      (ms ++ [⟨v, now, .command command, v.react now (.command command)⟩])
      (v.react now (.command command)) :=
  hrun.snoc (.command command)

/-- The clock may fire at any time. -/
theorem fire (hrun : Run brings w ms v) (now : Time) :
    Run brings w (ms ++ [⟨v, now, .fire, v.react now .fire⟩]) (v.react now .fire) :=
  hrun.snoc .fire

/-- Any job that is under way may come back with what its work may bring. -/
theorem arrive (hrun : Run brings w ms v) (now : Time) (i : Nat) (job : Job P)
    (outcome : Outcome P) (hjob : v.underWay[i]? = some job) (hbrings : brings job.work outcome) :
    Run brings w
      (ms ++ [⟨v, now, .complete ⟨job.generation, outcome⟩,
        (v.without i).react now (.complete ⟨job.generation, outcome⟩)⟩])
      ((v.without i).react now (.complete ⟨job.generation, outcome⟩)) :=
  hrun.snoc (.arrive i job outcome hjob hbrings)

end Run

namespace Sample

/-- A tree of one leaf. -/
def leaf : Node := ⟨"Leaf", 0, 1, [], none, false, none, none⟩

/-- Two plugins, told apart by the numbers of their modules. -/
def plugin (first : Bool) : Plugin :=
  .ofAdapter (.module ⟨if first then 0 else 1, .all⟩ "") none

/-- What the plugins evaluate to. -/
def verdict (first : Bool) : Value := .string (if first then "first" else "second")

/-- Both plugins advertise the same tag, and each evaluates everything to a text of its own.  The
first parses everything to the leaf, the second parses nothing. -/
def answer : (call : Call) → call.Answer
  | .send request => request.unsent
  | .load url => .error (.moduleNotFound url)
  | .parse m _ _ _ =>
    if m.serial = 0 then .ok (some (.prebuilt (.hydrated leaf))) else .error .emptyResult
  | .eval m _ _ _ _ =>
    .ok (some (.primitive (verdict (m.serial = 0))))
  | .getOption _ _ _ => .ok (some (.array [.string "R"]))

/-- The first plugin parses to the leaf. -/
theorem brings_tree :
    (Work.parse true "1" none).MayBring plugin (.tree true ⟨"1", "R"⟩ (.ok leaf)) :=
  ⟨Unit, fun call _ => (answer call, ()), (), rfl⟩

/-- The second plugin does not parse. -/
theorem brings_failure : (Work.parse false "1" (some "R")).MayBring plugin
    (.tree false ⟨"1", "R"⟩ (.error .emptyResult)) :=
  ⟨Unit, fun call _ => (answer call, ()), (), rfl⟩

/-- Each plugin evaluates to its own verdict. -/
theorem brings_output (first : Bool) :
    (Work.eval first ⟨"1", "R"⟩ (.object []) 1).MayBring plugin
      (.output 1 (.ok (some (verdict first)))) :=
  ⟨Unit, fun call _ => (answer call, ()), (), by cases first <;> rfl⟩

end Sample

end GrammarDesk.Inspector
