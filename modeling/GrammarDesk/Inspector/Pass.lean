import GrammarDesk.Inspector.Engine

/-!
# A single pass

A command line needs no quiet periods and no clock: the inputs are set once, and then everything is
computed, one job after the other.

Main definitions:

- `Engine.completeAll`: computes whatever is due and runs whatever has started, until nothing is
  left.
- `inspect`: what is derived from one set of inputs, and the notifications on the way.
-/

namespace GrammarDesk.Inspector

open Json GrammarDesk.Tree Grammar

variable {P : Type}

/-- The engine after events, and the notifications, when no time passes. -/
def Engine.feed [DecidableEq P] (e : Engine P) (events : List (Event P)) :
    Engine P × List Notification :=
  events.foldl (fun (e, notes) event =>
    let (e, effects) := e.step 0 event
    (e, notes ++ notesOf effects)) (e, [])

/-- Computes whatever is due and runs whatever has started, in at most so many events. -/
def Engine.completeAll [DecidableEq P] (pluginOf : P → Plugin) :
    Nat → Engine P → List Notification → Inquiry (Engine P × List Notification)
  | 0, e, notes => pure (e, notes)
  | n + 1, e, notes => do
    if e.scheduler.hasDue 0 then
      let (e, more) := e.feed [.fire]
      completeAll pluginOf n e (notes ++ more)
    else match e.scheduler.jobs with
      | [] => pure (e, notes)
      | job :: _ =>
        let outcome ← job.work.run pluginOf
        let (e, more) := e.feed [.complete ⟨job.generation, outcome⟩]
        completeAll pluginOf n e (notes ++ more)

/-- What is derived from one set of inputs, and the notifications on the way. -/
def inspect (p : Plugin) (expression contextText : String) (tag : Option String) :
    Inquiry (Snapshot × List Notification) := do
  let (e, notes) := (Engine.start 0 0 : Engine Unit).feed [
    .command (.setPlugin (some ())), .command (.setGrammarTag tag),
    .command (.setContextText contextText), .command (.setExpression expression)]
  let (e, notes) ← e.completeAll (fun _ => p) e.potential notes
  return (e.published, notes)

end GrammarDesk.Inspector
