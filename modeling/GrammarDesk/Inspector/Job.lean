import GrammarDesk.Grammar.Plugin
import GrammarDesk.Inspector.Graph

/-!
# Jobs

Parses and evaluations take time, so they run beside the engine.  A job carries everything that it
works on; whether its result still counts is decided when it comes back, by its generation.

Main definitions:

- `TreeSource`: what a tree was parsed from.
- `Work`, `Job`: a parse or an evaluation, and the generation that it is done for.
- `Outcome`, `Completion`: what a job brings back.
- `Work.run`: a job as a dialogue with the backend.
-/

namespace GrammarDesk.Inspector

open Json GrammarDesk.Tree Grammar

/-- What a tree was parsed from. -/
structure TreeSource where
  expression : String
  rootTag : String
deriving DecidableEq

/-- What a job does with a plugin of the kind `P`. -/
inductive Work (P : Type) where
  /-- Parses an expression; without a tag it asks the plugin for its default. -/
  | parse (plugin : P) (expression : String) (tag : Option String)
  /-- Evaluates the source of a tree, which is told apart from others by its number. -/
  | eval (plugin : P) (source : TreeSource) (context : Value) (serial : Nat)

/-- Work that is done for a generation of a derived value. -/
structure Job (P : Type) where
  generation : Nat
  work : Work P

/-- What work brings back. -/
inductive Outcome (P : Type) where
  | tree (plugin : P) (source : TreeSource) (result : Except Failure Node)
  | output (serial : Nat) (result : Except Failure (Option Value))

/-- The outcome of a job, with the job's generation. -/
structure Completion (P : Type) where
  generation : Nat
  outcome : Outcome P

variable {P : Type}

/-- The derived value that the work is done for. -/
def Work.key : Work P → Derived
  | .parse _ _ _ => .tree
  | .eval _ _ _ _ => .output

/-- The derived value that an outcome belongs to. -/
def Outcome.key : Outcome P → Derived
  | .tree _ _ _ => .tree
  | .output _ _ => .output

/-- The production that a plugin's parses start with by default: the first that it advertises, or
else its own choice, written as the empty text. -/
def defaultRootTag (p : Plugin) : Inquiry String := do
  match ← Task.attempt p.rootTags with
  | .ok tags => return tags.headD ""
  | .error _ => return ""

/-- The production to parse from. -/
def rootTagOf (p : Plugin) : Option String → Inquiry String
  | some tag => pure tag
  | none => defaultRootTag p

/-- The work as a dialogue, once it is known which plugin is meant. -/
def Work.run (pluginOf : P → Plugin) : Work P → Inquiry (Outcome P)
  | .parse p expression tag => do
    let rootTag ← rootTagOf (pluginOf p) tag
    let result ← Task.attempt ((pluginOf p).parse rootTag expression)
    return .tree p ⟨expression, rootTag⟩ result
  | .eval p source context serial => do
    let result ← Task.attempt ((pluginOf p).eval source.rootTag source.expression context)
    return .output serial result

end GrammarDesk.Inspector
