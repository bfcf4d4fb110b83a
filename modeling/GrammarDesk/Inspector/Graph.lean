/-!
# What is derived from what

The inspector keeps four derived values in step with five inputs.

```text
context text ---> context -------------+
expression ---+                        v
context text -+-> tree ------------> output
grammar tag --+
plugin -------+
selection ------> selection mark
```

Main definitions:

- `Input`, `Derived`: the values that are set from outside, and those that are derived.
- `Input.dependents`, `Derived.dependents`: what has to be computed anew after a change.
- `Derived.isDebounced`: whether a change has to rest first.
-/

namespace GrammarDesk.Inspector

/-- A value that is set from outside. -/
inductive Input where
  | expression
  | contextText
  | grammarTag
  | plugin
  | selection
deriving DecidableEq

/-- A value that is derived; what comes later may depend on what comes earlier. -/
inductive Derived where
  | context
  | tree
  | output
  | selectionMark
deriving DecidableEq

namespace Derived

/-- All derived values, in the order in which they are computed. -/
def all : List Derived := [.context, .tree, .output, .selectionMark]

/-- The name of a derived value. -/
def name : Derived → String
  | .context => "Context"
  | .tree => "Tree"
  | .output => "Output"
  | .selectionMark => "SelectionMark"

/-- What is computed anew when this value has changed. -/
def dependents : Derived → List Derived
  | .context => [.output]
  | .tree => [.output]
  | .output => []
  | .selectionMark => []

/-- Marks follow the pointer at once; all else waits until the input rests. -/
def isDebounced : Derived → Bool
  | .selectionMark => false
  | _ => true

end Derived

namespace Input

/-- All inputs. -/
def all : List Input := [.expression, .contextText, .grammarTag, .plugin, .selection]

/-- The name of an input. -/
def name : Input → String
  | .expression => "Expression"
  | .contextText => "ContextStr"
  | .grammarTag => "GrammarTag"
  | .plugin => "Plugin"
  | .selection => "Selection"

/-- What is computed anew when this input has changed. -/
def dependents : Input → List Derived
  | .expression => [.tree]
  | .contextText => [.context, .tree]
  | .grammarTag => [.tree]
  | .plugin => [.tree]
  | .selection => [.selectionMark]

end Input

end GrammarDesk.Inspector
