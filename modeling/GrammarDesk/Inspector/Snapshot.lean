import GrammarDesk.Tree.Lookup
import GrammarDesk.Tree.Walk

/-!
# Snapshots and notifications

What an editor sees of the inspector: the state that is derived from the inputs, published as a
whole with each change, and messages about failures of the backend.

Main definitions:

- `Snapshot`: the state of an inspector.
- `Snapshot.nodeUnder?`: the node under an offset in the tree of a snapshot.
- `Snapshot.toValue`: a snapshot as JSON.
- `Notification`: a message, with its level.
- `InspectorError`: why the inspector cannot be used.
-/

namespace GrammarDesk.Inspector

open Json GrammarDesk.Tree

/-- The state that is derived from the inputs. -/
structure Snapshot where
  expression : String
  contextText : String
  grammarTag : Option String
  treeRoot : Option Node
  /-- The highlighted nodes of the tree. -/
  tokens : List Node
  marks : List Mark
  selection : Option Node
  selectionMark : Option Mark
  output : Option Value
  /-- The first error in the tree. -/
  outputError : Option String
  /-- The failure of the last evaluation. -/
  evalError : Option String
  context : Option Value
  contextError : Option String
  /-- Raised by one with each publication.  No run comes to the end of a word of 64 bits, so this
  counter has none. -/
  revision : Nat
  /-- Something is still to be computed. -/
  isBusy : Bool

namespace Snapshot

/-- The state before anything is derived. -/
def blank : Snapshot where
  expression := ""
  contextText := ""
  grammarTag := none
  treeRoot := none
  tokens := []
  marks := []
  selection := none
  selectionMark := none
  output := none
  outputError := none
  evalError := none
  context := none
  contextError := none
  revision := 0
  isBusy := false

instance : Inhabited Snapshot := ⟨blank⟩

/-- The node under an offset in the tree that is shown. -/
def nodeUnder? (s : Snapshot) (offset : Offset) : Option Node :=
  s.treeRoot.bind fun root => nodeAt? root offset

/-- An optional text as JSON. -/
def ofText? (s : Option String) : Value := .ofOption (s.map .string)

/-- The snapshot as an object. -/
def toValue (s : Snapshot) : Value := .ofEntries [
  ("expression", .string s.expression),
  ("contextStr", .string s.contextText),
  ("grammarTag", ofText? s.grammarTag),
  ("treeRoot", .ofOption (s.treeRoot.map Node.toValue)),
  ("treeTokens", .array (s.tokens.map Node.toValue)),
  ("syntaxMarks", .array (s.marks.map Mark.toValue)),
  ("selection", .ofOption (s.selection.map Node.toValue)),
  ("selectionMark", .ofOption (s.selectionMark.map Mark.toValue)),
  ("output", .ofOption s.output),
  ("outputError", ofText? s.outputError),
  ("evalError", ofText? s.evalError),
  ("context", .ofOption s.context),
  ("contextParseError", ofText? s.contextError),
  ("revision", .ofNat s.revision.toUInt64),
  ("busy", .bool s.isBusy)]

end Snapshot

/-! ## Notifications -/

/-- How grave a message is. -/
inductive Level where
  | info
  | warning
  | error
deriving DecidableEq

/-- The name of a level. -/
def Level.name : Level → String
  | .info => "info"
  | .warning => "warning"
  | .error => "error"

/-- A message about a failure of the backend. -/
structure Notification where
  level : Level
  message : String
deriving DecidableEq

/-! ## Errors -/

/-- Why the inspector cannot be used. -/
inductive InspectorError where
  | closed
  | settleTimeout
deriving DecidableEq

/-- The wording of an error. -/
def InspectorError.message : InspectorError → String
  | .closed => "Inspector engine has shut down"
  | .settleTimeout => "Timed out waiting for the inspector to settle"

end GrammarDesk.Inspector
