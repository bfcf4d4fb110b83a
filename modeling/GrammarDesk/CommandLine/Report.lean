import GrammarDesk.CommandLine.Problem
import GrammarDesk.Grammar.Endpoint
import GrammarDesk.Inspector.Snapshot
import GrammarDesk.Tree.Lookup

/-!
# Reports

What the program prints about an endpoint, a tree, or everything that was derived from an input, as
lines of text or as JSON.

Main definitions:

- `endpointReport`, `treeReport`, `stateReport`: reports as lines.
- `jsonReport`: a report as JSON.
- `stateValue`: what is reported of a state as JSON.
-/

namespace GrammarDesk.CommandLine

open Json GrammarDesk.Tree Inspector

/-- Lines as a text. -/
def unlines (lines : List String) : String := String.join (lines.map (· ++ "\n"))

/-- The JSON text of a report. -/
def jsonReport (v : Value) : String := unlines [v.renderSpread 0]

/-! ## Endpoints -/

/-- The report of an endpoint. -/
def endpointReport (e : Grammar.Endpoint) : String := unlines [
  "transport:    " ++ e.transport.name,
  "resolved:     " ++ e.resolvedUrl,
  "capabilities: " ++ ", ".intercalate e.capabilities]

/-! ## Trees -/

/-- A span from start to end. -/
def spanText (n : Node) : String :=
  "[" ++ Text.decimal n.start.toNat ++ ".." ++ Text.decimal n.stop.toNat ++ "]"

/-- The line of a node that stands so deep in a tree. -/
def nodeLine (n : Node) (depth : Nat) : String :=
  Text.spaces (2 * depth) ++ n.name ++ " " ++ spanText n
    ++ (n.tokenType.map (" <" ++ · ++ ">")).getD ""
    ++ (n.value.map (" = " ++ ·.render)).getD ""
    ++ (n.error.map (" !! " ++ ·)).getD ""

/-- The lines of a tree, each node before its children. -/
def treeLines (root : Node) : List String :=
  (traverse root).map fun (n, depth) => nodeLine n depth

/-- The report of a tree. -/
def treeReport (root : Node) : String := unlines (treeLines root)

/-! ## States -/

/-- The line of a mark. -/
def markLine (m : Mark) : String :=
  "  " ++ Text.padLeft 4 m.start.toNat ++ ".." ++ Text.padRight 4 m.stop.toNat ++ " " ++ m.style

/-- A line that is there only if there is something to say. -/
def optionalLine (lead : String) : Option String → List String
  | some text => [lead ++ text]
  | none => []

/-- The node of a state under an offset. -/
def nodeOf (s : Snapshot) (offset : Option Offset) : Option Node := do
  nodeAt? (← s.treeRoot) (← offset)

/-- The line about an offset. -/
def offsetLines (s : Snapshot) : Option Offset → List String
  | none => []
  | some offset =>
    let lead := "at offset " ++ Text.decimal offset.toNat ++ ":  "
    match nodeOf s (some offset) with
    | some n => [lead ++ n.name ++ " " ++ spanText n]
    | none => [lead ++ "(no node)"]

/-- The report of a state, with the node under an offset. -/
def stateReport (s : Snapshot) (offset : Option Offset) : String := unlines (
  ((s.treeRoot.map treeLines).getD ["(no tree)"])
    ++ ["", "root tag:      " ++ s.grammarTag.getD "-",
      "tokens:        " ++ Text.decimal s.tokens.length]
    ++ s.marks.map markLine
    ++ optionalLine "context error: " s.contextError
    ++ optionalLine "parse error:   " s.outputError
    ++ optionalLine "eval error:    " s.evalError
    ++ ["output:        " ++ (s.output.getD .null).render]
    ++ offsetLines s offset)

/-- What is reported of a state as JSON. -/
def stateValue (s : Snapshot) (offset : Option Offset) : Value := .ofEntries [
  ("state", s.toValue), ("nodeAtOffset", .ofOption ((nodeOf s offset).map Node.toValue))]

end GrammarDesk.CommandLine
