import GrammarDesk.Tree.Node

/-!
# Highlight marks

A mark is a range of text with a style class.  The mark of a node covers the node's span.  A node
of zero width has nothing to show, so its mark is widened by one character: the one before it, or
at the start of the text the one after it; the class tells which.

Main definitions:

- `Mark`: a range and its class.
- `Mark.ofNode`: the mark of a node for a class.
- `Mark.syntactic`, `Mark.selection`: the marks of a highlighted and of a selected node.
-/

namespace GrammarDesk.Tree

open Json

/-- A range of text and the style class it is shown in. -/
structure Mark where
  start : Offset
  stop : Offset
  style : String
deriving DecidableEq

namespace Mark

/-- The mark of a node for a class. -/
def ofNode (n : Node) (style : String) : Mark :=
  if n.start = n.stop then
    if 0 < n.start then ⟨n.start - 1, n.stop, "mark-" ++ style ++ "-after"⟩
    else ⟨n.start, n.stop + 1, "mark-" ++ style ++ "-before"⟩
  else ⟨n.start, n.stop, "mark-" ++ style⟩

/-- The mark of a highlighted node: its token type, or the class for errors. -/
def syntactic (n : Node) : Mark := ofNode n (n.tokenType.getD "error")

/-- The mark of the selected node. -/
def selection (n : Node) : Mark := ofNode n "selection"

/-! ## Marks as JSON -/

/-- The mark as an object with sorted keys. -/
def toValue (m : Mark) : Value :=
  .object [("class", .string m.style), ("end", .ofNat m.stop), ("start", .ofNat m.start)]

/-- The mark as an object in the order of declaration. -/
def toRecord (m : Mark) : Value :=
  .object [("start", .ofNat m.start), ("end", .ofNat m.stop), ("class", .string m.style)]

/-- What a mark has to be when it is read. -/
def shape : Shape :=
  .record "HighlightMark" [
    .required "start" .offset, .required "end" .offset, .required "class" .text]

/-- The mark of a value in normal form. -/
def ofNormal (v : Value) : Mark :=
  ⟨v.offsetAt "start", v.offsetAt "end", v.textAt "class" ""⟩

/-- The mark that a text writes. -/
def ofText (text : String) : Except Fault Mark :=
  (shape.read text).map ofNormal

end Mark

end GrammarDesk.Tree
