import GrammarDesk.Json.Reader.Shaped

/-!
# Syntax trees

A node of a syntax tree has a name, the span of text it covers, and its children in document
order.  A node whose span is empty stands for a virtual or missing token.  Nodes are read from JSON
either strictly, against their shape, or through a field mapping (`GrammarDesk.Tree.Mapping`).

Main definitions:

- `Node`: a node with all its descendants.
- `Node.leaf`: a fresh node, whose end is not before its start.
- `Node.toValue`, `Node.toRecord`: a node as JSON, with sorted fields and in declaration order.
- `Node.shape`, `Node.ofValue`, `Node.ofText`: the strict readers.
-/

namespace GrammarDesk.Tree

open Json

/-- A position in a text, in characters, as 64 bits hold it. -/
abbrev Offset := UInt64

/-- A node of a syntax tree. -/
structure Node where
  name : String
  start : Offset
  stop : Offset
  children : List Node
  tokenType : Option String
  skip : Bool
  error : Option String
  value : Option Value
deriving BEq, Inhabited

namespace Node

/-! ## Building nodes -/

/-- A node without children and marks; its end is raised to its start. -/
def leaf (name : String) (start stop : Offset) : Node :=
  ⟨name, start, max stop start, [], none, false, none, none⟩

/-! ## Simple questions -/

/-- The node has no children. -/
def isLeaf (n : Node) : Bool := n.children.isEmpty

/-- The span of the node is empty. -/
def isZeroWidth (n : Node) : Bool := n.start == n.stop

/-- The span from start to before the end contains the offset. -/
def contains (n : Node) (offset : Offset) : Bool := n.start ≤ offset && offset < n.stop

/-- An editor highlights classified tokens and error nodes. -/
def isHighlighted (n : Node) : Bool := n.tokenType.isSome || n.error.isSome

mutual

/-- The number of nodes of the subtree. -/
def size : Node → Nat
  | ⟨_, _, _, children, _, _, _, _⟩ => 1 + sizes children
termination_by structural n => n

/-- The number of nodes of a list of subtrees. -/
def sizes : List Node → Nat
  | [] => 0
  | n :: rest => n.size + sizes rest
termination_by structural ns => ns

end

/-! ## Nodes as JSON -/

/-- An entry for a field that may be absent. -/
def entry? (key : String) : Option Value → Entries
  | none => []
  | some v => [(key, v)]

/-- The entry that marks a skipped node. -/
def skipEntry (skip : Bool) : Entries := if skip then [("skip", .bool true)] else []

mutual

/-- The node as an object with sorted keys; absent fields and a false mark are left out. -/
def toValue : Node → Value
  | ⟨name, start, stop, children, tokenType, skip, error, value⟩ =>
    .object ([("children", .array (toValues children)), ("end", .ofNat stop)]
      ++ entry? "error" (error.map .string)
      ++ [("name", .string name)]
      ++ skipEntry skip
      ++ [("start", .ofNat start)]
      ++ entry? "tokenType" (tokenType.map .string)
      ++ entry? "value" value)
termination_by structural n => n

/-- The nodes of a list as objects. -/
def toValues : List Node → List Value
  | [] => []
  | n :: rest => n.toValue :: toValues rest
termination_by structural ns => ns

end

mutual

/-- The node as an object whose fields stand in the order of declaration. -/
def toRecord : Node → Value
  | ⟨name, start, stop, children, tokenType, skip, error, value⟩ =>
    .object ([("name", .string name), ("start", .ofNat start), ("end", .ofNat stop),
        ("children", .array (toRecords children))]
      ++ entry? "tokenType" (tokenType.map .string)
      ++ skipEntry skip
      ++ entry? "error" (error.map .string)
      ++ entry? "value" value)
termination_by structural n => n

/-- The nodes of a list as objects in the order of declaration. -/
def toRecords : List Node → List Value
  | [] => []
  | n :: rest => n.toRecord :: toRecords rest
termination_by structural ns => ns

end

/-! ## Strict reading -/

/-- What a node has to be when it is read strictly. -/
def shape : Shape :=
  .record "HydratedNode" [
    .required "name" .text, .required "start" .offset, .required "end" .offset,
    .optional "children" .siblings, .nullable "tokenType" .text, .optional "skip" .boolean,
    .nullable "error" .text, .nullable "value" .anything]

mutual

/-- The node of a value in normal form. -/
def ofNormal (v : Value) : Node :=
  match v with
  | .object entries =>
    let whole := Value.object entries
    { name := whole.textAt "name" ""
      start := whole.offsetAt "start"
      stop := whole.offsetAt "end"
      children := childrenOf entries
      tokenType := whole.textAt? "tokenType"
      skip := whole.boolAt "skip"
      error := whole.textAt? "error"
      value := (whole.get? "value").filter (!·.isNull) }
  | _ => leaf "" 0 0
termination_by structural v

/-- The nodes under the first key for children. -/
def childrenOf (entries : List (String × Value)) : List Node :=
  match entries with
  | [] => []
  | e :: rest =>
    match childrenAt e with
    | some nodes => nodes
    | none => childrenOf rest
termination_by structural entries

/-- The nodes of an entry, if its key is the one for children. -/
def childrenAt (e : String × Value) : Option (List Node) :=
  match e with
  | (key, v) => if key = "children" then some (nodesOf v) else none
termination_by structural e

/-- The nodes of a list of values in normal form. -/
def nodesOf (v : Value) : List Node :=
  match v with
  | .array items => ofNormals items
  | _ => []
termination_by structural v

/-- The nodes of values in normal form. -/
def ofNormals (vs : List Value) : List Node :=
  match vs with
  | [] => []
  | v :: rest => ofNormal v :: ofNormals rest
termination_by structural vs

end

/-- The node that a value holds, if it has the shape of one. -/
def ofValue (v : Value) : Except Fault Node :=
  (shape.check v).map ofNormal

/-- The node that a text writes, if it has the shape of one. -/
def ofText (text : String) : Except Fault Node :=
  (shape.read text).map ofNormal

end Node

end GrammarDesk.Tree
