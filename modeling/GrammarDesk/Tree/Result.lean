import GrammarDesk.Tree.Mapping

/-!
# Results of grammars

A grammar answers a call with a result of one of four shapes: a plain text, number or truth value;
a JSON value to be read through the plugin's mapping; a JSON value with a mapping of its own; or a
tree that is built already, either all at once or node by node on demand.  Normalization turns all
of them into trees.

Main definitions:

- `LazyNode`: a tree that hands out one node at a time.
- `RawResult`: a result of a call.
- `RawResult.ofJson`: the shape that a JSON answer has.
- `RawResult.isFalsy`, `RawResult.toValue`: emptiness, and the result as a plain value.
- `normalize`: the tree of a result.
-/

namespace GrammarDesk.Tree

open Json

/-! ## Trees built on demand -/

/-- A node that is asked for its fields one by one; its children are numbered. -/
inductive LazyNode where
  | mk (name : String) (start stop : Offset) (tokenType : Option String) (skip : Bool)
    (error : Option String) (value : Option Value) (count : Nat) (child : Fin count → LazyNode)

namespace LazyNode

/-- The name of a node. -/
def name : LazyNode → String
  | .mk name _ _ _ _ _ _ _ _ => name

/-- The whole tree, with ends raised to their starts. -/
def hydrate : LazyNode → Node
  | .mk name start stop tokenType skip error value _ child =>
    { name := name
      start := start
      stop := max stop start
      children := List.ofFn fun i => (child i).hydrate
      tokenType := tokenType
      skip := skip
      error := error
      value := value }

mutual

/-- A tree that hands out the nodes of a finished tree. -/
def ofNode (n : Node) : LazyNode :=
  match n with
  | ⟨name, start, stop, children, tokenType, skip, error, value⟩ =>
    .mk name start stop tokenType skip error value (ofNodes children).length
      fun i => (ofNodes children)[i]
termination_by structural n

/-- The trees that hand out the nodes of neighbouring trees. -/
def ofNodes (ns : List Node) : List LazyNode :=
  match ns with
  | [] => []
  | n :: rest => ofNode n :: ofNodes rest
termination_by structural ns

end

end LazyNode

/-- A tree that follows the rules for nodes already. -/
inductive PrebuiltTree where
  | hydrated (root : Node)
  | dehydrated (root : LazyNode)

namespace PrebuiltTree

/-- The tree exists in full. -/
def isHydrated : PrebuiltTree → Bool
  | .hydrated _ => true
  | .dehydrated _ => false

/-- The tree in full. -/
def hydrate : PrebuiltTree → Node
  | .hydrated root => root
  | .dehydrated root => root.hydrate

/-- The tree by the name of its root. -/
def describe : PrebuiltTree → String
  | .hydrated root => "Hydrated(" ++ Text.quote root.name ++ ")"
  | .dehydrated root => "Dehydrated(" ++ Text.quote root.name ++ ")"

end PrebuiltTree

/-! ## Results -/

/-- A result of a call before it is normalized. -/
inductive RawResult where
  /-- A text, number or truth value. -/
  | primitive (v : Value)
  /-- A value to be read through the plugin's mapping. -/
  | plain (v : Value)
  /-- A value with the mapping to read it through, which may be null. -/
  | mapped (v mapping : Value)
  | prebuilt (tree : PrebuiltTree)

/-- The shapes of results. -/
inductive RawShape where
  | primitive
  | json
  | jsonWithMapping
  | iterator
deriving DecidableEq

/-- The name of a shape. -/
def RawShape.describe : RawShape → String
  | .primitive => "Primitive"
  | .json => "Json"
  | .jsonWithMapping => "JsonWithMapping"
  | .iterator => "Iterator"

namespace RawResult

/-- The result that a JSON answer is: an object with both a value and a mapping carries its own
mapping, null and all lists and other objects are plain. -/
def ofJson : Value → RawResult
  | .bool b => .primitive (.bool b)
  | .number n => .primitive (.number n)
  | .string s => .primitive (.string s)
  | .object entries =>
    match Entries.get? entries "json", Entries.get? entries "mapping" with
    | some v, some mapping => .mapped v mapping
    | _, _ => .plain (.object entries)
  | v => .plain v

/-- The shape of a result. -/
def shape : RawResult → RawShape
  | .primitive _ => .primitive
  | .plain _ => .json
  | .mapped _ _ => .jsonWithMapping
  | .prebuilt _ => .iterator

/-- An empty result: null, false, zero or the empty text. -/
def isFalsy : RawResult → Bool
  | .primitive v => !v.isTruthy
  | .plain v => !v.isTruthy
  | _ => false

/-- The result as a plain value, which evaluations answer with. -/
def toValue : RawResult → Value
  | .primitive v => v
  | .plain v => v
  | .mapped v _ => v
  | .prebuilt tree => tree.hydrate.toValue

end RawResult

/-! ## Normalization -/

/-- The name of the only node of a primitive result. -/
def primitiveName : String := "value"

/-- The tree of a primitive result: one node that covers its text. -/
def primitiveNode (v : Value) : Node :=
  { Node.leaf primitiveName 0 (textOf v).length.toUInt64 with value := some v }

/-- The tree of a result under a plugin's mapping. -/
def normalize (raw : RawResult) (mapping : Mapping) : Except Failure Node :=
  match raw with
  | .primitive v => .ok (primitiveNode v)
  | .plain v => mapping.mapTree v
  | .mapped v own =>
    if own.isNull then .error .missingMapping
    else match Mapping.ofValue own with
      | .error fault => .error (.json fault)
      | .ok mapping => mapping.mapTree v
  | .prebuilt tree => .ok tree.hydrate

end GrammarDesk.Tree
