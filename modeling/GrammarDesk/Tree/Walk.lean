import GrammarDesk.Tree.Mark

/-!
# Walking a tree

A walk visits every node once, in document order: a node before its children, and the children
from left to right.  It keeps a stack of the nodes to be visited.  One walk over a fresh tree
collects what an editor shows of it.

Main definitions:

- `visit`, `traverse`: the walk with its stack.
- `Node.preorder`: the same order by recursion over the tree.
- `Walk`, `walk`: the tokens, marks and first error of a tree.
-/

namespace GrammarDesk.Tree

/-! ## The order of visits -/

/-- The number of nodes still to be visited from a stack. -/
def pending : List (Node × Nat) → Nat
  | [] => 0
  | (n, _) :: rest => n.size + pending rest

/-- The nodes to be visited from two stacks are those from both. -/
theorem pending_append (xs ys : List (Node × Nat)) :
    pending (xs ++ ys) = pending xs + pending ys := by
  induction xs with
  | nil => simp [pending]
  | cons x xs ih => obtain ⟨n, d⟩ := x; simp [pending, ih, Nat.add_assoc]

/-- The children of a node, one step deeper than it. -/
def Node.offspring (n : Node) (depth : Nat) : List (Node × Nat) :=
  n.children.map (·, depth + 1)

/-- From a row of siblings their subtrees are to be visited. -/
theorem pending_map (ns : List Node) (depth : Nat) :
    pending (ns.map (·, depth)) = Node.sizes ns := by
  induction ns with
  | nil => rfl
  | cons n ns ih => simp [pending, Node.sizes, ih]

/-- A tree has its root and the nodes of its subtrees. -/
theorem Node.size_eq (n : Node) : n.size = 1 + Node.sizes n.children := by
  cases n; rfl

/-- The children of a node take one node less to visit than the node. -/
theorem pending_offspring (n : Node) (depth : Nat) : pending (n.offspring depth) + 1 = n.size := by
  rw [Node.offspring, pending_map, Node.size_eq, Nat.add_comm]

/-- Visits the nodes on a stack, its top first; the children of a node take its place. -/
def visit (stack : List (Node × Nat)) : List (Node × Nat) :=
  match stack with
  | [] => []
  | (n, depth) :: rest => (n, depth) :: visit (n.offspring depth ++ rest)
termination_by pending stack
decreasing_by
  have := pending_offspring n depth
  simp only [pending_append, pending]
  omega

/-- The nodes of a tree with their depths, in document order. -/
def traverse (root : Node) : List (Node × Nat) := visit [(root, 0)]

mutual

/-- The nodes of a subtree with their depths: the root, then each child's subtree. -/
def Node.preorder (depth : Nat) (n : Node) : List (Node × Nat) :=
  match n with
  | ⟨name, start, stop, children, tokenType, skip, error, value⟩ =>
    (⟨name, start, stop, children, tokenType, skip, error, value⟩, depth)
      :: preorders (depth + 1) children
termination_by structural n

/-- The nodes of neighbouring subtrees, from left to right. -/
def Node.preorders (depth : Nat) (ns : List Node) : List (Node × Nat) :=
  match ns with
  | [] => []
  | n :: rest => n.preorder depth ++ preorders depth rest
termination_by structural ns

end

/-! ## What an editor shows -/

/-- What one walk collects from a tree. -/
structure Walk where
  /-- The highlighted nodes, in document order. -/
  tokens : List Node
  /-- Their marks. -/
  marks : List Mark
  /-- The first error in document order. -/
  firstError : Option String

/-- A walk that has seen one more node. -/
def Walk.see (w : Walk) (n : Node) : Walk where
  tokens := if n.isHighlighted then w.tokens ++ [n] else w.tokens
  marks := if n.isHighlighted then w.marks ++ [Mark.syntactic n] else w.marks
  firstError := w.firstError.or n.error

/-- The tokens, marks and first error of a tree. -/
def walk (root : Node) : Walk :=
  (traverse root).foldl (fun w (n, _) => w.see n) ⟨[], [], none⟩

end GrammarDesk.Tree
