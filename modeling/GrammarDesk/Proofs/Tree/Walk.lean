import Mathlib.Logic.Basic
import GrammarDesk.Tree.Walk

/-!
# What a walk sees

A walk goes by its stack alone, and yet it sees every node of the tree once, in document order: a
node before its children, and the children from left to right.  What it collects follows from this
order.

Main definitions:

- `Node.Within`: a node of a tree.
- `Node.nodes`: the nodes of a tree in document order.

Main results:

- `visit_eq_flatMap`: from a stack the trees on it are walked one after the other.
- `Node.mem_nodes_iff`: the list in document order has the nodes of the tree and no others.
- `walk_eq`: what a walk collects, read off the list of the nodes.
- `walk_firstError_eq_none_iff`: a walk finds no error exactly when no node carries one.
- `walk_sees_in_order`: the order of a walk, and what it collects.
-/

namespace GrammarDesk.Tree

/-- The node is the root of the tree or below it. -/
inductive Node.Within (n : Node) : Node → Prop where
  | root : Within n n
  | inside {parent child : Node} (hchild : child ∈ parent.children) (h : Within n child) :
      Within n parent

theorem Node.within_iff (n root : Node) :
    n.Within root ↔ n = root ∨ ∃ child ∈ root.children, n.Within child := by
  constructor
  · intro h
    cases h with
    | root => exact Or.inl rfl
    | inside hchild h => exact Or.inr ⟨_, hchild, h⟩
  · rintro (rfl | ⟨child, hchild, h⟩)
    · exact .root
    · exact .inside hchild h

/-- What holds of every node of a tree holds of the root and of every node below each child. -/
theorem Node.forall_within_iff (P : Node → Prop) (root : Node) :
    (∀ n : Node, n.Within root → P n) ↔
      P root ∧ ∀ child ∈ root.children, ∀ n : Node, n.Within child → P n := by
  constructor
  · intro h
    exact ⟨h root .root, fun child hchild n hn => h n (.inside hchild hn)⟩
  · rintro ⟨hroot, hbelow⟩ n hn
    cases hn with
    | root => exact hroot
    | inside hchild hn => exact hbelow _ hchild n hn

/-! ## Document order -/

theorem Node.preorder_eq (n : Node) (depth : Nat) :
    n.preorder depth = (n, depth) :: n.children.flatMap (Node.preorder (depth + 1)) := by
  have hall : ∀ ns : List Node,
      Node.preorders (depth + 1) ns = ns.flatMap (Node.preorder (depth + 1)) := by
    intro ns
    induction ns with
    | nil => rfl
    | cons n ns ih => rw [Node.preorders, ih, List.flatMap_cons]
  cases n
  rw [Node.preorder, hall]

/-- The nodes of a tree in document order. -/
def Node.nodes (root : Node) : List Node := (root.preorder 0).map Prod.fst

mutual

/-- The depth that a tree lies at is of no matter for the order of its nodes. -/
theorem Node.map_fst_preorder (n : Node) (depth : Nat) :
    (n.preorder depth).map Prod.fst = n.nodes := by
  obtain ⟨name, start, stop, children, tokenType, skip, error, value⟩ := n
  rw [Node.nodes, Node.preorder, Node.preorder, List.map_cons, List.map_cons,
    Node.map_fst_preorders children, Node.map_fst_preorders children]

theorem Node.map_fst_preorders (ns : List Node) (depth : Nat) :
    (Node.preorders depth ns).map Prod.fst = ns.flatMap Node.nodes := by
  cases ns with
  | nil => rfl
  | cons n rest =>
    rw [Node.preorders, List.map_append, List.flatMap_cons, Node.map_fst_preorder n,
      Node.map_fst_preorders rest]

end

theorem Node.nodes_eq (n : Node) : n.nodes = n :: n.children.flatMap Node.nodes := by
  rw [Node.nodes, Node.preorder_eq, List.map_cons, List.map_flatMap]
  simp only [Node.map_fst_preorder]

mutual

/-- The list in document order has the nodes of the tree and no others. -/
theorem Node.mem_nodes_iff (n root : Node) : n ∈ root.nodes ↔ n.Within root := by
  obtain ⟨name, start, stop, children, tokenType, skip, error, value⟩ := root
  rw [Node.nodes_eq, List.mem_cons, Node.mem_flatMap_nodes_iff n children, Node.within_iff]

theorem Node.mem_flatMap_nodes_iff (n : Node) (ns : List Node) :
    n ∈ ns.flatMap Node.nodes ↔ ∃ top ∈ ns, n.Within top := by
  cases ns with
  | nil => simp
  | cons top rest =>
    rw [List.flatMap_cons, List.mem_append, Node.mem_nodes_iff n top,
      Node.mem_flatMap_nodes_iff n rest]
    simp

end

/-! ## Visits -/

/-- From a stack the trees on it are walked one after the other, each in document order from the
depth that it lies at. -/
theorem visit_eq_flatMap (stack : List (Node × Nat)) :
    visit stack = stack.flatMap fun top => top.1.preorder top.2 := by
  fun_induction visit stack with
  | case1 => rfl
  | case2 top depth rest ih =>
    -- the children that take the place of a node are what follows it in its tree
    rw [ih, List.flatMap_append, List.flatMap_cons, Node.preorder_eq top depth, List.cons_append,
      Node.offspring, List.flatMap_map]

/-- A walk visits the nodes in document order. -/
theorem traverse_eq_preorder (root : Node) : traverse root = root.preorder 0 := by
  rw [traverse, visit_eq_flatMap, List.flatMap_singleton]

/-- From a stack as many nodes are visited as the trees on it have together. -/
theorem length_visit (stack : List (Node × Nat)) : (visit stack).length = pending stack := by
  fun_induction visit stack with
  | case1 => rfl
  | case2 top depth rest ih =>
    rw [List.length_cons, ih, pending_append, pending, ← pending_offspring top depth]
    omega

theorem length_traverse (root : Node) : (traverse root).length = root.size :=
  length_visit [(root, 0)]

/-! ## What is collected -/

/-- A walk that has collected something goes on to collect what the nodes ahead of it show. -/
theorem foldl_see (visits : List (Node × Nat)) (w : Walk) :
    visits.foldl (fun w (n, _) => w.see n) w =
      { tokens := w.tokens ++ (visits.map Prod.fst).filter Node.isHighlighted
        marks := w.marks ++ ((visits.map Prod.fst).filter Node.isHighlighted).map Mark.syntactic
        firstError := w.firstError.or ((visits.map Prod.fst).findSome? Node.error) } := by
  induction visits generalizing w with
  | nil => simp
  | cons visit visits ih =>
    obtain ⟨n, depth⟩ := visit
    have herror : ∀ seen : Option String,
        (seen.or n.error).or ((visits.map Prod.fst).findSome? Node.error) =
          seen.or ((n :: visits.map Prod.fst).findSome? Node.error) := by
      intro seen
      cases hn : n.error <;> simp [hn]
    rw [List.foldl_cons, ih, List.map_cons, ← herror]
    cases hlit : n.isHighlighted <;> simp [Walk.see, hlit]

/-- A walk collects the highlighted nodes, their marks, and the first error. -/
theorem walk_eq (root : Node) :
    walk root =
      { tokens := root.nodes.filter Node.isHighlighted
        marks := (root.nodes.filter Node.isHighlighted).map Mark.syntactic
        firstError := root.nodes.findSome? Node.error } := by
  rw [walk, foldl_see, traverse_eq_preorder]
  simp only [List.nil_append, Option.none_or]
  rfl

/-- A walk finds no error exactly when no node of the tree carries one. -/
theorem walk_firstError_eq_none_iff (root : Node) :
    (walk root).firstError = none ↔ ∀ n : Node, n.Within root → n.error = none := by
  simp only [walk_eq, List.findSome?_eq_none_iff, Node.mem_nodes_iff]

/-- The first error below a row of siblings is the first one below the leftmost that has any. -/
theorem findSome?_error_flatMap_nodes (ns : List Node) :
    (ns.flatMap Node.nodes).findSome? Node.error =
      ns.findSome? fun n => n.nodes.findSome? Node.error := by
  induction ns with
  | nil => rfl
  | cons n ns ih =>
    rw [List.flatMap_cons, List.findSome?_append, ih, List.findSome?_cons]
    cases n.nodes.findSome? Node.error <;> rfl

/-- The error of a node comes before those below it, and those below a child before those below the
children on its right. -/
theorem walk_firstError_eq_or (root : Node) :
    (walk root).firstError =
      root.error.or (root.children.findSome? fun child => (walk child).firstError) := by
  simp only [walk_eq]
  rw [Node.nodes_eq, List.findSome?_cons, findSome?_error_flatMap_nodes]
  cases root.error <;> rfl

/-- A walk sees every node of the tree once, in document order and with its depth.  The tokens are
those of the nodes that have a token type or an error, in this order, and each of them has its mark
in the same place.  The error that is found is the first one in this order, so that the error of a
node comes before those below it, and those below a child before those below the children on its
right. -/
theorem walk_sees_in_order (root : Node) :
    traverse root = root.preorder 0 ∧ (traverse root).length = root.size ∧
    (walk root).tokens = root.nodes.filter (fun n => n.tokenType.isSome || n.error.isSome) ∧
    (walk root).marks = (walk root).tokens.map Mark.syntactic ∧
    (walk root).firstError = root.nodes.findSome? Node.error ∧
    ((walk root).firstError = none ↔ ∀ n : Node, n.Within root → n.error = none) ∧
    (walk root).firstError =
      root.error.or (root.children.findSome? fun child => (walk child).firstError) := by
  refine ⟨traverse_eq_preorder root, length_traverse root, ?_, ?_, ?_,
    walk_firstError_eq_none_iff root, walk_firstError_eq_or root⟩
  · rw [walk_eq]
    rfl
  · rw [walk_eq]
  · rw [walk_eq]

end GrammarDesk.Tree
