import GrammarDesk.Tree.Node

/-!
# The node under an offset

The search starts at the root and goes down as long as a child contains the offset.  Children
stand in the order of their starts, so the last child that starts at or before the offset is found
by halving.  Children of zero width contain nothing and are passed over.

Main definitions:

- `startsUpTo`: how many children start at or before the offset, by halving.
- `containingChild?`: the child that contains the offset.
- `descend`, `nodeAt?`: the search from a node, and from the root of a tree.
- `descendNaively`, `naiveNodeAt?`: the search that looks at every child on each level.
-/

namespace GrammarDesk.Tree

/-! ## Searching the children -/

/-- Halves a range of `count` elements from `base` on until one is left.  The test holds up to
some element and fails from there on; the element that is left is the last one it holds for, or
the first of all. -/
def halve (test : Node → Bool) (nodes : List Node) (base count : Nat) : Nat :=
  if count ≤ 1 then base
  else
    let half := count / 2
    let middle := base + half
    let next := if (nodes[middle]?).any test then middle else base
    halve test nodes next (count - half)
termination_by count

/-- How many of the nodes, which are in the order of their starts, start at or before the
offset. -/
def startsUpTo (nodes : List Node) (offset : Offset) : Nat :=
  let test := fun n : Node => n.start ≤ offset
  match nodes with
  | [] => 0
  | _ :: _ =>
    let base := halve test nodes 0 nodes.length
    if (nodes[base]?).any test then base + 1 else base

/-- The last child of some width that starts at or before the offset, if it contains it. -/
def containingChild? (n : Node) (offset : Offset) : Option Node :=
  ((n.children.take (startsUpTo n.children offset)).reverse.find? (!·.isZeroWidth)).filter
    (·.contains offset)

/-- The child that contains an offset is one of the children. -/
theorem mem_of_containingChild? {n c : Node} {offset : Offset}
    (h : containingChild? n offset = some c) : c ∈ n.children := by
  obtain ⟨hfind, -⟩ := Option.filter_eq_some_iff.1 h
  have hmem := List.mem_of_find?_eq_some hfind
  exact List.mem_of_mem_take (List.mem_reverse.1 hmem)

/-- A child is smaller than its node. -/
theorem Node.sizeOf_lt_of_mem {n c : Node} (h : c ∈ n.children) : sizeOf c < sizeOf n := by
  have := List.sizeOf_lt_of_mem h
  cases n
  simp only [Node.mk.sizeOf_spec] at *
  omega

/-! ## Going down -/

/-- The deepest node reached from here by steps to a child that contains the offset. -/
def descend (n : Node) (offset : Offset) : Node :=
  match _h : containingChild? n offset with
  | none => n
  | some c => if c.isLeaf then c else descend c offset
termination_by sizeOf n
decreasing_by exact Node.sizeOf_lt_of_mem (mem_of_containingChild? _h)

/-- The node of a tree under an offset; at the start of the tree and from its end on there is
none. -/
def nodeAt? (root : Node) (offset : Offset) : Option Node :=
  if root.stop ≤ offset || offset ≤ root.start then none else some (descend root offset)

/-! ## The search without an order -/

/-- Goes to the first child that contains the offset, looking at all children in turn. -/
def descendNaively (n : Node) (offset : Offset) : Node :=
  match _h : n.children.find? (·.contains offset) with
  | none => n
  | some c => descendNaively c offset
termination_by sizeOf n
decreasing_by exact Node.sizeOf_lt_of_mem (List.mem_of_find?_eq_some _h)

/-- The node under an offset, found by looking at every child on each level. -/
def naiveNodeAt? (root : Node) (offset : Offset) : Option Node :=
  if root.stop ≤ offset || offset ≤ root.start then none else some (descendNaively root offset)

end GrammarDesk.Tree
