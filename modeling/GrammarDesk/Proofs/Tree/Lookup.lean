import Mathlib.Data.List.Pairwise
import GrammarDesk.Tree.Lookup
import GrammarDesk.Proofs.Tree.Walk

/-!
# What the search by offset finds

On each level the search halves its way to the last child that starts at or before the offset and
steps back over children of zero width.  Where the siblings are spaced out, this is the child that
a look at all of them finds, and it is the only one that contains the offset; so both searches go
down the one path there is, to its end.

Main definitions:

- `Node.Reaches`: a node reached in some number of steps to children that contain the offset.
- `Spaced`, `Node.Spacious`: siblings that do not overlap, and trees with no others.

Main results:

- `mem_take_startsUpTo_iff`: halving parts the children at the offset.
- `containingChild?_eq_find?`: among spaced siblings it finds what a look at all of them finds.
- `Node.Reaches.prolong`: every way down is part of the way to a node at which it ends.
- `lookup_finds_deepest`: the search is correct.
-/

namespace GrammarDesk.Tree

/-! ## Ways down -/

/-- The node is reached from the root in so many steps, each to a child that contains the
offset. -/
inductive Node.Reaches (offset : Offset) (n : Node) : Node → Nat → Prop where
  | here : Reaches offset n n 0
  | down {parent child : Node} {steps : Nat} (hchild : child ∈ parent.children)
      (hcontains : child.contains offset) (h : Reaches offset n child steps) :
      Reaches offset n parent (steps + 1)

/-- No two siblings contain the offset. -/
def Single (offset : Offset) (siblings : List Node) : Prop :=
  siblings.Pairwise fun c d => ¬(c.contains offset ∧ d.contains offset)

/-- The siblings stand in the order of their starts, and of those with some width each ends where
the next one starts or before.  A span that ends before it starts contains nothing and needs no
rule of its own. -/
structure Spaced (siblings : List Node) : Prop where
  sorted : siblings.Pairwise fun c d => c.start ≤ d.start
  apart : siblings.Pairwise fun c d =>
    c.isZeroWidth = false → d.isZeroWidth = false → c.stop ≤ d.start

/-- The siblings on every level of the tree are spaced out. -/
def Node.Spacious (root : Node) : Prop :=
  ∀ n : Node, n.Within root → Spaced n.children

theorem Node.spacious_iff (root : Node) :
    root.Spacious ↔ Spaced root.children ∧ ∀ child ∈ root.children, child.Spacious :=
  Node.forall_within_iff (fun n => Spaced n.children) root

/-- The children of the root are spaced. -/
theorem Node.Spacious.children {root : Node} (h : root.Spacious) : Spaced root.children :=
  (root.spacious_iff.1 h).1

/-- A subtree is spacious as the tree is. -/
theorem Node.Spacious.child {root child : Node} (h : root.Spacious)
    (hchild : child ∈ root.children) : child.Spacious :=
  (root.spacious_iff.1 h).2 child hchild

theorem Node.contains_iff (n : Node) (offset : Offset) :
    n.contains offset ↔ n.start ≤ offset ∧ offset < n.stop := by
  simp [Node.contains]

/-- A node of zero width contains nothing. -/
theorem Node.isZeroWidth_of_contains {n : Node} {offset : Offset} (h : n.contains offset) :
    n.isZeroWidth = false := by
  rw [Node.contains_iff, UInt64.le_iff_toNat_le, UInt64.lt_iff_toNat_lt] at h
  rw [Node.isZeroWidth, beq_eq_false_iff_ne]
  intro heq
  rw [heq] at h
  omega

/-- Of spaced siblings at most one contains the offset. -/
theorem Spaced.single {siblings : List Node} (h : Spaced siblings) (offset : Offset) :
    Single offset siblings := by
  refine h.apart.imp ?_
  rintro c d hstop ⟨hc, hd⟩
  have hle := hstop (Node.isZeroWidth_of_contains hc) (Node.isZeroWidth_of_contains hd)
  rw [Node.contains_iff, UInt64.le_iff_toNat_le, UInt64.lt_iff_toNat_lt] at hc hd
  rw [UInt64.le_iff_toNat_le] at hle
  omega

/-- No two of such siblings contain the offset. -/
theorem Single.eq_of_contains {offset : Offset} {siblings : List Node}
    (h : Single offset siblings) {c d : Node} (hc : c ∈ siblings) (hd : d ∈ siblings)
    (hccontains : c.contains offset) (hdcontains : d.contains offset) : c = d := by
  by_contra hne
  have : Std.Symm fun c d : Node => ¬(c.contains offset ∧ d.contains offset) :=
    ⟨fun _ _ hnot hboth => hnot hboth.symm⟩
  exact List.Pairwise.forall h hc hd hne ⟨hccontains, hdcontains⟩

/-! ## Halving -/

section Halving

variable {test : Node → Bool} {nodes : List Node}

/-- The test holds at one place only if it holds at all places before. -/
def Falls (test : Node → Bool) (nodes : List Node) : Prop :=
  ∀ i j : Nat, i ≤ j → (nodes[j]?).any test → (nodes[i]?).any test

/-- Where the test falls, halving ends at the last place at which it holds, or at the first of
all. -/
theorem any_halve (hfalls : Falls test nodes) (base count : Nat)
    (hbase : base = 0 ∨ (nodes[base]?).any test) (hend : ¬(nodes[base + count]?).any test) :
    (halve test nodes base count = 0 ∨ (nodes[halve test nodes base count]?).any test) ∧
      ¬(nodes[halve test nodes base count + 1]?).any test := by
  fun_induction halve test nodes base count with
  | case1 base count hcount => exact ⟨hbase, fun h => hend (hfalls _ _ (by omega) h)⟩
  | case2 base count hcount half middle next ih =>
    by_cases hmiddle : (nodes[middle]?).any test
    · have hnext : next = middle := if_pos hmiddle
      rw [hnext] at ih ⊢
      exact ih (Or.inr hmiddle) (by rwa [show middle + (count - half) = base + count by omega])
    · have hnext : next = base := if_neg hmiddle
      rw [hnext] at ih ⊢
      exact ih hbase (fun h => hmiddle (hfalls _ _ (by omega) h))

end Halving

/-- Of nodes in the order of their starts those that start at or before the offset come first. -/
theorem falls_of_sorted {nodes : List Node} (h : nodes.Pairwise fun c d => c.start ≤ d.start)
    (offset : Offset) : Falls (fun n => n.start ≤ offset) nodes := by
  intro i j hij hj
  rw [Option.any_eq_true] at hj ⊢
  obtain ⟨d, hd, hstart⟩ := hj
  obtain ⟨hlt, rfl⟩ := List.getElem?_eq_some_iff.1 hd
  refine ⟨nodes[i], List.getElem?_eq_getElem (by omega), ?_⟩
  rcases Nat.eq_or_lt_of_le hij with rfl | hij
  · exact hstart
  · have hle := List.pairwise_iff_getElem.1 h i j (by omega) hlt hij
    rw [decide_eq_true_eq, UInt64.le_iff_toNat_le] at *
    omega

/-- The place at which halving parts the nodes: a node stands before it exactly when it starts at
or before the offset. -/
theorem lt_startsUpTo_iff {nodes : List Node} (h : nodes.Pairwise fun c d => c.start ≤ d.start)
    (offset : Offset) (i : Nat) :
    i < startsUpTo nodes offset ↔ (nodes[i]?).any (·.start ≤ offset) := by
  have hfalls := falls_of_sorted h offset
  cases nodes with
  | nil => simp [startsUpTo]
  | cons first rest =>
    obtain ⟨hlast, hnext⟩ := any_halve hfalls 0 (first :: rest).length (Or.inl rfl) (by simp)
    simp only [startsUpTo]
    generalize halve _ (first :: rest) 0 _ = last at hlast hnext ⊢
    split
    case isTrue hholds =>
      constructor
      · intro hi
        exact hfalls i last (by omega) hholds
      · intro hi
        by_contra hle
        exact hnext (hfalls (last + 1) i (by omega) hi)
    case isFalse hholds =>
      have hzero : last = 0 := hlast.resolve_right hholds
      subst hzero
      constructor
      · intro hi
        omega
      · intro hi
        exact absurd (hfalls 0 i (by omega) hi) hholds

/-- Those that start at or before an offset come first among sorted siblings. -/
theorem mem_take_startsUpTo_iff {nodes : List Node}
    (h : nodes.Pairwise fun c d => c.start ≤ d.start) (offset : Offset) (n : Node) :
    n ∈ nodes.take (startsUpTo nodes offset) ↔ n ∈ nodes ∧ n.start ≤ offset := by
  simp only [List.mem_iff_getElem?, List.getElem?_take, Option.ite_none_right_eq_some,
    lt_startsUpTo_iff h]
  constructor
  · rintro ⟨i, hstart, hn⟩
    rw [hn] at hstart
    exact ⟨⟨i, hn⟩, by simpa using hstart⟩
  · rintro ⟨⟨i, hn⟩, hstart⟩
    exact ⟨i, by simpa [hn] using hstart, hn⟩

/-! ## One level -/

/-- Of the spaced siblings up to the offset, the last one with some width is the one that contains
the offset: it starts where all the others have ended. -/
theorem Spaced.find?_reverse_take {siblings : List Node} (h : Spaced siblings) {offset : Offset}
    {c : Node} (hmem : c ∈ siblings) (hcontains : c.contains offset) :
    (siblings.take (startsUpTo siblings offset)).reverse.find? (!·.isZeroWidth) = some c := by
  have hwide := Node.isZeroWidth_of_contains hcontains
  rw [Node.contains_iff] at hcontains
  have hc := (mem_take_startsUpTo_iff h.sorted offset c).2 ⟨hmem, hcontains.1⟩
  have hstart := fun d => (mem_take_startsUpTo_iff h.sorted offset d).1
  have hapart := h.apart.sublist (List.take_sublist (startsUpTo siblings offset) siblings)
  generalize siblings.take (startsUpTo siblings offset) = front at hc hstart hapart ⊢
  cases hlast : front.reverse.find? (!·.isZeroWidth) with
  | none =>
    have hnone := List.find?_eq_none.1 hlast c (List.mem_reverse.2 hc)
    simp [hwide] at hnone
  | some d =>
    obtain ⟨hdwide, after, before, hfront, hafter⟩ := List.find?_eq_some_iff_append.1 hlast
    rw [List.reverse_eq_iff, List.reverse_append, List.reverse_cons, List.append_assoc] at hfront
    subst hfront
    -- before `d` a sibling ends where `d` starts, after it there is none of any width
    simp only [List.mem_append, List.mem_reverse, List.mem_singleton] at hc
    rcases hc with hbefore | rfl | hc
    · have hstop : c.stop ≤ d.start :=
        (List.pairwise_append.1 hapart).2.2 c (List.mem_reverse.2 hbefore) d (by simp) hwide
          (by simpa using hdwide)
      have hdstart : d.start ≤ offset := (hstart d (by simp)).2
      rw [UInt64.le_iff_toNat_le] at *
      rw [UInt64.lt_iff_toNat_lt] at *
      omega
    · rfl
    · have := hafter c hc
      simp [hwide] at this

/-- Among spaced siblings halving finds the one that contains the offset, if there is any. -/
theorem Spaced.containingChild?_eq_some_iff {n : Node} (h : Spaced n.children) (offset : Offset)
    (c : Node) : containingChild? n offset = some c ↔ c ∈ n.children ∧ c.contains offset := by
  constructor
  · intro hc
    exact ⟨mem_of_containingChild? hc, (Option.filter_eq_some_iff.1 hc).2⟩
  · rintro ⟨hmem, hcontains⟩
    exact Option.filter_eq_some_iff.2 ⟨h.find?_reverse_take hmem hcontains, hcontains⟩

/-- Among spaced siblings halving finds what a look at all of them finds. -/
theorem Spaced.containingChild?_eq_find? {n : Node} (h : Spaced n.children) (offset : Offset) :
    containingChild? n offset = n.children.find? (·.contains offset) := by
  cases hfound : n.children.find? (·.contains offset) with
  | none =>
    rw [List.find?_eq_none] at hfound
    rw [Option.eq_none_iff_forall_ne_some]
    intro c hc
    obtain ⟨hmem, hcontains⟩ := (h.containingChild?_eq_some_iff offset c).1 hc
    exact hfound c hmem hcontains
  | some c =>
    have hcontains := List.find?_some hfound
    exact (h.containingChild?_eq_some_iff offset c).2
      ⟨List.mem_of_find?_eq_some hfound, hcontains⟩

/-! ## All levels -/

/-- Whatever the tree, the search goes from child to child that contains the offset. -/
theorem reaches_descend (n : Node) (offset : Offset) :
    ∃ steps, (descend n offset).Reaches offset n steps := by
  fun_induction descend n offset with
  | case1 n hnone => exact ⟨0, .here⟩
  | case2 n c hc hleaf =>
    exact ⟨1, .down (mem_of_containingChild? hc) (Option.filter_eq_some_iff.1 hc).2 .here⟩
  | case3 n c hc hleaf ih =>
    obtain ⟨steps, hreaches⟩ := ih
    exact ⟨steps + 1, .down (mem_of_containingChild? hc) (Option.filter_eq_some_iff.1 hc).2
      hreaches⟩

theorem descendNaively_of_isLeaf {n : Node} (h : n.isLeaf) (offset : Offset) :
    descendNaively n offset = n := by
  rw [Node.isLeaf, List.isEmpty_iff] at h
  rw [descendNaively, h]
  rfl

/-- In a tree whose siblings are spaced out both searches end at the same node. -/
theorem descend_eq_descendNaively {n : Node} (h : n.Spacious) (offset : Offset) :
    descend n offset = descendNaively n offset := by
  fun_induction descend n offset with
  | case1 n hnone =>
    rw [h.children.containingChild?_eq_find?] at hnone
    rw [descendNaively, hnone]
  | case2 n c hc hleaf =>
    rw [h.children.containingChild?_eq_find?] at hc
    rw [descendNaively, hc]
    exact (descendNaively_of_isLeaf hleaf offset).symm
  | case3 n c hc hleaf ih =>
    have hmem := mem_of_containingChild? hc
    rw [h.children.containingChild?_eq_find?] at hc
    rw [descendNaively, hc]
    exact ih (h.child hmem)

/-- The search without an order ends at a node of which no child contains the offset. -/
theorem not_contains_of_mem_descendNaively (n : Node) (offset : Offset) :
    ∀ c ∈ (descendNaively n offset).children, ¬c.contains offset := by
  fun_induction descendNaively n offset with
  | case1 n hnone => exact fun c hc => by simpa using List.find?_eq_none.1 hnone c hc
  | case2 n c hc ih => exact ih

/-- Where at most one sibling contains the offset there is one way down: a node that is reached
lies on every way to a node at which the way ends. -/
theorem Node.Reaches.prolong {offset : Offset} {root n m : Node} {steps taken : Nat}
    (h : n.Reaches offset root steps) (hend : ∀ c ∈ n.children, ¬c.contains offset)
    (hsingle : ∀ inner : Node, inner.Within root → Single offset inner.children)
    (hm : m.Reaches offset root taken) :
    ∃ left, steps = taken + left ∧ n.Reaches offset m left := by
  -- both ways start at the same root, and where the longer one goes on, the other one has to
  -- take the same child
  induction h generalizing taken with
  | here =>
    cases hm with
    | here => exact ⟨0, rfl, .here⟩
    | down hchild hcontains _ => exact absurd hcontains (hend _ hchild)
  | @down parent child steps hchild hcontains h ih =>
    cases hm with
    | here => exact ⟨steps + 1, (Nat.zero_add _).symm, .down hchild hcontains h⟩
    | @down _ other taken hother hothercontains hm =>
      obtain rfl : child = other :=
        (hsingle parent .root).eq_of_contains hchild hother hcontains hothercontains
      obtain ⟨left, rfl, hleft⟩ := ih (fun inner hin => hsingle inner (.inside hchild hin)) hm
      exact ⟨left, by omega, hleft⟩

/-! ## The search -/

/-- A node that is found is the end of the search from the root, which contains the offset. -/
theorem nodeAt?_eq_some_iff (root n : Node) (offset : Offset) :
    nodeAt? root offset = some n ↔
      (root.start < offset ∧ offset < root.stop) ∧ descend root offset = n := by
  simp [nodeAt?, and_comm]

/-- A node that is reached is one of the tree. -/
theorem Node.Reaches.within {offset : Offset} {root n : Node} {steps : Nat}
    (h : n.Reaches offset root steps) : n.Within root := by
  induction h with
  | here => exact .root
  | down hchild _ _ ih => exact .inside hchild ih

/-- What is found is a node of the tree. -/
theorem within_of_nodeAt? {root n : Node} {offset : Offset} (h : nodeAt? root offset = some n) :
    n.Within root := by
  obtain ⟨-, rfl⟩ := (nodeAt?_eq_some_iff root n offset).1 h
  obtain ⟨steps, hreaches⟩ := reaches_descend root offset
  exact hreaches.within

/-- The search that halves finds what the search child by child finds. -/
theorem nodeAt?_eq_naiveNodeAt? {root : Node} (h : root.Spacious) (offset : Offset) :
    nodeAt? root offset = naiveNodeAt? root offset := by
  rw [nodeAt?, naiveNodeAt?, descend_eq_descendNaively h]

/-- At the start of a tree and from its end on there is no node.  Elsewhere the node that the
search returns is reached by steps to children that contain the offset.  If the siblings on every
level are spaced out, at most one of them contains the offset, the search returns what a look at
all children on each level finds, and every other node that is reached in this way is passed on
the way to it, so that it is the deepest. -/
theorem lookup_finds_deepest (root : Node) (offset : Offset) :
    (nodeAt? root offset = none ↔ offset ≤ root.start ∨ root.stop ≤ offset) ∧
      (∀ n, nodeAt? root offset = some n →
        root.contains offset ∧ ∃ steps, n.Reaches offset root steps) ∧
      (root.Spacious →
        nodeAt? root offset = naiveNodeAt? root offset ∧
        (∀ m : Node, m.Within root → Single offset m.children) ∧
        ∀ n, nodeAt? root offset = some n → ∃ depth, n.Reaches offset root depth ∧
          ∀ m steps, m.Reaches offset root steps →
            ∃ left, depth = steps + left ∧ n.Reaches offset m left) := by
  refine ⟨?absent, ?reached, ?spaced⟩
  case absent =>
    simp only [nodeAt?, ite_eq_left_iff, reduceCtorEq, imp_false, not_not, Bool.or_eq_true,
      decide_eq_true_eq, or_comm]
  case reached =>
    intro n hn
    obtain ⟨⟨hstart, hstop⟩, rfl⟩ := (nodeAt?_eq_some_iff root n offset).1 hn
    exact ⟨(root.contains_iff offset).2 ⟨UInt64.le_of_lt hstart, hstop⟩,
      reaches_descend root offset⟩
  case spaced =>
    intro hspacious
    have hsingle := fun m hm => (hspacious m hm).single offset
    refine ⟨nodeAt?_eq_naiveNodeAt? hspacious offset, hsingle, ?_⟩
    intro n hn
    obtain ⟨-, rfl⟩ := (nodeAt?_eq_some_iff root n offset).1 hn
    obtain ⟨depth, hdepth⟩ := reaches_descend root offset
    have hend := not_contains_of_mem_descendNaively root offset
    rw [← descend_eq_descendNaively hspacious] at hend
    exact ⟨depth, hdepth, fun m steps hm => hdepth.prolong hend hsingle hm⟩

/-- A node without marks. -/
def Node.branch (name : String) (start stop : Offset) (children : List Node) : Node :=
  { Node.leaf name start stop with children := children }

/-- The call inside the program `callTree`, with a virtual token inside its argument. -/
def callNode : Node :=
  .branch "Call" 0 6 [.leaf "Name" 0 2, .leaf "Argument" 2 5, .leaf "Missing" 3 3]

/-- A program with one virtual token at its very start and one inside the call. -/
def callTree : Node :=
  .branch "Program" 0 9 [.leaf "Begin" 0 0, callNode, .leaf "Missing" 2 2, .leaf "Tail" 6 9]

theorem Node.spacious_leaf (name : String) (start stop : Offset) :
    (Node.leaf name start stop).Spacious :=
  (spacious_iff _).2 ⟨⟨.nil, .nil⟩, fun _ h => absurd h List.not_mem_nil⟩

theorem spacious_callTree : callTree.Spacious := by
  have hcall : callNode.Spacious := by
    refine (Node.spacious_iff _).2 ⟨⟨by decide, by decide⟩, ?_⟩
    simp [callNode, Node.branch, Node.spacious_leaf]
  refine (Node.spacious_iff _).2 ⟨⟨by decide, by decide⟩, ?_⟩
  simp [callTree, Node.branch, Node.spacious_leaf, hcall]

/-- Behind both virtual tokens the search still ends at the argument. -/
theorem lookup_finds_argument :
    callTree.Spacious ∧ nodeAt? callTree 3 = some (.leaf "Argument" 2 5) ∧
      naiveNodeAt? callTree 3 = some (.leaf "Argument" 2 5) ∧
      ∀ (m : Node) (steps : Nat), m.Reaches 3 callTree steps → steps ≤ 2 := by
  have hcall : containingChild? callTree 3 = some callNode := by cbv
  have hargument : containingChild? callNode 3 = some (.leaf "Argument" 2 5) := by cbv
  have hfound : nodeAt? callTree 3 = some (.leaf "Argument" 2 5) := by
    rw [nodeAt?_eq_some_iff, descend, hcall]
    refine ⟨by decide, ?_⟩
    simp only
    rw [if_neg (by decide), descend, hargument]
    rfl
  obtain ⟨-, -, hspaced⟩ := lookup_finds_deepest callTree 3
  obtain ⟨hnaive, -, hdeepest⟩ := hspaced spacious_callTree
  refine ⟨spacious_callTree, hfound, hnaive ▸ hfound, ?_⟩
  obtain ⟨depth, -, hpassed⟩ := hdeepest _ hfound
  have hway : (Node.leaf "Argument" 2 5).Reaches 3 callTree 2 :=
    .down (mem_of_containingChild? hcall) (by decide)
      (.down (mem_of_containingChild? hargument) (by decide) .here)
  obtain ⟨left, hdepth, hleft⟩ := hpassed _ 2 hway
  have hleft : left = 0 := by
    cases hleft with
    | here => rfl
    | down hchild _ _ => exact absurd hchild List.not_mem_nil
  intro m steps hm
  obtain ⟨rest, hrest, -⟩ := hpassed m steps hm
  omega

end GrammarDesk.Tree
