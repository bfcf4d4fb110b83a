import Mathlib.Data.List.Forall2
import GrammarDesk.Tree.Result
import GrammarDesk.Proofs.Tree.Mapping
import GrammarDesk.Proofs.Tree.Walk

/-!
# Marks that can be drawn

An editor can draw a mark that covers a character at least.  Of a node that ends at its start or
after, every mark is such a one: it is the node's own span or, where that is empty, the one
character next to it, and neither end of the mark leaves the range of offsets.  Whatever a grammar
answers and whatever the mapping finds in it, all nodes of a normalized tree end at their start or
after, so everything that an editor shows of the tree can be drawn.

Main definitions:

- `Node.Upright`: every node of a tree ends at its start or after.
- `Mark.Draws`: what a mark of a node has to be.

Main results:

- `Mark.draws_iff`: a node that ends at its start or after has exactly one mark in each class.
- `LazyNode.upright_hydrate`, `upright_of_normalize`: the trees that are built are upright.
- `normalize_drawable`: all marks of a normalized tree can be drawn.
-/

namespace GrammarDesk.Tree

open Json

/-- Every node of the tree ends at its start or after. -/
def Node.Upright (root : Node) : Prop := ∀ n : Node, n.Within root → n.start ≤ n.stop

theorem Node.upright_iff (root : Node) :
    root.Upright ↔ root.start ≤ root.stop ∧ ∀ child ∈ root.children, child.Upright :=
  Node.forall_within_iff (fun n => n.start ≤ n.stop) root

/-! ## The mark of a node -/

/-- The offset before one that is not the start of the text. -/
theorem Offset.toNat_pred {p : Offset} (h : 0 < p) : (p - 1).toNat + 1 = p.toNat := by
  have hpos : 0 < p.toNat := UInt64.lt_iff_toNat_lt.1 h
  have hone : (1 : Offset) ≤ p := UInt64.le_iff_toNat_le.2 hpos
  rw [UInt64.toNat_sub_of_le p 1 hone, UInt64.toNat_one]
  omega

namespace Mark

/-- The mark shows a node in a class: it covers the span of the node or, if that is empty, the one
character before it, or at the start of the text the one after it. -/
inductive Draws (n : Node) (style : String) : Mark → Prop where
  | span (h : n.start < n.stop) : Draws n style ⟨n.start, n.stop, "mark-" ++ style⟩
  | before (hstart : n.start = 0) (hstop : n.stop = 0) :
    Draws n style ⟨0, 1, "mark-" ++ style ++ "-before"⟩
  | after {previous : Offset} (hempty : n.start = n.stop)
    (hprevious : previous.toNat + 1 = n.start.toNat) :
    Draws n style ⟨previous, n.start, "mark-" ++ style ++ "-after"⟩

variable {n : Node} {style : String} {mark : Mark}

/-- A mark that shows a node covers a character at least. -/
theorem Draws.start_lt_stop (h : mark.Draws n style) : mark.start < mark.stop := by
  cases h with
  | span h => exact h
  | before hstart hstop => exact UInt64.lt_iff_toNat_lt.2 (Nat.zero_lt_one)
  | @after previous hempty hprevious =>
    have hlt : previous.toNat < n.start.toNat := by omega
    exact UInt64.lt_iff_toNat_lt.2 hlt

theorem draws_ofNode (style : String) (h : n.start ≤ n.stop) : (ofNode n style).Draws n style := by
  rw [ofNode]
  split
  case isTrue hempty =>
    split
    case isTrue hpos =>
      rw [← hempty]
      exact .after hempty (Offset.toNat_pred hpos)
    case isFalse hzero =>
      -- nothing is below the start of the text, so that the node lies there
      have hstart : n.start = 0 := UInt64.le_antisymm (UInt64.not_lt.1 hzero) UInt64.zero_le
      have hstop : n.stop = 0 := hempty ▸ hstart
      rw [hstart, hstop]
      exact .before hstart hstop
  case isFalse hspan => exact .span (UInt64.lt_of_le_of_ne h hspan)

/-- A node that ends at its start or after has exactly one mark in each class. -/
theorem draws_iff (h : n.start ≤ n.stop) : mark.Draws n style ↔ mark = ofNode n style := by
  constructor
  · intro hdraws
    cases hdraws with
    | span hspan => rw [ofNode, if_neg (UInt64.ne_of_lt hspan)]
    | before hstart hstop =>
      rw [ofNode, hstart, hstop]
      rfl
    | @after previous hempty hprevious =>
      have hpos : 0 < n.start := UInt64.lt_iff_toNat_lt.2 (by rw [UInt64.toNat_zero]; omega)
      have hpred : previous = n.start - 1 := by
        have := Offset.toNat_pred hpos
        exact UInt64.toNat_inj.1 (by omega)
      rw [ofNode, if_pos hempty, if_pos hpos, hpred, hempty]
  · rintro rfl
    exact draws_ofNode style h

end Mark

/-! ## Upright trees -/

/-- Whatever a view hands out, the tree that is built from it is upright. -/
theorem LazyNode.upright_hydrate (l : LazyNode) : l.hydrate.Upright := by
  induction l with
  | mk name start stop tokenType skip error value count child ih =>
    rw [hydrate, Node.upright_iff]
    refine ⟨Offset.le_max_right stop start, fun n hn => ?_⟩
    obtain ⟨i, rfl⟩ := List.mem_ofFn.1 hn
    exact ih i

theorem upright_primitiveNode (v : Value) : (primitiveNode v).Upright := by
  rw [Node.upright_iff]
  exact ⟨Offset.le_max_right _ _, fun child hchild => absurd hchild List.not_mem_nil⟩

theorem Mapping.upright_of_mapTree {m : Mapping} {v : Value} {t : Node} (h : m.mapTree v = .ok t) :
    t.Upright :=
  fun n hn => (canonical_of_mapTree h n hn).upright

variable {raw : RawResult} {m : Mapping} {t : Node}

/-- A normalized tree is upright, unless it has been handed over in full and was not. -/
theorem upright_of_normalize (hbuilt : ∀ root, raw = .prebuilt (.hydrated root) → root.Upright)
    (h : normalize raw m = .ok t) : t.Upright := by
  cases raw with
  | primitive v =>
    cases h
    exact upright_primitiveNode v
  | plain v => exact Mapping.upright_of_mapTree h
  | mapped v own =>
    rw [normalize] at h
    split at h
    · cases h
    · split at h
      · cases h
      · exact Mapping.upright_of_mapTree h
  | prebuilt tree =>
    cases h
    cases tree with
    | hydrated root => exact hbuilt root rfl
    | dehydrated root => exact root.upright_hydrate

/-! ## All marks -/

/-- Every node of a normalized tree ends at its start or after, and the marks of the highlighted
nodes, one for each of them, and the mark of any node that is selected can be drawn.  Only of a tree
that was handed over in full this has to be assumed. -/
theorem normalize_drawable (hbuilt : ∀ root, raw = .prebuilt (.hydrated root) → root.Upright)
    (h : normalize raw m = .ok t) :
    (∀ n : Node, n.Within t → n.start ≤ n.stop) ∧
    List.Forall₂
      (fun n mark => n.Within t ∧ mark.Draws n (n.tokenType.getD "error") ∧ mark.start < mark.stop)
      (walk t).tokens (walk t).marks ∧
    ∀ n : Node, n.Within t →
      (Mark.selection n).Draws n "selection" ∧
        (Mark.selection n).start < (Mark.selection n).stop := by
  have hupright : t.Upright := upright_of_normalize hbuilt h
  have hdraws : ∀ (style : String) (n : Node), n.Within t → (Mark.ofNode n style).Draws n style :=
    fun style n hn => Mark.draws_ofNode style (hupright n hn)
  refine ⟨hupright, ?_, fun n hn => ⟨hdraws _ n hn, (hdraws _ n hn).start_lt_stop⟩⟩
  rw [walk_eq, List.forall₂_map_right_iff, List.forall₂_same]
  intro n hn
  have hwithin : n.Within t := (Node.mem_nodes_iff n t).1 (List.mem_filter.1 hn).1
  exact ⟨hwithin, hdraws _ n hwithin, (hdraws _ n hwithin).start_lt_stop⟩

/-- A view of an error that ends before its start, at the last offset, and of an empty token at the
start of the text below it. -/
def edgeView : LazyNode :=
  .mk "Stray" 0xFFFFFFFFFFFFFFFF 0 none false (some flaggedError) none 1 fun _ =>
    .mk "Gap" 0 0 (some "text") false none none 0 Fin.elim0

/-- At both ends of the range of offsets the marks are one character wide. -/
theorem normalize_drawable_of_edges :
    normalize (.prebuilt (.dehydrated edgeView)) .identity = .ok edgeView.hydrate ∧
    (walk edgeView.hydrate).marks =
      [⟨0xFFFFFFFFFFFFFFFE, 0xFFFFFFFFFFFFFFFF, "mark-error-after"⟩,
        ⟨0, 1, "mark-text-before"⟩] ∧
    edgeView.hydrate.Upright ∧
    (Mark.selection edgeView.hydrate).Draws edgeView.hydrate "selection" := by
  have hnormal : normalize (.prebuilt (.dehydrated edgeView)) .identity = .ok edgeView.hydrate := rfl
  have hbuilt : ∀ root, RawResult.prebuilt (.dehydrated edgeView) = .prebuilt (.hydrated root) →
      root.Upright := by
    rintro root ⟨⟩
  obtain ⟨hupright, -, hselection⟩ := normalize_drawable hbuilt hnormal
  refine ⟨hnormal, ?_, hupright, (hselection edgeView.hydrate .root).1⟩
  rw [walk_eq]
  decide

end GrammarDesk.Tree
