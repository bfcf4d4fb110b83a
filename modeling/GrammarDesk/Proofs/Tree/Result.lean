import Mathlib.Data.List.OfFn
import GrammarDesk.Tree.Result
import GrammarDesk.Proofs.Tree.Mapping

/-!
# Four ways to deliver a tree

A grammar hands a tree over in full, node by node on demand, as a JSON value with a mapping of its
own, or as a JSON value that is read through the plugin's mapping.  A canonical tree arrives as it
is on every one of these ways, and the ways on which it is more than the plain value of an
evaluation give its object there.

Main definitions:

- `LazyNode.exposed`: the tree that a view hands out, node by node.
- `selfMapped`: the object of a tree with an empty mapping beside it.

Main results:

- `LazyNode.hydrate_eq_exposed`: a view of nodes that end at their start or after is built as it
  is.
- `LazyNode.exposed_ofNode`: every tree has a view.
- `normalize_ofJson_toValue`, `normalize_ofJson_selfMapped`: both JSON values read as the tree
  mended.
- `deliveries_agree`: a canonical tree arrives as it is on all four ways.
-/

namespace GrammarDesk.Tree

open Json

/-! ## Views -/

namespace LazyNode

/-- The tree of the fields and children that a view hands out. -/
def exposed : LazyNode → Node
  | .mk name start stop tokenType skip error value _ child =>
    { name := name
      start := start
      stop := stop
      children := List.ofFn fun i => (child i).exposed
      tokenType := tokenType
      skip := skip
      error := error
      value := value }

/-- A view of nodes that end at their start or after is built as it is. -/
theorem hydrate_eq_exposed (l : LazyNode)
    (h : ∀ n : Node, n.Within l.exposed → n.start ≤ n.stop) : l.hydrate = l.exposed := by
  induction l with
  | mk name start stop tokenType skip error value count child ih =>
    have hstop : max stop start = stop := (Offset.max_eq_left_iff stop start).2 (h _ .root)
    have hchild : ∀ i, (child i).hydrate = (child i).exposed := by
      intro i
      have hmem : (child i).exposed ∈ List.ofFn fun i => (child i).exposed :=
        List.mem_ofFn.2 ⟨i, rfl⟩
      exact ih i fun n hn => h n (.inside hmem hn)
    rw [hydrate, exposed, hstop, funext hchild]

mutual

/-- The view of a finished tree hands out that tree. -/
theorem exposed_ofNode (n : Node) : (ofNode n).exposed = n := by
  obtain ⟨name, start, stop, children, tokenType, skip, error, value⟩ := n
  have hchildren : (List.ofFn fun i : Fin (ofNodes children).length =>
      (ofNodes children)[i].exposed) = children :=
    (List.ofFn_getElem_eq_map _ exposed).trans (map_exposed_ofNodes children)
  exact congrArg (fun ns => Node.mk name start stop ns tokenType skip error value) hchildren

theorem map_exposed_ofNodes (ns : List Node) : (ofNodes ns).map exposed = ns := by
  cases ns with
  | nil => rfl
  | cons n rest => rw [ofNodes, List.map_cons, exposed_ofNode n, map_exposed_ofNodes rest]

end

end LazyNode

/-! ## JSON values -/

/-- The object of a tree with an empty mapping beside it. -/
def selfMapped (t : Node) : Value :=
  .object [("json", t.toValue), ("mapping", .object [])]

/-- The object of a tree is a plain value, for no field of a node is named like the value of a
result with a mapping. -/
theorem ofJson_toValue (t : Node) : RawResult.ofJson t.toValue = .plain t.toValue := by
  obtain ⟨entries, hentries⟩ := t.exists_toValue
  have hjson : Entries.get? entries "json" = none := by
    have hfield := get?_toValue t "json"
    rwa [hentries] at hfield
  rw [hentries, RawResult.ofJson, hjson]

/-- The object of a tree reads as the tree mended. -/
theorem normalize_ofJson_toValue (t : Node) :
    normalize (.ofJson t.toValue) .identity = .ok t.mended := by
  rw [ofJson_toValue, normalize, Mapping.mapTree_identity]

/-- Beside an empty mapping the object of a tree reads as the tree mended, whatever the plugin's
mapping is. -/
theorem normalize_ofJson_selfMapped (t : Node) (m : Mapping) :
    normalize (.ofJson (selfMapped t)) m = .ok t.mended := by
  have hmapping : Mapping.ofValue (.object []) = .ok .identity := by rfl
  have hmapped : RawResult.ofJson (selfMapped t) = .mapped t.toValue (.object []) := by rfl
  rw [hmapped, normalize, hmapping]
  exact Mapping.mapTree_identity t

/-! ## All four ways -/

/-- A canonical tree arrives as it is under every mapping when it is delivered in full, through any
view of it, or beside an empty mapping, and under the canonical keys when it is delivered as its
own object.  On the first three ways its object is what an evaluation answers with. -/
theorem deliveries_agree (t : Node) (ht : ∀ n : Node, n.Within t → n.Canonical) (l : LazyNode)
    (hl : l.exposed = t) (m : Mapping) :
    (∀ raw ∈ [.prebuilt (.hydrated t), .prebuilt (.dehydrated l), .ofJson (selfMapped t)],
      normalize raw m = .ok t ∧ raw.toValue = t.toValue) ∧
    normalize (.ofJson t.toValue) .identity = .ok t := by
  have hmended : t.mended = t := t.mended_eq_self_iff.2 ht
  have hhydrate : l.hydrate = t := by
    subst hl
    exact l.hydrate_eq_exposed fun n hn => (ht n hn).upright
  constructor
  · simp only [List.forall_mem_cons]
    refine ⟨⟨rfl, rfl⟩, ⟨?_, ?_⟩, ⟨?_, rfl⟩, by simp⟩
    · rw [normalize, PrebuiltTree.hydrate, hhydrate]
    · rw [RawResult.toValue, PrebuiltTree.hydrate, hhydrate]
    · rw [normalize_ofJson_selfMapped, hmended]
  · rw [normalize_ofJson_toValue, hmended]

/-- A view of the sum with its missing operand. -/
def sumView : LazyNode :=
  .mk "Add" 0 5 none false (some flaggedError) none 1 fun _ =>
    .mk "Missing" 4 4 none false none none 0 Fin.elim0

/-- The sum arrives on each way although the plugin's mapping looks for other keys. -/
theorem deliveries_agree_of_sum :
    sumView.exposed = Mapping.sumTree ∧
      normalize (.prebuilt (.dehydrated sumView)) .nested = .ok Mapping.sumTree ∧
      normalize (.ofJson (selfMapped Mapping.sumTree)) .nested = .ok Mapping.sumTree ∧
      normalize (.ofJson Mapping.sumTree.toValue) .identity = .ok Mapping.sumTree := by
  have hcanonical : ∀ n : Node, n.Within Mapping.sumTree → n.Canonical :=
    (Node.mended_eq_self_iff _).1 (by rfl)
  have hview : sumView.exposed = Mapping.sumTree := by rfl
  obtain ⟨hways, hplain⟩ :=
    deliveries_agree Mapping.sumTree hcanonical sumView hview .nested
  exact ⟨hview, (hways _ (by simp)).1, (hways _ (by simp)).1, hplain⟩

end GrammarDesk.Tree
