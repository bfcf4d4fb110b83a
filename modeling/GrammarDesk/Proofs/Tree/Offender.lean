import Mathlib
import GrammarDesk.Proofs.Tree.Structure

/-!
# Who is blamed for a value that is no tree

The values that are read for a value have an order, that of the document: the value itself, and then
for each item of its list of children, from left to right, what is read for the item.  A tree that
is read has one node for each of them, in the same order and on the same level.  If some of them
cannot be nodes, the first one that cannot is blamed, and the others are never looked at.

Main definitions:

- `Mapping.readings`, `Mapping.reached`: the values that are read, in the order of the document.
- `Mapping.Blames`, `Mapping.blamed?`: what is wrong with a value that cannot be a node.
- `Mapping.IsNodeOf`: a node that stands for a value, on the same level.

Main results:

- `Mapping.mem_reached_iff`: these are the values that are read.
- `Mapping.forall₂_readings`: a tree has one node for each of them, in the same order.
- `Mapping.mapTree_of_findSome?`: the first value that cannot be a node is blamed.
- `Mapping.mapTree_blames_first`: reading succeeds exactly if all values can be nodes, and it fails
  exactly for what is wrong with the first that cannot.
-/

namespace GrammarDesk.Tree

open Json

namespace Mapping

/-! ## The order of reading -/

/-- The items of a value's list of children, if it has one. -/
def itemsOf (m : Mapping) : Value → List Value
  | .object entries =>
    match find? entries m.children with
    | some (.array items) => items
    | _ => []
  | _ => []

theorem mem_itemsOf_iff (m : Mapping) (v item : Value) :
    item ∈ m.itemsOf v ↔ ∃ entries items, v = .object entries ∧
      find? entries m.children = some (.array items) ∧ item ∈ items := by
  cases v with
  | object entries =>
    rw [itemsOf]
    split
    · next items hlist => simp [hlist]
    · next hnot => simpa using fun items hlist => absurd hlist (hnot items)
  | _ => simp [itemsOf]

theorem sizeOf_lt_of_mem_itemsOf {m : Mapping} {v item : Value} (h : item ∈ m.itemsOf v) :
    sizeOf item < sizeOf v := by
  obtain ⟨entries, items, rfl, hlist, hitem⟩ := (m.mem_itemsOf_iff v item).1 h
  have hfound := sizeOf_find? hlist
  have hmem := List.sizeOf_lt_of_mem hitem
  simp only [Value.array.sizeOf_spec] at hfound
  omega

/-- The values that are read for a value, with the levels on which they stand: the value itself, and
then what is read for each item of its list of children. -/
def readings (m : Mapping) (depth : Nat) (v : Value) : List (Value × Nat) :=
  (v, depth) :: (m.itemsOf v).attach.flatMap fun item => m.readings (depth + 1) item.1
termination_by sizeOf v
decreasing_by exact sizeOf_lt_of_mem_itemsOf item.2

theorem readings_eq (m : Mapping) (depth : Nat) (v : Value) :
    m.readings depth v = (v, depth) :: (m.itemsOf v).flatMap (m.readings (depth + 1)) := by
  rw [readings, List.flatMap_subtype (g := m.readings (depth + 1)) fun _ _ => rfl,
    List.unattach_attach]

/-- What holds of a value if it holds of the items of its list of children, holds of every
value. -/
theorem induction_on_items (m : Mapping) {motive : Value → Prop}
    (step : ∀ v, (∀ item ∈ m.itemsOf v, motive item) → motive v) (v : Value) : motive v := by
  induction v using induction_on_children m with
  | step v ih =>
    apply step
    intro item hitem
    obtain ⟨entries, items, hv, hlist, hmem⟩ := (m.mem_itemsOf_iff v item).1 hitem
    exact ih entries items item hv hlist hmem

/-- The values that are read for a value, in the order of the document. -/
def reached (m : Mapping) (v : Value) : List Value := (m.readings 0 v).map Prod.fst

/-- What is read for a value does not depend on the level on which it stands. -/
theorem map_fst_readings (m : Mapping) (depth : Nat) (v : Value) :
    (m.readings depth v).map Prod.fst = m.reached v := by
  have hlevel : ∀ depth depth',
      (m.readings depth v).map Prod.fst = (m.readings depth' v).map Prod.fst := by
    induction v using induction_on_items m with
    | step v ih =>
      intro depth depth'
      rw [readings_eq, readings_eq, List.map_cons, List.map_cons, List.map_flatMap,
        List.map_flatMap]
      congr 1
      exact List.flatMap_congr fun item hitem => ih item hitem _ _
  exact hlevel depth 0

theorem reached_eq (m : Mapping) (v : Value) :
    m.reached v = v :: (m.itemsOf v).flatMap m.reached := by
  rw [reached, readings_eq, List.map_cons, List.map_flatMap]
  simp only [map_fst_readings]

/-- The values in this order are those that are read. -/
theorem mem_reached_iff (m : Mapping) (v w : Value) : w ∈ m.reached v ↔ m.Reads v w := by
  induction v using induction_on_items m with
  | step v ih =>
    rw [reached_eq, List.mem_cons, List.mem_flatMap]
    constructor
    · rintro (rfl | ⟨item, hitem, hw⟩)
      · exact .self w
      · obtain ⟨entries, items, rfl, hlist, hmem⟩ := (m.mem_itemsOf_iff v item).1 hitem
        exact .item hlist hmem ((ih item hitem).1 hw)
    · intro hreads
      cases hreads with
      | self => exact .inl rfl
      | item hlist hmem hreads =>
        have hitem := (m.mem_itemsOf_iff _ _).2 ⟨_, _, rfl, hlist, hmem⟩
        exact .inr ⟨_, hitem, (ih _ hitem).2 hreads⟩

/-! ## A node for each value -/

/-- A node stands for a value: they are on the same level, the value is an object, and all of the
node but its children is read from the object's own fields. -/
structure IsNodeOf (m : Mapping) (reading : Value × Nat) (visit : Node × Nat) : Prop where
  level : reading.2 = visit.2
  fields : ∃ entries, reading.1 = .object entries ∧
    visit.1 = m.nodeOf entries visit.1.children

variable {m : Mapping}

/-- The nodes of a list of values stand for its values, one for each. -/
theorem forall₂_of_mapTrees {vs : List Value} {ns : List Node} (h : m.mapTrees vs = .ok ns) :
    List.Forall₂ (fun v n => m.mapTree v = .ok n) vs ns := by
  induction vs generalizing ns with
  | nil =>
    rw [mapTrees, Except.ok.injEq] at h
    subst h
    exact .nil
  | cons v rest ih =>
    rw [mapTrees_cons] at h
    cases hfirst : m.mapTree v with
    | error _ => simp [hfirst, Except.bind] at h
    | ok n =>
      cases hrest : m.mapTrees rest with
      | error _ => simp [hfirst, hrest, Except.bind, Except.map] at h
      | ok ns =>
        simp only [hfirst, hrest, Except.bind, Except.map, Except.ok.injEq] at h
        subst h
        exact .cons hfirst (ih hrest)

/-- A tree that is read is the node of an object, over the trees of the object's items. -/
theorem node_of_mapTree {v : Value} {t : Node} (h : m.mapTree v = .ok t) :
    (∃ entries, v = .object entries ∧ t = m.nodeOf entries t.children) ∧
      List.Forall₂ (fun item n => m.mapTree item = .ok n) (m.itemsOf v) t.children := by
  cases v with
  | object entries =>
    rw [mapTree_object] at h
    rw [itemsOf]
    split at h
    case h_1 items hlist =>
      cases hitems : m.mapTrees items with
      | error _ => simp [hitems, Except.map] at h
      | ok children =>
        simp only [hitems, Except.map, Except.ok.injEq] at h
        subst h
        refine ⟨⟨entries, rfl, rfl⟩, ?_⟩
        rw [hlist]
        exact forall₂_of_mapTrees hitems
    case h_2 hnull | h_3 hnull =>
      cases h
      refine ⟨⟨entries, rfl, rfl⟩, ?_⟩
      rw [hnull]
      exact .nil
    case h_4 => cases h
  | _ => simp [mapTree] at h

/-- A tree has one node for each value that is read, in the same order and on the same level. -/
theorem forall₂_readings {v : Value} {t : Node} (h : m.mapTree v = .ok t) (depth : Nat) :
    List.Forall₂ m.IsNodeOf (m.readings depth v) (t.preorder depth) := by
  induction v using induction_on_items m generalizing t depth with
  | step v ih =>
    obtain ⟨hfields, hchildren⟩ := node_of_mapTree h
    rw [readings_eq, Node.preorder_eq]
    have hitems := (List.forall₂_and_left _ _).2 ⟨ih, hchildren⟩
    refine .cons ⟨rfl, hfields⟩ (List.rel_flatMap hitems ?_)
    rintro item n ⟨hitem, hread⟩
    exact hitem hread (depth + 1)

/-! ## Blame -/

/-- What is wrong with a value that cannot be a node: that it is no object, or else what it keeps in
the place of its list of children. -/
inductive Blames (m : Mapping) : Value → Value → Prop where
  | self {v : Value} (h : v.isObject = false) : Blames m v v
  | children {entries : Entries} {other : Value} (h : find? entries m.children = some other)
    (hnull : other ≠ .null) (hlist : ∀ items, other ≠ .array items) :
    Blames m (.object entries) other

/-- What is wrong with a value, if it cannot be a node. -/
def blamed? (m : Mapping) : Value → Option Value
  | .object entries =>
    match find? entries m.children with
    | none => none
    | some .null => none
    | some (.array _) => none
    | some other => some other
  | other => some other

theorem blamed?_eq_some_iff (m : Mapping) (v w : Value) :
    m.blamed? v = some w ↔ m.Blames v w := by
  constructor
  · intro h
    cases v with
    | object entries =>
      rw [blamed?] at h
      split at h
      case h_1 | h_2 | h_3 => cases h
      case h_4 other hnull hlist hfound =>
        cases h
        exact .children hfound (by rintro rfl; exact hnull rfl)
          fun items hitems => hlist items hitems
    | _ =>
      cases h
      exact .self rfl
  · intro h
    cases h with
    | self hobject =>
      cases v with
      | object entries => cases hobject
      | _ => rfl
    | children hfound hnull hlist =>
      rw [blamed?, hfound]
      cases w with
      | null => exact absurd rfl hnull
      | array items => exact absurd rfl (hlist items)
      | _ => rfl

/-- Exactly the values that can be nodes are not blamed. -/
theorem blamed?_eq_none_iff (m : Mapping) (v : Value) : m.blamed? v = none ↔ m.Fits v := by
  cases v with
  | object entries =>
    simp only [blamed?, Fits, Value.object.injEq, exists_eq_left']
    split <;> simp_all
  | _ => simp [blamed?, Fits]

/-- A value is read exactly if nothing that is read for it is blamed. -/
theorem exists_mapTree_iff_findSome? (m : Mapping) (v : Value) :
    (∃ t, m.mapTree v = .ok t) ↔ (m.reached v).findSome? m.blamed? = none := by
  rw [exists_mapTree_iff, List.findSome?_eq_none_iff]
  simp only [mem_reached_iff, blamed?_eq_none_iff]

/-- What is wrong with a value is why it is not read. -/
theorem mapTree_of_blames {v w : Value} (h : m.Blames v w) :
    m.mapTree v = .error (.unknownShape (shapeHint w)) := by
  cases h with
  | self hobject =>
    rw [mapTree]
    rintro entries rfl
    cases hobject
  | children hfound hnull hlist =>
    rw [mapTree_object, hfound]
    split
    case h_1 items heq => exact absurd (Option.some.inj heq) (hlist items)
    case h_2 heq => exact absurd (Option.some.inj heq) hnull
    case h_3 heq => cases heq
    case h_4 heq => rw [Option.some.inj heq]

/-- A value fails to be read with the first of its items that does. -/
theorem mapTree_of_items {v : Value} (hfits : m.Fits v) {failure : Failure}
    (h : m.mapTrees (m.itemsOf v) = .error failure) : m.mapTree v = .error failure := by
  obtain ⟨entries, rfl, hchildren⟩ := hfits
  rw [mapTree_object]
  rcases hchildren with hfound | hfound | ⟨items, hfound⟩
  all_goals rw [itemsOf, hfound] at h
  · simp [mapTrees] at h
  · simp [mapTrees] at h
  · rw [hfound]
    simp only at h ⊢
    rw [h]
    rfl

/-- If each item fails with what is blamed first for it, their list fails with what is blamed first
for all of them. -/
theorem mapTrees_of_findSome? {vs : List Value} {w : Value}
    (hvs : ∀ v ∈ vs, ∀ w, (m.reached v).findSome? m.blamed? = some w →
      m.mapTree v = .error (.unknownShape (shapeHint w)))
    (h : (vs.flatMap m.reached).findSome? m.blamed? = some w) :
    m.mapTrees vs = .error (.unknownShape (shapeHint w)) := by
  induction vs with
  | nil => cases h
  | cons v rest ih =>
    rw [List.forall_mem_cons] at hvs
    rw [List.flatMap_cons, List.findSome?_append] at h
    rw [mapTrees_cons]
    cases hfirst : (m.reached v).findSome? m.blamed? with
    | some blamed =>
      rw [hfirst, Option.some_or, Option.some.injEq] at h
      rw [hvs.1 blamed hfirst, h]
      rfl
    | none =>
      rw [hfirst, Option.none_or] at h
      obtain ⟨n, hn⟩ := (exists_mapTree_iff_findSome? m v).2 hfirst
      rw [hn, ih hvs.2 h]
      rfl

/-- The first value that cannot be a node is blamed. -/
theorem mapTree_of_findSome? (v : Value) :
    ∀ w, (m.reached v).findSome? m.blamed? = some w →
      m.mapTree v = .error (.unknownShape (shapeHint w)) := by
  induction v using induction_on_items m with
  | step v ih =>
    intro w h
    rw [reached_eq, List.findSome?_cons] at h
    cases hself : m.blamed? v with
    | some blamed =>
      rw [hself] at h
      cases h
      exact mapTree_of_blames ((blamed?_eq_some_iff m v w).1 hself)
    | none =>
      rw [hself] at h
      exact mapTree_of_items ((blamed?_eq_none_iff m v).1 hself) (mapTrees_of_findSome? ih h)

/-- A value is read as a tree exactly if every value that is read for it is an object whose children
are absent, null or a list, and the tree has one node for each of these values, in the same order
and on the same level.  Otherwise the first that is not so is blamed: itself if it is no object, or
else what it keeps in the place of its children.  Nothing that an object keeps elsewhere makes it
fail. -/
theorem mapTree_blames_first (m : Mapping) (v : Value) :
    ((∃ t, m.mapTree v = .ok t) ↔ ∀ w ∈ m.reached v, m.Fits w) ∧
    (∀ t, m.mapTree v = .ok t → List.Forall₂ m.IsNodeOf (m.readings 0 v) (t.preorder 0)) ∧
    (∀ failure, m.mapTree v = .error failure ↔ ∃ past offender later blamed,
      m.reached v = past ++ offender :: later ∧ (∀ w ∈ past, m.Fits w) ∧
        m.Blames offender blamed ∧ failure = .unknownShape (shapeHint blamed)) ∧
    ∀ entries entries', find? entries m.children = find? entries' m.children → ∀ failure,
      m.mapTree (.object entries) = .error failure ↔
        m.mapTree (.object entries') = .error failure := by
  refine ⟨?_, fun t ht => forall₂_readings ht 0, ?_, ?_⟩
  · rw [exists_mapTree_iff_findSome?, List.findSome?_eq_none_iff]
    simp only [blamed?_eq_none_iff]
  · intro failure
    constructor
    · intro h
      cases hfirst : (m.reached v).findSome? m.blamed? with
      | none =>
        obtain ⟨t, ht⟩ := (exists_mapTree_iff_findSome? m v).2 hfirst
        rw [ht] at h
        cases h
      | some blamed =>
        rw [mapTree_of_findSome? v blamed hfirst] at h
        cases h
        obtain ⟨past, offender, later, hreached, hblamed, hpast⟩ :=
          List.findSome?_eq_some_iff.1 hfirst
        refine ⟨past, offender, later, blamed, hreached, ?_,
          (blamed?_eq_some_iff m offender blamed).1 hblamed, rfl⟩
        exact fun w hw => (blamed?_eq_none_iff m w).1 (hpast w hw)
    · rintro ⟨past, offender, later, blamed, hreached, hpast, hblames, rfl⟩
      apply mapTree_of_findSome?
      rw [List.findSome?_eq_some_iff]
      refine ⟨past, offender, later, hreached,
        (blamed?_eq_some_iff m offender blamed).2 hblames, ?_⟩
      exact fun w hw => (blamed?_eq_none_iff m w).2 (hpast w hw)
  · intro entries entries' hsame failure
    rw [mapTree_object, mapTree_object, hsame]
    split
    case h_1 items _ => cases m.mapTrees items <;> simp [Except.map]
    case h_2 | h_3 => simp
    case h_4 => rfl

/-- The children are reached by a path. -/
def nestedKids : Mapping := { identity with children := "kids.list" }

/-- An object with these children under the path, and a start that is no offset. -/
def withKids (kids : Value) : Value :=
  .object [("kids", .object [("list", kids)]), ("start", .string "?")]

theorem find?_withKids (kids : Value) :
    find? [("kids", .object [("list", kids)]), ("start", .string "?")] nestedKids.children =
      some kids := by
  rfl

theorem reached_withKids (items : List Value) :
    nestedKids.reached (withKids (.array items)) =
      withKids (.array items) :: items.flatMap nestedKids.reached := by
  rw [reached_eq, withKids, itemsOf, find?_withKids]

theorem fits_withKids (items : List Value) : nestedKids.Fits (withKids (.array items)) :=
  ⟨_, rfl, .inr (.inr ⟨items, find?_withKids _⟩)⟩

/-- A call with one sound argument, and one whose list of children holds an object and a number; the
text behind it is no argument either. -/
def brokenCall : Value :=
  withKids (.array [withKids (.array []),
    withKids (.array [.object [], .number (.natural 3)]), .string "x"])

/-- The number is blamed, for it comes before the text.  The first argument alone is read as a tree
with one node for each object. -/
theorem mapTree_blames_first_of_brokenCall :
    (∃ past later, nestedKids.reached brokenCall = past ++ .number (.natural 3) :: later ∧
      (∀ w ∈ past, nestedKids.Fits w) ∧
      nestedKids.mapTree brokenCall = .error (.unknownShape "3")) ∧
    ∃ t, nestedKids.mapTree (withKids (.array [.object []])) = .ok t ∧
      List.Forall₂ nestedKids.IsNodeOf
        [(withKids (.array [.object []]), 0), (.object [], 1)] (t.preorder 0) := by
  have hempty : nestedKids.Fits (.object []) := ⟨[], rfl, .inl rfl⟩
  have hleaf : nestedKids.reached (.object []) = [.object []] := by
    rw [reached_eq]
    rfl
  constructor
  · have hreached : nestedKids.reached brokenCall =
        [brokenCall, withKids (.array []), withKids (.array [.object [], .number (.natural 3)]),
          .object []] ++ .number (.natural 3) :: [.string "x"] := by
      have hnumber : nestedKids.reached (.number (.natural 3)) = [.number (.natural 3)] := by
        rw [reached_eq]
        rfl
      have htext : nestedKids.reached (.string "x") = [.string "x"] := by
        rw [reached_eq]
        rfl
      simp [brokenCall, reached_withKids, hleaf, hnumber, htext]
    have hpast : ∀ w ∈ [brokenCall, withKids (.array []),
        withKids (.array [.object [], .number (.natural 3)]), .object []], nestedKids.Fits w := by
      simp [brokenCall, fits_withKids, hempty]
    refine ⟨_, _, hreached, hpast, ?_⟩
    exact ((mapTree_blames_first nestedKids brokenCall).2.2.1 _).2
      ⟨_, _, _, _, hreached, hpast, .self rfl, by cbv⟩
  · have hsound := mapTree_blames_first nestedKids (withKids (.array [.object []]))
    obtain ⟨t, ht⟩ := hsound.1.2 (by simp [reached_withKids, hleaf, fits_withKids, hempty])
    refine ⟨t, ht, ?_⟩
    have hreadings : nestedKids.readings 0 (withKids (.array [.object []])) =
        [(withKids (.array [.object []]), 0), (.object [], 1)] := by
      rw [readings_eq, withKids, itemsOf, find?_withKids]
      simp only [List.flatMap_cons, List.flatMap_nil, readings_eq _ 1]
      rfl
    exact hreadings ▸ hsound.2.1 t ht

end Mapping

end GrammarDesk.Tree
