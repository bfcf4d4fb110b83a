import GrammarDesk.Proofs.Tree.Mapping

/-!
# What a mapping refuses

A mapping reads the value that it is given and everything that it finds from there in lists of
children.  Each of these values has to be an object, and what it keeps under the key of the
children has to be a list, if it is there and is not null.  A value is refused exactly when one of
the values that are read breaks this rule, and there is no other way in which reading can fail.

Main definitions:

- `Mapping.Reads`: the values that are read for a value.
- `Mapping.Fits`: what each of them has to be.
- `Mapping.Malformed`: a value for which a value is read that does not fit.

Main results:

- `Mapping.exists_mapTree_iff`: a value is a tree exactly when all values that are read fit.
- `Mapping.exists_hint_of_mapTree`: reading fails with an unknown shape or not at all.
- `Mapping.mapTree_unknownShape_iff`: the values that are refused.
-/

namespace GrammarDesk.Tree

open Json

namespace Mapping

/-- The values that are read for a value: itself, and those that are read for the items of its
list of children. -/
inductive Reads (m : Mapping) : Value → Value → Prop where
  | self (v : Value) : Reads m v v
  | item {entries : Entries} {items : List Value} {item v : Value}
    (hlist : find? entries m.children = some (.array items)) (hitem : item ∈ items)
    (h : Reads m item v) : Reads m (.object entries) v

/-- A value can be a node: it is an object whose children are absent, null or a list. -/
def Fits (m : Mapping) (v : Value) : Prop :=
  ∃ entries, v = .object entries ∧
    (find? entries m.children = none ∨ find? entries m.children = some .null ∨
      ∃ items, find? entries m.children = some (.array items))

/-- A value that cannot be a node is read for this one. -/
def Malformed (m : Mapping) (v : Value) : Prop :=
  ∃ w, m.Reads v w ∧ ¬ m.Fits w

variable {m : Mapping}

/-! ## Lists of children -/

/-- A list of values is read exactly when each of them is. -/
theorem exists_mapTrees_iff (m : Mapping) (vs : List Value) :
    (∃ ns, m.mapTrees vs = .ok ns) ↔ ∀ v ∈ vs, ∃ n, m.mapTree v = .ok n := by
  induction vs with
  | nil => simp [mapTrees]
  | cons v rest ih =>
    rw [List.forall_mem_cons, ← ih, mapTrees_cons]
    cases m.mapTree v with
    | error failure => simp [Except.bind]
    | ok n => cases m.mapTrees rest <;> simp [Except.bind, Except.map]

/-- The failure to read a list is that of one of its values. -/
theorem exists_of_mapTrees_error {vs : List Value} {failure : Failure}
    (h : m.mapTrees vs = .error failure) : ∃ v ∈ vs, m.mapTree v = .error failure := by
  induction vs with
  | nil => simp [mapTrees] at h
  | cons v rest ih =>
    rw [mapTrees_cons] at h
    cases hfirst : m.mapTree v with
    | error cause =>
      rw [hfirst] at h
      cases h
      exact ⟨v, List.mem_cons_self, hfirst⟩
    | ok n =>
      cases hrest : m.mapTrees rest with
      | error cause =>
        rw [hfirst, hrest] at h
        cases h
        obtain ⟨w, hw, hfailed⟩ := ih hrest
        exact ⟨w, List.mem_cons_of_mem v hw, hfailed⟩
      | ok ns =>
        rw [hfirst, hrest] at h
        cases h

/-- What holds of a value if it holds of the items of its list of children, holds of every
value. -/
theorem induction_on_children (m : Mapping) {motive : Value → Prop}
    (step : ∀ v, (∀ entries items item, v = .object entries →
      find? entries m.children = some (.array items) → item ∈ items → motive item) → motive v)
    (v : Value) : motive v :=
  step v fun _ _ item _ _ _ => induction_on_children m step item
termination_by sizeOf v
decreasing_by
  rename_i entries items hv hlist hitem
  have hfound := sizeOf_find? hlist
  have hmem := List.sizeOf_lt_of_mem hitem
  simp only [Value.array.sizeOf_spec] at hfound
  rw [hv]
  omega

/-! ## Trees -/

/-- What is read as a tree can be a node. -/
theorem fits_of_mapTree {v : Value} {t : Node} (h : m.mapTree v = .ok t) : m.Fits v := by
  cases v with
  | object entries =>
    refine ⟨entries, rfl, ?_⟩
    rw [mapTree_object] at h
    split at h
    case h_1 items hlist => exact .inr (.inr ⟨items, hlist⟩)
    case h_2 hnull => exact .inr (.inl hnull)
    case h_3 hnone => exact .inl hnone
    case h_4 => cases h
  | _ => simp [mapTree] at h

/-- The items of a list of children are read with the object that keeps it. -/
theorem exists_mapTree_item {entries : Entries} {items : List Value} {t : Node}
    (h : m.mapTree (.object entries) = .ok t)
    (hlist : find? entries m.children = some (.array items)) :
    ∀ item ∈ items, ∃ n, m.mapTree item = .ok n := by
  rw [mapTree_object, hlist] at h
  cases hitems : m.mapTrees items with
  | error failure => simp [hitems, Except.map] at h
  | ok ns => exact (exists_mapTrees_iff m items).1 ⟨ns, hitems⟩

/-- Whatever is read for a tree can be a node, by induction on the way to it. -/
theorem fits_of_reads {v w : Value} (hreads : m.Reads v w) :
    (∃ t, m.mapTree v = .ok t) → m.Fits w := by
  induction hreads with
  | self v =>
    rintro ⟨t, ht⟩
    exact fits_of_mapTree ht
  | item hlist hitem _ ih =>
    rintro ⟨t, ht⟩
    exact ih (exists_mapTree_item ht hlist _ hitem)

/-- A value is read as a tree if whatever is read for it can be a node. -/
theorem exists_mapTree_of_fits (v : Value) :
    (∀ w, m.Reads v w → m.Fits w) → ∃ t, m.mapTree v = .ok t := by
  induction v using induction_on_children m with
  | step v ih =>
    intro h
    obtain ⟨entries, rfl, hchildren⟩ := h v (.self v)
    simp only [mapTree_object]
    rcases hchildren with hnone | hnull | ⟨items, hlist⟩
    · simp [hnone]
    · simp [hnull]
    · -- whatever is read for an item is read for the whole
      have hitems : ∀ item ∈ items, ∃ n, m.mapTree item = .ok n := by
        intro item hitem
        exact ih entries items item rfl hlist hitem fun w hw => h w (.item hlist hitem hw)
      obtain ⟨ns, hns⟩ := (exists_mapTrees_iff m items).2 hitems
      simp [hlist, hns, Except.map]

/-- A value is read as a tree exactly when whatever is read for it can be a node. -/
theorem exists_mapTree_iff (m : Mapping) (v : Value) :
    (∃ t, m.mapTree v = .ok t) ↔ ∀ w, m.Reads v w → m.Fits w := by
  constructor
  · intro h w hreads
    exact fits_of_reads hreads h
  · exact exists_mapTree_of_fits v

/-- A value is malformed exactly when it cannot be read. -/
theorem malformed_iff (m : Mapping) (v : Value) :
    m.Malformed v ↔ ¬ ∃ t, m.mapTree v = .ok t := by
  rw [exists_mapTree_iff, not_forall]
  simp only [Malformed, Classical.not_imp]

/-! ## Failures -/

/-- The only failure of reading is an unknown shape. -/
theorem exists_hint_of_mapTree (v : Value) {failure : Failure} :
    m.mapTree v = .error failure → ∃ hint, failure = .unknownShape hint := by
  induction v using induction_on_children m with
  | step v ih =>
    intro h
    cases v with
    | object entries =>
      rw [mapTree_object] at h
      split at h
      case h_1 items hlist =>
        cases hitems : m.mapTrees items with
        | ok ns => simp [hitems, Except.map] at h
        | error cause =>
          rw [hitems] at h
          cases h
          obtain ⟨item, hitem, hfailed⟩ := exists_of_mapTrees_error hitems
          exact ih entries items item rfl hlist hitem hfailed
      case h_2 | h_3 => cases h
      case h_4 other _ _ _ =>
        cases h
        exact ⟨shapeHint other, rfl⟩
    | _ =>
      rw [mapTree] at h
      · cases h
        exact ⟨_, rfl⟩
      · rintro entries ⟨⟩

/-- A value is refused exactly when one of the values that are read for it cannot be a node. -/
theorem mapTree_unknownShape_iff (m : Mapping) (v : Value) :
    (∃ hint, m.mapTree v = .error (.unknownShape hint)) ↔ m.Malformed v := by
  rw [malformed_iff]
  cases h : m.mapTree v with
  | ok t => simp
  | error failure =>
    obtain ⟨hint, rfl⟩ := exists_hint_of_mapTree v h
    simp

end Mapping

end GrammarDesk.Tree
