import GrammarDesk.Tree.Mapping
import GrammarDesk.Proofs.Json.Entries
import GrammarDesk.Proofs.Json.Render
import GrammarDesk.Proofs.Tree.Walk

/-!
# What a mapping reads

Whatever keys a mapping has and whatever value it reads, the tree it yields is canonical: on every
node the end is not before the start, an error has a message, and a value is not null.  Under the
canonical keys the object of a tree reads as that tree with these three things mended, so exactly
the canonical trees are read back as they are.

Main definitions:

- `Node.Canonical`: what holds of a node that has been read.
- `Node.mended`: the canonical tree that is read from the object of a tree.
- `Node.mendedOver`: a node of it, over children that have been read already.
- `Node.field?`: what the object of a node binds to a key.
- `Mapping.fields`: the fields of a node under the keys of a mapping.

Main results:

- `Mapping.canonical_of_mapTree`: every node of a tree that is read is canonical.
- `Mapping.mapTree_of_fields`: an object that holds the fields of a node is read as the node mended.
- `Mapping.mapTree_identity`: the object of a tree reads as the tree mended.
- `Node.mended_eq_self_iff`: mending leaves exactly the canonical trees as they are.
- `Mapping.mapTree_idempotent`: to read a tree that has been read gives it again.
-/

namespace GrammarDesk.Tree

open Json

/-! ## Canonical nodes -/

/-- A node as a mapping leaves it: it ends at its start or after, an error has a message, and a
value is not null. -/
structure Node.Canonical (n : Node) : Prop where
  upright : n.start ≤ n.stop
  error : n.error ≠ some ""
  value : n.value ≠ some .null

mutual

/-- The tree with the end of every node raised to its start, and without empty errors and null
values. -/
def Node.mended : Node → Node
  | ⟨name, start, stop, children, tokenType, skip, error, value⟩ =>
    { name := name
      start := start
      stop := max stop start
      children := mendedAll children
      tokenType := tokenType
      skip := skip
      error := error.filter (!·.isEmpty)
      value := present? value }
termination_by structural n => n

/-- The trees of a list mended. -/
def mendedAll : List Node → List Node
  | [] => []
  | n :: rest => n.mended :: mendedAll rest
termination_by structural ns => ns

end

/-- A node mended, over other children. -/
def Node.mendedOver (n : Node) (children : List Node) : Node :=
  { n with
    stop := max n.stop n.start
    children := children
    error := n.error.filter (!·.isEmpty)
    value := present? n.value }

/-- A tree is mended from its children to its root. -/
theorem Node.mended_eq (n : Node) : n.mended = n.mendedOver (mendedAll n.children) := by
  cases n
  rw [mended]
  rfl

/-! ## What mending leaves as it is -/

theorem Offset.max_def (a b : Offset) : max a b = if a ≤ b then b else a := rfl

theorem Offset.le_max_right (a b : Offset) : b ≤ max a b := by
  rw [Offset.max_def]
  split
  · exact UInt64.le_refl b
  · exact UInt64.le_of_lt (UInt64.not_le.1 ‹_›)

/-- The greater of two offsets is the first exactly if the second does not exceed it. -/
theorem Offset.max_eq_left_iff (a b : Offset) : max a b = a ↔ b ≤ a := by
  constructor
  · intro h
    exact h ▸ Offset.le_max_right a b
  · intro h
    rw [Offset.max_def]
    split
    · exact UInt64.le_antisymm h ‹_›
    · rfl

/-- What is present is not null. -/
theorem present?_ne_some_null (v : Option Value) : present? v ≠ some .null := by
  intro h
  simpa [Value.isNull] using (Option.filter_eq_some_iff.1 h).2

/-- A field is present as it is, unless it is null. -/
theorem present?_eq_self_iff (v : Option Value) : present? v = v ↔ v ≠ some .null := by
  constructor
  · intro h
    exact h ▸ present?_ne_some_null v
  · intro h
    cases v with
    | none => rfl
    | some v =>
      cases v with
      | null => exact absurd rfl h
      | _ => rfl

/-- An error is kept exactly if its message is not empty. -/
theorem filter_isEmpty_eq_self_iff (error : Option String) :
    error.filter (!·.isEmpty) = error ↔ error ≠ some "" := by
  cases error with
  | none => simp
  | some message => simp [Option.filter]

mutual

/-- Mending leaves exactly the canonical trees as they are. -/
theorem Node.mended_eq_self_iff (t : Node) :
    t.mended = t ↔ ∀ n : Node, n.Within t → n.Canonical := by
  obtain ⟨name, start, stop, children, tokenType, skip, error, value⟩ := t
  rw [Node.forall_within_iff, ← mendedAll_eq_self_iff children, Node.mended, Node.mk.injEq,
    present?_eq_self_iff, filter_isEmpty_eq_self_iff, Offset.max_eq_left_iff]
  constructor
  · rintro ⟨-, -, hstop, hchildren, -, -, herror, hvalue⟩
    exact ⟨⟨hstop, herror, hvalue⟩, hchildren⟩
  · rintro ⟨⟨hstop, herror, hvalue⟩, hchildren⟩
    exact ⟨rfl, rfl, hstop, hchildren, rfl, rfl, herror, hvalue⟩

/-- There is nothing to mend in a list of trees exactly if all their nodes are canonical. -/
theorem mendedAll_eq_self_iff (ts : List Node) :
    mendedAll ts = ts ↔ ∀ t ∈ ts, ∀ n : Node, n.Within t → n.Canonical := by
  cases ts with
  | nil => simp [mendedAll]
  | cons t rest =>
    rw [mendedAll, List.cons.injEq, List.forall_mem_cons, t.mended_eq_self_iff,
      mendedAll_eq_self_iff rest]

end

/-! ## Trees that are read -/

/-- An error that is read has a message. -/
theorem errorOf?_ne_some_empty (v : Value) : errorOf? v ≠ some "" := by
  cases v with
  | null => simp [errorOf?]
  | bool b => cases b <;> simp [errorOf?, flaggedError]
  | string s =>
    intro h
    simp only [errorOf?, Option.ite_none_left_eq_some, Option.some.injEq] at h
    obtain ⟨hempty, rfl⟩ := h
    exact hempty rfl
  | number n => simp [errorOf?, Value.render_ne_empty]
  | array items => simp [errorOf?, Value.render_ne_empty]
  | object entries => simp [errorOf?, Value.render_ne_empty]

namespace Mapping

variable {m : Mapping}

/-- Whatever an object holds under the keys of a mapping, its node is canonical. -/
theorem canonical_nodeOf (m : Mapping) (entries : Entries) (children : List Node) :
    (m.nodeOf entries children).Canonical where
  upright := Offset.le_max_right _ _
  error := by
    intro h
    obtain ⟨v, -, hv⟩ := Option.bind_eq_some_iff.1 h
    exact errorOf?_ne_some_empty v hv
  value := present?_ne_some_null _

/-- The tree of an object is a node of its entries over what its list of children holds. -/
theorem mapTree_object (m : Mapping) (entries : Entries) :
    m.mapTree (.object entries) =
      match find? entries m.children with
      | some (.array items) => (m.mapTrees items).map (m.nodeOf entries)
      | some .null => .ok (m.nodeOf entries [])
      | none => .ok (m.nodeOf entries [])
      | some other => .error (.unknownShape (shapeHint other)) := by
  rw [mapTree]
  split <;> simp_all
  rfl

/-- A list of trees is read from the left, and the first failure ends it. -/
theorem mapTrees_cons (m : Mapping) (v : Value) (rest : List Value) :
    m.mapTrees (v :: rest) =
      (m.mapTree v).bind fun n => (m.mapTrees rest).map (n :: ·) := by
  rw [mapTrees]
  rfl

/-- Every tree of a list that is read has been read from a value of its own. -/
theorem exists_of_mem_mapTrees {vs : List Value} {ns : List Node} (h : m.mapTrees vs = .ok ns)
    {n : Node} (hn : n ∈ ns) : ∃ v ∈ vs, m.mapTree v = .ok n := by
  induction vs generalizing ns with
  | nil =>
    rw [mapTrees, Except.ok.injEq] at h
    subst h
    cases hn
  | cons v rest ih =>
    rw [mapTrees_cons] at h
    cases hfirst : m.mapTree v with
    | error _ => simp [hfirst, Except.bind] at h
    | ok first =>
      cases hrest : m.mapTrees rest with
      | error _ => simp [hfirst, hrest, Except.bind, Except.map] at h
      | ok others =>
        simp only [hfirst, hrest, Except.bind, Except.map, Except.ok.injEq] at h
        subst h
        rcases List.mem_cons.1 hn with rfl | hn
        · exact ⟨v, List.mem_cons_self, hfirst⟩
        · obtain ⟨w, hw, hmapped⟩ := ih hrest hn
          exact ⟨w, List.mem_cons_of_mem v hw, hmapped⟩

/-- A tree that is read is the node of an object, and its children are trees that are read. -/
theorem exists_nodeOf_of_mapTree {v : Value} {t : Node} (h : m.mapTree v = .ok t) :
    (∃ entries, t = m.nodeOf entries t.children) ∧
      ∀ child ∈ t.children, ∃ w, m.mapTree w = .ok child := by
  cases v with
  | object entries =>
    rw [mapTree_object] at h
    split at h
    case h_1 items _ =>
      cases hitems : m.mapTrees items with
      | error _ => simp [hitems, Except.map] at h
      | ok children =>
        simp only [hitems, Except.map, Except.ok.injEq] at h
        subst h
        refine ⟨⟨entries, rfl⟩, fun child hchild => ?_⟩
        obtain ⟨w, -, hw⟩ := exists_of_mem_mapTrees hitems hchild
        exact ⟨w, hw⟩
    case h_2 | h_3 =>
      cases h
      exact ⟨⟨entries, rfl⟩, fun child hchild => absurd hchild List.not_mem_nil⟩
    case h_4 => cases h
  | _ => simp [mapTree] at h

/-- Every node of a tree that is read is canonical. -/
theorem canonical_of_mapTree {v : Value} {t : Node} (h : m.mapTree v = .ok t) :
    ∀ n : Node, n.Within t → n.Canonical := by
  intro n hn
  -- by induction on the place of the node, for each child has been read from a value of its own
  induction hn generalizing v with
  | root =>
    obtain ⟨entries, ht⟩ := (exists_nodeOf_of_mapTree h).1
    rw [ht]
    exact canonical_nodeOf m entries n.children
  | inside hchild _ ih =>
    obtain ⟨w, hw⟩ := (exists_nodeOf_of_mapTree h).2 _ hchild
    exact ih hw

end Mapping

/-! ## The object of a node -/

/-- A field that is left out when it is absent is found under its own name. -/
theorem get?_entry? (name : String) (v : Option Value) (key : String) :
    Entries.get? (Node.entry? name v) key = if key = name then v else none := by
  cases v <;> simp [Node.entry?, Entries.get?_cons, Entries.get?_nil]

/-- A mark that is not set is left out. -/
theorem get?_skipEntry (skip : Bool) (key : String) :
    Entries.get? (Node.skipEntry skip) key =
      if key = "skip" ∧ skip then some (.bool true) else none := by
  cases skip <;> simp [Node.skipEntry, Entries.get?_cons, Entries.get?_nil]

/-- What the object of a node binds to a key. -/
def Node.field? (n : Node) : String → Option Value
  | "name" => some (.string n.name)
  | "start" => some (.ofNat n.start)
  | "end" => some (.ofNat n.stop)
  | "children" => some (.array (toValues n.children))
  | "tokenType" => n.tokenType.map .string
  | "skip" => if n.skip then some (.bool true) else none
  | "error" => n.error.map .string
  | "value" => n.value
  | _ => none

theorem Node.exists_toValue (n : Node) : ∃ entries, n.toValue = .object entries := by
  cases n
  exact ⟨_, rfl⟩

/-- The object of a node binds the fields of the node. -/
theorem get?_toValue (n : Node) (key : String) : n.toValue.get? key = n.field? key := by
  obtain ⟨name, start, stop, children, tokenType, skip, error, value⟩ := n
  simp only [Node.toValue, Value.get?, Entries.get?_append, get?_entry?, get?_skipEntry,
    Entries.get?_cons, Entries.get?_nil]
  fun_cases Node.field? ⟨name, start, stop, children, tokenType, skip, error, value⟩ key <;>
    simp_all

/-- A text without the separator is a single piece. -/
theorem splitOn_of_not_mem {separator : Char} {cs : List Char} (h : separator ∉ cs) :
    Text.splitOn separator cs = [cs] := by
  induction cs with
  | nil => rfl
  | cons c cs ih =>
    rw [List.mem_cons, not_or] at h
    rw [Text.splitOn, if_neg (Ne.symm h.1), ih h.2]

/-- Under a key without dots stands what the object binds to it. -/
theorem find?_of_not_mem {key : String} (hkey : key.isEmpty = false ∧ '.' ∉ key.toList)
    (entries : Entries) : find? entries key = Entries.get? entries key := by
  rw [find?, hkey.1, Text.pieces, splitOn_of_not_mem hkey.2]
  cases h : Entries.get? entries key <;> simp [follow?, Value.get?, h]

/-- A key without dots finds the field of that name. -/
theorem find?_toValue {n : Node} {entries : Entries} (h : n.toValue = .object entries)
    (key : String) (hkey : key.isEmpty = false ∧ '.' ∉ key.toList) :
    find? entries key = n.field? key := by
  rw [find?_of_not_mem hkey, ← get?_toValue, h, Value.get?]

/-! ## Reading the object of a node -/

/-- A message is read as the error that it is, unless it is empty. -/
theorem errorOf?_string (message : Option String) :
    (message.map Value.string).bind errorOf? = message.filter (!·.isEmpty) := by
  cases message with
  | none => rfl
  | some message => simp [errorOf?, Option.filter]

/-- A text is read as it is. -/
theorem textOf_string (text : Option String) :
    (present? (text.map Value.string)).map textOf = text := by
  cases text <;> rfl

namespace Mapping

variable {m : Mapping}

/-- The fields of a node under the keys of a mapping, with what stands for the children. -/
def fields (m : Mapping) (n : Node) (children : Value) : List (String × Option Value) :=
  [(m.name, some (.string n.name)), (m.start, some (.ofNat n.start)),
    (m.stop, some (.ofNat n.stop)), (m.children, some children),
    (m.skip, if n.skip then some (.bool true) else none), (m.error, n.error.map .string),
    (m.value, n.value), (m.tokenType, n.tokenType.map .string)]

/-- An object that holds the fields of a node reads as the node mended, over whatever its children
are. -/
theorem nodeOf_of_fields {n : Node} {stored : Value} {entries : Entries}
    (h : ∀ f ∈ m.fields n stored, find? entries f.1 = f.2) (children : List Node) :
    m.nodeOf entries children = n.mendedOver children := by
  simp only [fields, List.forall_mem_cons] at h
  obtain ⟨hname, hstart, hstop, -, hskip, herror, hvalue, htokenType, -⟩ := h
  have hmark : ((if n.skip then some (.bool true) else none : Option Value).map
      Value.isTruthy).getD false = n.skip := by
    cases n.skip <;> rfl
  simp only [nodeOf, hname, hstart, hstop, hskip, herror, hvalue, htokenType, errorOf?_string,
    textOf_string, hmark]
  rfl

/-- One step: reading an object that holds the fields of a node reads what stands for its
children. -/
theorem mapTree_of_fields {n : Node} {items : List Value} {entries : Entries}
    (h : ∀ f ∈ m.fields n (.array items), find? entries f.1 = f.2) :
    m.mapTree (.object entries) = (m.mapTrees items).map n.mendedOver := by
  have hchildren : find? entries m.children = some (.array items) :=
    h (m.children, some (.array items)) (by simp [fields])
  rw [mapTree_object, hchildren, ← funext (nodeOf_of_fields h)]

/-- One step under the canonical keys: the object of a node holds its fields. -/
theorem mapTree_toValue (n : Node) :
    identity.mapTree n.toValue =
      (identity.mapTrees (Node.toValues n.children)).map n.mendedOver := by
  obtain ⟨entries, hentries⟩ := n.exists_toValue
  rw [hentries]
  refine mapTree_of_fields fun f hf => ?_
  have hkey : f.1.isEmpty = false ∧ '.' ∉ f.1.toList := by
    revert f
    simp only [fields, List.forall_mem_cons]
    decide
  rw [find?_toValue hentries f.1 hkey]
  revert f
  simp [fields, identity, Node.field?]

mutual

/-- Read under the canonical keys, the object of any tree is the tree mended. -/
theorem mapTree_identity (t : Node) : identity.mapTree t.toValue = .ok t.mended := by
  cases t with
  | mk name start stop children tokenType skip error value =>
    rw [mapTree_toValue, mapTrees_identity children, Node.mended_eq]
    rfl

/-- A list of trees that has been written is read back mended. -/
theorem mapTrees_identity (ts : List Node) :
    identity.mapTrees (Node.toValues ts) = .ok (mendedAll ts) := by
  cases ts with
  | nil => rw [Node.toValues, mapTrees, mendedAll]
  | cons t rest =>
    rw [Node.toValues, mapTrees_cons, mapTree_identity t, mapTrees_identity rest, mendedAll]
    rfl

end

/-- Whatever mapping a tree has been read under, every node of it is canonical, and reading its own
object under the canonical keys gives the tree again.  They give a tree again only if every node
of it is canonical. -/
theorem mapTree_idempotent (m : Mapping) (v : Value) (t : Node) :
    (m.mapTree v = .ok t →
      identity.mapTree t.toValue = .ok t ∧ ∀ n : Node, n.Within t → n.Canonical) ∧
    (identity.mapTree t.toValue = .ok t ↔ ∀ n : Node, n.Within t → n.Canonical) := by
  have hagain : identity.mapTree t.toValue = .ok t ↔ ∀ n : Node, n.Within t → n.Canonical := by
    rw [mapTree_identity, Except.ok.injEq, t.mended_eq_self_iff]
  refine ⟨fun h => ?_, hagain⟩
  have hcanonical := canonical_of_mapTree h
  exact ⟨hagain.2 hcanonical, hcanonical⟩

/-- The keys of a backend that keeps the name of a node inside its type. -/
def nested : Mapping :=
  { identity with name := "type.name", start := "from", stop := "to", children := "kids" }

/-- A missing operand as this backend stores it: it ends before it starts, its error is empty and
its value null. -/
def storedOperand : Value :=
  .object [("error", .string ""), ("from", .ofNat 4), ("to", .ofNat 2),
    ("type", .object [("name", .string "Missing")]), ("value", .null)]

/-- A sum as this backend stores it: it starts below zero and has a bare error flag. -/
def storedSum : Value :=
  .object [("error", .bool true), ("from", .number (.negSucc 0)),
    ("kids", .array [storedOperand]), ("to", .ofNat 5),
    ("type", .object [("name", .string "Add")])]

/-- The tree of the sum. -/
def sumTree : Node :=
  ⟨"Add", 0, 5, [.leaf "Missing" 4 4], none, false, some flaggedError, none⟩

/-- The tree that the backend's keys find is found again under the canonical keys. -/
theorem mapTree_idempotent_of_nested :
    nested.mapTree storedSum = .ok sumTree ∧ identity.mapTree sumTree.toValue = .ok sumTree := by
  have hoperand : nested.mapTree storedOperand = .ok (.leaf "Missing" 4 4) := by
    rw [storedOperand, mapTree_object]
    rfl
  have hread : nested.mapTree storedSum = .ok sumTree := by
    rw [storedSum, mapTree_object]
    change (nested.mapTrees [storedOperand]).map _ = _
    rw [mapTrees_cons, hoperand, mapTrees]
    rfl
  exact ⟨hread, ((mapTree_idempotent nested storedSum sumTree).1 hread).1⟩

end Mapping

end GrammarDesk.Tree
