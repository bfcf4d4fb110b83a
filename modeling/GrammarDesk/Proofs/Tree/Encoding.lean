import GrammarDesk.Proofs.Tree.Mapping

/-!
# Trees stored under the keys of a mapping

A backend may keep every field of a node at a path of its own, and paths may share objects on
their way.  When no path is the beginning of another, each field is found at its own path and
nowhere else, whatever the values of the nodes contain.  So every mapping with such keys reads the
canonical trees that are stored under its keys as they were.

Main definitions:

- `put`, `store`: a value at the end of a path, and an object of fields at their paths.
- `Mapping.Separate`: no key leads to another or through it.
- `Mapping.encode`: a tree stored under the keys of a mapping.

Main results:

- `follow?_put`, `follow?_put_of_apart`: a path leads to what was put there, and paths apart from it
  lead where they did.
- `find?_store`: under each key stands its own field, or nothing if the field is absent.
- `Mapping.encode_identity`: the canonical keys store a tree as its own object.
- `Mapping.mapTree_encode`: exactly the canonical trees are read as they were stored.
-/

namespace GrammarDesk.Tree

open Json

/-! ## Putting values at paths -/

/-- The entries of an object; no other value has any. -/
def entriesOf : Value → Entries
  | .object entries => entries
  | _ => []

/-- The value with `w` at the end of a path.  What the path leads through becomes an object. -/
def put (w : Value) : List String → Value → Value
  | [], _ => w
  | key :: keys, v =>
    .object (Entries.insert key (put w keys ((v.get? key).getD .null)) (entriesOf v))

/-- Neither path is the beginning of the other. -/
def Apart (p q : List String) : Prop := ¬ p <+: q ∧ ¬ q <+: p

instance (p q : List String) : Decidable (Apart p q) := inferInstanceAs (Decidable (_ ∧ _))

theorem Apart.symm {p q : List String} (h : Apart p q) : Apart q p := ⟨h.2, h.1⟩

theorem get?_entriesOf (v : Value) (key : String) : Entries.get? (entriesOf v) key = v.get? key := by
  cases v <;> rfl

/-- What is put under a path changes what lies under its first key, and no other key. -/
theorem get?_put_cons (w v : Value) (key other : String) (keys : List String) :
    (put w (key :: keys) v).get? other =
      if other = key then some (put w keys ((v.get? key).getD .null)) else v.get? other := by
  rw [put, Value.get?, Entries.get?_insert, get?_entriesOf]

/-- A path leads to what was put there. -/
theorem follow?_put (w : Value) (path : List String) (v : Value) :
    follow? (put w path v) path = some w := by
  induction path generalizing v with
  | nil => rfl
  | cons key keys ih => rw [follow?, get?_put_cons, if_pos rfl, Option.bind_some, ih]

/-- A path apart from the one where a value was put leads where it did. -/
theorem follow?_put_of_apart (w : Value) {path other : List String} (h : Apart path other)
    (v : Value) : follow? (put w path v) other = follow? v other := by
  induction path generalizing other v with
  | nil => exact absurd ⟨other, rfl⟩ h.1
  | cons key keys ih =>
    cases other with
    | nil => exact absurd ⟨key :: keys, rfl⟩ h.2
    | cons first others =>
      rw [follow?, follow?, get?_put_cons]
      by_cases hkey : first = key
      · subst hkey
        simp only [Apart, List.prefix_cons_inj] at h
        rw [if_pos rfl, Option.bind_some, ih h]
        cases hv : v.get? first with
        | some inner => rfl
        | none =>
          -- the others are not empty, and nothing is found below null
          cases others with
          | nil => exact absurd ⟨keys, rfl⟩ h.2
          | cons => rfl
      · rw [if_neg hkey]

/-! ## Objects of fields -/

/-- The object of those fields that are present, each at the path that its key writes. -/
def store : List (String × Option Value) → Value
  | [] => .object []
  | (_, none) :: fields => store fields
  | (key, some v) :: fields => put v (Text.pieces '.' key) (store fields)

/-- The paths that the keys of two fields write are apart. -/
def KeysApart (f g : String × Option Value) : Prop :=
  Apart (Text.pieces '.' f.1) (Text.pieces '.' g.1)

/-- A text has a piece. -/
theorem splitOn_ne_nil (separator : Char) (cs : List Char) : Text.splitOn separator cs ≠ [] := by
  fun_cases Text.splitOn separator cs <;> simp

/-- No piece holds the separator. -/
theorem not_mem_of_mem_splitOn {separator : Char} {cs piece : List Char}
    (h : piece ∈ Text.splitOn separator cs) : separator ∉ piece := by
  fun_induction Text.splitOn separator cs generalizing piece with
  | case1 => simp_all
  | case2 cs ih =>
    rcases List.mem_cons.1 h with rfl | h
    · exact List.not_mem_nil
    · exact ih h
  | case3 c cs hc hpieces ih => exact absurd hpieces (splitOn_ne_nil separator cs)
  | case4 c cs hc first others hpieces ih =>
    rw [hpieces] at ih
    rcases List.mem_cons.1 h with rfl | h
    · rw [List.mem_cons, not_or]
      exact ⟨Ne.symm hc, ih List.mem_cons_self⟩
    · exact ih (List.mem_cons_of_mem first h)

/-- The path that a key writes has a first piece, and that has no dot. -/
theorem pieces_eq_cons (key : String) :
    ∃ first others, Text.pieces '.' key = first :: others ∧ '.' ∉ first.toList := by
  cases h : Text.splitOn '.' key.toList with
  | nil => exact absurd h (splitOn_ne_nil '.' key.toList)
  | cons first others =>
    refine ⟨String.ofList first, others.map String.ofList, by rw [Text.pieces, h, List.map], ?_⟩
    rw [String.toList_ofList]
    exact not_mem_of_mem_splitOn (h ▸ List.mem_cons_self)

/-- What is stored is an object. -/
theorem exists_store (fields : List (String × Option Value)) :
    ∃ entries, store fields = .object entries := by
  fun_induction store fields with
  | case1 => exact ⟨[], rfl⟩
  | case2 _ fields ih => exact ih
  | case3 key v fields ih =>
    obtain ⟨first, others, hpieces, -⟩ := pieces_eq_cons key
    rw [hpieces]
    exact ⟨_, rfl⟩

/-- Fields are stored below keys without dots. -/
theorem get?_store_of_mem (fields : List (String × Option Value)) {key : String}
    (hkey : '.' ∈ key.toList) : (store fields).get? key = none := by
  fun_induction store fields with
  | case1 => rfl
  | case2 _ fields ih => exact ih
  | case3 stored v fields ih =>
    obtain ⟨first, others, hpieces, hfirst⟩ := pieces_eq_cons stored
    have hne : key ≠ first := by
      rintro rfl
      exact hfirst hkey
    rw [hpieces, get?_put_cons, if_neg hne, ih]

/-- Nothing stands at a path apart from those of all fields. -/
theorem follow?_store_of_apart (fields : List (String × Option Value)) {path : List String}
    (hpath : path ≠ []) (h : ∀ f ∈ fields, Apart (Text.pieces '.' f.1) path) :
    follow? (store fields) path = none := by
  fun_induction store fields with
  | case1 =>
    obtain ⟨key, keys, rfl⟩ := List.exists_cons_of_ne_nil hpath
    rfl
  | case2 _ fields ih => exact ih fun f hf => h f (List.mem_cons_of_mem _ hf)
  | case3 key v fields ih =>
    rw [follow?_put_of_apart v (h _ List.mem_cons_self)]
    exact ih fun f hf => h f (List.mem_cons_of_mem _ hf)

/-- At the path of a field stands the field, or nothing if it is absent. -/
theorem follow?_store {fields : List (String × Option Value)} (h : fields.Pairwise KeysApart)
    {f : String × Option Value} (hf : f ∈ fields) :
    follow? (store fields) (Text.pieces '.' f.1) = f.2 := by
  induction fields with
  | nil => cases hf
  | cons g fields ih =>
    obtain ⟨hg, hfields⟩ := List.pairwise_cons.1 h
    obtain ⟨key, v⟩ := g
    rcases List.mem_cons.1 hf with rfl | hmem
    · obtain ⟨first, others, hpieces, -⟩ := pieces_eq_cons key
      cases v with
      | some v => exact follow?_put v _ _
      | none =>
        exact follow?_store_of_apart fields (by rw [hpieces]; simp) fun f hf => (hg f hf).symm
    · cases v with
      | some v => exact (follow?_put_of_apart v (hg f hmem) _).trans (ih hfields hmem)
      | none => exact ih hfields hmem

/-- Under each key stands its own field, or nothing if the field is absent. -/
theorem find?_store {fields : List (String × Option Value)} (h : fields.Pairwise KeysApart)
    {entries : Entries} (hentries : store fields = .object entries)
    {f : String × Option Value} (hf : f ∈ fields) (hkey : f.1 ≠ "") :
    find? entries f.1 = f.2 := by
  have hempty : f.1.isEmpty = false := by simpa using hkey
  by_cases hdot : '.' ∈ f.1.toList
  · -- no key of the object has a dot, so the path is followed
    have hget : Entries.get? entries f.1 = none := by
      have hstored := get?_store_of_mem fields hdot
      rwa [hentries] at hstored
    rw [find?, hempty, hget, ← hentries]
    exact follow?_store h hf
  · rw [find?_of_not_mem ⟨hempty, hdot⟩]
    have hfollow := follow?_store h hf
    rw [hentries, Text.pieces, splitOn_of_not_mem hdot] at hfollow
    simpa [follow?, Value.get?] using hfollow

/-! ## Stored trees -/

namespace Mapping

variable {m : Mapping}

/-- The keys of a mapping. -/
def keys (m : Mapping) : List String :=
  [m.name, m.start, m.stop, m.children, m.skip, m.error, m.value, m.tokenType]

/-- No key is empty, and no key is another one or leads through its place. -/
structure Separate (m : Mapping) : Prop where
  nonempty : ∀ key ∈ m.keys, key ≠ ""
  apart : (m.keys.map (Text.pieces '.')).Pairwise Apart

mutual

/-- The tree with each present field of a node at the path that the mapping names for it. -/
def encode (m : Mapping) (t : Node) : Value :=
  match t with
  | ⟨name, start, stop, children, tokenType, skip, error, value⟩ =>
    store (m.fields ⟨name, start, stop, children, tokenType, skip, error, value⟩
      (.array (encodeAll m children)))
termination_by structural t

/-- The trees of a list stored one by one. -/
def encodeAll (m : Mapping) (ts : List Node) : List Value :=
  match ts with
  | [] => []
  | t :: rest => encode m t :: encodeAll m rest
termination_by structural ts

end

/-- A node is encoded as its fields, with its children encoded before. -/
theorem encode_eq (m : Mapping) (t : Node) :
    m.encode t = store (m.fields t (.array (m.encodeAll t.children))) := by
  cases t
  rw [encode]

/-- The fields of a node stand under the keys of the mapping. -/
theorem find?_store_fields (hm : m.Separate) {n : Node} {stored : Value} {entries : Entries}
    (hentries : store (m.fields n stored) = .object entries) :
    ∀ f ∈ m.fields n stored, find? entries f.1 = f.2 := by
  have hkeys : (m.fields n stored).map Prod.fst = m.keys := rfl
  have hapart : (m.fields n stored).Pairwise KeysApart := by
    have hpaths := hm.apart
    rw [← hkeys, List.map_map, List.pairwise_map] at hpaths
    exact hpaths
  intro f hf
  refine find?_store hapart hentries hf (hm.nonempty f.1 ?_)
  rw [← hkeys]
  exact List.mem_map_of_mem hf

/-- One step: reading a stored tree reads its stored children. -/
theorem mapTree_encode_step (hm : m.Separate) (t : Node) :
    m.mapTree (m.encode t) = (m.mapTrees (m.encodeAll t.children)).map t.mendedOver := by
  obtain ⟨entries, hentries⟩ := exists_store (m.fields t (.array (m.encodeAll t.children)))
  rw [encode_eq, hentries, mapTree_of_fields (find?_store_fields hm hentries)]

mutual

/-- A stored tree is read as the tree mended. -/
theorem mapTree_encode_eq_mended (hm : m.Separate) (t : Node) :
    m.mapTree (m.encode t) = .ok t.mended := by
  cases t with
  | mk name start stop children tokenType skip error value =>
    rw [mapTree_encode_step hm, mapTrees_encodeAll hm children, Node.mended_eq]
    rfl

/-- A list of encoded trees is read back mended. -/
theorem mapTrees_encodeAll (hm : m.Separate) (ts : List Node) :
    m.mapTrees (m.encodeAll ts) = .ok (mendedAll ts) := by
  cases ts with
  | nil => rw [encodeAll, mapTrees, mendedAll]
  | cons t rest =>
    rw [encodeAll, mapTrees_cons, mapTree_encode_eq_mended hm t, mapTrees_encodeAll hm rest,
      mendedAll]
    rfl

end

mutual

/-- The canonical keys store a tree as its own object. -/
theorem encode_identity (t : Node) : identity.encode t = t.toValue := by
  obtain ⟨name, start, stop, children, tokenType, skip, error, value⟩ := t
  rw [encode_eq, encodeAll_identity children, Node.toValue]
  -- one case for each set of fields that are present
  cases tokenType <;> cases skip <;> cases error <;> cases value <;> rfl

/-- Under the canonical keys trees are encoded as they are written. -/
theorem encodeAll_identity (ts : List Node) : identity.encodeAll ts = Node.toValues ts := by
  cases ts with
  | nil => rw [encodeAll, Node.toValues]
  | cons t rest => rw [encodeAll, Node.toValues, encode_identity t, encodeAll_identity rest]

end

/-- Under keys of which none leads to another or through it, the canonical trees, and only those,
are read as they were stored, whatever the values of their nodes contain. -/
theorem mapTree_encode (m : Mapping) (hm : m.Separate) (t : Node) :
    m.mapTree (m.encode t) = .ok t ↔ ∀ n : Node, n.Within t → n.Canonical := by
  rw [mapTree_encode_eq_mended hm, Except.ok.injEq, t.mended_eq_self_iff]

/-- The keys of a backend that gathers kinds, places and marks in objects. -/
def gathered : Mapping where
  name := "kind.name"
  start := "place.from"
  stop := "place.to"
  children := "kids"
  skip := "marks.skip"
  error := "marks.error"
  value := "kind.value"
  tokenType := "kind.token"

/-- A call whose argument has a value that looks like a stored node. -/
def markedCall : Node :=
  ⟨"Call", 0, 4,
    [⟨"Num", 2, 3, [], some "number", true, none,
      some (.object [("kind", .object [("name", .string "Num")]), ("marks", .null)])⟩],
    none, false, some "unknown name", none⟩

/-- The call as this backend stores it. -/
def storedCall : Value :=
  .object [
    ("kids", .array [
      .object [
        ("kids", .array []),
        ("kind", .object [
          ("name", .string "Num"), ("token", .string "number"),
          ("value", .object [("kind", .object [("name", .string "Num")]), ("marks", .null)])]),
        ("marks", .object [("skip", .bool true)]),
        ("place", .object [("from", .ofNat 2), ("to", .ofNat 3)])]]),
    ("kind", .object [("name", .string "Call")]),
    ("marks", .object [("error", .string "unknown name")]),
    ("place", .object [("from", .ofNat 0), ("to", .ofNat 4)])]

/-- A node without a token type or an error does not borrow one from its neighbours. -/
theorem mapTree_encode_of_gathered :
    gathered.Separate ∧ gathered.encode markedCall = storedCall ∧
      gathered.mapTree storedCall = .ok markedCall := by
  have hseparate : gathered.Separate := ⟨by decide, by decide⟩
  have hstored : gathered.encode markedCall = storedCall := by rfl
  have hcanonical : ∀ n : Node, n.Within markedCall → n.Canonical := by
    rw [← Node.mended_eq_self_iff]
    rfl
  refine ⟨hseparate, hstored, ?_⟩
  rw [← hstored]
  exact (mapTree_encode gathered hseparate markedCall).2 hcanonical

end Mapping

end GrammarDesk.Tree
