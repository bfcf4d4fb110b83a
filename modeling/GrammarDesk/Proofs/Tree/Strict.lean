import GrammarDesk.Proofs.Json.Conform
import GrammarDesk.Proofs.Tree.Structure

/-!
# The two readers of trees

A tree is read strictly, against its shape, or through the canonical keys.  The strict reader
refuses what the other one mends: a field of the wrong kind is a fault for the one and a default for
the other.  What the strict reader accepts it takes as it stands, so the two find the same node in
an object unless the other one has something to mend, which is an end before the start or an error
without a message.  Fields that no node has are passed over by both, at every depth.

Writing a tree and reading it strictly loses nothing but a value that is null, since a field with
null is read as an absent one.

Main definitions:

- `Node.recordFields`: the fields of the record that a node is.
- `Node.Binds`: what an object binds from which the node is read.

Main results:

- `Node.binds_of_ofValue`: what an object binds that is read strictly.
- `Mapping.mapTree_of_binds`: one step, for an object whose children are read by both.
- `Node.conform_toValue`, `Node.ofNormal_toValue`: what is read of a tree that has been written.
- `readers_agree`: the trees that both find, and those that are read again.
-/

namespace GrammarDesk.Tree

open Json

namespace Node

variable {entries read : Entries} {t : Node}

/-! ## Normal forms -/

/-- The fields of the record that a node is. -/
def recordFields : List Field := [
  .required "name" .text, .required "start" .offset, .required "end" .offset,
  .optional "children" .siblings, .nullable "tokenType" .text, .optional "skip" .boolean,
  .nullable "error" .text, .nullable "value" .anything]

theorem shape_eq : shape = .record "HydratedNode" recordFields := rfl

theorem ofNormals_eq (vs : List Value) : ofNormals vs = vs.map ofNormal := by
  induction vs with
  | nil => rfl
  | cons v rest ih => rw [ofNormals, ih, List.map_cons]

/-- The children are those of the list under their key. -/
theorem childrenOf_eq (entries : Entries) :
    childrenOf entries = ((Value.object entries).itemsAt "children").map ofNormal := by
  rw [Value.itemsAt, Value.get?]
  induction entries with
  | nil => rfl
  | cons e rest ih =>
    obtain ⟨key, v⟩ := e
    rw [childrenOf, childrenAt, Entries.get?]
    by_cases hkey : key = "children"
    · rw [if_pos hkey, if_pos hkey]
      cases v <;> simp [nodesOf, ofNormals_eq]
    · rw [if_neg hkey, if_neg hkey]
      exact ih

/-- The node of an object in normal form. -/
theorem ofNormal_object (entries : Entries) :
    ofNormal (.object entries) =
      { name := (Value.object entries).textAt "name" ""
        start := (Value.object entries).offsetAt "start"
        stop := (Value.object entries).offsetAt "end"
        children := ((Value.object entries).itemsAt "children").map ofNormal
        tokenType := (Value.object entries).textAt? "tokenType"
        skip := (Value.object entries).boolAt "skip"
        error := (Value.object entries).textAt? "error"
        value := present? ((Value.object entries).get? "value") } := by
  rw [← childrenOf_eq]
  rfl

/-- A tree is read from what conforms to its shape. -/
theorem ofValue_eq_ok_iff (v : Value) :
    ofValue v = .ok t ↔ ∃ w, shape.conform shape v = .ok w ∧ t = ofNormal w := by
  rw [ofValue, Shape.check]
  cases shape.conform shape v <;> simp [Except.map, eq_comm]

/-- A tree is read from the entries of an object that conform to its fields, none of which is
missing. -/
theorem ofValue_object_eq_ok_iff (entries : Entries) :
    ofValue (.object entries) = .ok t ↔
      ∃ read, Shape.conformEntries shape recordFields entries = .ok read ∧
        Field.firstMissing? recordFields read = none ∧ t = ofNormal (.object read) := by
  rw [ofValue_eq_ok_iff]
  constructor
  · rintro ⟨w, hw, ht⟩
    rw [shape_eq, Shape.conform_record_object_eq_ok_iff] at hw
    obtain ⟨read, hread, hmissing, rfl⟩ := hw
    exact ⟨read, hread, hmissing, ht⟩
  · rintro ⟨read, hread, hmissing, ht⟩
    refine ⟨.object read, ?_, ht⟩
    rw [shape_eq, Shape.conform_record_object_eq_ok_iff]
    exact ⟨read, hread, hmissing, rfl⟩

/-! ## What an object binds -/

/-- What an object binds from which the node is read. -/
structure Binds (entries : Entries) (n : Node) : Prop where
  name : Entries.get? entries "name" = some (.string n.name)
  start : Entries.get? entries "start" = some (.ofNat n.start)
  stop : Entries.get? entries "end" = some (.ofNat n.stop)
  tokenType : present? (Entries.get? entries "tokenType") = n.tokenType.map .string
  skip : Entries.get? entries "skip" = none ∧ n.skip = false ∨
    Entries.get? entries "skip" = some (.bool n.skip)
  error : present? (Entries.get? entries "error") = n.error.map .string
  value : present? (Entries.get? entries "value") = n.value
  children : Entries.get? entries "children" = none ∧ n.children = [] ∨
    ∃ items, Entries.get? entries "children" = some (.array items) ∧
      List.Forall₂ (fun item child => ofValue item = .ok child) items n.children

section Record

variable {outer : Shape} {fields : List Field} {key : String}

/-- A text that has to be there is read where the object binds it. -/
theorem get?_of_required_text (hread : Shape.conformEntries outer fields entries = .ok read)
    (hmissing : Field.firstMissing? fields read = none)
    (hfield : fields.find? (·.key = key) = some (.required key .text)) :
    Entries.get? entries key = some (.string ((Value.object read).textAt key "")) := by
  obtain ⟨v, w, hv, hw, hconform⟩ :=
    Shape.exists_get?_of_conformEntries hread hmissing hfield rfl
  rw [Field.conform_required, Shape.conform_text_eq_ok_iff] at hconform
  obtain ⟨s, rfl, rfl⟩ := hconform
  rw [hv, Value.textAt, Value.get?, hw]

/-- An offset that has to be there is read where the object binds it. -/
theorem get?_of_required_offset (hread : Shape.conformEntries outer fields entries = .ok read)
    (hmissing : Field.firstMissing? fields read = none)
    (hfield : fields.find? (·.key = key) = some (.required key .offset)) :
    Entries.get? entries key = some (.ofNat ((Value.object read).offsetAt key)) := by
  obtain ⟨v, w, hv, hw, hconform⟩ :=
    Shape.exists_get?_of_conformEntries hread hmissing hfield rfl
  rw [Field.conform_required, Shape.conform_offset_eq_ok_iff] at hconform
  obtain ⟨n, rfl, rfl⟩ := hconform
  rw [hv, Value.offsetAt, Value.get?, hw]
  rfl

/-- A text that may be absent or null is read where the object binds it. -/
theorem present?_of_nullable_text (hread : Shape.conformEntries outer fields entries = .ok read)
    (hfield : fields.find? (·.key = key) = some (.nullable key .text)) :
    present? (Entries.get? entries key) = ((Value.object read).textAt? key).map .string := by
  have hrel := Shape.get?_of_conformEntries hread hfield
  simp only [Field.conform_nullable_eq_ok_iff, Shape.conform_text_eq_ok_iff] at hrel
  rw [Value.textAt?, Value.get?]
  generalize Entries.get? entries key = bound at hrel ⊢
  generalize Entries.get? read key = found at hrel ⊢
  rcases hrel with (⟨rfl, rfl⟩ | ⟨-, s, rfl, rfl⟩) | _ <;> rfl

/-- A value that may be absent or null is read where the object binds it. -/
theorem present?_of_nullable_anything
    (hread : Shape.conformEntries outer fields entries = .ok read)
    (hfield : fields.find? (·.key = key) = some (.nullable key .anything)) :
    present? (Entries.get? entries key) = present? (Entries.get? read key) := by
  have hrel := Shape.get?_of_conformEntries hread hfield
  simp only [Field.conform_nullable_eq_ok_iff, Shape.conform, Except.ok.injEq] at hrel
  generalize Entries.get? entries key = bound at hrel ⊢
  generalize Entries.get? read key = found at hrel ⊢
  rcases hrel with (⟨rfl, rfl⟩ | ⟨-, rfl⟩) | _ <;> rfl

/-- A mark that is absent is not set. -/
theorem get?_of_optional_boolean (hread : Shape.conformEntries outer fields entries = .ok read)
    (hfield : fields.find? (·.key = key) = some (.optional key .boolean)) :
    Entries.get? entries key = none ∧ (Value.object read).boolAt key = false ∨
      Entries.get? entries key = some (.bool ((Value.object read).boolAt key)) := by
  have hrel := Shape.get?_of_conformEntries hread hfield
  simp only [Field.conform_optional, Shape.conform_boolean_eq_ok_iff] at hrel
  rw [Value.boolAt, Value.get?]
  generalize Entries.get? entries key = bound at hrel ⊢
  generalize Entries.get? read key = found at hrel ⊢
  rcases hrel with ⟨b, rfl, rfl⟩ | _
  · exact .inr rfl
  · exact .inl ⟨rfl, rfl⟩

/-- Records like this one are read one by one. -/
theorem get?_of_optional_siblings (hread : Shape.conformEntries outer fields entries = .ok read)
    (hfield : fields.find? (·.key = key) = some (.optional key .siblings)) :
    Entries.get? entries key = none ∧ (Value.object read).itemsAt key = [] ∨
      ∃ items, Entries.get? entries key = some (.array items) ∧
        List.Forall₂ (fun v w => outer.conform outer v = .ok w) items
          ((Value.object read).itemsAt key) := by
  have hrel := Shape.get?_of_conformEntries hread hfield
  simp only [Field.conform_optional, Shape.conform_siblings_eq_ok_iff] at hrel
  rw [Value.itemsAt, Value.get?]
  generalize Entries.get? entries key = bound at hrel ⊢
  generalize Entries.get? read key = found at hrel ⊢
  rcases hrel with ⟨items, ws, rfl, rfl, hitems⟩ | _
  · exact .inr ⟨items, rfl, hitems⟩
  · exact .inl ⟨rfl, rfl⟩

end Record

/-- An object that is read strictly binds the fields of the tree. -/
theorem binds_of_ofValue (h : ofValue (.object entries) = .ok t) : Binds entries t := by
  obtain ⟨read, hread, hmissing, rfl⟩ := (ofValue_object_eq_ok_iff entries).1 h
  rw [ofNormal_object]
  constructor
  case name => exact get?_of_required_text hread hmissing rfl
  case start => exact get?_of_required_offset hread hmissing rfl
  case stop => exact get?_of_required_offset hread hmissing rfl
  case tokenType => exact present?_of_nullable_text hread rfl
  case skip => exact get?_of_optional_boolean hread rfl
  case error => exact present?_of_nullable_text hread rfl
  case value => exact present?_of_nullable_anything hread rfl
  case children =>
    have hfield : recordFields.find? (·.key = "children") = some (.optional "children" .siblings) :=
      rfl
    rcases get?_of_optional_siblings hread hfield with
      ⟨hnone, hempty⟩ | ⟨items, hlist, hitems⟩
    · rw [hempty]
      exact .inl ⟨hnone, rfl⟩
    · refine .inr ⟨items, hlist, ?_⟩
      rw [List.forall₂_map_right_iff]
      exact hitems.imp fun v w hw => (ofValue_eq_ok_iff v).2 ⟨w, hw, rfl⟩

end Node

/-! ## Where the readers agree -/

/-- No error is read from null. -/
theorem bind_errorOf?_present? (v : Option Value) :
    (present? v).bind errorOf? = v.bind errorOf? := by
  cases v with
  | none => rfl
  | some v => cases v <;> rfl

namespace Mapping

/-- An upright node whose error has a message is read from what the object binds, over its own
children. -/
theorem nodeOf_of_binds {entries : Entries} {t : Node} (h : t.Binds entries)
    (hupright : t.start ≤ t.stop) (herror : t.error ≠ some "") :
    identity.nodeOf entries t.children = t := by
  have hfind : ∀ key, key.isEmpty = false ∧ '.' ∉ key.toList →
      find? entries key = Entries.get? entries key :=
    fun key hkey => find?_of_not_mem hkey entries
  have hstop : max t.stop t.start = t.stop := (Offset.max_eq_left_iff _ _).2 hupright
  have hmark : ((Entries.get? entries "skip").map Value.isTruthy).getD false = t.skip := by
    rcases h.skip with ⟨hnone, hskip⟩ | hskip
    · rw [hnone, hskip]; rfl
    · rw [hskip]; rfl
  have hmessage : (Entries.get? entries "error").bind errorOf? = t.error := by
    rw [← bind_errorOf?_present?, h.error, errorOf?_string, (filter_isEmpty_eq_self_iff _).2 herror]
  have htoken : (present? (Entries.get? entries "tokenType")).map textOf = t.tokenType := by
    rw [h.tokenType]
    cases t.tokenType <;> rfl
  simp only [nodeOf, identity]
  rw [hfind "name" (by decide), hfind "start" (by decide), hfind "end" (by decide),
    hfind "tokenType" (by decide), hfind "skip" (by decide), hfind "error" (by decide),
    hfind "value" (by decide), h.name, h.start, h.stop, hmark, hmessage, htoken, h.value]
  simp only [Option.bind_some, Option.map_some, Option.getD_some, Value.ofNat, offsetOf?,
    Number.toOffset, textOf, hstop]
  cases t
  rfl

/-- A list is read if each of its values is. -/
theorem mapTrees_of_forall₂ {m : Mapping} {vs : List Value} {ns : List Node}
    (h : List.Forall₂ (fun v n => m.mapTree v = .ok n) vs ns) : m.mapTrees vs = .ok ns := by
  induction h with
  | nil => rw [mapTrees]
  | cons hfirst _ ih =>
    rw [mapTrees_cons, hfirst, ih]
    rfl

/-- One step: a node that is read strictly is read through the canonical keys if its children
are. -/
theorem mapTree_of_binds {entries : Entries} {t : Node} (h : t.Binds entries)
    (hupright : t.start ≤ t.stop) (herror : t.error ≠ some "")
    (hchildren : ∀ items, find? entries identity.children = some (.array items) →
      ∀ item ∈ items, ∀ child ∈ t.children, Node.ofValue item = .ok child →
        identity.mapTree item = .ok child) :
    identity.mapTree (.object entries) = .ok t := by
  have hnode := nodeOf_of_binds h hupright herror
  have hfind : find? entries identity.children = Entries.get? entries "children" :=
    find?_of_not_mem (by decide) entries
  rw [mapTree_object]
  rcases h.children with ⟨hnone, hempty⟩ | ⟨items, hlist, hitems⟩
  · rw [hempty] at hnode
    rw [hfind, hnone]
    exact congrArg Except.ok hnode
  · rw [hlist] at hfind
    have hread : List.Forall₂ (fun v n => identity.mapTree v = .ok n) items t.children := by
      refine List.forall₂_iff_zip.2 ⟨hitems.length_eq, fun {item child} hzip => ?_⟩
      obtain ⟨hitem, hchild⟩ := List.of_mem_zip hzip
      exact hchildren items hfind item hitem child hchild ((List.forall₂_iff_zip.1 hitems).2 hzip)
    simp only [hfind, mapTrees_of_forall₂ hread]
    exact congrArg Except.ok hnode

/-- A tree that is read strictly is read through the canonical keys as well, if each of its nodes is
written as an object, is upright and has no empty error. -/
theorem mapTree_of_ofValue (v : Value) :
    (∀ w, identity.Reads v w → ∃ entries, w = .object entries) → ∀ t, Node.ofValue v = .ok t →
      (∀ n : Node, n.Within t → n.start ≤ n.stop ∧ n.error ≠ some "") →
      identity.mapTree v = .ok t := by
  induction v using induction_on_children identity with
  | step v ih =>
    intro hobjects t ht hnodes
    obtain ⟨entries, rfl⟩ := hobjects v (.self v)
    obtain ⟨hupright, herror⟩ := hnodes t .root
    refine mapTree_of_binds (Node.binds_of_ofValue ht) hupright herror ?_
    intro items hlist item hitem child hchild hread
    -- whatever is read for an item is read for the whole, and a node of a child is one of the tree
    exact ih entries items item rfl hlist hitem (fun w hw => hobjects w (.item hlist hitem hw))
      child hread fun n hn => hnodes n (.inside hchild hn)

end Mapping

/-! ## Reading what is written -/

namespace Node

/-- A field that is left out when it is absent has a property exactly if its value, when there is
one, gives it. -/
theorem forall_mem_entry? (key : String) (v : Option Value) (P : String × Value → Prop) :
    (∀ e ∈ entry? key v, P e) ↔ ∀ w, v = some w → P (key, w) := by
  cases v <;> simp [ entry?]

/-- The field with the key of an entry reads its value as it is. -/
def Keeps (e : String × Value) : Prop :=
  ∃ field, recordFields.find? (·.key = e.1) = some field ∧ field.conform shape e.2 = .ok e.2

/-- A mark that is written is read as it is. -/
theorem keeps_of_mem_skipEntry {skip : Bool} : ∀ e ∈ skipEntry skip, Keeps e := by
  cases skip with
  | false => exact fun e he => absurd he List.not_mem_nil
  | true => exact fun e he => List.mem_singleton.1 he ▸ ⟨.optional "skip" .boolean, rfl, rfl⟩

/-- Each entry of the object of a node is read as it is, if its children are. -/
theorem keeps_of_mem_toValue {n : Node} (hentries : n.toValue = .object entries)
    (hchildren : Shape.conformItems shape shape (toValues n.children) = .ok (toValues n.children)) :
    ∀ e ∈ entries, Keeps e := by
  obtain ⟨name, start, stop, children, tokenType, skip, error, value⟩ := n
  have hlist : Keeps ("children", .array (toValues children)) :=
    ⟨.optional "children" .siblings, rfl,
      (Shape.conform_siblings_eq_ok_iff ..).2
        ⟨_, _, rfl, rfl, (Shape.conformItems_eq_ok_iff ..).1 hchildren⟩⟩
  have hname : Keeps ("name", .string name) := ⟨.required "name" .text, rfl, rfl⟩
  have hstart : Keeps ("start", .ofNat start) := ⟨.required "start" .offset, rfl, rfl⟩
  have hstop : Keeps ("end", .ofNat stop) := ⟨.required "end" .offset, rfl, rfl⟩
  have htokenType : ∀ w, tokenType.map Value.string = some w → Keeps ("tokenType", w) := by
    intro w hw
    obtain ⟨text, -, rfl⟩ := Option.map_eq_some_iff.1 hw
    exact ⟨.nullable "tokenType" .text, rfl, rfl⟩
  have herror : ∀ w, error.map Value.string = some w → Keeps ("error", w) := by
    intro w hw
    obtain ⟨message, -, rfl⟩ := Option.map_eq_some_iff.1 hw
    exact ⟨.nullable "error" .text, rfl, rfl⟩
  have hvalue : ∀ w, value = some w → Keeps ("value", w) := by
    rintro w -
    exact ⟨.nullable "value" .anything, rfl, by cases w <;> rfl⟩
  rw [toValue, Value.object.injEq] at hentries
  subst hentries
  have hspan : ∀ e ∈ [("children", Value.array (toValues children)), ("end", .ofNat stop)],
      Keeps e :=
    List.forall_mem_cons.2 ⟨hlist, List.forall_mem_singleton.2 hstop⟩
  simp only [List.forall_mem_append, List.forall_mem_singleton, forall_mem_entry?]
  exact ⟨⟨⟨⟨⟨⟨hspan, herror⟩, hname⟩, keeps_of_mem_skipEntry⟩, hstart⟩, htokenType⟩, hvalue⟩

/-- One step: the object of a node is read as it is if its children are. -/
theorem conform_toValue_of_children {n : Node}
    (h : Shape.conformItems shape shape (toValues n.children) = .ok (toValues n.children)) :
    shape.conform shape n.toValue = .ok n.toValue := by
  obtain ⟨entries, hentries⟩ := n.exists_toValue
  rw [hentries, shape_eq, Shape.conform_record_object_eq_ok_iff]
  refine ⟨entries, Shape.conformEntries_eq_self (keeps_of_mem_toValue hentries h), ?_, rfl⟩
  have hthere : ∀ key, Entries.get? entries key = n.field? key := by
    intro key
    rw [← get?_toValue, hentries, Value.get?]
  rw [Field.firstMissing?_eq_none_iff]
  simp only [hthere]
  simp [recordFields, Field.required, Field.optional, Field.nullable, Field.isRequired, Field.key,
    field?]

mutual

/-- The object of a tree is read as it is. -/
theorem conform_toValue (t : Node) : shape.conform shape t.toValue = .ok t.toValue := by
  cases t with
  | mk name start stop children tokenType skip error value =>
    exact conform_toValue_of_children (conformItems_toValues children)

/-- The objects of trees are read as they are. -/
theorem conformItems_toValues (ts : List Node) :
    Shape.conformItems shape shape (toValues ts) = .ok (toValues ts) := by
  cases ts with
  | nil => rw [toValues, Shape.conformItems]
  | cons t rest =>
    rw [toValues, Shape.conformItems, conform_toValue t, conformItems_toValues rest]
    rfl

end

theorem toValues_eq (ts : List Node) : toValues ts = ts.map toValue := by
  induction ts with
  | nil => rfl
  | cons t rest ih => rw [toValues, ih, List.map_cons]

/-- A text is read where it is bound. -/
theorem textAt?_of_get? {v : Value} {key : String} {text : Option String}
    (h : v.get? key = text.map .string) : v.textAt? key = text := by
  rw [Value.textAt?, h]
  cases text <;> rfl

/-- A mark is set exactly where it is bound. -/
theorem boolAt_of_get? {v : Value} {key : String} {mark : Bool}
    (h : v.get? key = if mark then some (.bool true) else none) : v.boolAt key = mark := by
  rw [Value.boolAt, h]
  cases mark <;> rfl

/-- Read strictly, the object of a node is the node itself, but for a value that is null and for
what becomes of its children. -/
theorem ofNormal_toValue (n : Node) :
    ofNormal n.toValue =
      { n with
        children := n.children.map fun child => ofNormal child.toValue
        value := present? n.value } := by
  obtain ⟨entries, hentries⟩ := n.exists_toValue
  have hthere : ∀ key, (Value.object entries).get? key = n.field? key := by
    intro key
    rw [← get?_toValue, hentries]
  have htokenType : (Value.object entries).textAt? "tokenType" = n.tokenType :=
    textAt?_of_get? (hthere "tokenType")
  have hskip : (Value.object entries).boolAt "skip" = n.skip := boolAt_of_get? (hthere "skip")
  have herror : (Value.object entries).textAt? "error" = n.error :=
    textAt?_of_get? (hthere "error")
  rw [hentries, ofNormal_object, htokenType, hskip, herror, hthere, Value.textAt, Value.offsetAt,
    Value.offsetAt, Value.itemsAt, hthere, hthere, hthere, hthere]
  simp only [field?, toValues_eq, List.map_map]
  rfl

/-- One step: a node is read again if its value is not null and its children are read again. -/
theorem ofNormal_toValue_eq_self_iff_of_children (n : Node) :
    ofNormal n.toValue = n ↔
      n.value ≠ some .null ∧ ∀ child ∈ n.children, ofNormal child.toValue = child := by
  have hlist : n.children.map (fun child => ofNormal child.toValue) = n.children ↔
      ∀ child ∈ n.children, ofNormal child.toValue = child := by
    simpa using
      List.map_inj_left (l := n.children) (f := fun child => ofNormal child.toValue) (g := id)
  rw [ofNormal_toValue, ← present?_eq_self_iff, ← hlist]
  cases n
  simp [and_comm]

mutual

/-- A tree is read again exactly if none of its values is null. -/
theorem ofNormal_toValue_eq_self_iff (t : Node) :
    ofNormal t.toValue = t ↔ ∀ n : Node, n.Within t → n.value ≠ some .null := by
  rw [ofNormal_toValue_eq_self_iff_of_children, forall_within_iff]
  cases t with
  | mk name start stop children tokenType skip error value =>
    exact and_congr_right' (forall_ofNormal_toValue_eq_self_iff children)

/-- Trees are read again exactly if none of their values is null. -/
theorem forall_ofNormal_toValue_eq_self_iff (ts : List Node) :
    (∀ t ∈ ts, ofNormal t.toValue = t) ↔
      ∀ t ∈ ts, ∀ n : Node, n.Within t → n.value ≠ some .null := by
  cases ts with
  | nil => simp
  | cons t rest =>
    rw [List.forall_mem_cons, List.forall_mem_cons, ofNormal_toValue_eq_self_iff t,
      forall_ofNormal_toValue_eq_self_iff rest]

end

/-- Reading what is written for a tree strictly gives the tree exactly when none of its values is
null. -/
theorem ofValue_toValue_eq_ok_iff (t : Node) :
    ofValue t.toValue = .ok t ↔ ∀ n : Node, n.Within t → n.value ≠ some .null := by
  rw [ofValue_eq_ok_iff, ← ofNormal_toValue_eq_self_iff]
  simp [conform_toValue, eq_comm]

end Node

/-! ## The two readers -/

/-- A tree that is read strictly from objects is read through the canonical keys exactly if each
of its nodes is upright and has no empty error, and it is written and read strictly again exactly
if none of its values is null. -/
theorem readers_agree (v : Value) (t : Node) :
    ((∀ w, Mapping.identity.Reads v w → ∃ entries, w = .object entries) →
      Node.ofValue v = .ok t →
      (Mapping.identity.mapTree v = .ok t ↔
        ∀ n : Node, n.Within t → n.start ≤ n.stop ∧ n.error ≠ some "")) ∧
    (Node.ofValue t.toValue = .ok t ↔ ∀ n : Node, n.Within t → n.value ≠ some .null) := by
  refine ⟨fun hobjects hread => ⟨fun hmapped n hn => ?_, ?_⟩, t.ofValue_toValue_eq_ok_iff⟩
  · have hcanonical := Mapping.canonical_of_mapTree hmapped n hn
    exact ⟨hcanonical.upright, hcanonical.error⟩
  · exact Mapping.mapTree_of_ofValue v hobjects t hread

/-- A literal with a field that no node has, an error that is null and no list of children. -/
def writtenLiteral : Value :=
  .object [("end", .ofNat 1), ("error", .null), ("line", .ofNat 1), ("name", .string "Literal"),
    ("start", .ofNat 0), ("value", .ofNat 7)]

/-- A negation of the literal, with a mark that is not set. -/
def writtenNegation : Value :=
  .object [("children", .array [writtenLiteral]), ("end", .ofNat 1), ("name", .string "Negate"),
    ("skip", .bool false), ("start", .ofNat 0), ("tokenType", .null)]

/-- The tree of the negation. -/
def negation : Node :=
  ⟨"Negate", 0, 1, [⟨"Literal", 0, 1, [], none, false, none, some (.ofNat 7)⟩], none, false, none,
    none⟩

/-- The negation is read in both ways, and again once it has been written. -/
theorem readers_agree_of_negation :
    Node.ofValue writtenNegation = .ok negation ∧
      Mapping.identity.mapTree writtenNegation = .ok negation ∧
      Node.ofValue negation.toValue = .ok negation := by
  have hread : Node.ofValue writtenNegation = .ok negation := by rfl
  have hobjects :
      ∀ w, Mapping.identity.Reads writtenNegation w → ∃ entries, w = .object entries := by
    intro w hw
    cases hw with
    | self => exact ⟨_, rfl⟩
    | item hlist hitem hw =>
      obtain rfl : [writtenLiteral] = _ := Value.array.inj (Option.some.inj hlist)
      obtain rfl := List.mem_singleton.1 hitem
      cases hw with
      | self => exact ⟨_, rfl⟩
      | item hlist _ _ => cases (show none = _ from hlist)
  have hnodes : ∀ n : Node, n.Within negation → n.Canonical :=
    (Node.mended_eq_self_iff _).1 (by rfl)
  obtain ⟨hmapped, hagain⟩ := readers_agree writtenNegation negation
  exact ⟨hread,
    (hmapped hobjects hread).2 fun n hn => ⟨(hnodes n hn).upright, (hnodes n hn).error⟩,
    hagain.2 fun n hn => (hnodes n hn).value⟩

end GrammarDesk.Tree
