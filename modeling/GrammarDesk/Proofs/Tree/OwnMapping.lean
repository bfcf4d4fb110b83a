import GrammarDesk.Proofs.Json.Conform
import GrammarDesk.Proofs.Tree.Answer
import GrammarDesk.Proofs.Tree.Encoding

/-!
# Answers with a mapping of their own

An answer may carry a mapping beside its value.  The value is then read through that mapping alone:
a field for which the mapping names no key is looked up under the field's own name, and never under
the key that the plugin's mapping names.  The mapping is judged before the value, so what is wrong
with it is reported whatever the value is.

Main definitions:

- `Mapping.BindsTexts`, `Mapping.Written`: the objects, and all values, that write a mapping.

Main results:

- `Mapping.ofValue_object`: the mapping that an object writes.
- `Mapping.ofValue_toValue`: what is written for a mapping is read as that mapping.
- `Mapping.exists_ofValue_iff`: exactly these values can be read as a mapping.
- `normalize_own_mapping`: what becomes of an answer with a mapping of its own.
-/

namespace GrammarDesk.Tree

open Json

namespace Mapping

variable {m : Mapping} {entries : Entries} {v : Value}

/-- No key is bound to anything but a text. -/
def BindsTexts (entries : Entries) : Prop :=
  ∀ e ∈ entries, e.1 ∈ identity.keys → ∃ s, e.2 = .string s

/-- The value writes a mapping: an object that binds the names of fields to texts alone, or the list
of the first keys. -/
inductive Written : Value → Prop where
  | object {entries : Entries} (h : BindsTexts entries) : Written (.object entries)
  | list {items : List Value} (hlength : items.length ≤ identity.keys.length)
    (htexts : ∀ item ∈ items, ∃ s, item = .string s) : Written (.array items)

/-- A mapping is determined by its keys. -/
theorem keys_injective {m other : Mapping} (h : m.keys = other.keys) : m = other := by
  cases m
  cases other
  simpa [keys] using h

/-! ## The fields of a mapping -/

/-- The fields of a mapping. -/
def fieldsOf (names : List String) : List Field := names.map fun key => .optional key .text

theorem shape_eq : shape = .record "FieldMapping" (fieldsOf identity.keys) := rfl

/-- Every key of a mapping may be left out. -/
theorem noneRequired_fieldsOf (names : List String) : Field.NoneRequired (fieldsOf names) := by
  intro field hfield
  obtain ⟨key, -, rfl⟩ := List.mem_map.1 hfield
  rfl

/-- The fields of a mapping are texts under its own names. -/
theorem find?_fieldsOf (names : List String) (key : String) :
    (fieldsOf names).find? (·.key = key) =
      if key ∈ names then some (.optional key .text) else none := by
  induction names with
  | nil => rfl
  | cons name names ih =>
    rw [fieldsOf, List.map_cons, List.find?_cons, ← fieldsOf, ih]
    by_cases hkey : name = key
    · subst hkey
      simp [Field.optional, Field.key]
    · simp [Field.optional, Field.key, hkey, Ne.symm hkey]

/-- A field that is there has to be a text. -/
theorem conform_optional_text (outer : Shape) (key : String) (v w : Value) :
    (Field.optional key .text).conform outer v = .ok w ↔ ∃ s, v = .string s ∧ w = .string s :=
  Shape.conform_text_eq_ok_iff outer v w

/-- The entries of an object are read as those of a mapping exactly if they bind texts to its keys.
-/
theorem exists_conformEntries_iff (outer : Shape) (entries : Entries) :
    (∃ read, Shape.conformEntries outer (fieldsOf identity.keys) entries = .ok read) ↔
      BindsTexts entries := by
  rw [Shape.exists_conformEntries_iff, BindsTexts]
  refine forall₂_congr fun e he => ?_
  rw [find?_fieldsOf]
  by_cases hkey : e.1 ∈ identity.keys
  · simp [hkey, conform_optional_text]
  · simp [hkey]

/-- A text is found in the entries that are read where the object binds it. -/
theorem textAt_of_conformEntries {outer : Shape} {read : Entries} {key : String}
    (h : Shape.conformEntries outer (fieldsOf identity.keys) entries = .ok read)
    (hkey : key ∈ identity.keys) (default : String) :
    (Value.object read).textAt key default = (Value.object entries).textAt key default := by
  have hrel := Shape.get?_of_conformEntries h
    ((find?_fieldsOf identity.keys key).trans (if_pos hkey))
  simp only [conform_optional_text] at hrel
  rw [Value.textAt, Value.textAt, Value.get?, Value.get?]
  revert hrel
  generalize Entries.get? entries key = bound
  generalize Entries.get? read key = found
  rintro (⟨s, rfl, rfl⟩ | _)
  · rfl
  · rfl

/-! ## Values that write a mapping -/

/-- A mapping is read from the entries of an object. -/
theorem ofValue_object_eq (entries : Entries) :
    ofValue (.object entries) =
      (Shape.conformEntries shape (fieldsOf identity.keys) entries).map
        fun read => ofNormal (.object read) := by
  rw [ofValue, Shape.check, shape_eq, Shape.conform_record_object (noneRequired_fieldsOf _)]
  cases Shape.conformEntries _ (fieldsOf identity.keys) entries <;> rfl

/-- The mapping that an object writes has the texts that the object binds to the names of the
fields, and for each field that the object does not bind the name itself. -/
theorem ofValue_object (h : BindsTexts entries) :
    ∃ m, ofValue (.object entries) = .ok m ∧
      m.keys = identity.keys.map fun key => (Value.object entries).textAt key key := by
  obtain ⟨read, hread⟩ := (exists_conformEntries_iff shape entries).2 h
  refine ⟨ofNormal (.object read), ?_, ?_⟩
  · rw [ofValue_object_eq, hread]
    rfl
  · have hkeys : (ofNormal (.object read)).keys =
        identity.keys.map fun key => (Value.object read).textAt key key := rfl
    rw [hkeys]
    exact List.map_congr_left fun key hkey => textAt_of_conformEntries hread hkey key

/-- What is written for a mapping binds texts to its keys. -/
theorem bindsTexts_toValue (m : Mapping) : ∃ entries, m.toValue = .object entries ∧
    BindsTexts entries := by
  refine ⟨_, rfl, ?_⟩
  simp [BindsTexts]

/-- What is written for a mapping is read as that mapping. -/
theorem ofValue_toValue (m : Mapping) : ofValue m.toValue = .ok m := by
  obtain ⟨entries, hentries, htexts⟩ := m.bindsTexts_toValue
  obtain ⟨read, hread, hkeys⟩ := ofValue_object htexts
  have hsame : read.keys = m.keys := by
    rw [hkeys, ← hentries]
    rfl
  rw [hentries, hread, keys_injective hsame]

/-- The items of an array fit the fields in their order exactly if they are texts. -/
theorem forall_mem_zip_fieldsOf {names : List String} {items : List Value}
    (hlength : items.length ≤ names.length) (outer : Shape) :
    (∀ p ∈ (fieldsOf names).zip items, ∃ w, p.1.conform outer p.2 = .ok w) ↔
      ∀ item ∈ items, ∃ s, item = .string s := by
  have hfields : ∀ field ∈ fieldsOf names, ∀ item,
      (∃ w, field.conform outer item = .ok w) ↔ ∃ s, item = .string s := by
    intro field hfield item
    obtain ⟨key, -, rfl⟩ := List.mem_map.1 hfield
    simp [conform_optional_text]
  have hsnd : ((fieldsOf names).zip items).map Prod.snd = items :=
    List.map_snd_zip (by rwa [fieldsOf, List.length_map])
  constructor
  · intro h item hitem
    rw [← hsnd] at hitem
    obtain ⟨p, hp, rfl⟩ := List.mem_map.1 hitem
    exact (hfields p.1 (List.of_mem_zip hp).1 p.2).1 (h p hp)
  · intro h p hp
    obtain ⟨hfield, hitem⟩ := List.of_mem_zip hp
    exact (hfields p.1 hfield p.2).2 (h p.2 hitem)

/-- An array stands for a mapping exactly if it holds texts, and not more of them than there are
keys. -/
theorem exists_conform_array_iff (items : List Value) :
    (∃ w, shape.conform shape (.array items) = .ok w) ↔
      items.length ≤ identity.keys.length ∧ ∀ item ∈ items, ∃ s, item = .string s := by
  have hlength : (fieldsOf identity.keys).length = identity.keys.length := List.length_map _
  have hdrop : Field.NoneRequired ((fieldsOf identity.keys).drop items.length) :=
    fun field hfield => noneRequired_fieldsOf _ field (List.mem_of_mem_drop hfield)
  rw [shape_eq, Shape.conform, Shape.exists_conformFields_iff, hlength]
  refine and_congr_right fun hle => ?_
  rw [forall_mem_zip_fieldsOf hle, and_iff_left hdrop]

theorem exists_ofValue_iff_conform (v : Value) :
    (∃ m, ofValue v = .ok m) ↔ ∃ w, shape.conform shape v = .ok w := by
  rw [ofValue, Shape.check]
  cases shape.conform shape v <;> simp [Except.map]

/-- Exactly the values that write a mapping can be read as one. -/
theorem exists_ofValue_iff (v : Value) : (∃ m, ofValue v = .ok m) ↔ Written v := by
  constructor
  · intro h
    cases v with
    | object entries =>
      obtain ⟨m, hm⟩ := h
      rw [ofValue_object_eq] at hm
      cases hread : Shape.conformEntries shape (fieldsOf identity.keys) entries with
      | error fault => simp [hread, Except.map] at hm
      | ok read => exact .object ((exists_conformEntries_iff shape entries).1 ⟨read, hread⟩)
    | array items =>
      obtain ⟨hlength, htexts⟩ :=
        (exists_conform_array_iff items).1 ((exists_ofValue_iff_conform _).1 h)
      exact .list hlength htexts
    | _ =>
      obtain ⟨m, hm⟩ := h
      cases hm
  · intro h
    cases h with
    | object h =>
      obtain ⟨m, hm, -⟩ := ofValue_object h
      exact ⟨m, hm⟩
    | list hlength htexts =>
      exact (exists_ofValue_iff_conform _).2
        ((exists_conform_array_iff _).2 ⟨hlength, htexts⟩)

end Mapping

/-! ## Answers -/

/-- An answer that carries a value and a mapping beside it is read through that mapping, whatever
else it carries and whatever the plugin's mapping is.  A mapping that was written as its own object
is used as it was; in an object that binds texts to some of the fields' names, each field that is
not bound is looked up under its own name.  A null in the place of the mapping is a missing mapping,
and anything else that writes no mapping fails with its own fault, whatever the value is. -/
theorem normalize_own_mapping {v source written : Value} (h : Carries v source written)
    (own : Mapping) :
    (∀ m : Mapping, written = m.toValue → normalize (.ofJson v) own = m.mapTree source) ∧
    (∀ entries, written = .object entries → Mapping.BindsTexts entries →
      ∃ m : Mapping,
        m.keys = Mapping.identity.keys.map (fun key => written.textAt key key) ∧
        normalize (.ofJson v) own = m.mapTree source) ∧
    (written = .null → normalize (.ofJson v) own = .error .missingMapping) ∧
    (written ≠ .null → ¬ Mapping.Written written →
      ∃ fault, Mapping.ofValue written = .error fault ∧
        normalize (.ofJson v) own = .error (.json fault)) := by
  have hcarried : ∀ m, Mapping.ofValue written = .ok m →
      normalize (.ofJson v) own = m.mapTree source :=
    fun m hm => normalize_of_delivers (.carried h hm)
  refine ⟨?_, ?_, ?_, fun hnull hwritten => ?_⟩
  · rintro m rfl
    exact hcarried m m.ofValue_toValue
  · rintro entries rfl htexts
    obtain ⟨m, hm, hkeys⟩ := Mapping.ofValue_object htexts
    exact ⟨m, hkeys, hcarried m hm⟩
  · rintro rfl
    exact normalize_of_carries_null h
  · cases hread : Mapping.ofValue written with
    | ok m => exact absurd ((Mapping.exists_ofValue_iff written).1 ⟨m, hread⟩) hwritten
    | error fault =>
      exact ⟨fault, rfl, normalize_of_misdelivers ⟨source, written, h, hnull, hread⟩⟩

/-- A missing operand with a place that is named as the nested keys name it. -/
def placedOperand : Value := .object [("from", .ofNat 2), ("name", .string "Missing")]

/-- A sum over this operand, beside a mapping that names the key of the operands alone and has a
note, and beside a remark. -/
def remarkedSum : Value :=
  .object [
    ("json", .object [("name", .string "Add"), ("operands", .array [placedOperand])]),
    ("mapping", .object [("children", .string "operands"), ("note", .null)]),
    ("remark", .bool true)]

/-- The operand is found, but its place is not, although the plugin's mapping names the key. -/
theorem normalize_own_mapping_of_remarks :
    normalize (.ofJson remarkedSum) .nested =
      .ok ⟨"Add", 0, 0, [.leaf "Missing" 0 0], none, false, none, none⟩ := by
  have hcarries : Carries remarkedSum
      (.object [("name", .string "Add"), ("operands", .array [placedOperand])])
      (.object [("children", .string "operands"), ("note", .null)]) := ⟨rfl, rfl⟩
  have htexts : Mapping.BindsTexts [("children", .string "operands"), ("note", .null)] := by
    simp [Mapping.BindsTexts, Mapping.keys, Mapping.identity]
  obtain ⟨m, hkeys, hread⟩ := (normalize_own_mapping hcarries .nested).2.1 _ rfl htexts
  obtain rfl : m = { Mapping.identity with children := "operands" } :=
    Mapping.keys_injective (hkeys.trans (by rfl))
  have hoperand : Mapping.mapTree { Mapping.identity with children := "operands" } placedOperand =
      .ok (.leaf "Missing" 0 0) := by
    rw [placedOperand, Mapping.mapTree_object]
    rfl
  rw [hread, Mapping.mapTree_object]
  change (Mapping.mapTrees _ [placedOperand]).map _ = _
  rw [Mapping.mapTrees_cons, hoperand, Mapping.mapTrees]
  rfl

end GrammarDesk.Tree
