import Mathlib.Data.List.Forall2
import GrammarDesk.Json.Shape
import GrammarDesk.Proofs.Json.Entries

/-!
# Records that are read from values

A record takes from an object what stands there under the keys of its fields, each value as its
field reads it, and passes over everything else.  From a list it takes the values in the order of
its fields, from the first on.  Either can be read exactly when every value that is taken can be
read and no field is left out that has to be there.

Main definitions:

- `Field.conform`: a value as a field reads it.
- `Field.NoneRequired`: fields that may all be left out.

Main results:

- `Shape.exists_conformEntries_iff`, `Shape.get?_of_conformEntries`: the objects whose entries can
  be read, and what is found in the entries that are read.
- `Shape.conform_record_object_eq_ok_iff`: the objects that can be read as a record.
- `Shape.conformEntries_eq_self`: the entries that are read as they are.
- `Shape.exists_conformFields_iff`: the lists that can be read as fields.
-/

namespace GrammarDesk.Json

variable {outer : Shape} {fields : List Field} {field : Field} {key : String} {v w : Value}

/-! ## Single fields -/

/-- The value as the field reads it, in normal form, or its first fault. -/
def Field.conform (outer : Shape) (field : Field) (v : Value) : Except Fault Value :=
  if field.isNullable && v.isNull then .ok .null else Shape.conform outer field.shape v

/-- None of the fields has to be there. -/
def Field.NoneRequired (fields : List Field) : Prop := ∀ field ∈ fields, field.isRequired = false

theorem Field.NoneRequired.complete (h : NoneRequired fields) (entries : Entries) :
    Shape.complete fields entries = .ok (.object entries) := by
  have hmissing : firstMissing? fields entries = none := by
    rw [firstMissing?, List.find?_eq_none]
    intro field hfield
    simp [h field hfield]
  rw [Shape.complete, hmissing]

/-- A field that has to be there reads what its shape reads. -/
theorem Field.conform_required (outer : Shape) (key : String) (shape : Shape) (v : Value) :
    (required key shape).conform outer v = Shape.conform outer shape v :=
  rfl

/-- A field with a default reads what its shape reads. -/
theorem Field.conform_optional (outer : Shape) (key : String) (shape : Shape) (v : Value) :
    (optional key shape).conform outer v = Shape.conform outer shape v :=
  rfl

/-- A field that may be null reads null as it is, and all else as its shape reads it. -/
theorem Field.conform_nullable_eq_ok_iff (outer : Shape) (key : String) (shape : Shape)
    (v w : Value) :
    (nullable key shape).conform outer v = .ok w ↔
      v = .null ∧ w = .null ∨ v ≠ .null ∧ Shape.conform outer shape v = .ok w := by
  cases v <;> simp [Field.conform, nullable, isNullable, Value.isNull, Field.shape, eq_comm]

/-- Nothing is missing when every field is there that has to be. -/
theorem Field.firstMissing?_eq_none_iff (fields : List Field) (entries : Entries) :
    firstMissing? fields entries = none ↔
      ∀ field ∈ fields, field.isRequired = true → Entries.get? entries field.key ≠ none := by
  simp [firstMissing?, List.find?_eq_none]

theorem Field.requiredIndex?_eq_none_iff (fields : List Field) :
    requiredIndex? fields = none ↔ NoneRequired fields := by
  rw [requiredIndex?, List.findIdx?_eq_none_iff, NoneRequired]

namespace Shape

/-- A text is read from a text alone, and as it is. -/
theorem conform_text_eq_ok_iff (outer : Shape) (v w : Value) :
    conform outer .text v = .ok w ↔ ∃ s, v = .string s ∧ w = .string s := by
  cases v <;> simp [conform, wrongKind, eq_comm]

/-- A truth value is read from a truth value alone, and as it is. -/
theorem conform_boolean_eq_ok_iff (outer : Shape) (v w : Value) :
    conform outer .boolean v = .ok w ↔ ∃ b, v = .bool b ∧ w = .bool b := by
  cases v <;> simp [conform, wrongKind, eq_comm]

/-- An offset is read from a natural number alone, and as it is. -/
theorem conform_offset_eq_ok_iff (outer : Shape) (v w : Value) :
    conform outer .offset v = .ok w ↔ ∃ n, v = .ofNat n ∧ w = .ofNat n := by
  cases v with
  | number n => cases n <;> simp [conform, conformNumber, Value.ofNat, eq_comm]
  | _ => simp [conform, wrongKind, Value.ofNat]

/-- The items of a list are read one by one. -/
theorem conformItems_eq_ok_iff (outer shape : Shape) (vs ws : List Value) :
    conformItems outer shape vs = .ok ws ↔
      List.Forall₂ (fun v w => conform outer shape v = .ok w) vs ws := by
  induction vs generalizing ws with
  | nil =>
    rw [conformItems, Except.ok.injEq, List.forall₂_nil_left_iff]
    exact eq_comm
  | cons v rest ih =>
    rw [conformItems, List.forall₂_cons_left_iff]
    simp only [← ih]
    cases conform outer shape v with
    | error fault => simp [bind, Except.bind]
    | ok w =>
      cases conformItems outer shape rest with
      | error fault => simp [bind, Except.bind]
      | ok others => simp [bind, Except.bind, eq_comm]

/-- Records like the one around them are read from a list, one by one. -/
theorem conform_siblings_eq_ok_iff (outer : Shape) (v w : Value) :
    conform outer .siblings v = .ok w ↔
      ∃ items ws, v = .array items ∧ w = .array ws ∧
        List.Forall₂ (fun v w => conform outer outer v = .ok w) items ws := by
  cases v with
  | array items =>
    simp only [conform, ← conformItems_eq_ok_iff, Value.array.injEq]
    cases hitems : conformItems outer outer items <;> simp [bind, Except.bind, hitems, eq_comm]
  | _ => simp [conform, wrongKind]

/-! ## Objects -/

/-- An entry is read as the field with its key reads it, and passed over if there is none. -/
theorem conformEntry_eq_ok_iff (first : Option (String × Value)) :
    conformEntry outer fields (key, v) = .ok first ↔
      (fields.find? (·.key = key) = none ∧ first = none) ∨
      ∃ field w, fields.find? (·.key = key) = some field ∧ field.conform outer v = .ok w ∧
        first = some (key, w) := by
  rw [conformEntry]
  cases fields.find? (·.key = key) with
  | none => simp [eq_comm]
  | some field =>
    have hread : (if field.isNullable && v.isNull then .ok (some (key, .null))
        else do
          let v ← conform outer field.shape v
          .ok (some (key, v))) = (field.conform outer v).map fun w => some (key, w) := by
      rw [Field.conform]
      split <;> rfl
    simp only [hread]
    cases hconform : field.conform outer v <;> simp [Except.map, hconform, eq_comm]

/-- The entries are read one after the other. -/
theorem conformEntries_cons_eq_ok_iff (e : String × Value) (rest read : Entries) :
    conformEntries outer fields (e :: rest) = .ok read ↔
      ∃ first others, conformEntry outer fields e = .ok first ∧
        conformEntries outer fields rest = .ok others ∧ read = first.toList ++ others := by
  rw [conformEntries]
  cases conformEntry outer fields e with
  | error fault => simp [bind, Except.bind]
  | ok first =>
    cases conformEntries outer fields rest with
    | error fault => simp [bind, Except.bind]
    | ok others => simp [bind, Except.bind, eq_comm]

/-- The entries of an object can be read exactly when each of them that is a field can. -/
theorem exists_conformEntries_iff (outer : Shape) (fields : List Field) (es : Entries) :
    (∃ read, conformEntries outer fields es = .ok read) ↔
      ∀ e ∈ es, ∀ field, fields.find? (·.key = e.1) = some field →
        ∃ w, field.conform outer e.2 = .ok w := by
  induction es with
  | nil => simp [conformEntries]
  | cons e rest ih =>
    obtain ⟨key, v⟩ := e
    have hfirst : (∃ first, conformEntry outer fields (key, v) = .ok first) ↔
        ∀ field, fields.find? (·.key = key) = some field → ∃ w, field.conform outer v = .ok w := by
      simp only [conformEntry_eq_ok_iff]
      cases fields.find? (·.key = key) <;> simp
    rw [List.forall_mem_cons, ← ih, ← hfirst]
    simp only [conformEntries_cons_eq_ok_iff]
    constructor
    · rintro ⟨_, first, others, hentry, hrest, -⟩
      exact ⟨⟨first, hentry⟩, others, hrest⟩
    · rintro ⟨⟨first, hentry⟩, others, hrest⟩
      exact ⟨_, first, others, hentry, hrest, rfl⟩

/-- What is found under the key of a field is what the object has there, as the field reads it. -/
theorem get?_of_conformEntries {es read : Entries} (h : conformEntries outer fields es = .ok read)
    (hfield : fields.find? (·.key = key) = some field) :
    Option.Rel (fun v w => field.conform outer v = .ok w) (Entries.get? es key)
      (Entries.get? read key) := by
  induction es generalizing read with
  | nil =>
    rw [conformEntries, Except.ok.injEq] at h
    subst h
    exact .none
  | cons e rest ih =>
    obtain ⟨name, v⟩ := e
    obtain ⟨first, others, hentry, hrest, rfl⟩ := (conformEntries_cons_eq_ok_iff _ _ _).1 h
    rw [Entries.get?_cons]
    rcases (conformEntry_eq_ok_iff first).1 hentry with
      ⟨hnone, rfl⟩ | ⟨other, w, hother, hread, rfl⟩
    · have hkey : key ≠ name := by
        rintro rfl
        rw [hfield] at hnone
        cases hnone
      rw [if_neg hkey]
      exact ih hrest
    · rw [Option.toList_some, List.singleton_append, Entries.get?_cons]
      split
      case isTrue hkey =>
        subst hkey
        obtain rfl : field = other := Option.some.inj (hfield.symm.trans hother)
        exact .some hread
      case isFalse => exact ih hrest

/-- Under the key of a field that has to be there stands a value in both objects, if nothing is
missing. -/
theorem exists_get?_of_conformEntries {es read : Entries}
    (h : conformEntries outer fields es = .ok read)
    (hmissing : Field.firstMissing? fields read = none)
    (hfield : fields.find? (·.key = key) = some field) (hrequired : field.isRequired = true) :
    ∃ v w, Entries.get? es key = some v ∧ Entries.get? read key = some w ∧
      field.conform outer v = .ok w := by
  have hkey : field.key = key := by simpa using List.find?_some hfield
  have hthere := (Field.firstMissing?_eq_none_iff fields read).1 hmissing field
    (List.mem_of_find?_eq_some hfield) hrequired
  rw [hkey] at hthere
  have hrel := get?_of_conformEntries h hfield
  generalize Entries.get? es key = bound at hrel ⊢
  generalize Entries.get? read key = found at hrel hthere ⊢
  cases hrel with
  | none => exact absurd rfl hthere
  | some hread => exact ⟨_, _, rfl, rfl, hread⟩

/-- An object is read entry by entry if no field has to be there. -/
theorem conform_record_object {name : String} (hfields : Field.NoneRequired fields)
    (es : Entries) :
    conform outer (.record name fields) (.object es) =
      (conformEntries (.record name fields) fields es).map .object := by
  rw [conform]
  cases conformEntries (.record name fields) fields es with
  | error fault => rfl
  | ok read => exact hfields.complete read

/-- Entries that are all fields, and each of them as its field reads it, are read as they are. -/
theorem conformEntries_eq_self {es : Entries} (h : ∀ e ∈ es, ∃ field,
    fields.find? (·.key = e.1) = some field ∧ field.conform outer e.2 = .ok e.2) :
    conformEntries outer fields es = .ok es := by
  induction es with
  | nil => rw [conformEntries]
  | cons e rest ih =>
    obtain ⟨⟨field, hfield, hread⟩, hrest⟩ := List.forall_mem_cons.1 h
    have hentry : conformEntry outer fields e = .ok (some e) :=
      (conformEntry_eq_ok_iff (some e)).2 (.inr ⟨field, e.2, hfield, hread, rfl⟩)
    exact (conformEntries_cons_eq_ok_iff e rest _).2 ⟨some e, rest, hentry, ih hrest, rfl⟩

/-- An object is read as a record when its entries are read and none is left out that has to be
there. -/
theorem conform_record_object_eq_ok_iff {name : String} (es : Entries) :
    conform outer (.record name fields) (.object es) = .ok w ↔
      ∃ read, conformEntries (.record name fields) fields es = .ok read ∧
        Field.firstMissing? fields read = none ∧ w = .object read := by
  rw [conform]
  cases conformEntries (.record name fields) fields es with
  | error fault => simp [bind, Except.bind]
  | ok read =>
    have hcomplete : complete fields read = .ok w ↔
        Field.firstMissing? fields read = none ∧ w = .object read := by
      rw [complete]
      cases Field.firstMissing? fields read <;> simp [eq_comm]
    simpa [bind, Except.bind] using hcomplete

/-! ## Lists -/

/-- A list can be read as the fields of a record exactly when it is not longer than they are, each
of its values can be read as its field, and none of the fields after them has to be there. -/
theorem exists_conformFields_iff (outer : Shape) (record : String × List Field) (count total : Nat)
    (fields : List Field) (read : Entries) (vs : List Value) :
    (∃ w, conformFields outer record count total fields read vs = .ok w) ↔
      vs.length ≤ fields.length ∧
      (∀ p ∈ fields.zip vs, ∃ w, p.1.conform outer p.2 = .ok w) ∧
      Field.NoneRequired (fields.drop vs.length) := by
  induction vs generalizing count fields read with
  | nil =>
    rw [conformFields, List.length_nil, List.drop_zero, ← Field.requiredIndex?_eq_none_iff]
    cases Field.requiredIndex? fields <;> simp
  | cons v rest ih =>
    cases fields with
    | nil => simp [conformFields]
    | cons field others =>
      have hstep : conformFields outer record count total (field :: others) read (v :: rest) =
          (field.conform outer v).bind fun w =>
            conformFields outer record (count + 1) total others (Entries.insert field.key w read)
              rest := by
        rw [conformFields, Field.conform]
        split <;> rfl
      rw [hstep, List.zip_cons_cons, List.forall_mem_cons, List.length_cons, List.length_cons,
        List.drop_succ_cons, Nat.succ_le_succ_iff]
      cases hread : field.conform outer v with
      | error fault => simp [Except.bind]
      | ok w => simp [Except.bind, ih]

end Shape

end GrammarDesk.Json
