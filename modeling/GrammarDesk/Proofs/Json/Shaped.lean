import GrammarDesk.Json.Reader.Shaped
import GrammarDesk.Proofs.Json.Legible

/-!
# Reading back records

A record is read against its shape, and the result is the value in normal form, with the entries in
order.  A shape accepts what is written for it, each entry in the place of its field; so the reader
of a record takes whatever is written entry by entry, in any order, if no required field is left
out and none is written twice.

Main definitions:

- `Shape.Accepts`: a value is read back against a shape, as a value in normal form.
- `Field.Accepts`, `Field.Fills`: a value is read back as that of a field, and an entry as that of
  one of the fields of a record.

Main results:

- `Shape.Accepts.list`, `Shape.Accepts.record`: containers of what is accepted are accepted.
- `Shape.Accepts.read`: a document that holds an accepted value is read as the normal form.
-/

namespace GrammarDesk.Json

open Scan

variable {indent depth : Nat} {outer : Shape} {v w : Value}

/-- The reader of the shape takes the spread text of `v`, as it stands in a document with its lines
`indent` steps in, for the value `w` in normal form. -/
def Shape.Accepts (shape : Shape) (indent depth : Nat) (outer : Shape) (v w : Value) : Prop :=
  Takes (fun budget => shaped budget depth outer shape) 2 (v.renderSpread indent) w

/-- The blanks before a value are passed over. -/
theorem Scan.reads_nextValue {blanks : List Char} {c : Char}
    (hblanks : blanks.all isJsonBlank = true) (hc : isJsonBlank c = false) (rest : List Char) :
    Reads nextValue (blanks ++ c :: rest) (c :: rest) c :=
  (reads_skipBlanks hblanks hc rest).bind (.pure c _)

namespace Shape.Accepts

/-! ## Single values -/

/-- A text is accepted where a text is asked for. -/
theorem text (s : String) : Accepts .text indent depth outer (.string s) (.string s) := by
  refine takes_of_succ (by decide) fun budget blanks rest hblanks hbudget hrest => ?_
  rw [Value.renderSpread, shaped, renderString_toList, List.append_assoc]
  have htext : Reads (shapedText (describe .text))
      (blanks ++ '"' :: (quoted s.toList ++ '"' :: rest)) rest s :=
    (reads_nextValue hblanks (by decide) _).bind
      ((reads_advance '"' _).bind (reads_quotation s rest))
  exact htext.bind (.pure _ rest)

/-- A truth value is accepted where one is asked for. -/
theorem boolean (b : Bool) : Accepts .boolean indent depth outer (.bool b) (.bool b) := by
  refine takes_of_succ (by decide) fun budget blanks rest hblanks hbudget hrest => ?_
  rw [Value.renderSpread, shaped]
  cases b with
  | true =>
    rw [if_pos rfl, true_toList]
    exact ((reads_nextValue hblanks (by decide) _).bind
      (reads_constant 't' "rue" true rest)).bind (.pure _ rest)
  | false =>
    rw [if_neg Bool.false_ne_true, false_toList]
    exact ((reads_nextValue hblanks (by decide) _).bind
      (reads_constant 'f' "alse" false rest)).bind (.pure _ rest)

/-- A natural number is accepted where an offset is asked for. -/
theorem offset (n : UInt64) : Accepts .offset indent depth outer (.ofNat n) (.ofNat n) := by
  refine takes_of_succ (by decide) fun budget blanks rest hblanks hbudget hrest => ?_
  obtain ⟨d, ds, hdigits, hd⟩ := exists_toDigits_eq_cons n.toNat
  have hnumber := reads_natural hrest n
  rw [hdigits, List.cons_append] at hnumber
  rw [Value.ofNat, Value.renderSpread, Number.render, Text.decimal, String.toList_ofList, hdigits,
    shaped]
  refine (reads_nextValue hblanks (IsStart.isJsonBlank_eq_false (.inr hd)) _).bind ?_
  split
  case h_1 => cases hd
  case h_2 =>
    rw [if_pos hd]
    exact hnumber.bind (.pure _ rest)

/-- Where any value is expected, what is read back is read back as it is. -/
theorem anything (h : v.Legible indent depth) : Accepts .anything indent depth outer v v := by
  refine takes_of_succ (by decide) fun budget blanks rest hblanks hbudget hrest => ?_
  rw [shaped]
  exact h budget blanks rest hblanks (by omega) hrest

/-! ## Lists -/

/-- The items of a list are read against their shape in such a loop. -/
theorem isItemLoop_shapedItems (depth : Nat) (outer shape : Shape) :
    IsItemLoop (fun budget first => shapedItems budget depth outer shape first)
      (fun budget => shaped budget depth outer shape) :=
  fun _ _ => rfl

/-- A list of what is accepted is accepted. -/
theorem list {item : Shape} {items ws : List Value} (hdepth : 1 < depth)
    (h : List.Forall₂ (Accepts item (indent + 1) (depth - 1) outer) items ws) :
    Accepts (.list item) indent depth outer (.array items) (.array ws) := by
  refine takes_of_succ (by decide) fun budget blanks rest hblanks hbudget hrest => ?_
  rw [Value.renderSpread] at hbudget ⊢
  rw [shaped, spread_toList, List.append_assoc]
  refine (reads_nextValue hblanks (by decide) _).bind ?_
  refine (reads_enter hdepth '[' _).bind (.bind ?_ (.pure _ rest))
  exact (isItemLoop_shapedItems (depth - 1) outer item).reads_inside (by decide) h
    (length_inside_le (by decide) (by decide) hbudget)

end Shape.Accepts

/-! ## Fields -/

/-- The reader of the field takes the spread text of `v` for the value `w`. -/
def Field.Accepts (field : Field) (indent depth : Nat) (outer : Shape) (v w : Value) : Prop :=
  Takes (fun budget => shapedField (budget + 1) depth outer field) 2 (v.renderSpread indent) w

namespace Field.Accepts

variable {field : Field}

/-- What the shape of a field accepts, the field accepts, unless null has a meaning of its own. -/
theorem of_shape (h : field.shape.Accepts indent depth outer v w)
    (hnull : field.isNullable = true → v ≠ .null) : field.Accepts indent depth outer v w := by
  intro budget blanks rest hblanks hbudget hrest
  change Reads (shapedField (budget + 1) depth outer field) _ rest w
  rw [shapedField]
  split
  case isFalse => exact h budget blanks rest hblanks hbudget hrest
  case isTrue hnullable =>
    obtain ⟨c, cs, htext, hc, hn⟩ := v.exists_renderSpread_eq_cons indent
    have hshape := h budget [] rest List.all_nil hbudget hrest
    rw [htext] at hshape ⊢
    refine (reads_skipBlanks hblanks hc.isJsonBlank_eq_false _).bind ?_
    split
    case h_1 hc => exact absurd (hn (Option.some.inj hc)) (hnull hnullable)
    case h_2 => exact hshape

/-- Null stands for the value of a field that may be null. -/
theorem null (h : field.isNullable = true) : field.Accepts indent depth outer .null .null := by
  intro budget blanks rest hblanks hbudget hrest
  change Reads (shapedField (budget + 1) depth outer field) _ rest Value.null
  rw [shapedField, if_pos h, Value.renderSpread, null_toList]
  exact (reads_skipBlanks hblanks (by decide) _).bind (reads_constant 'n' "ull" Value.null rest)

/-- A field that has to be there is accepted if its value is. -/
theorem required {key : String} {shape : Shape} (h : shape.Accepts indent depth outer v w) :
    (Field.required key shape).Accepts indent depth outer v w :=
  of_shape h fun hnullable => absurd hnullable Bool.false_ne_true

/-- A field that may be absent is accepted if its value is. -/
theorem optional {key : String} {shape : Shape} (h : shape.Accepts indent depth outer v w) :
    (Field.optional key shape).Accepts indent depth outer v w :=
  of_shape h fun hnullable => absurd hnullable Bool.false_ne_true

/-- A field that may be null is accepted if its value is accepted and is not null. -/
theorem nullable {key : String} {shape : Shape} (h : shape.Accepts indent depth outer v w)
    (hnull : v ≠ .null) : (Field.nullable key shape).Accepts indent depth outer v w :=
  of_shape h fun _ => hnull

end Field.Accepts

/-! ## Records -/

/-- The entry that is written belongs to a field of the record, and is read back as an entry of
that field. -/
def Field.Fills (fields : List Field) (indent depth : Nat) (outer : Shape)
    (written read : String × Value) : Prop :=
  written.1 = read.1 ∧ ∃ field, fields.find? (·.key = written.1) = some field ∧
    field.Accepts indent depth outer written.2 read.2

namespace Shape.Accepts

/-- What follows a key of a record: the value of its field, and the other entries. -/
def afterFieldKey (depth : Nat) (outer : Shape) (fields : List Field) (budget : Nat)
    (read : Entries) (key : String) : Scan Value :=
  match fields.find? (·.key = key) with
  | some field =>
    if (Entries.get? read key).isSome then failDuplicate key
    else do
      colon
      let v ← shapedField budget depth outer field
      shapedEntries budget depth outer fields false (Entries.insert key v read)
  | none => do
    colon
    skipValue budget
    shapedEntries budget depth outer fields false read

/-- The entries of a record are read against its fields in such a loop. -/
theorem isEntryLoop_shapedEntries (depth : Nat) (outer : Shape) (fields : List Field) :
    IsEntryLoop (fun budget read => shapedEntries budget depth outer fields read.isEmpty read)
      (afterFieldKey depth outer fields) (completed fields) :=
  fun _ _ => rfl

/-- An entry that fills a field is taken by it. -/
theorem takesEntry_of_fills {fields : List Field} {written read : String × Value}
    (h : Field.Fills fields indent depth outer written read) :
    TakesEntry (fun budget read => shapedEntries budget depth outer fields read.isEmpty read)
      (afterFieldKey depth outer fields) 2 written.1 (written.2.renderSpread indent) read.2 := by
  obtain ⟨-, field, hfield, haccepts⟩ := h
  intro budget entries after rest a hbudget hafter hnew hrest
  have hnext : Reads (shapedEntries budget depth outer fields false
      (Entries.insert written.1 read.2 entries)) after rest a := by
    rwa [← Entries.isEmpty_insert written.1 read.2 entries]
  obtain ⟨budget, rfl⟩ : ∃ n, budget = n + 1 := ⟨budget - 1, by omega⟩
  simp only [afterFieldKey, hfield, hnew, Option.isSome_none, Bool.false_eq_true, if_false]
  refine (reads_colon _).bind ?_
  exact (haccepts budget [' '] after (by decide) (by omega) hafter).bind hnext

/-- A record is accepted entry by entry, if no required field is left out. -/
theorem record {name : String} {fields : List Field} {written read : Entries} (hdepth : 1 < depth)
    (h : List.Forall₂ (Field.Fills fields (indent + 1) (depth - 1) (.record name fields))
      written read)
    (hkeys : (read.map Prod.fst).Nodup) (hmissing : Field.firstMissing? fields read = none) :
    Accepts (.record name fields) indent depth outer (.object written) (.ofEntries read) := by
  refine takes_of_succ (by decide) fun budget blanks rest hblanks hbudget hrest => ?_
  have hcompleted : Reads (completed fields (Entries.insertAll [] read)) rest rest
      (.ofEntries read) := by
    have hnone : Field.firstMissing? fields (Entries.insertAll [] read) = none := by
      rw [← hmissing, Field.firstMissing?, Field.firstMissing?]
      simp only [Entries.get?_insertAll [] hkeys, Entries.get?_nil, Option.or_none]
    rw [completed, hnone]
    exact .pure _ rest
  have hentries := (isEntryLoop_shapedEntries (depth - 1) (.record name fields) fields).reads_inside
    (by decide) (h.imp fun _ _ hfills => ⟨hfills.1, takesEntry_of_fills hfills⟩) hkeys
    (length_inside_le (by decide) (by decide) hbudget) hcompleted
  rw [Value.renderSpread, shaped, spread_toList, List.append_assoc]
  refine (reads_nextValue hblanks (by decide) _).bind ?_
  exact (reads_enter hdepth '\x7b' _).bind hentries

end Shape.Accepts

/-! ## Documents -/

/-- A document that holds the value and nothing else is read as the value in normal form. -/
theorem Shape.Accepts.read {shape : Shape} (h : shape.Accepts 0 depthLimit shape v w) :
    shape.read (v.renderSpread 0) = .ok w := by
  refine Reads.run_whole ((reads_budgetLeft _).bind ?_)
  have hread := h (2 * (2 * (v.renderSpread 0).toList.length + 8)) [] [] List.all_nil
    (by rw [String.length_toList]; omega) (by intro c hc; cases hc)
  simpa using hread

end GrammarDesk.Json
