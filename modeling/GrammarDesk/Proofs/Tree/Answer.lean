import GrammarDesk.Tree.Result
import GrammarDesk.Proofs.Json.Truth
import GrammarDesk.Proofs.Tree.Structure

/-!
# JSON answers as trees

What becomes of a JSON answer is decided before any mapping is read.  An answer that counts as
false is empty.  A text, a number or a truth value is a leaf.  An object that carries a value and a
mapping is read through that mapping, and everything else through the plugin's own.

Main definitions:

- `Carries`: an object that carries a value and a mapping.
- `Delivers`: the value that an answer delivers to be read as a tree, and the mapping for it.
- `Misdelivers`: an answer whose mapping cannot be read.
- `bareValue`: the value that an answer is about.

Main results:

- `isFalsy_ofJson_iff`: the empty answers.
- `normalize_of_delivers` and the like: the tree of an answer, or the failure to read one.
- `AnswerKind.of`: every answer is of one of these kinds.
-/

namespace GrammarDesk.Tree

open Json

/-! ## Parts of an answer -/

/-- An answer carries a value and what is written as the mapping for it, which may be null. -/
def Carries (v source written : Value) : Prop :=
  v.get? "json" = some source ∧ v.get? "mapping" = some written

/-- An answer delivers a value to be read as a tree through a mapping.  Lists and objects are such
values themselves, unless they carry one; texts, numbers and truth values are leaves already, and
null is no tree. -/
inductive Delivers (own : Mapping) : Value → Value → Mapping → Prop where
  | list (items : List Value) : Delivers own (.array items) (.array items) own
  | object {entries : Entries} (h : ∀ source written, ¬ Carries (.object entries) source written) :
    Delivers own (.object entries) (.object entries) own
  | carried {v source written : Value} {m : Mapping} (h : Carries v source written)
    (hread : Mapping.ofValue written = .ok m) : Delivers own v source m

/-- An answer carries a mapping that is not null and cannot be read. -/
def Misdelivers (v : Value) (fault : Fault) : Prop :=
  ∃ source written, Carries v source written ∧ written ≠ .null ∧
    Mapping.ofValue written = .error fault

/-- The value that an answer is about: the one that it carries beside a mapping, or else itself. -/
def bareValue (v : Value) : Value :=
  match v.get? "json", v.get? "mapping" with
  | some source, some _ => source
  | _, _ => v

variable {v source written : Value} {own m : Mapping}

/-- Only an object carries a tree with a mapping. -/
theorem Carries.exists_eq_object (h : Carries v source written) :
    ∃ entries, v = .object entries := by
  cases v with
  | object entries => exact ⟨entries, rfl⟩
  | _ => cases h.1

theorem not_mem_falsy_object (entries : Entries) : .object entries ∉ Value.falsy := by
  simp [Value.falsy]

/-- What carries a tree with a mapping is not falsy. -/
theorem Carries.not_mem_falsy (h : Carries v source written) : v ∉ Value.falsy := by
  obtain ⟨entries, rfl⟩ := h.exists_eq_object
  exact not_mem_falsy_object entries

/-- What delivers a tree is not falsy. -/
theorem Delivers.not_mem_falsy (h : Delivers own v source m) : v ∉ Value.falsy := by
  cases h with
  | list items => simp [Value.falsy]
  | object h => exact not_mem_falsy_object _
  | carried h hread => exact h.not_mem_falsy

/-- What delivers a tree with a mapping that cannot be read is not falsy. -/
theorem Misdelivers.not_mem_falsy {fault : Fault} (h : Misdelivers v fault) : v ∉ Value.falsy := by
  obtain ⟨source, written, hcarries, -, -⟩ := h
  exact hcarries.not_mem_falsy

/-! ## Results -/

/-- An answer that carries a tree with a mapping is understood as that. -/
theorem Carries.ofJson_eq (h : Carries v source written) :
    RawResult.ofJson v = .mapped source written := by
  obtain ⟨entries, rfl⟩ := h.exists_eq_object
  have hsource : Entries.get? entries "json" = some source := h.1
  have hwritten : Entries.get? entries "mapping" = some written := h.2
  simp [RawResult.ofJson, hsource, hwritten]

/-- Any other object is understood as a tree itself. -/
theorem ofJson_object_of_not_carries {entries : Entries}
    (h : ∀ source written, ¬ Carries (.object entries) source written) :
    RawResult.ofJson (.object entries) = .plain (.object entries) := by
  rw [RawResult.ofJson]
  split
  case h_1 source written hsource hwritten => exact absurd ⟨hsource, hwritten⟩ (h source written)
  case h_2 => rfl

/-- An answer is empty exactly when it counts as false. -/
theorem isFalsy_ofJson_iff (v : Value) : (RawResult.ofJson v).isFalsy = true ↔ v ∈ Value.falsy := by
  rw [← Value.isTruthy_eq_false_iff]
  cases v with
  | object entries =>
    rw [RawResult.ofJson]
    split <;> simp [RawResult.isFalsy, Value.isTruthy]
  | _ => simp [RawResult.ofJson, RawResult.isFalsy]

/-- An evaluation answers with the value that the answer is about. -/
theorem toValue_ofJson (v : Value) : (RawResult.ofJson v).toValue = bareValue v := by
  cases v with
  | object entries =>
    rw [RawResult.ofJson, bareValue]
    simp only [Value.get?]
    cases Entries.get? entries "json" <;> cases Entries.get? entries "mapping" <;> rfl
  | _ => rfl

/-! ## Trees -/

/-- What an answer delivers is read through the mapping for it. -/
theorem normalize_of_delivers (h : Delivers own v source m) :
    normalize (.ofJson v) own = m.mapTree source := by
  cases h with
  | list items => rfl
  | object h => rw [ofJson_object_of_not_carries h, normalize]
  | @carried _ _ written _ h hread =>
    have hnull : written.isNull = false := by
      cases written with
      | null => cases hread
      | _ => rfl
    rw [h.ofJson_eq, normalize, hnull]
    simp [hread]

/-- A null in the place of the mapping is a missing mapping. -/
theorem normalize_of_carries_null (h : Carries v source .null) :
    normalize (.ofJson v) own = .error .missingMapping := by
  rw [h.ofJson_eq, normalize]
  rfl

/-- A mapping that cannot be read fails with its own fault. -/
theorem normalize_of_misdelivers {fault : Fault} (h : Misdelivers v fault) :
    normalize (.ofJson v) own = .error (.json fault) := by
  obtain ⟨source, written, hcarries, hwritten, hread⟩ := h
  have hnull : written.isNull = false := by
    cases written with
    | null => exact absurd rfl hwritten
    | _ => rfl
  rw [hcarries.ofJson_eq, normalize, hnull]
  simp [hread]

/-! ## Kinds of answers -/

/-- The kinds of answers.  Those that count as true and are neither lists nor objects are leaves. -/
inductive AnswerKind (own : Mapping) (v : Value) : Prop where
  | empty (h : v ∈ Value.falsy)
  | leaf (h : v ∉ Value.falsy) (hleaf : normalize (.ofJson v) own = .ok (primitiveNode v))
  | unmapped (source : Value) (h : Carries v source .null)
  | unreadable (fault : Fault) (h : Misdelivers v fault)
  | tree (source : Value) (m : Mapping) (h : Delivers own v source m)

/-- Every answer is of one of the kinds. -/
theorem AnswerKind.of (own : Mapping) (v : Value) : AnswerKind own v := by
  by_cases hfalsy : v ∈ Value.falsy
  · exact .empty hfalsy
  cases v with
  | null => simp [Value.falsy] at hfalsy
  | bool b => exact .leaf hfalsy rfl
  | number n => exact .leaf hfalsy rfl
  | string s => exact .leaf hfalsy rfl
  | array items => exact .tree _ _ (.list items)
  | object entries =>
    by_cases hcarries : ∃ source written, Carries (.object entries) source written
    · obtain ⟨source, written, hcarries⟩ := hcarries
      cases hread : Mapping.ofValue written with
      | ok m => exact .tree _ _ (.carried hcarries hread)
      | error fault =>
        by_cases hnull : written = .null
        · subst hnull
          exact .unmapped source hcarries
        · exact .unreadable fault ⟨source, written, hcarries, hnull, hread⟩
    · simp only [not_exists] at hcarries
      exact .tree _ _ (.object hcarries)

end GrammarDesk.Tree
