import GrammarDesk.Json.Reader.Document
import GrammarDesk.Text.Blank

/-!
# What a document holds

A text that writes a value is not blank, whichever characters count as blanks: a value starts with
a letter, a digit, a sign, a quotation mark or a bracket.

Main definitions:

- `Scan.valueStarts`: the characters that a value may start with, digits apart.

Main results:

- `Scan.exists_of_value`: a value starts with a character that is no blank.
- `isBlankText_of_parse`: a text that writes a value is not blank.
-/

namespace GrammarDesk.Json

/-- No digit is a blank. -/
theorem isBlank_of_isDigit {c : Char} (h : c.isDigit = true) : Text.isBlank c = false := by
  have hrange : 48 ≤ c.toNat ∧ c.toNat ≤ 57 := by
    simpa [Char.isDigit, UInt32.le_iff_toNat_le] using h
  simp only [Text.isBlank, Bool.or_eq_false_iff, Bool.and_eq_false_iff, decide_eq_false_iff_not,
    beq_eq_false_iff_ne]
  omega

namespace Scan

/-- A sequence succeeds only if its first part does, and then the second. -/
theorem exists_of_bind {α β : Type} {scan : Scan α} {f : α → Scan β} {cursor after : Cursor}
    {b : β} (h : (scan >>= f) cursor = .ok (b, after)) :
    ∃ a middle, scan cursor = .ok (a, middle) ∧ f a middle = .ok (b, after) := by
  simp only [bind, StateT.bind] at h
  cases hscan : scan cursor with
  | error flaw =>
    rw [hscan] at h
    cases h
  | ok first =>
    rw [hscan] at h
    exact ⟨first.1, first.2, rfl, h⟩

/-- The character behind the blanks is one of those that are left. -/
theorem mem_of_skipBlanks {cursor after : Cursor} {c : Char}
    (h : skipBlanks cursor = .ok (some c, after)) : c ∈ cursor.rest := by
  obtain ⟨run, middle, hrun, hpeek⟩ := exists_of_bind h
  cases hrun
  have hhead : (cursor.rest.dropWhile isJsonBlank).head? = some c :=
    congrArg Prod.fst (Except.ok.inj hpeek)
  exact (List.dropWhile_sublist _).mem (List.mem_of_mem_head? hhead)

/-- The characters that a value may start with, digits apart. -/
def valueStarts : List Char := ['n', 't', 'f', '-', '"', '[', '\x7b']

/-- No value starts with a blank. -/
theorem isBlank_of_mem_valueStarts {c : Char} (h : c ∈ valueStarts) : Text.isBlank c = false := by
  have hall : valueStarts.all (!Text.isBlank ·) = true := by rfl
  simpa using List.all_eq_true.1 hall c h

/-- A value starts with a character that is no blank. -/
theorem exists_of_value {budget depth : Nat} {cursor after : Cursor} {v : Value}
    (h : value budget depth cursor = .ok (v, after)) :
    ∃ c ∈ cursor.rest, Text.isBlank c = false := by
  cases budget with
  | zero => cases h
  | succ budget =>
    rw [value] at h
    obtain ⟨next, middle, hskip, hrest⟩ := exists_of_bind h
    cases next with
    | none => cases hrest
    | some c =>
      refine ⟨c, mem_of_skipBlanks hskip, ?_⟩
      by_cases hstart : c ∈ valueStarts
      · exact isBlank_of_mem_valueStarts hstart
      · by_cases hdigit : c.isDigit = true
        · exact isBlank_of_isDigit hdigit
        · simp only [valueStarts, List.mem_cons, List.not_mem_nil, or_false, not_or] at hstart
          obtain ⟨hn, ht, hf, hminus, hquote, hbracket, hbrace⟩ := hstart
          simp only [hdigit] at hrest
          cases hrest

end Scan

/-- A text that writes a value is not blank. -/
theorem isBlankText_of_parse {text : String} {v : Value} (h : parse text = .ok v) :
    Text.isBlankText text = false := by
  rw [parse, Scan.run] at h
  split at h
  case h_1 result after hscan =>
    obtain ⟨_, _, hvalue, -⟩ := Scan.exists_of_bind hscan
    obtain ⟨budget, middle, hbudget, hvalue⟩ := Scan.exists_of_bind hvalue
    cases hbudget
    obtain ⟨c, hmem, hblank⟩ := Scan.exists_of_value hvalue
    rw [Text.isBlankText, List.all_eq_false]
    exact ⟨c, hmem, by rw [hblank]; decide⟩
  case h_2 => cases h

end GrammarDesk.Json
