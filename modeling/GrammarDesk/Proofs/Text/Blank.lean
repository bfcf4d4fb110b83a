import Mathlib.Data.List.DropRight
import GrammarDesk.Text.Blank

/-!
# Texts without their ends

Trimming takes blanks from both ends and a run of one character from the end.  A text is left as it
is when its first and last characters are not of the kind that is taken, and what is left starts
with no blank.  What precedes an ending is found exactly for the texts that end so.

Main results:

- `trim_eq_self`, `dropTrailing_eq_self`: texts that are left as they are.
- `isBlank_of_head?_trim`: what is left of a text starts with no blank.
- `beforeEnding?_eq_some_iff`: what precedes an ending.
-/

namespace GrammarDesk.Text

/-! ## Trimming -/

theorem dropEndWhile_eq_self {test : Char → Bool} {cs : List Char}
    (h : ∀ c, cs.getLast? = some c → test c = false) : dropEndWhile test cs = cs := by
  refine List.rdropWhile_eq_self_iff.2 fun hne => ?_
  simp [h _ (List.getLast?_eq_some_getLast hne)]

theorem isPrefix_dropEndWhile (test : Char → Bool) (cs : List Char) :
    dropEndWhile test cs <+: cs :=
  List.rdropWhile_prefix test cs

/-- A text that neither starts nor ends with a blank is left as it is. -/
theorem trim_eq_self {s : String} (hhead : ∀ c, s.toList.head? = some c → isBlank c = false)
    (hlast : ∀ c, s.toList.getLast? = some c → isBlank c = false) : trim s = s := by
  have hstart : s.toList.dropWhile isBlank = s.toList := by
    cases hs : s.toList with
    | nil => rfl
    | cons c rest => simp [hhead c (by simp [hs])]
  rw [trim, hstart, dropEndWhile_eq_self hlast, String.ofList_toList]

/-- A text that does not end with the character is left as it is. -/
theorem dropTrailing_eq_self {c : Char} {s : String}
    (h : ∀ last, s.toList.getLast? = some last → last ≠ c) : dropTrailing c s = s := by
  have htest : ∀ last, s.toList.getLast? = some last → (last == c) = false := by
    intro last hlast
    simpa using h last hlast
  rw [dropTrailing, dropEndWhile_eq_self htest, String.ofList_toList]

/-- What begins a list that a test has been dropped from does not begin with the test. -/
theorem test_eq_false_of_head? {test : Char → Bool} {part cs : List Char} {c : Char}
    (hpart : part <+: cs.dropWhile test) (hc : part.head? = some c) : test c = false := by
  have hne : cs.dropWhile test ≠ [] := by
    rintro hnil
    rw [hnil, List.prefix_nil] at hpart
    simp [hpart] at hc
  have hhead : (cs.dropWhile test).head? = some c := by
    obtain ⟨rest, hrest⟩ := hpart
    rw [← hrest, List.head?_append, hc, Option.some_or]
  have hnot := List.head?_dropWhile_not test cs
  rw [hhead] at hnot
  simpa using hnot

/-- What is left of a text starts with no blank, whatever is taken from its end afterwards. -/
theorem isBlank_of_head?_trim {s : String} {part : List Char} {c : Char}
    (hpart : part <+: (trim s).toList) (hc : part.head? = some c) : isBlank c = false := by
  rw [trim, String.toList_ofList] at hpart
  exact test_eq_false_of_head? (hpart.trans (isPrefix_dropEndWhile _ _)) hc

/-! ## Endings -/

/-- A text is found before an ending exactly when both make up the whole. -/
theorem beforeEnding?_eq_some_iff (ending s before : String) :
    beforeEnding? ending s = some before ↔ s = before ++ ending := by
  rw [beforeEnding?]
  constructor
  · intro h
    split at h
    case isTrue hends =>
      cases h
      simp only [Bool.and_eq_true, decide_eq_true_eq, beq_iff_eq] at hends
      rw [← String.toList_inj, String.toList_append, String.toList_ofList, ← hends.2,
        List.take_append_drop]
    case isFalse => cases h
  · rintro rfl
    have hlength : before.toList.length = before.length := String.length_toList
    have htake : (before.toList ++ ending.toList).take before.length = before.toList :=
      List.take_left' hlength
    have hdrop : (before.toList ++ ending.toList).drop before.length = ending.toList :=
      List.drop_left' hlength
    simp [htake, hdrop]

end GrammarDesk.Text
