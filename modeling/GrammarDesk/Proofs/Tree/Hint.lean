import GrammarDesk.Proofs.Text.Bytes
import GrammarDesk.Tree.Mapping

/-!
# Hints end with a whole character

The hint of a value is its text if that is short.  Of a longer text it is the longest start that
ends with a whole character and takes no more bytes than a hint may, followed by three dots.  So a
hint is cut where a character ends, and at most three bytes before its limit.

Main results:

- `shapeHint_of_long`: the hint of a value with a long text.
- `shapeHint_cut`: what a hint shows of the text of a value.
-/

namespace GrammarDesk.Tree

open Json

/-- Of a long text the hint takes whole characters as long as they fit in. -/
theorem shapeHint_of_long {v : Value} (h : hintLimit < v.render.utf8ByteSize) :
    shapeHint v = String.ofList (Text.takeBytes hintLimit v.render.toList) ++ "..." := by
  have hstart := Text.isPrefix_takeBytes hintLimit v.render.toList
  simp only [shapeHint, if_neg (Nat.not_le.2 h), Text.lastBoundary?_eq, Option.getD_some,
    Text.takeBytes_byteSize hstart]

/-- The hint of a value is its text, if that takes no more than eighty bytes.  Otherwise it is the
longest start of the text that takes no more than that, with three dots after it.  This start ends
at a character boundary, the one that is found below the limit, and takes seventy-seven bytes at
least; and the hint takes eighty-three at most. -/
theorem shapeHint_cut (v : Value) :
    (v.render.utf8ByteSize ≤ 80 → shapeHint v = v.render) ∧
    (80 < v.render.utf8ByteSize → ∃ start rest : String,
      v.render = start ++ rest ∧ shapeHint v = start ++ "..." ∧
      (∀ p q : String, v.render = p ++ q → p.utf8ByteSize ≤ 80 → p.toList <+: start.toList) ∧
      77 ≤ start.utf8ByteSize ∧ start.utf8ByteSize ≤ 80 ∧
      Text.lastBoundary? v.render.toList 80 = some start.utf8ByteSize ∧
      (⟨start.utf8ByteSize⟩ : String.Pos.Raw).IsValid v.render ∧
      (shapeHint v).utf8ByteSize ≤ 83) := by
  refine ⟨fun hshort => if_pos hshort, fun hlong => ?_⟩
  have hhint := shapeHint_of_long hlong
  have hsize := Text.utf8ByteSize_ofList (Text.takeBytes hintLimit v.render.toList)
  have hle := Text.byteSize_takeBytes_le hintLimit v.render.toList
  have hlast := Text.lastBoundary?_eq v.render.toList hintLimit
  obtain ⟨rest, hrest⟩ := Text.isPrefix_takeBytes hintLimit v.render.toList
  have hleft : hintLimit ≤ Text.byteSize (Text.takeBytes hintLimit v.render.toList) + 3 := by
    rw [Text.utf8ByteSize_eq] at hlong
    exact Text.le_byteSize_takeBytes hlong
  have hboundary : Text.isBoundary v.render.toList
      (Text.byteSize (Text.takeBytes hintLimit v.render.toList)) = true :=
    (Text.isBoundary_iff _ _).2 ⟨_, Text.isPrefix_takeBytes _ _, rfl⟩
  rw [← hsize] at hle hlast hleft hboundary
  refine ⟨String.ofList (Text.takeBytes hintLimit v.render.toList), String.ofList rest, ?_, hhint,
    ?_, Nat.sub_le_of_le_add hleft, hle, hlast, (Text.isBoundary_iff_isValid _ _).1 hboundary,
    ?_⟩
  · apply String.toList_injective
    rw [String.toList_append, String.toList_ofList, String.toList_ofList, hrest]
  · intro p q htext hshort
    rw [String.toList_ofList, Text.isPrefix_takeBytes_iff, ← Text.utf8ByteSize_eq]
    exact ⟨⟨q.toList, by rw [htext, String.toList_append]⟩, hshort⟩
  · rw [hhint, String.utf8ByteSize_append]
    exact Nat.add_le_add_right hle 3

/-- A text of twenty clefs, each of which takes four bytes. -/
def clefs : Value := .string (String.ofList (List.replicate 20 '𝄞'))

/-- The twentieth clef lies across the limit, and the hint leaves it out: with the quote before them
the nineteen that fit in take three bytes less than the limit. -/
theorem shapeHint_cut_of_clefs :
    80 < clefs.render.utf8ByteSize ∧ ∃ start rest : String, clefs.render = start ++ rest ∧
      shapeHint clefs = start ++ "..." ∧ start.utf8ByteSize = 77 := by
  have hlong : 80 < clefs.render.utf8ByteSize := by decide
  have hfound : Text.lastBoundary? clefs.render.toList 80 = some 77 := by decide
  obtain ⟨start, rest, htext, hhint, -, -, -, hlast, -, -⟩ := (shapeHint_cut clefs).2 hlong
  rw [hfound, Option.some.injEq] at hlast
  exact ⟨hlong, start, rest, htext, hhint, hlast.symm⟩

end GrammarDesk.Tree
