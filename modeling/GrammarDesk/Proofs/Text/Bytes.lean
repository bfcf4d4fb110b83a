import GrammarDesk.Text.Bytes

/-!
# Cutting at a character

A text can be cut between two characters and nowhere else.  Of the starts of a text that take at
most a number of bytes one is longest, for any two starts of a text are starts of one another; the
last boundary below a limit is where it ends.  A character takes four bytes at most, so that in a
longer text no more than three bytes of the limit are left over.

Main results:

- `isBoundary_iff_isValid`: the boundaries of a text are its valid positions.
- `isPrefix_takeBytes_iff`: the starts of a text that are short enough.
- `lastBoundary?_eq`: the last boundary is where the longest of them ends.
- `le_byteSize_takeBytes`: how long it is at least.
-/

namespace GrammarDesk.Text

/-! ## Sizes -/

/-- A text is as long as its parts together. -/
theorem byteSize_append (p q : List Char) : byteSize (p ++ q) = byteSize p + byteSize q := by
  induction p with
  | nil => simp [byteSize]
  | cons c p ih => simp only [List.cons_append, byteSize, ih]; omega

/-- The length of a text is that of its characters. -/
theorem utf8ByteSize_ofList (cs : List Char) : (String.ofList cs).utf8ByteSize = byteSize cs := by
  induction cs with
  | nil => rfl
  | cons c cs ih =>
    have hcons : String.ofList (c :: cs) = String.singleton c ++ String.ofList cs := by
      apply String.toList_injective
      simp
    rw [hcons, String.utf8ByteSize_append, ih, byteSize]
    simp

theorem utf8ByteSize_eq (s : String) : s.utf8ByteSize = byteSize s.toList := by
  rw [← utf8ByteSize_ofList, String.ofList_toList]

/-- A start of a text is no longer than the text. -/
theorem byteSize_le_of_isPrefix {p cs : List Char} (h : p <+: cs) : byteSize p ≤ byteSize cs := by
  obtain ⟨q, rfl⟩ := h
  rw [byteSize_append]
  exact Nat.le_add_right _ _

/-- A start of a text that is as long as the text is the whole text. -/
theorem eq_of_isPrefix_of_byteSize_le {p cs : List Char} (h : p <+: cs)
    (hsize : byteSize cs ≤ byteSize p) : p = cs := by
  obtain ⟨q, rfl⟩ := h
  rw [byteSize_append] at hsize
  cases q with
  | nil => simp
  | cons c q =>
    have hpos := c.utf8Size_pos
    simp only [byteSize] at hsize
    omega

/-! ## Boundaries -/

/-- A boundary is where some start of the text ends. -/
theorem isBoundary_iff (cs : List Char) (n : Nat) :
    isBoundary cs n = true ↔ ∃ p, p <+: cs ∧ byteSize p = n := by
  fun_induction isBoundary cs n with
  | case1 cs => exact ⟨fun _ => ⟨[], List.nil_prefix, rfl⟩, fun _ => rfl⟩
  | case2 n =>
    simp [byteSize]
  | case3 c cs n hn ih =>
    have hpos := c.utf8Size_pos
    rw [Bool.and_eq_true, decide_eq_true_eq, ih]
    constructor
    · rintro ⟨hle, p, hp, hsize⟩
      refine ⟨c :: p, List.cons_prefix_cons.2 ⟨rfl, hp⟩, ?_⟩
      rw [byteSize]
      omega
    · rintro ⟨p, hp, hsize⟩
      cases p with
      | nil => exact absurd hsize.symm hn
      | cons d p =>
        obtain ⟨rfl, hrest⟩ := List.cons_prefix_cons.1 hp
        rw [byteSize] at hsize
        exact ⟨by omega, p, hrest, by omega⟩

/-- The boundaries of a text are its valid positions. -/
theorem isBoundary_iff_isValid (s : String) (n : Nat) :
    isBoundary s.toList n = true ↔ (⟨n⟩ : String.Pos.Raw).IsValid s := by
  rw [isBoundary_iff, String.Pos.Raw.isValid_iff_exists_append]
  constructor
  · rintro ⟨p, ⟨q, hq⟩, hsize⟩
    refine ⟨String.ofList p, String.ofList q, String.toList_injective (by simp [hq]), ?_⟩
    rw [String.Pos.Raw.ext_iff, String.byteIdx_rawEndPos, utf8ByteSize_ofList, hsize]
  · rintro ⟨p, q, rfl, hend⟩
    refine ⟨p.toList, ⟨q.toList, by simp⟩, ?_⟩
    rw [String.Pos.Raw.ext_iff, String.byteIdx_rawEndPos] at hend
    rw [← utf8ByteSize_eq, ← hend]

/-! ## The longest start -/

/-- What is taken is a start of the text. -/
theorem isPrefix_takeBytes (n : Nat) (cs : List Char) : takeBytes n cs <+: cs := by
  fun_induction takeBytes n cs with
  | case1 => exact List.nil_prefix
  | case2 n c cs hfits ih => exact List.cons_prefix_cons.2 ⟨rfl, ih⟩
  | case3 => exact List.nil_prefix

/-- What is taken is no longer than the limit. -/
theorem byteSize_takeBytes_le (n : Nat) (cs : List Char) : byteSize (takeBytes n cs) ≤ n := by
  fun_induction takeBytes n cs with
  | case1 => exact Nat.zero_le _
  | case2 n c cs hfits ih => rw [byteSize]; omega
  | case3 => exact Nat.zero_le _

/-- The starts of a text that take no more than the limit are the starts of the longest one. -/
theorem isPrefix_takeBytes_iff (n : Nat) (cs p : List Char) :
    p <+: takeBytes n cs ↔ p <+: cs ∧ byteSize p ≤ n := by
  constructor
  · intro h
    exact ⟨h.trans (isPrefix_takeBytes n cs),
      Nat.le_trans (byteSize_le_of_isPrefix h) (byteSize_takeBytes_le n cs)⟩
  · rintro ⟨hstart, hsize⟩
    induction cs generalizing n p with
    | nil => exact hstart
    | cons c cs ih =>
      cases p with
      | nil => exact List.nil_prefix
      | cons d p =>
        obtain ⟨rfl, hrest⟩ := List.cons_prefix_cons.1 hstart
        rw [byteSize] at hsize
        rw [takeBytes, if_pos (by omega)]
        exact List.cons_prefix_cons.2 ⟨rfl, ih _ _ hrest (by omega)⟩

/-- A start of a text is what is taken up to its end. -/
theorem takeBytes_byteSize {p cs : List Char} (h : p <+: cs) : takeBytes (byteSize p) cs = p := by
  have hlonger : p <+: takeBytes (byteSize p) cs :=
    (isPrefix_takeBytes_iff _ _ _).2 ⟨h, Nat.le_refl _⟩
  exact (eq_of_isPrefix_of_byteSize_le hlonger (byteSize_takeBytes_le _ _)).symm

/-! ## The last boundary -/

/-- The last boundary is the limit itself, or lies below it. -/
theorem lastBoundary?_succ (cs : List Char) (limit : Nat) :
    lastBoundary? cs (limit + 1) =
      if isBoundary cs (limit + 1) then some (limit + 1) else lastBoundary? cs limit := by
  rw [lastBoundary?, List.range_succ, List.reverse_append, List.reverse_singleton,
    List.singleton_append, List.find?_cons, lastBoundary?]
  cases isBoundary cs (limit + 1) <;> rfl

/-- There is always a last boundary: it is where the longest start ends that is short enough. -/
theorem lastBoundary?_eq (cs : List Char) (limit : Nat) :
    lastBoundary? cs limit = some (byteSize (takeBytes limit cs)) := by
  induction limit with
  | zero =>
    have hnone := byteSize_takeBytes_le 0 cs
    rw [Nat.le_zero.1 hnone]
    simp [lastBoundary?, isBoundary]
  | succ limit ih =>
    have hle := byteSize_takeBytes_le (limit + 1) cs
    rw [lastBoundary?_succ]
    split
    case isTrue hboundary =>
      obtain ⟨p, hp, hsize⟩ := (isBoundary_iff _ _).1 hboundary
      have hlonger : p <+: takeBytes (limit + 1) cs :=
        (isPrefix_takeBytes_iff _ _ _).2 ⟨hp, Nat.le_of_eq hsize⟩
      have hsizes := byteSize_le_of_isPrefix hlonger
      rw [Nat.le_antisymm hle (hsize ▸ hsizes)]
    case isFalse hnot =>
      -- the longest start ends below the limit, so that it is found there as well
      have hne : byteSize (takeBytes (limit + 1) cs) ≠ limit + 1 := fun heq =>
        hnot ((isBoundary_iff _ _).2 ⟨_, isPrefix_takeBytes _ _, heq⟩)
      have hbelow : takeBytes (limit + 1) cs <+: takeBytes limit cs :=
        (isPrefix_takeBytes_iff _ _ _).2 ⟨isPrefix_takeBytes _ _, by omega⟩
      have habove : takeBytes limit cs <+: takeBytes (limit + 1) cs :=
        (isPrefix_takeBytes_iff _ _ _).2
          ⟨isPrefix_takeBytes _ _, Nat.le_succ_of_le (byteSize_takeBytes_le _ _)⟩
      rw [ih, Nat.le_antisymm (byteSize_le_of_isPrefix habove) (byteSize_le_of_isPrefix hbelow)]

/-- In a text that is longer than the limit, three bytes at most are left over: the next character
does not fit in. -/
theorem le_byteSize_takeBytes {limit : Nat} {cs : List Char} (h : limit < byteSize cs) :
    limit ≤ byteSize (takeBytes limit cs) + 3 := by
  obtain ⟨q, hq⟩ := isPrefix_takeBytes limit cs
  cases q with
  | nil =>
    rw [List.append_nil] at hq
    have hle := byteSize_takeBytes_le limit cs
    rw [hq] at hle
    omega
  | cons c q =>
    have hfour := c.utf8Size_le_four
    have hstart : takeBytes limit cs ++ [c] <+: cs := ⟨q, by rw [List.append_assoc]; exact hq⟩
    have hnot : ¬ takeBytes limit cs ++ [c] <+: takeBytes limit cs := by
      intro hle
      have hlength := hle.length_le
      rw [List.length_append, List.length_singleton] at hlength
      omega
    rw [isPrefix_takeBytes_iff, byteSize_append] at hnot
    simp only [hstart, true_and, byteSize] at hnot
    omega

end GrammarDesk.Text
