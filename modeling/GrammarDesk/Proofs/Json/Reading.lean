import Mathlib
import GrammarDesk.Json.Render
import GrammarDesk.Json.Reader.Document
import GrammarDesk.Proofs.Json.Document

/-!
# Reading back words, texts and integers

A reader takes what it reads from the front of the characters that are left, and the result does
not depend on where in the document they stand.  Readers in a row take their parts one after the
other, so that what is written in parts can be read back part by part.

Main definitions:

- `Scan.Reads`: a reader takes the characters before it down to those after it, for a result.
- `Follows`: what stands behind a value in spread text.

Main results:

- `Scan.reads_quotation`: a text is read back from its quotation.
- `Scan.reads_natural`, `Scan.reads_negSucc`: integers are read back from their digits.
-/

namespace GrammarDesk.Json

namespace Scan

variable {α β : Type} {scan : Scan α} {f : α → Scan β} {a : α} {b : β}
variable {before middle after rest : List Char}

/-- The reader takes the characters `before` it down to those `after` it, for a result; it does so
wherever in a document they stand. -/
def Reads (scan : Scan α) (before after : List Char) (a : α) : Prop :=
  ∀ offset, ∃ offset', scan ⟨before, offset⟩ = .ok (a, ⟨after, offset'⟩)

/-! ## Readers in a row -/

/-- What is known already is read from nothing. -/
theorem Reads.pure (a : α) (rest : List Char) : Reads (Pure.pure a) rest rest a :=
  fun offset => ⟨offset, rfl⟩

/-- What is read by two scans, one after the other, is read by their sequence. -/
theorem Reads.bind (h : Reads scan before middle a) (hf : Reads (f a) middle after b) :
    Reads (scan >>= f) before after b := by
  intro offset
  obtain ⟨next, hscan⟩ := h offset
  obtain ⟨last, hlast⟩ := hf next
  refine ⟨last, ?_⟩
  simp only [Bind.bind, StateT.bind, hscan, Except.bind, hlast]

theorem reads_peek (rest : List Char) : Reads peek rest rest rest.head? :=
  fun offset => ⟨offset, rfl⟩

theorem reads_advance (c : Char) (rest : List Char) : Reads advance (c :: rest) rest () :=
  fun _ => ⟨_, rfl⟩

/-- The characters that pass a test are read up to the first that does not. -/
theorem reads_takeWhile (test : Char → Bool) (rest : List Char) :
    Reads (takeWhile test) rest (rest.dropWhile test) (rest.takeWhile test) :=
  fun _ => ⟨_, rfl⟩

/-- A reader is given two steps for each character that is left, and some more. -/
theorem reads_budgetLeft (rest : List Char) :
    Reads budgetLeft rest rest (2 * rest.length + 8) :=
  fun offset => ⟨offset, rfl⟩

/-! ## Blanks and words -/

/-- Blanks are passed, up to a character that is none. -/
theorem reads_skipBlanks {blanks : List Char} {c : Char} (hblanks : blanks.all isJsonBlank = true)
    (hc : isJsonBlank c = false) (rest : List Char) :
    Reads skipBlanks (blanks ++ c :: rest) (c :: rest) (some c) := by
  have hall : ∀ b ∈ blanks, isJsonBlank b = true := List.all_eq_true.1 hblanks
  have hdrop : (blanks ++ c :: rest).dropWhile isJsonBlank = c :: rest := by
    rw [List.dropWhile_append_of_pos hall, List.dropWhile_cons_of_neg (by simp [hc])]
  have htake := reads_takeWhile isJsonBlank (blanks ++ c :: rest)
  rw [hdrop] at htake
  exact htake.bind (reads_peek _)

/-- Where no blank stands, there is nothing to pass. -/
theorem reads_skipBlanks_cons {c : Char} (hc : isJsonBlank c = false) (rest : List Char) :
    Reads skipBlanks (c :: rest) (c :: rest) (some c) :=
  reads_skipBlanks (List.all_nil) hc rest

/-- Behind the last character there are no blanks. -/
theorem reads_skipBlanks_nil : Reads skipBlanks [] [] none :=
  (reads_takeWhile isJsonBlank []).bind (reads_peek [])

/-- The letters of a word are read one after the other. -/
theorem reads_word (letters rest : List Char) : Reads (word letters) (letters ++ rest) rest () := by
  induction letters with
  | nil => exact .pure () rest
  | cons c letters ih =>
    refine (reads_peek _).bind ?_
    simp only [List.cons_append, List.head?_cons, if_true]
    exact (reads_advance c _).bind ih

theorem null_toList : "null".toList = 'n' :: "ull".toList := by decide

theorem true_toList : "true".toList = 't' :: "rue".toList := by decide

theorem false_toList : "false".toList = 'f' :: "alse".toList := by decide

/-- A constant is read from its first letter and the word behind it. -/
theorem reads_constant (c : Char) (letters : String) (result : α) (rest : List Char) :
    Reads (constant letters result) (c :: letters.toList ++ rest) rest result :=
  (reads_advance c _).bind ((reads_word _ rest).bind (.pure result rest))

/-- A container is entered where another one may still stand in it. -/
theorem reads_enter {depth : Nat} (h : 1 < depth) (c : Char) (rest : List Char) :
    Reads (enter depth) (c :: rest) rest (depth - 1) := by
  rw [enter, if_neg (by omega)]
  exact (reads_advance c rest).bind (.pure _ rest)

/-- A reader for a whole text reaches its end. -/
theorem Reads.run_whole {text : String} (h : Reads scan text.toList [] a) :
    run (whole scan) text = .ok a := by
  have hwhole : Reads (whole scan) text.toList [] a :=
    h.bind (reads_skipBlanks_nil.bind (.pure a []))
  obtain ⟨offset, hscan⟩ := hwhole 0
  rw [run, hscan]

/-! ## Texts -/

/-- A control is written as an escape of four digits, and none of them is a surrogate. -/
theorem hexValues?_hexPair {n : Nat} (h : n < 0x20) :
    hexValues? ('0' :: '0' :: (hexPair n).toList) = some n := by
  have hall : ∀ m < 0x20,
      hexValues? ['0', '0', Nat.digitChar (m / 16), Nat.digitChar (m % 16)] = some m := by
    decide
  rw [hexPair, String.toList_ofList]
  exact hall n h

/-- A control character is read from its two hexadecimal digits. -/
theorem reads_numericEscape {c : Char} (hc : c.toNat < 0x20) (rest : List Char) :
    Reads numericEscape ('0' :: '0' :: (hexPair c.toNat).toList ++ rest) rest c := by
  have hhex : Reads hexEscape ('0' :: '0' :: (hexPair c.toNat).toList ++ rest) rest c.toNat := by
    intro offset
    refine ⟨offset + 4, ?_⟩
    have hlength : ('0' :: '0' :: (hexPair c.toNat).toList).length = 4 := by
      simp [hexPair]
    simp only [hexEscape, List.take_left' hlength, List.drop_left' hlength,
      hexValues?_hexPair hc]
  refine hhex.bind ?_
  have htrailing : isTrailing c.toNat = false := by simp [isTrailing]; omega
  have hleading : isLeading c.toNat = false := by simp [isLeading]; omega
  simp only [htrailing, hleading, Bool.false_eq_true, if_false, Char.ofNat_toNat]
  exact .pure c rest

/-- A character with a letter of its own is read from that letter. -/
theorem reads_escape_letter {e c : Char} (h : letterEscape? e = some c) (rest : List Char) :
    Reads escape (e :: rest) rest c := by
  refine (reads_peek _).bind ?_
  simp only [List.head?_cons, h]
  exact (reads_advance e rest).bind (.pure c rest)

/-- A control character without a letter of its own is read from its number. -/
theorem reads_escape_numeric {c : Char} (hc : c.toNat < 0x20) (rest : List Char) :
    Reads escape ('u' :: '0' :: '0' :: (hexPair c.toNat).toList ++ rest) rest c := by
  refine (reads_peek _).bind ?_
  have hnone : letterEscape? 'u' = none := by decide
  simp only [List.cons_append, List.head?_cons, hnone, if_true]
  exact (reads_advance 'u' _).bind (reads_numericEscape hc rest)

/-- What is written for a character: an escape of one letter, an escape of four digits for another
control, or the character itself. -/
theorem renderChar_cases (c : Char) :
    (∃ e, letterEscape? e = some c ∧ (renderChar c).toList = ['\\', e]) ∨
    (c.toNat < 0x20 ∧
      (renderChar c).toList = '\\' :: 'u' :: '0' :: '0' :: (hexPair c.toNat).toList) ∨
    (c ≠ '"' ∧ c ≠ '\\' ∧ ¬ c.toNat < 0x20 ∧ (renderChar c).toList = [c]) := by
  have hcode : ∀ n : Nat, c.toNat = n → c = Char.ofNat n := by
    intro n hn
    rw [← hn, Char.ofNat_toNat]
  rw [renderChar]
  split_ifs with hquote hback hline hreturn htab hb hf hcontrol
  · exact .inl ⟨'"', by rw [hquote]; decide, rfl⟩
  · exact .inl ⟨'\\', by rw [hback]; decide, rfl⟩
  · exact .inl ⟨'n', by rw [hline]; decide, rfl⟩
  · exact .inl ⟨'r', by rw [hreturn]; decide, rfl⟩
  · exact .inl ⟨'t', by rw [htab]; decide, rfl⟩
  · exact .inl ⟨'b', by rw [hcode _ hb]; decide, rfl⟩
  · exact .inl ⟨'f', by rw [hcode _ hf]; decide, rfl⟩
  · exact .inr (.inl ⟨hcontrol, by rw [String.toList_append]; rfl⟩)
  · exact .inr (.inr ⟨hquote, hback, hcontrol, by simp⟩)

/-- Each character of a text is read back from what is written for it. -/
theorem reads_renderChar {left : Nat} {read : List Char} {s : String} {c : Char}
    (h : Reads (quotationFrom left (c :: read)) middle after s) :
    Reads (quotationFrom (left + 1) read) ((renderChar c).toList ++ middle) after s := by
  -- an escape stands behind a backslash
  have hescape : ∀ written : List Char, Reads escape (written ++ middle) middle c →
      Reads (quotationFrom (left + 1) read) ('\\' :: written ++ middle) after s := by
    intro written hwritten
    refine (reads_peek _).bind ?_
    simp only [List.cons_append, List.head?_cons]
    exact (reads_advance '\\' _).bind (hwritten.bind h)
  obtain ⟨e, he, hwritten⟩ | ⟨hcontrol, hwritten⟩ | ⟨hquote, hback, hcontrol, hwritten⟩ :=
    renderChar_cases c
  · rw [hwritten]
    exact hescape [e] (reads_escape_letter he middle)
  · rw [hwritten]
    exact hescape _ (reads_escape_numeric hcontrol middle)
  · rw [hwritten]
    refine (reads_peek _).bind ?_
    simp only [List.singleton_append, List.head?_cons, hquote, hback, hcontrol, if_false]
    exact (reads_advance c _).bind h

/-- What stands between the marks of a quotation. -/
def quoted (cs : List Char) : List Char := cs.flatMap fun c => (renderChar c).toList

/-- A text is written as its characters between quotation marks. -/
theorem renderString_toList (s : String) :
    (renderString s).toList = '"' :: quoted s.toList ++ ['"'] := by
  simp [renderString, quoted, String.toList_append, String.toList_join, List.flatMap_map]

/-- Each character of a text takes at least one in its quotation. -/
theorem length_le_quoted (cs : List Char) : cs.length ≤ (quoted cs).length := by
  induction cs with
  | nil => exact Nat.zero_le _
  | cons c cs ih =>
    have hpos : 0 < (renderChar c).toList.length := by
      obtain ⟨e, -, hwritten⟩ | ⟨-, hwritten⟩ | ⟨-, -, -, hwritten⟩ := renderChar_cases c <;>
        simp [hwritten]
    rw [quoted, List.flatMap_cons, List.length_append, List.length_cons]
    rw [quoted] at ih
    omega

/-- A quotation is read character by character up to its mark; what has been read is kept reversed.
-/
theorem reads_quotationFrom (cs : List Char) : ∀ {left : Nat} (read : List Char),
    cs.length < left →
    Reads (quotationFrom left read) (quoted cs ++ '"' :: rest) rest
      (String.ofList (read.reverse ++ cs)) := by
  induction cs with
  | nil =>
    intro left read hleft
    obtain ⟨left, rfl⟩ : ∃ n, left = n + 1 := ⟨left - 1, by simp at hleft; omega⟩
    refine (reads_peek _).bind ?_
    simp only [quoted, List.flatMap_nil, List.nil_append, List.head?_cons, if_true, List.append_nil]
    exact (reads_advance '"' rest).bind (.pure _ rest)
  | cons c cs ih =>
    intro left read hleft
    obtain ⟨left, rfl⟩ : ∃ n, left = n + 1 := ⟨left - 1, by simp at hleft; omega⟩
    have hrest := ih (c :: read) (Nat.lt_of_succ_lt_succ hleft)
    rw [List.reverse_cons, List.append_assoc, List.singleton_append] at hrest
    rw [quoted, List.flatMap_cons, List.append_assoc]
    exact reads_renderChar hrest

/-- A text is read back from behind the opening mark of its quotation. -/
theorem reads_quotation (s : String) (rest : List Char) :
    Reads quotation (quoted s.toList ++ '"' :: rest) rest s := by
  intro offset
  have hlength : s.toList.length < (quoted s.toList ++ '"' :: rest).length + 1 := by
    have := length_le_quoted s.toList
    rw [List.length_append]
    omega
  have hread : Reads (quotationFrom _ []) (quoted s.toList ++ '"' :: rest) rest _ :=
    reads_quotationFrom s.toList [] hlength
  rw [List.reverse_nil, List.nil_append, String.ofList_toList] at hread
  exact hread offset

/-! ## Integers -/

/-- What may stand behind a value in spread text: a comma, a line end, or nothing. -/
def Follows (rest : List Char) : Prop := ∀ c, rest.head? = some c → c = ',' ∨ c = '\n'

/-- One digit more is ten times the number, plus the digit, as long as that fits. -/
theorem gather_append {bound value total : Nat} {c : Char} (cs : List Char)
    (h : gather bound value cs = (total, [])) (hfit : total * 10 + digitValue c < bound) :
    gather bound value (cs ++ [c]) = (total * 10 + digitValue c, []) := by
  induction cs generalizing value with
  | nil =>
    obtain ⟨rfl, -⟩ := Prod.mk.inj h
    rw [List.nil_append, gather, if_pos hfit, gather]
  | cons d cs ih =>
    rw [gather] at h
    rw [List.cons_append, gather]
    split at h
    case isTrue hd => rw [if_pos hd, ih h]
    case isFalse => cases h

/-- A digit below ten has the value that it is written for. -/
theorem digitValue_digitChar {n : Nat} (h : n < 10) : digitValue (Nat.digitChar n) = n := by
  have hall : ∀ m < 10, digitValue (Nat.digitChar m) = m := by decide
  exact hall n h

/-- The digits of a number that fits are gathered to the number. -/
theorem gather_toDigits {bound : Nat} (n : Nat) (h : n < bound) :
    gather bound 0 (Nat.toDigits 10 n) = (n, []) := by
  induction n using Nat.strongRecOn with
  | ind n ih =>
    by_cases hsmall : n < 10
    · rw [Nat.toDigits_of_lt_base hsmall, gather, digitValue_digitChar hsmall, Nat.zero_mul,
        Nat.zero_add, if_pos h, gather]
    · have hinit := ih (n / 10) (by omega) (by omega)
      have hlast := digitValue_digitChar (Nat.mod_lt n (by decide : 0 < 10))
      rw [Nat.toDigits_of_base_le (by decide) (by omega), gather_append _ hinit (by omega), hlast]
      congr 1
      omega

/-- No number but zero begins with a zero. -/
theorem exists_toDigits {n : Nat} (h : 0 < n) :
    ∃ d ds, Nat.toDigits 10 n = d :: ds ∧ d ≠ '0' := by
  induction n using Nat.strongRecOn with
  | ind n ih =>
    by_cases hsmall : n < 10
    · have hall : ∀ m < 10, 0 < m → Nat.digitChar m ≠ '0' := by decide
      exact ⟨_, [], Nat.toDigits_of_lt_base hsmall, hall n hsmall h⟩
    · obtain ⟨d, ds, hdigits, hd⟩ := ih (n / 10) (by omega) (by omega)
      rw [Nat.toDigits_of_base_le (by decide) (by omega), hdigits]
      exact ⟨d, _, rfl, hd⟩

/-- No digit may follow a value. -/
theorem Follows.isDigit_eq_false (h : Follows rest) {c : Char} (hc : rest.head? = some c) :
    c.isDigit = false := by
  obtain rfl | rfl := h c hc
  · rfl
  · rfl

/-- The digits before a mark are taken as a run. -/
theorem Follows.reads_digits (h : Follows rest) {digits : List Char}
    (hdigits : ∀ d ∈ digits, d.isDigit = true) :
    Reads (takeWhile Char.isDigit) (digits ++ rest) rest digits := by
  have hread := reads_takeWhile Char.isDigit (digits ++ rest)
  rw [List.takeWhile_append_of_pos hdigits, List.dropWhile_append_of_pos hdigits] at hread
  cases rest with
  | nil => simpa using hread
  | cons c rest => simpa [h.isDigit_eq_false (c := c) rfl] using hread

/-- The digits of an integer are read up to what follows it. -/
theorem reads_number {negative : Bool} {n : Nat} {k : Number} (h : Follows rest)
    (hn : n < wordBound) (hafter : Reads (afterInteger negative n) rest rest k) :
    Reads (number negative) (Nat.toDigits 10 n ++ rest) rest k := by
  have hall : ∀ d ∈ Nat.toDigits 10 n, d.isDigit = true :=
    fun d hd => Nat.isDigit_of_mem_toDigits (by decide) (by decide) hd
  by_cases hzero : n = 0
  · subst hzero
    refine (reads_peek _).bind ?_
    refine (reads_advance '0' rest).bind ((reads_peek rest).bind ?_)
    cases rest with
    | nil => exact hafter
    | cons c rest =>
      simp only [List.head?_cons, h.isDigit_eq_false (c := c) rfl]
      exact hafter
  · obtain ⟨d, ds, hdigits, hd⟩ := exists_toDigits (Nat.pos_of_ne_zero hzero)
    have hdigit := hall d (by rw [hdigits]; exact List.mem_cons_self)
    have hrun := h.reads_digits hall
    refine (reads_peek _).bind ?_
    rw [hdigits, List.cons_append] at hrun ⊢
    rw [List.head?_cons]
    split
    case h_1 hnone => cases hnone
    case h_2 hsome => exact absurd (Option.some.inj hsome) hd
    case h_3 c _ hsome =>
      obtain rfl := Option.some.inj hsome
      rw [if_pos hdigit]
      refine hrun.bind ?_
      rw [← hdigits, gather_toDigits n hn]
      exact hafter

/-- A value is followed by the end of the text, by a comma or by the end of its line. -/
theorem Follows.eq_cases (h : Follows rest) :
    rest = [] ∨ (∃ tail, rest = ',' :: tail) ∨ ∃ tail, rest = '\n' :: tail := by
  cases rest with
  | nil => exact .inl rfl
  | cons c tail =>
    obtain rfl | rfl := h c rfl
    · exact .inr (.inl ⟨tail, rfl⟩)
    · exact .inr (.inr ⟨tail, rfl⟩)

/-- A natural number is read back from its digits; neither a point nor an exponent follows them. -/
theorem reads_natural (h : Follows rest) (n : UInt64) :
    Reads (number false) (Nat.toDigits 10 n.toNat ++ rest) rest (.natural n) := by
  have hplain : ∀ rest, Reads (pure (.natural n.toNat.toUInt64)) rest rest (Number.natural n) := by
    intro rest
    rw [Nat.toUInt64_eq, UInt64.ofNat_toNat]
    exact .pure _ rest
  refine reads_number h n.toNat_lt ?_
  obtain rfl | ⟨tail, rfl⟩ | ⟨tail, rfl⟩ := h.eq_cases <;> exact (reads_peek _).bind (hplain _)

/-- A negative integer is read back from its digits, behind the sign. -/
theorem reads_negSucc (h : Follows rest) (n : Fin (Nat.pow 2 63)) :
    Reads (number true) (Nat.toDigits 10 (n.val + 1) ++ rest) rest (.negSucc n) := by
  have hbound : Nat.pow 2 63 < wordBound := by decide
  have hplain : ∀ rest, Reads (if h : 0 < n.val + 1 ∧ n.val + 1 ≤ Nat.pow 2 63 then
      pure (.negSucc ⟨n.val + 1 - 1, by omega⟩) else scaled true (n.val + 1) 0)
      rest rest (.negSucc n) := by
    intro rest
    rw [dif_pos ⟨Nat.succ_pos _, n.isLt⟩]
    exact .pure _ rest
  refine reads_number h (by omega) ?_
  obtain rfl | ⟨tail, rfl⟩ | ⟨tail, rfl⟩ := h.eq_cases <;> exact (reads_peek _).bind (hplain _)

end Scan

end GrammarDesk.Json
