import GrammarDesk.Proofs.Json.Entries
import GrammarDesk.Proofs.Json.Reading

/-!
# Spread text, line by line

Spread text puts each item and each entry on a line of its own.  A reader of lists or objects that
takes the text of every item, or of every entry behind its key, takes the whole container from
behind its opening mark.  The readers of values and of shapes are both of this form, so what is
proved here of lines serves both.

Main definitions:

- `following`, `inside`: the characters of a container behind a line and behind its opening mark.
- `Scan.Takes`: a reader takes a text for a result wherever a value may stand.
- `Scan.IsItemLoop`, `Scan.IsEntryLoop`: how readers of lists and of objects go on.

Main results:

- `spread_toList`: a container by its characters.
- `Value.exists_renderSpread_eq_cons`: what a value starts with.
- `Scan.IsItemLoop.reads_inside`, `Scan.IsEntryLoop.reads_inside`: containers are read line by line.
-/

namespace GrammarDesk.Json

/-! ## Spread text by its characters -/

/-- The blanks before a line. -/
def margin (indent : Nat) : List Char := List.replicate (2 * indent) ' '

/-- What stands behind a line of a container, up to the mark that closes it. -/
def following (indent : Nat) (closing : String) : List String → List Char
  | [] => '\n' :: (margin indent ++ closing.toList)
  | line :: lines =>
    ',' :: '\n' :: (margin (indent + 1) ++ (line.toList ++ following indent closing lines))

/-- What stands behind the mark that opens a container, up to the mark that closes it. -/
def inside (indent : Nat) (closing : String) : List String → List Char
  | [] => closing.toList
  | line :: lines =>
    '\n' :: (margin (indent + 1) ++ (line.toList ++ following indent closing lines))

/-- Lines that are joined by commas are read character by character as a line and what follows it.
-/
theorem intercalate_toList (indent : Nat) (closing line : String) (lines : List String) :
    ((",\n".intercalate ((line :: lines).map (String.ofList (margin (indent + 1)) ++ ·))).toList
        ++ '\n' :: (margin indent ++ closing.toList)) =
      margin (indent + 1) ++ (line.toList ++ following indent closing lines) := by
  induction lines generalizing line with
  | nil => simp [following]
  | cons next lines ih =>
    have hnext := ih next
    simp only [List.map_cons] at hnext ⊢
    rw [String.intercalate_cons_cons]
    simp only [String.toList_append, String.toList_ofList, following, ← hnext, List.append_assoc]
    rfl

/-- A container is its opening mark and what stands inside. -/
theorem spread_toList (indent : Nat) (opening closing : String) (lines : List String) :
    (spread indent opening closing lines).toList =
      opening.toList ++ inside indent closing lines := by
  cases lines with
  | nil => simp [spread, inside]
  | cons line lines =>
    rw [inside, ← intercalate_toList]
    simp [spread, margin, String.toList_append]

/-- The opening mark pays for the step into a container.  Steps are counted against characters, so
that a text is never too long for a reader that is given some steps for each of its characters. -/
theorem length_inside_le {pace budget indent : Nat} (hpace : 0 < pace) {opening closing : String}
    {lines : List String} (hopening : opening.length = 1)
    (h : pace * (spread indent opening closing lines).length ≤ budget + 1) :
    pace * (inside indent closing lines).length ≤ budget := by
  rw [← String.length_toList, spread_toList, List.length_append, String.length_toList, hopening,
    Nat.mul_add] at h
  omega

/-! ## The first character of a value -/

/-- A character that a value may start with. -/
def IsStart (c : Char) : Prop := c ∈ Scan.valueStarts ∨ c.isDigit = true

/-- The four blanks of a document are among the blanks of all texts. -/
theorem isBlank_of_isJsonBlank {c : Char} (h : Scan.isJsonBlank c = true) :
    Text.isBlank c = true := by
  simp only [Scan.isJsonBlank, Bool.or_eq_true, decide_eq_true_eq] at h
  obtain ((rfl | rfl) | rfl) | rfl := h <;> decide

/-- No value starts with a blank. -/
theorem IsStart.isJsonBlank_eq_false {c : Char} (h : IsStart c) : Scan.isJsonBlank c = false := by
  have hblank : Text.isBlank c = false := by
    obtain h | h := h
    · exact Scan.isBlank_of_mem_valueStarts h
    · exact isBlank_of_isDigit h
  rw [Bool.eq_false_iff]
  intro hjson
  rw [isBlank_of_isJsonBlank hjson] at hblank
  cases hblank

/-- No value starts with the mark that closes a list. -/
theorem IsStart.ne_bracket {c : Char} (h : IsStart c) : c ≠ ']' := by
  rintro rfl
  obtain h | h := h
  · revert h
    decide
  · cases h

/-- The digits of a number are not none. -/
theorem exists_toDigits_eq_cons (n : Nat) :
    ∃ d ds, Nat.toDigits 10 n = d :: ds ∧ d.isDigit = true := by
  obtain ⟨d, ds, hdigits⟩ := List.exists_cons_of_ne_nil (Nat.toDigits_ne_nil (n := n) (b := 10))
  have hmem : d ∈ Nat.toDigits 10 n := by
    rw [hdigits]
    exact List.mem_cons_self
  exact ⟨d, ds, hdigits, Nat.isDigit_of_mem_toDigits (by decide) (by decide) hmem⟩

/-- A decimal starts with a digit in each of its forms. -/
theorem exists_layout_eq_cons (digits : Nat) (power : Int) :
    ∃ d ds, (layout digits power).toList = d :: ds ∧ d.isDigit = true := by
  obtain ⟨d, ds, hdigits, hd⟩ := exists_toDigits_eq_cons digits
  simp only [layout, hdigits]
  split_ifs
  · exact ⟨'0', _, by simp [String.toList_append]; rfl, rfl⟩
  · exact ⟨d, _, by simp [String.toList_append]; rfl, hd⟩
  · exact ⟨d, _, by simp [String.toList_append]; rfl, hd⟩
  · cases ds <;> exact ⟨d, _, by simp [String.toList_append]; rfl, hd⟩
  · cases ds <;> exact ⟨d, _, by simp [String.toList_append]; rfl, hd⟩

/-- A number starts with its sign or with a digit. -/
theorem Number.exists_render_eq_cons (n : Number) :
    ∃ c cs, n.render.toList = c :: cs ∧ (c = '-' ∨ c.isDigit = true) := by
  cases n with
  | natural n =>
    obtain ⟨d, ds, hdigits, hd⟩ := exists_toDigits_eq_cons n.toNat
    exact ⟨d, ds, by rw [Number.render, Text.decimal, String.toList_ofList, hdigits], .inr hd⟩
  | negSucc n => exact ⟨'-', _, by rw [Number.render, String.toList_append]; rfl, .inl rfl⟩
  | double x =>
    rw [Number.render, Binary64.render]
    cases hnegative : x.isNegative with
    | true =>
      split
      · exact ⟨'-', _, by simp; rfl, .inl rfl⟩
      · exact ⟨'-', _, by simp [String.toList_append]; rfl, .inl rfl⟩
    | false =>
      split
      · exact ⟨'0', _, by simp; rfl, .inr rfl⟩
      · obtain ⟨d, ds, hlayout, hd⟩ :=
          exists_layout_eq_cons x.shortestDecimal.1 x.shortestDecimal.2
        exact ⟨d, ds, by simpa [String.toList_append] using hlayout, .inr hd⟩

/-- A value starts with a letter, a digit, a sign or a mark, and only null starts as null does. -/
theorem Value.exists_renderSpread_eq_cons (indent : Nat) (v : Value) :
    ∃ c cs, (v.renderSpread indent).toList = c :: cs ∧ IsStart c ∧ (c = 'n' → v = .null) := by
  cases v with
  | null => exact ⟨'n', _, Scan.null_toList, .inl (by decide), fun _ => rfl⟩
  | bool b =>
    cases b with
    | true => exact ⟨'t', _, Scan.true_toList, .inl (by decide), fun h => absurd h (by decide)⟩
    | false => exact ⟨'f', _, Scan.false_toList, .inl (by decide), fun h => absurd h (by decide)⟩
  | number n =>
    obtain ⟨c, cs, hrender, hc⟩ := n.exists_render_eq_cons
    refine ⟨c, cs, hrender, ?_, ?_⟩
    · exact hc.imp_left (by rintro rfl; decide)
    · rintro rfl
      obtain hc | hc := hc
      · cases hc
      · cases hc
  | string s =>
    exact ⟨'"', _, Scan.renderString_toList s, .inl (by decide), fun h => absurd h (by decide)⟩
  | array items =>
    exact ⟨'[', _, spread_toList _ _ _ _, .inl (by decide), fun h => absurd h (by decide)⟩
  | object entries =>
    exact ⟨'\x7b', _, spread_toList _ _ _ _, .inl (by decide), fun h => absurd h (by decide)⟩

/-! ## Marks and lines -/

theorem all_isJsonBlank_margin (indent : Nat) : (margin indent).all Scan.isJsonBlank = true := by
  simp [margin, Scan.isJsonBlank]

/-- The end of a line and the margin of the next are blanks. -/
theorem all_isJsonBlank_line (indent : Nat) :
    ('\n' :: margin indent).all Scan.isJsonBlank = true := by
  rw [List.all_cons, all_isJsonBlank_margin]
  rfl

namespace Scan

/-- Behind a line stands a comma or the end of a line, and either ends a number. -/
theorem follows_following (indent : Nat) (closing : String) (lines : List String)
    (rest : List Char) : Follows (following indent closing lines ++ rest) := by
  intro c hc
  cases lines with
  | nil => exact .inr (Option.some.inj hc).symm
  | cons line lines => exact .inl (Option.some.inj hc).symm

variable {blanks rest : List Char} {c : Char}

/-- Before the first item there are only blanks. -/
theorem reads_nextItem_first (hblanks : blanks.all isJsonBlank = true) (hc : IsStart c) :
    Reads (nextItem true) (blanks ++ c :: rest) (c :: rest) true := by
  refine (reads_skipBlanks hblanks hc.isJsonBlank_eq_false rest).bind ?_
  split
  case h_1 h => cases h
  case h_2 h => exact absurd (Option.some.inj h) hc.ne_bracket
  case h_3 => exact .pure true _

/-- Before a further item there are a comma and blanks. -/
theorem reads_nextItem_next (hblanks : blanks.all isJsonBlank = true) (hc : IsStart c) :
    Reads (nextItem false) (',' :: (blanks ++ c :: rest)) (c :: rest) true := by
  refine (reads_skipBlanks_cons (by decide) _).bind ?_
  refine (reads_advance ',' _).bind ?_
  refine (reads_skipBlanks hblanks hc.isJsonBlank_eq_false rest).bind ?_
  split
  case h_1 h => exact absurd (Option.some.inj h) hc.ne_bracket
  case h_2 => exact .pure true _
  case h_3 h => cases h

/-- A bracket ends a list, also an empty one. -/
theorem reads_nextItem_last (hblanks : blanks.all isJsonBlank = true) (first : Bool) :
    Reads (nextItem first) (blanks ++ ']' :: rest) (']' :: rest) false :=
  (reads_skipBlanks hblanks (by decide) rest).bind (.pure false _)

/-- Before the first key there are only blanks. -/
theorem reads_nextKey_first (hblanks : blanks.all isJsonBlank = true) :
    Reads (nextKey true) (blanks ++ '"' :: rest) ('"' :: rest) true :=
  (reads_skipBlanks hblanks (by decide) rest).bind (.pure true _)

/-- Before a further key there are a comma and blanks. -/
theorem reads_nextKey_next (hblanks : blanks.all isJsonBlank = true) :
    Reads (nextKey false) (',' :: (blanks ++ '"' :: rest)) ('"' :: rest) true :=
  (reads_skipBlanks_cons (by decide) _).bind
    ((reads_advance ',' _).bind ((reads_skipBlanks hblanks (by decide) rest).bind (.pure true _)))

/-- A brace ends an object, also an empty one. -/
theorem reads_nextKey_last (hblanks : blanks.all isJsonBlank = true) (first : Bool) :
    Reads (nextKey first) (blanks ++ '\x7d' :: rest) ('\x7d' :: rest) false :=
  (reads_skipBlanks hblanks (by decide) rest).bind (.pure false _)

theorem reads_colon (rest : List Char) : Reads colon (':' :: rest) rest () :=
  (reads_skipBlanks_cons (by decide) rest).bind (reads_advance ':' rest)

/-! ## Taking a text -/

/-- The reader takes the text for a result, behind any blanks and before what may follow a value;
it needs `pace` steps at most for each character. -/
def Takes {α : Type} (reader : Nat → Scan α) (pace : Nat) (text : String) (a : α) : Prop :=
  ∀ budget blanks rest, blanks.all isJsonBlank = true → pace * text.length ≤ budget →
    Follows rest → Reads (reader budget) (blanks ++ (text.toList ++ rest)) rest a

/-- Some step is left for a value, whose text is not empty. -/
theorem takes_of_succ {α : Type} {reader : Nat → Scan α} {pace indent : Nat} {v : Value} {a : α}
    (hpace : 0 < pace) (h : ∀ budget blanks rest, blanks.all isJsonBlank = true →
      pace * (v.renderSpread indent).length ≤ budget + 1 → Follows rest →
      Reads (reader (budget + 1)) (blanks ++ ((v.renderSpread indent).toList ++ rest)) rest a) :
    Takes reader pace (v.renderSpread indent) a := by
  intro budget blanks rest hblanks hbudget hrest
  obtain ⟨c, cs, htext, -⟩ := v.exists_renderSpread_eq_cons indent
  have hpos : 0 < (v.renderSpread indent).length := by
    rw [← String.length_toList, htext]
    exact Nat.succ_pos _
  have := Nat.mul_pos hpace hpos
  obtain ⟨budget, rfl⟩ : ∃ n, budget = n + 1 := ⟨budget - 1, by omega⟩
  exact h budget blanks rest hblanks hbudget hrest

/-! ### Lists -/

/-- How a reader of the items of a list goes on, with a reader for one item. -/
def IsItemLoop (loop : Nat → Bool → Scan (List Value)) (one : Nat → Scan Value) : Prop :=
  ∀ budget first, loop (budget + 1) first = (do
    if ← nextItem first then
      let item ← one budget
      return item :: (← loop budget false)
    else
      advance
      return [])

namespace IsItemLoop

variable {loop : Nat → Bool → Scan (List Value)} {one : Nat → Scan Value} {pace indent : Nat}
variable {items ws : List Value} {before after : List Char}

/-- One item more: its text is taken, and the loop goes on behind it. -/
theorem reads_item (hloop : IsItemLoop loop one) {first : Bool} {budget : Nat} {text : String}
    {w : Value} (hnext : Reads (nextItem first) before (text.toList ++ after) true)
    (hitem : Takes one pace text w) (hbudget : pace * text.length ≤ budget)
    (hfollows : Follows after) (hrest : Reads (loop budget false) after rest ws) :
    Reads (loop (budget + 1) first) before rest (w :: ws) := by
  rw [hloop]
  refine hnext.bind ?_
  rw [if_pos rfl]
  exact (hitem budget [] after List.all_nil hbudget hfollows).bind (hrest.bind (.pure _ rest))

/-- The loop ends at the bracket. -/
theorem reads_last (hloop : IsItemLoop loop one) {first : Bool} {budget : Nat}
    (hblanks : blanks.all isJsonBlank = true) :
    Reads (loop (budget + 1) first) (blanks ++ ']' :: rest) rest [] := by
  rw [hloop]
  refine (reads_nextItem_last hblanks first).bind ?_
  exact (reads_advance ']' rest).bind (.pure [] rest)

/-- The lines behind the first one are read item by item. -/
theorem reads_following (hloop : IsItemLoop loop one) (hpace : 0 < pace)
    (hitems : List.Forall₂ (fun v w => Takes one pace (v.renderSpread (indent + 1)) w) items ws) :
    ∀ budget, pace * (following indent "]" (spreadItems (indent + 1) items)).length ≤ budget →
      Reads (loop budget false)
        (following indent "]" (spreadItems (indent + 1) items) ++ rest) rest ws := by
  induction hitems with
  | nil =>
    intro budget hbudget
    simp only [spreadItems, following, List.length_cons, Nat.mul_succ] at hbudget ⊢
    obtain ⟨budget, rfl⟩ : ∃ n, budget = n + 1 := ⟨budget - 1, by omega⟩
    rw [← List.cons_append, List.append_assoc]
    exact hloop.reads_last (all_isJsonBlank_line indent)
  | @cons v w items ws hitem _ ih =>
    -- the comma and the line end before the item pay for the step to it
    intro budget hbudget
    simp only [spreadItems, following, List.length_cons, List.length_append, Nat.mul_add,
      Nat.mul_succ, String.length_toList] at hbudget ⊢
    obtain ⟨budget, rfl⟩ : ∃ n, budget = n + 1 := ⟨budget - 1, by omega⟩
    obtain ⟨c, cs, htext, hc, -⟩ := v.exists_renderSpread_eq_cons (indent + 1)
    refine hloop.reads_item ?_ hitem (by omega) (follows_following indent "]" _ rest)
      (ih budget (by omega))
    rw [htext]
    simpa using reads_nextItem_next (all_isJsonBlank_line (indent + 1)) hc

/-- A list is read item by item from behind its opening mark. -/
theorem reads_inside (hloop : IsItemLoop loop one) (hpace : 0 < pace)
    (hitems : List.Forall₂ (fun v w => Takes one pace (v.renderSpread (indent + 1)) w) items ws)
    {budget : Nat}
    (hbudget : pace * (inside indent "]" (spreadItems (indent + 1) items)).length ≤ budget) :
    Reads (loop budget true)
      (inside indent "]" (spreadItems (indent + 1) items) ++ rest) rest ws := by
  cases hitems with
  | nil =>
    obtain ⟨budget, rfl⟩ : ∃ n, budget = n + 1 :=
      ⟨budget - 1, by simp [spreadItems, inside] at hbudget; omega⟩
    exact hloop.reads_last List.all_nil
  | @cons v w items ws hitem hrest =>
    simp only [spreadItems, inside, List.length_cons, List.length_append, Nat.mul_add,
      Nat.mul_succ, String.length_toList] at hbudget ⊢
    obtain ⟨budget, rfl⟩ : ∃ n, budget = n + 1 := ⟨budget - 1, by omega⟩
    obtain ⟨c, cs, htext, hc, -⟩ := v.exists_renderSpread_eq_cons (indent + 1)
    refine hloop.reads_item ?_ hitem (by omega) (follows_following indent "]" _ rest)
      (hloop.reads_following hpace hrest budget (by omega))
    rw [htext]
    simpa using reads_nextItem_first (all_isJsonBlank_line (indent + 1)) hc

end IsItemLoop

/-! ### Objects -/

section

variable {α : Type}

/-- How a reader of the entries of an object goes on: behind a key with one entry, and at the end
with all of them. -/
def IsEntryLoop (loop : Nat → Entries → Scan α) (step : Nat → Entries → String → Scan α)
    (finish : Entries → Scan α) : Prop :=
  ∀ budget read, loop (budget + 1) read = (do
    if ← nextKey read.isEmpty then
      advance
      step budget read (← quotation)
    else
      advance
      finish read)

/-- Behind a key that is new, the reader takes the text for a value and goes on with both. -/
def TakesEntry (loop : Nat → Entries → Scan α) (step : Nat → Entries → String → Scan α)
    (pace : Nat) (key text : String) (w : Value) : Prop :=
  ∀ budget read after rest a, pace * text.length < budget → Follows after →
    Entries.get? read key = none → Reads (loop budget (Entries.insert key w read)) after rest a →
    Reads (step budget read key) (':' :: ' ' :: (text.toList ++ after)) rest a

end

namespace IsEntryLoop

variable {α : Type} {loop : Nat → Entries → Scan α} {step : Nat → Entries → String → Scan α}
variable {finish : Entries → Scan α} {pace indent : Nat} {es ws : Entries}
variable {before after : List Char} {a : α}

/-- An entry is a quotation, a colon, a space and the text of its value. -/
theorem entry_toList (key text : String) :
    (renderString key ++ ": " ++ text).toList =
      '"' :: (quoted key.toList ++ '"' :: ':' :: ' ' :: text.toList) := by
  simp [String.toList_append, renderString_toList]

/-- One entry more: its key has not been read before, and the loop goes on behind its value. -/
theorem reads_entry (hloop : IsEntryLoop loop step finish) {budget : Nat} {read : Entries}
    {key text : String} {w : Value}
    (hnext : Reads (nextKey read.isEmpty) before
      ((renderString key ++ ": " ++ text).toList ++ after) true)
    (hentry : TakesEntry loop step pace key text w) (hbudget : pace * text.length < budget)
    (hfollows : Follows after) (hfresh : Entries.get? read key = none)
    (hrest : Reads (loop budget (Entries.insert key w read)) after rest a) :
    Reads (loop (budget + 1) read) before rest a := by
  rw [hloop]
  refine hnext.bind ?_
  rw [if_pos rfl, entry_toList, List.cons_append, List.append_assoc]
  refine (reads_advance '"' _).bind ?_
  exact (reads_quotation key _).bind
    (hentry budget read after rest a hbudget hfollows hfresh hrest)

/-- The loop ends at the brace. -/
theorem reads_last (hloop : IsEntryLoop loop step finish) {budget : Nat} {read : Entries}
    (hblanks : blanks.all isJsonBlank = true) (hfinish : Reads (finish read) rest rest a) :
    Reads (loop (budget + 1) read) (blanks ++ '\x7d' :: rest) rest a := by
  rw [hloop]
  refine (reads_nextKey_last hblanks read.isEmpty).bind ?_
  exact (reads_advance '\x7d' rest).bind hfinish

/-- The lines behind the first one are read entry by entry. -/
theorem reads_following (hloop : IsEntryLoop loop step finish) (hpace : 0 < pace)
    (hentries : List.Forall₂ (fun e f => e.1 = f.1 ∧
      TakesEntry loop step pace e.1 (e.2.renderSpread (indent + 1)) f.2) es ws)
    (hkeys : (ws.map Prod.fst).Nodup) :
    ∀ budget read, read.isEmpty = false → (∀ f ∈ ws, Entries.get? read f.1 = none) →
      pace * (following indent "\x7d" (spreadEntries (indent + 1) es)).length ≤ budget →
      Reads (finish (Entries.insertAll read ws)) rest rest a →
      Reads (loop budget read)
        (following indent "\x7d" (spreadEntries (indent + 1) es) ++ rest) rest a := by
  induction hentries with
  | nil =>
    intro budget read _ _ hbudget hfinish
    simp only [spreadEntries, following, List.length_cons, Nat.mul_succ] at hbudget ⊢
    obtain ⟨budget, rfl⟩ : ∃ n, budget = n + 1 := ⟨budget - 1, by omega⟩
    rw [← List.cons_append, List.append_assoc]
    exact hloop.reads_last (all_isJsonBlank_line indent) hfinish
  | @cons e f es ws hentry _ ih =>
    intro budget read hread hfresh hbudget hfinish
    obtain ⟨key, v⟩ := e
    obtain ⟨key', w⟩ := f
    obtain ⟨rfl, hentry⟩ := hentry
    change TakesEntry loop step pace key (v.renderSpread (indent + 1)) w at hentry
    obtain ⟨hkey, hkeys⟩ := List.nodup_cons.1 hkeys
    obtain ⟨hnew, hfresh⟩ := List.forall_mem_cons.1 hfresh
    simp only [spreadEntries, following, List.length_cons, List.length_append, Nat.mul_add,
      Nat.mul_succ, String.length_toList, String.length_append] at hbudget ⊢
    obtain ⟨budget, rfl⟩ : ∃ n, budget = n + 1 := ⟨budget - 1, by omega⟩
    refine hloop.reads_entry ?_ hentry (by omega) (follows_following indent "\x7d" _ rest) hnew
      (ih hkeys budget _ (Entries.isEmpty_insert key w read) ?_ (by omega) hfinish)
    · rw [hread, entry_toList]
      simpa using reads_nextKey_next (all_isJsonBlank_line (indent + 1))
    · intro f hf
      rw [Entries.get?_insert, if_neg, hfresh f hf]
      rintro rfl
      exact hkey (List.mem_map.2 ⟨f, hf, rfl⟩)

/-- An object is read entry by entry from behind its opening mark. -/
theorem reads_inside (hloop : IsEntryLoop loop step finish) (hpace : 0 < pace)
    (hentries : List.Forall₂ (fun e f => e.1 = f.1 ∧
      TakesEntry loop step pace e.1 (e.2.renderSpread (indent + 1)) f.2) es ws)
    (hkeys : (ws.map Prod.fst).Nodup) {budget : Nat}
    (hbudget : pace * (inside indent "\x7d" (spreadEntries (indent + 1) es)).length ≤ budget)
    (hfinish : Reads (finish (Entries.insertAll [] ws)) rest rest a) :
    Reads (loop budget [])
      (inside indent "\x7d" (spreadEntries (indent + 1) es) ++ rest) rest a := by
  cases hentries with
  | nil =>
    obtain ⟨budget, rfl⟩ : ∃ n, budget = n + 1 :=
      ⟨budget - 1, by simp [spreadEntries, inside] at hbudget; omega⟩
    exact hloop.reads_last List.all_nil hfinish
  | @cons e f es ws hentry hrest =>
    obtain ⟨key, v⟩ := e
    obtain ⟨key', w⟩ := f
    obtain ⟨rfl, hentry⟩ := hentry
    change TakesEntry loop step pace key (v.renderSpread (indent + 1)) w at hentry
    obtain ⟨hkey, hkeys⟩ := List.nodup_cons.1 hkeys
    have hseparator : ": ".length = 2 := by decide
    simp only [spreadEntries, inside, List.length_cons, List.length_append, Nat.mul_add,
      Nat.mul_succ, String.length_toList, String.length_append, hseparator] at hbudget ⊢
    obtain ⟨budget, rfl⟩ : ∃ n, budget = n + 1 := ⟨budget - 1, by omega⟩
    refine hloop.reads_entry ?_ hentry (by omega) (follows_following indent "\x7d" _ rest)
      (Entries.get?_nil key)
      (hloop.reads_following hpace hrest hkeys budget _ (Entries.isEmpty_insert key w []) ?_
        (by omega) hfinish)
    · rw [entry_toList]
      simpa using reads_nextKey_first (all_isJsonBlank_line (indent + 1))
    · intro f hf
      rw [Entries.get?_insert, if_neg, Entries.get?_nil]
      rintro rfl
      exact hkey (List.mem_map.2 ⟨f, hf, rfl⟩)

end IsEntryLoop

end Scan

end GrammarDesk.Json
