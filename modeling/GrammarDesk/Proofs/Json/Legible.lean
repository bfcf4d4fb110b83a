import GrammarDesk.Proofs.Json.Spread

/-!
# Reading back values

The reader takes the spread text of a value for that value, wherever in a document the text stands:
behind blanks, before a comma or a line end, and with as many steps as the text has characters.
This is proved for every kind of value but doubles, whose digits come from arithmetic that no proof
can open; a value that holds doubles is read back if each of them is.

Main definitions:

- `Value.Legible`: a value is read back from its spread text.
- `Value.isPlain`: values without doubles, with keys in order and not nested too deep.

Main results:

- `Value.Legible.array`, `Value.Legible.object`: containers of what is read back are read back.
- `Value.Legible.parse`: a document that holds such a value is parsed to the value.
- `Value.legible_of_isPlain`: plain values are read back.
-/

namespace GrammarDesk.Json

/-! ## Legible values -/

/-- The reader takes the spread text of the value, as it stands in a document with its lines
`indent` steps in, for the value; containers may be nested less deep than `depth`. -/
def Value.Legible (indent depth : Nat) (v : Value) : Prop :=
  Scan.Takes (fun budget => Scan.value budget depth) 1 (v.renderSpread indent) v

namespace Value.Legible

variable {indent depth : Nat}

open Scan

/-- Null is read back. -/
theorem null : Legible indent depth .null := by
  refine takes_of_succ (by decide) fun budget blanks rest hblanks hbudget hrest => ?_
  rw [renderSpread, null_toList, Scan.value]
  exact (reads_skipBlanks hblanks (by decide) _).bind (reads_constant 'n' "ull" Value.null rest)

/-- Truth values are read back. -/
theorem bool (b : Bool) : Legible indent depth (.bool b) := by
  refine takes_of_succ (by decide) fun budget blanks rest hblanks hbudget hrest => ?_
  rw [renderSpread, Scan.value]
  cases b with
  | true =>
    rw [if_pos rfl, true_toList]
    exact (reads_skipBlanks hblanks (by decide) _).bind
      (reads_constant 't' "rue" (Value.bool true) rest)
  | false =>
    rw [if_neg Bool.false_ne_true, false_toList]
    exact (reads_skipBlanks hblanks (by decide) _).bind
      (reads_constant 'f' "alse" (Value.bool false) rest)

/-- Texts are read back, whatever characters they consist of. -/
theorem string (s : String) : Legible indent depth (.string s) := by
  refine takes_of_succ (by decide) fun budget blanks rest hblanks hbudget hrest => ?_
  rw [renderSpread, Scan.value, renderString_toList, List.append_assoc]
  exact (reads_skipBlanks hblanks (by decide) _).bind
    ((reads_advance '"' _).bind ((reads_quotation s rest).bind (.pure _ rest)))

/-- Natural numbers are read back. -/
theorem natural (n : UInt64) : Legible indent depth (.number (.natural n)) := by
  refine takes_of_succ (by decide) fun budget blanks rest hblanks hbudget hrest => ?_
  obtain ⟨d, ds, hdigits, hd⟩ := exists_toDigits_eq_cons n.toNat
  have hnumber := reads_natural hrest n
  rw [hdigits, List.cons_append] at hnumber
  rw [renderSpread, Number.render, Text.decimal, String.toList_ofList, hdigits, Scan.value]
  refine (reads_skipBlanks hblanks (IsStart.isJsonBlank_eq_false (.inr hd)) _).bind ?_
  split
  case h_9 c _ _ _ _ _ _ _ hc =>
    obtain rfl := Option.some.inj hc
    rw [if_pos hd]
    exact hnumber.bind (.pure _ rest)
  case h_1 hc => cases hc
  -- no digit is one of the characters that a value of another kind starts with
  all_goals
    rename_i hc
    rw [Option.some.inj hc] at hd
    cases hd

/-- Negative integers are read back. -/
theorem negSucc (n : Fin (Nat.pow 2 63)) : Legible indent depth (.number (.negSucc n)) := by
  refine takes_of_succ (by decide) fun budget blanks rest hblanks hbudget hrest => ?_
  have hsign : ("-" ++ Text.decimal (n.val + 1)).toList = '-' :: Nat.toDigits 10 (n.val + 1) := by
    simp [Text.decimal]
  rw [renderSpread, Number.render, hsign, Scan.value]
  exact (reads_skipBlanks hblanks (by decide) _).bind
    ((reads_advance '-' _).bind ((reads_negSucc hrest n).bind (.pure _ rest)))

/-- The items of a list are read in such a loop. -/
theorem isItemLoop_items (depth : Nat) :
    IsItemLoop (fun budget first => items budget depth first)
      (fun budget => Scan.value budget depth) :=
  fun _ _ => rfl

/-- A list of values that are read back is read back. -/
theorem array {items : List Value} (hdepth : 1 < depth)
    (h : ∀ v ∈ items, Legible (indent + 1) (depth - 1) v) :
    Legible indent depth (.array items) := by
  refine takes_of_succ (by decide) fun budget blanks rest hblanks hbudget hrest => ?_
  rw [renderSpread] at hbudget ⊢
  rw [Scan.value, spread_toList, List.append_assoc]
  refine (reads_skipBlanks hblanks (by decide) _).bind ?_
  refine (reads_enter hdepth '[' _).bind (.bind ?_ (.pure _ rest))
  exact (isItemLoop_items (depth - 1)).reads_inside (by decide) (List.forall₂_same.2 h)
    (length_inside_le (by decide) (by decide) hbudget)

/-- What follows a key of an object: its value, and the other entries. -/
def afterKey (depth budget : Nat) (read : Entries) (key : String) : Scan Entries := do
  colon
  let item ← Scan.value budget depth
  entries budget depth (Entries.insert key item read)

/-- The entries of an object are read in such a loop. -/
theorem isEntryLoop_entries (depth : Nat) :
    IsEntryLoop (fun budget read => entries budget depth read) (afterKey depth) pure :=
  fun _ _ => rfl

/-- An entry is taken if its value is read back. -/
theorem takesEntry {key : String} {v : Value} (h : Legible indent depth v) :
    TakesEntry (fun budget read => entries budget depth read) (afterKey depth) 1 key
      (v.renderSpread indent) v := by
  intro budget read after rest a hbudget hafter _ hrest
  refine (reads_colon _).bind ?_
  exact (h budget [' '] after (by decide) (Nat.le_of_lt hbudget) hafter).bind hrest

/-- An object with its keys in order is read back, if its values are. -/
theorem object {es : Entries} (hdepth : 1 < depth) (horder : es.InOrder)
    (h : ∀ e ∈ es, Legible (indent + 1) (depth - 1) e.2) : Legible indent depth (.object es) := by
  refine takes_of_succ (by decide) fun budget blanks rest hblanks hbudget hrest => ?_
  have hentries := (isEntryLoop_entries (depth - 1)).reads_inside (by decide)
    (List.forall₂_same.2 fun e he => ⟨rfl, (h e he).takesEntry⟩) horder.nodup
    (length_inside_le (by decide) (by decide) hbudget) (.pure _ rest)
  have hinserted : Entries.insertAll [] es = es := Entries.insertAll_of_inOrder horder
  rw [hinserted] at hentries
  rw [renderSpread, Scan.value, spread_toList, List.append_assoc]
  refine (reads_skipBlanks hblanks (by decide) _).bind ?_
  exact (reads_enter hdepth '\x7b' _).bind (hentries.bind (.pure _ rest))

/-- A document that holds the value and nothing else is parsed to the value. -/
theorem parse {v : Value} (h : v.Legible 0 depthLimit) : parse (v.renderSpread 0) = .ok v := by
  refine Reads.run_whole ((reads_budgetLeft _).bind ?_)
  have hread := h (2 * (v.renderSpread 0).toList.length + 8) [] [] List.all_nil
    (by rw [String.length_toList]; omega) (by intro c hc; cases hc)
  simpa using hread

end Value.Legible

/-! ## Plain values -/

mutual

/-- The value holds no doubles, the keys of its objects increase, and its containers are nested
less deep than `depth`. -/
def Value.isPlain (depth : Nat) : Value → Bool
  | .number (.double _) => false
  | .array items => 1 < depth && arePlain (depth - 1) items
  | .object es => 1 < depth && Entries.InOrder es && valuesPlain (depth - 1) es
  | _ => true
termination_by structural v => v

/-- All values of a list are plain. -/
def Value.arePlain (depth : Nat) : List Value → Bool
  | [] => true
  | v :: vs => v.isPlain depth && Value.arePlain depth vs
termination_by structural vs => vs

/-- All values of the entries of an object are plain. -/
def Value.valuesPlain (depth : Nat) : List (String × Value) → Bool
  | [] => true
  | (_, v) :: es => v.isPlain depth && Value.valuesPlain depth es
termination_by structural es => es

end

mutual

/-- Plain values are read back. -/
theorem Value.legible_of_isPlain {indent depth : Nat} (v : Value) (h : v.isPlain depth = true) :
    v.Legible indent depth := by
  match v with
  | .null => exact .null
  | .bool b => exact .bool b
  | .number (.natural n) => exact .natural n
  | .number (.negSucc n) => exact .negSucc n
  | .number (.double x) => cases h
  | .string s => exact .string s
  | .array items =>
    simp only [Value.isPlain, Bool.and_eq_true, decide_eq_true_eq] at h
    exact .array h.1 (Value.forall_legible_of_arePlain items h.2)
  | .object es =>
    simp only [Value.isPlain, Bool.and_eq_true, decide_eq_true_eq] at h
    exact .object h.1.1 h.1.2 (Value.forall_legible_of_valuesPlain es h.2)
termination_by structural v

/-- The items of a plain list are read back. -/
theorem Value.forall_legible_of_arePlain {indent depth : Nat} (vs : List Value)
    (h : Value.arePlain depth vs = true) : ∀ v ∈ vs, v.Legible indent depth := by
  match vs with
  | [] => exact fun v hv => absurd hv List.not_mem_nil
  | v :: vs =>
    rw [Value.arePlain, Bool.and_eq_true] at h
    exact List.forall_mem_cons.2
      ⟨Value.legible_of_isPlain v h.1, Value.forall_legible_of_arePlain vs h.2⟩
termination_by structural vs

/-- The values of a plain object are read back. -/
theorem Value.forall_legible_of_valuesPlain {indent depth : Nat} (es : List (String × Value))
    (h : Value.valuesPlain depth es = true) : ∀ e ∈ es, e.2.Legible indent depth := by
  match es with
  | [] => exact fun e he => absurd he List.not_mem_nil
  | (key, v) :: es =>
    rw [Value.valuesPlain, Bool.and_eq_true] at h
    exact List.forall_mem_cons.2
      ⟨Value.legible_of_isPlain v h.1, Value.forall_legible_of_valuesPlain es h.2⟩
termination_by structural es

end

end GrammarDesk.Json
