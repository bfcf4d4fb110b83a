import Mathlib.Tactic.SplitIfs
import GrammarDesk.Json.Value

/-!
# The entries of an object

Look-up in a list of entries that is put together or grows, and what becomes of entries that are
inserted one after the other: they are found under their keys, and entries that are in order already
stay as they are.

Main definitions:

- `Entries.insertAll`: entries inserted one after the other.
- `Entries.InOrder`: entries in increasing order of their keys.

Main results:

- `Entries.get?_insert`: look-up after an insertion.
- `Entries.get?_insertAll`: look-up after many insertions.
- `Entries.insertAll_of_inOrder`: entries in order stay as they are.
-/

namespace GrammarDesk.Json

namespace Entries

/-! ## Look-up -/

theorem get?_nil (key : String) : get? [] key = none := rfl

/-- The first entry is found before those behind it. -/
theorem get?_cons (name : String) (v : Value) (entries : Entries) (key : String) :
    get? ((name, v) :: entries) key = if key = name then some v else get? entries key := by
  simp [get?, eq_comm]

/-- Entries behind others are found only under keys that the others do not bind. -/
theorem get?_append (entries more : Entries) (key : String) :
    get? (entries ++ more) key = (get? entries key).or (get? more key) := by
  induction entries with
  | nil => rfl
  | cons e entries ih =>
    obtain ⟨name, v⟩ := e
    rw [List.cons_append, get?_cons, get?_cons, ih]
    split <;> rfl

/-- What is bound to a key is found there, and all other keys find what they did before. -/
theorem get?_insert (key other : String) (v : Value) (entries : Entries) :
    get? (insert key v entries) other = if other = key then some v else get? entries other := by
  induction entries with
  | nil => rw [insert, get?_cons]
  | cons e entries ih =>
    obtain ⟨name, w⟩ := e
    rw [insert, get?_cons name]
    split
    case isTrue hname =>
      subst hname
      rw [get?_cons]
      split <;> rfl
    case isFalse hname =>
      split
      · rw [get?_cons, get?_cons]
      · rw [get?_cons, ih]
        -- the entry that stays in front has another key
        split
        case isTrue hother => rw [if_neg (fun h => hname (h.symm.trans hother))]
        case isFalse => rfl

/-- There is an entry after one is inserted. -/
theorem isEmpty_insert (key : String) (v : Value) (entries : Entries) :
    (insert key v entries).isEmpty = false := by
  cases entries with
  | nil => rfl
  | cons e entries =>
    rw [insert]
    split_ifs <;> rfl

/-- Nothing is found under a key that no entry has. -/
theorem get?_eq_none {entries : Entries} {key : String} (h : key ∉ entries.map Prod.fst) :
    get? entries key = none := by
  induction entries with
  | nil => rfl
  | cons e entries ih =>
    obtain ⟨name, v⟩ := e
    rw [List.map_cons, List.mem_cons, not_or] at h
    rw [get?_cons, if_neg h.1, ih h.2]

/-! ## Inserting many entries -/

/-- The entries with more of them inserted one after the other. -/
def insertAll (entries more : Entries) : Entries :=
  more.foldl (fun entries (key, v) => insert key v entries) entries

/-- Entries are inserted from the first to the last. -/
theorem insertAll_cons (entries more : Entries) (key : String) (v : Value) :
    insertAll entries ((key, v) :: more) = insertAll (insert key v entries) more := rfl

/-- What is inserted under keys that differ is found there, and all else is found as before. -/
theorem get?_insertAll (entries : Entries) {more : Entries} (h : (more.map Prod.fst).Nodup)
    (key : String) : get? (insertAll entries more) key = (get? more key).or (get? entries key) := by
  induction more generalizing entries with
  | nil => rfl
  | cons e more ih =>
    obtain ⟨name, v⟩ := e
    obtain ⟨hname, hmore⟩ := List.nodup_cons.1 h
    rw [insertAll_cons, ih _ hmore, get?_insert, get?_cons]
    split
    case isTrue hkey => rw [hkey, get?_eq_none hname, Option.none_or, Option.some_or]
    case isFalse => rfl

/-! ## Entries in order -/

/-- The keys increase, so that each of them stands once. -/
def InOrder (entries : Entries) : Prop := entries.Pairwise fun e f => e.1 < f.1

instance (entries : Entries) : Decidable (InOrder entries) :=
  inferInstanceAs (Decidable (entries.Pairwise _))

/-- Keys that increase are all different. -/
theorem InOrder.nodup {entries : Entries} (h : InOrder entries) :
    (entries.map Prod.fst).Nodup := by
  refine List.Pairwise.map _ ?_ h
  intro e f hlt heq
  rw [heq] at hlt
  exact String.lt_irrefl _ hlt

/-- A key beyond all others is inserted at the end. -/
theorem insert_of_lt {entries : Entries} {key : String} (v : Value)
    (h : ∀ e ∈ entries, e.1 < key) : insert key v entries = entries ++ [(key, v)] := by
  induction entries with
  | nil => rfl
  | cons e entries ih =>
    obtain ⟨name, w⟩ := e
    obtain ⟨hname, hentries⟩ := List.forall_mem_cons.1 h
    have hne : key ≠ name := by
      rintro rfl
      exact String.lt_irrefl _ hname
    rw [insert, if_neg hne, if_neg (String.lt_asymm hname), ih hentries, List.cons_append]

/-- Entries in order are inserted each behind the one before. -/
theorem insertAll_of_inOrder {entries more : Entries} (h : InOrder (entries ++ more)) :
    insertAll entries more = entries ++ more := by
  induction more generalizing entries with
  | nil => exact (List.append_nil entries).symm
  | cons e more ih =>
    obtain ⟨key, v⟩ := e
    have hlt : ∀ e ∈ entries, e.1 < key :=
      fun e he => (List.pairwise_append.1 h).2.2 e he (key, v) List.mem_cons_self
    rw [insertAll_cons, insert_of_lt v hlt, ih (by simpa using h), List.append_assoc,
      List.singleton_append]

end Entries

@[simp] theorem Value.isNull_ofEntries (entries : Entries) :
    (Value.ofEntries entries).isNull = false := rfl

/-- The object of entries with different keys binds each key as the entries do. -/
theorem Value.get?_ofEntries {entries : Entries} (h : (entries.map Prod.fst).Nodup) (key : String) :
    (Value.ofEntries entries).get? key = Entries.get? entries key :=
  (Entries.get?_insertAll [] h key).trans (Option.or_none)

end GrammarDesk.Json
