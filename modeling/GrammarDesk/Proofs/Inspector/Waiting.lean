import GrammarDesk.Proofs.Inspector.Frames

/-!
# What is still to be computed

A value is up to date unless it is still to be computed: its slot waits for the end of a quiet
period, or runs a job, or its turn in the pass at hand is yet to come.  Nothing but its turn or its
result ends the waiting.

Main definitions:

- `Scheduler.Waits`: a value is still to be computed.

Main results:

- `Scheduler.Waits.takeDue`, `Scheduler.Waits.tail`: a value waits on while its turn is to come.
- `Scheduler.not_waits_of_isIdle`: when the scheduler is idle nothing waits.
-/

namespace GrammarDesk.Inspector

namespace Scheduler

variable {J : Type} {s : Scheduler J} {due : List (Derived × Nat)} {key : Derived}

/-- The value is still to be computed: its slot waits or runs, or its turn is among those to
come. -/
def Waits (s : Scheduler J) (due : List (Derived × Nat)) (key : Derived) : Prop :=
  (s.slot key).deadline ≠ none ∨ (s.slot key).job ≠ none ∨ (key, (s.slot key).generation) ∈ due

/-- A value that is invalidated waits. -/
theorem waits_invalidate (s : Scheduler J) (due : List (Derived × Nat)) (key : Derived)
    (now : Time) : (s.invalidate key now).Waits due key := by
  refine Or.inl ?_
  rw [slot_invalidate_self]
  exact Option.some_ne_none _

/-- A value that waits still does when another is invalidated. -/
theorem Waits.invalidate (h : s.Waits due key) (other : Derived) (now : Time) :
    (s.invalidate other now).Waits due key := by
  by_cases hsame : key = other
  · rw [hsame]
    exact s.waits_invalidate due other now
  · rw [Waits, slot_invalidate_of_ne s now hsame]
    exact h

/-- A value that waits still does when others are invalidated. -/
theorem Waits.invalidateAll (h : s.Waits due key) (keys : List Derived) (now : Time) :
    (s.invalidateAll keys now).Waits due key := by
  induction keys generalizing s with
  | nil => exact h
  | cons other keys ih => exact ih (h.invalidate other now)

/-- Each of the values that are invalidated waits. -/
theorem waits_invalidateAll (s : Scheduler J) (due : List (Derived × Nat)) {keys : List Derived}
    (hkey : key ∈ keys) (now : Time) : (s.invalidateAll keys now).Waits due key := by
  induction keys generalizing s with
  | nil => cases hkey
  | cons other keys ih =>
    rcases List.mem_cons.mp hkey with rfl | hmem
    · exact (s.waits_invalidate due key now).invalidateAll keys now
    · exact ih (s.invalidate other now) hmem

/-- What waited for a quiet period that is over has its turn to come. -/
theorem Waits.takeDue (h : s.Waits [] key) (now : Time) :
    (s.takeDue now).2.Waits (s.takeDue now).1 key := by
  by_cases hdue : (s.slot key).isDue now = true
  · refine Or.inr (Or.inr ?_)
    rw [generation_takeDue]
    exact (s.mem_due_iff now _).mpr ⟨hdue, rfl⟩
  · rw [Waits, slot_takeDue, if_neg hdue]
    exact h.imp id fun h => h.imp id fun h => absurd h List.not_mem_nil

/-- The turn of another value, or of an old generation, is no turn of this one. -/
theorem Waits.tail {d : Derived × Nat} (h : s.Waits (d :: due) key)
    (hother : d.1 = key → s.isCurrent key d.2 = false) : s.Waits due key := by
  rcases h with hwaits | hruns | hturn
  · exact Or.inl hwaits
  · exact Or.inr (Or.inl hruns)
  · rcases List.mem_cons.mp hturn with heq | hmem
    · have hpassed := hother (congrArg Prod.fst heq.symm)
      rw [← congrArg Prod.snd heq] at hpassed
      simp [isCurrent] at hpassed
    · exact Or.inr (Or.inr hmem)

/-- A value waits for the job that is started for it. -/
theorem waits_track (s : Scheduler J) (due : List (Derived × Nat)) {generation : Nat}
    (hcurrent : s.isCurrent key generation = true) (job : J) :
    (s.track key generation job).Waits due key := by
  refine Or.inr (Or.inl ?_)
  rw [slot_track s key key generation job hcurrent, if_pos rfl]
  exact Option.some_ne_none _

/-- A value that waits still does when a job is started, for it or for another. -/
theorem Waits.track (h : s.Waits due key) (other : Derived) (generation : Nat) (job : J) :
    (s.track other generation job).Waits due key := by
  unfold Scheduler.track
  split
  · rw [Waits, slot_setSlot]
    split
    · next hsame => exact Or.inr (Or.inl (Option.some_ne_none _))
    · exact h
  · exact h

/-- A value that waits still does when the job of another comes back. -/
theorem Waits.finish (h : s.Waits due key) {other : Derived} (generation : Nat)
    (hother : key ≠ other) : (s.finish other generation).Waits due key := by
  unfold Scheduler.finish
  split
  · rw [Waits, slot_setSlot_of_ne s _ hother]
    exact h
  · exact h

/-- When the scheduler is idle nothing waits. -/
theorem not_waits_of_isIdle (hidle : s.isIdle = true) (key : Derived) : ¬ s.Waits [] key := by
  rcases s.isIdle_iff.mp hidle key with ⟨hdeadline, hjob⟩
  rintro (hwaits | hruns | hturn)
  · exact hwaits hdeadline
  · exact hruns hjob
  · cases hturn

/-- A scheduler is idle after values were marked only if it was and there were none. -/
theorem isIdle_invalidateAll (s : Scheduler J) (keys : List Derived) (now : Time) :
    (s.invalidateAll keys now).isIdle = (keys.isEmpty && s.isIdle) := by
  cases keys with
  | nil => rfl
  | cons key rest =>
    rw [List.isEmpty_cons, Bool.false_and, Bool.eq_false_iff]
    intro hidle
    exact not_waits_of_isIdle hidle key (s.waits_invalidateAll [] List.mem_cons_self now)

end Scheduler

end GrammarDesk.Inspector
