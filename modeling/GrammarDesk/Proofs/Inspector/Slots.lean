import GrammarDesk.Inspector.Scheduler

/-!
# Slots after each operation

Every operation of the scheduler touches the slots that it names and leaves the others alone.

Main results:

- `Scheduler.slot_invalidate`: an invalidated slot is in a new generation, waits, and runs nothing.
- `Scheduler.invalidateAll_perm`: values are out of date in the same way in every order.
- `Scheduler.slot_takeDue`, `Scheduler.mem_due_iff`: what is due is taken and waits no longer.
- `Scheduler.slot_track`, `Scheduler.slot_finish`: the job of the current generation comes and goes.
-/

namespace GrammarDesk.Inspector

/-- The list of derived values is complete. -/
theorem Derived.mem_all (key : Derived) : key ∈ Derived.all := by
  cases key <;> decide

namespace Scheduler

variable {J : Type}

/-! ## One slot -/

/-- What is put into a slot is found there and in no other. -/
theorem slot_setSlot (s : Scheduler J) (key other : Derived) (x : Slot J) :
    (s.setSlot key x).slot other = if other = key then x else s.slot other := by
  cases key <;> cases other <;> rfl

@[simp]
theorem slot_setSlot_self (s : Scheduler J) (key : Derived) (x : Slot J) :
    (s.setSlot key x).slot key = x := by
  simp [slot_setSlot]

theorem slot_setSlot_of_ne (s : Scheduler J) {key other : Derived} (x : Slot J)
    (hne : other ≠ key) : (s.setSlot key x).slot other = s.slot other := by
  simp [slot_setSlot, hne]

/-- An invalidated slot starts a new generation: it waits and runs nothing. -/
theorem slot_invalidate (s : Scheduler J) (key other : Derived) (now : Time) :
    (s.invalidate key now).slot other =
      if other = key then ⟨(s.slot key).generation + 1, some (now + s.delay key), none⟩
      else s.slot other :=
  slot_setSlot s key other _

/-- To invalidate a value begins a new generation and a new quiet period, and drops its job. -/
@[simp]
theorem slot_invalidate_self (s : Scheduler J) (key : Derived) (now : Time) :
    (s.invalidate key now).slot key =
      ⟨(s.slot key).generation + 1, some (now + s.delay key), none⟩ :=
  slot_setSlot_self s key _

/-- To invalidate a value leaves the other slots alone. -/
theorem slot_invalidate_of_ne (s : Scheduler J) {key other : Derived} (now : Time)
    (hne : other ≠ key) : (s.invalidate key now).slot other = s.slot other :=
  slot_setSlot_of_ne s _ hne

/-- Values that are out of date at the same instant may be marked in either order. -/
theorem invalidate_comm (s : Scheduler J) (key other : Derived) (now : Time) :
    (s.invalidate key now).invalidate other now = (s.invalidate other now).invalidate key now := by
  cases key <;> cases other <;> rfl

/-- Values that are invalidated in two turns are invalidated one after the other. -/
theorem invalidateAll_append (s : Scheduler J) (keys others : List Derived) (now : Time) :
    s.invalidateAll (keys ++ others) now = (s.invalidateAll keys now).invalidateAll others now :=
  List.foldl_append

/-- It does not matter in which order values are invalidated at the same instant. -/
theorem invalidateAll_perm (s : Scheduler J) {keys others : List Derived} (h : keys.Perm others)
    (now : Time) : s.invalidateAll keys now = s.invalidateAll others now :=
  h.foldl_eq' (fun key _ other _ s => s.invalidate_comm key other now) s

/-! ## What is due -/

/-- What is due is of the current generation, and its quiet period is over. -/
theorem mem_due_iff (s : Scheduler J) (now : Time) (d : Derived × Nat) :
    d ∈ s.due now ↔ (s.slot d.1).isDue now = true ∧ d.2 = (s.slot d.1).generation := by
  obtain ⟨key, generation⟩ := d
  simp only [due, List.mem_map, List.mem_filter, Prod.mk.injEq]
  constructor
  · rintro ⟨key', ⟨_, hdue⟩, rfl, rfl⟩
    exact ⟨hdue, rfl⟩
  · rintro ⟨hdue, rfl⟩
    exact ⟨key, ⟨Derived.mem_all key, hdue⟩, rfl, rfl⟩

/-- No value is due twice. -/
theorem nodup_due_keys (s : Scheduler J) (now : Time) : ((s.due now).map Prod.fst).Nodup := by
  have hkeys : (s.due now).map Prod.fst = Derived.all.filter fun key => (s.slot key).isDue now := by
    simp [due, List.map_map, Function.comp_def]
  rw [hkeys]
  have hall : Derived.all.Nodup := by decide
  exact List.Pairwise.filter _ hall

/-- To clear a slot ends its quiet period if that is over, and changes nothing else. -/
theorem slot_clearDue (s : Scheduler J) (now : Time) (key other : Derived) :
    (s.clearDue now key).slot other =
      if other = key ∧ (s.slot key).isDue now = true then { s.slot key with deadline := none }
      else s.slot other := by
  unfold clearDue
  by_cases hdue : (s.slot key).isDue now = true
  · simp [hdue, slot_setSlot]
  · simp [hdue]

/-- A slot that was due waits no longer, and all else of all slots is as it was. -/
theorem slot_takeDue (s : Scheduler J) (now : Time) (key : Derived) :
    (s.takeDue now).2.slot key =
      if (s.slot key).isDue now = true then { s.slot key with deadline := none }
      else s.slot key := by
  cases key <;> simp [takeDue, Derived.all, slot_clearDue]

/-- No generation ends when values are taken because they are due. -/
@[simp]
theorem generation_takeDue (s : Scheduler J) (now : Time) (key : Derived) :
    ((s.takeDue now).2.slot key).generation = (s.slot key).generation := by
  rw [slot_takeDue]
  split <;> rfl

/-- No job is dropped when values are taken because they are due. -/
@[simp]
theorem job_takeDue (s : Scheduler J) (now : Time) (key : Derived) :
    ((s.takeDue now).2.slot key).job = (s.slot key).job := by
  rw [slot_takeDue]
  split <;> rfl

/-- No quiet period begins when values are taken because they are due. -/
theorem deadline_takeDue (s : Scheduler J) (now : Time) (key : Derived)
    (h : (s.slot key).deadline = none) : ((s.takeDue now).2.slot key).deadline = none := by
  rw [slot_takeDue]
  split
  · rfl
  · exact h

/-! ## Jobs -/

/-- A generation is current exactly if it is that of the slot. -/
theorem isCurrent_iff (s : Scheduler J) (key : Derived) (generation : Nat) :
    s.isCurrent key generation = true ↔ (s.slot key).generation = generation := by
  simp [isCurrent]

/-- A job of the current generation is put into its slot. -/
theorem slot_track (s : Scheduler J) (key other : Derived) (generation : Nat) (job : J)
    (hcurrent : s.isCurrent key generation = true) :
    (s.track key generation job).slot other =
      if other = key then { s.slot key with job := some job } else s.slot other := by
  simp [track, hcurrent, slot_setSlot]

/-- A result of the current generation takes the job out of its slot. -/
theorem slot_finish (s : Scheduler J) (key other : Derived) (generation : Nat)
    (hcurrent : s.isCurrent key generation = true) :
    (s.finish key generation).slot other =
      if other = key then { s.slot key with job := none } else s.slot other := by
  simp [finish, hcurrent, slot_setSlot]

/-- A slot keeps all but its job when a job has started. -/
theorem exists_slot_track (s : Scheduler J) (key other : Derived) (generation : Nat) (job : J) :
    ∃ held, (s.track key generation job).slot other = { s.slot other with job := held } := by
  unfold track
  split
  · rw [slot_setSlot]
    split
    · next h => exact ⟨some job, by rw [h]⟩
    · exact ⟨_, rfl⟩
  · exact ⟨_, rfl⟩

/-- A slot keeps all but its job when a job has ended. -/
theorem exists_slot_finish (s : Scheduler J) (key other : Derived) (generation : Nat) :
    ∃ held, (s.finish key generation).slot other = { s.slot other with job := held } := by
  unfold finish
  split
  · rw [slot_setSlot]
    split
    · next h => exact ⟨none, by rw [h]⟩
    · exact ⟨_, rfl⟩
  · exact ⟨_, rfl⟩

/-- No generation ends when a job starts. -/
@[simp]
theorem generation_track (s : Scheduler J) (key other : Derived) (generation : Nat) (job : J) :
    ((s.track key generation job).slot other).generation = (s.slot other).generation := by
  obtain ⟨_, hslot⟩ := s.exists_slot_track key other generation job
  rw [hslot]

/-- No generation ends when a job comes back. -/
@[simp]
theorem generation_finish (s : Scheduler J) (key other : Derived) (generation : Nat) :
    ((s.finish key generation).slot other).generation = (s.slot other).generation := by
  obtain ⟨_, hslot⟩ := s.exists_slot_finish key other generation
  rw [hslot]

/-- No quiet period begins or ends when a job starts. -/
@[simp]
theorem deadline_track (s : Scheduler J) (key other : Derived) (generation : Nat) (job : J) :
    ((s.track key generation job).slot other).deadline = (s.slot other).deadline := by
  obtain ⟨_, hslot⟩ := s.exists_slot_track key other generation job
  rw [hslot]

/-- No quiet period begins or ends when a job comes back. -/
@[simp]
theorem deadline_finish (s : Scheduler J) (key other : Derived) (generation : Nat) :
    ((s.finish key generation).slot other).deadline = (s.slot other).deadline := by
  obtain ⟨_, hslot⟩ := s.exists_slot_finish key other generation
  rw [hslot]

/-- In the end every slot keeps its generation and nothing else. -/
theorem slot_cancelAll (s : Scheduler J) (key : Derived) :
    s.cancelAll.slot key = ⟨(s.slot key).generation, none, none⟩ := by
  cases key <;> rfl

/-! ## The length of the quiet period -/

@[simp]
theorem debounce_setSlot (s : Scheduler J) (key : Derived) (slot : Slot J) :
    (s.setSlot key slot).debounce = s.debounce := by
  cases key <;> rfl

@[simp]
theorem debounce_invalidateAll (s : Scheduler J) (keys : List Derived) (now : Time) :
    (s.invalidateAll keys now).debounce = s.debounce := by
  induction keys generalizing s with
  | nil => rfl
  | cons key keys ih => exact (ih _).trans (s.debounce_setSlot key _)

@[simp]
theorem debounce_takeDue (s : Scheduler J) (now : Time) :
    (s.takeDue now).2.debounce = s.debounce := by
  have hclear : ∀ (s : Scheduler J) (key : Derived),
      (s.clearDue now key).debounce = s.debounce := by
    intro s key
    unfold clearDue
    split <;> simp
  simp [takeDue, Derived.all, hclear]

@[simp]
theorem debounce_track (s : Scheduler J) (key : Derived) (generation : Nat) (job : J) :
    (s.track key generation job).debounce = s.debounce := by
  unfold track
  split <;> simp

@[simp]
theorem debounce_finish (s : Scheduler J) (key : Derived) (generation : Nat) :
    (s.finish key generation).debounce = s.debounce := by
  unfold finish
  split <;> simp

/-! ## Rest -/

/-- The scheduler is idle when no slot waits and none runs. -/
theorem isIdle_iff (s : Scheduler J) :
    s.isIdle = true ↔ ∀ key, (s.slot key).deadline = none ∧ (s.slot key).job = none := by
  simp only [isIdle, Slot.isIdle, List.all_eq_true, Bool.and_eq_true, Option.isNone_iff_eq_none]
  exact ⟨fun h key => h key (Derived.mem_all key), fun h key _ => h key⟩

end Scheduler

end GrammarDesk.Inspector
