import GrammarDesk.Inspector.Graph

/-!
# The scheduler

Each derived value has a slot with its generation, the time at which it is to be computed, and the
job that computes it.  Invalidating a slot starts a new generation, drops its job and begins the
quiet period again.  A result counts only while its generation is the slot's.

Main definitions:

- `Slot`, `Scheduler`: the slots of the four derived values.
- `Scheduler.invalidate`: a value is out of date.
- `Scheduler.takeDue`: the slots whose quiet period is over.
- `Scheduler.track`, `Scheduler.finish`: a job starts, and a job has ended.
- `Scheduler.isIdle`, `Scheduler.nextDeadline?`: nothing to do, and when there is something to do.
- `Scheduler.jobs`, `Scheduler.cancelAll`: what runs, and the end of it.
-/

namespace GrammarDesk.Inspector

/-- A time, in milliseconds. -/
abbrev Time := Nat

/-- What is known of a derived value's computation. -/
structure Slot (J : Type) where
  /-- How often the value has been out of date.  A word of 64 bits holds it as well, for each
  invalidation adds one, and no run comes to the end of such a word. -/
  generation : Nat
  /-- When the value is to be computed. -/
  deadline : Option Time
  /-- The job that computes the value. -/
  job : Option J

namespace Slot

variable {J : Type}

/-- The slot at the start. -/
def blank : Slot J := ⟨0, none, none⟩

/-- The slot waits and runs for nothing. -/
def isIdle (s : Slot J) : Bool := s.deadline.isNone && s.job.isNone

/-- The quiet period of the slot is over. -/
def isDue (s : Slot J) (now : Time) : Bool := s.deadline.any (· ≤ now)

end Slot

/-- The slots of the derived values, and the length of the quiet period. -/
structure Scheduler (J : Type) where
  debounce : Time
  context : Slot J
  tree : Slot J
  output : Slot J
  selectionMark : Slot J

namespace Scheduler

variable {J : Type}

/-- The scheduler at the start. -/
def blank (debounce : Time) : Scheduler J := ⟨debounce, .blank, .blank, .blank, .blank⟩

/-- The slot of a derived value. -/
def slot (s : Scheduler J) : Derived → Slot J
  | .context => s.context
  | .tree => s.tree
  | .output => s.output
  | .selectionMark => s.selectionMark

/-- The scheduler with another slot for a derived value. -/
def setSlot (s : Scheduler J) (key : Derived) (slot : Slot J) : Scheduler J :=
  match key with
  | .context => { s with context := slot }
  | .tree => { s with tree := slot }
  | .output => { s with output := slot }
  | .selectionMark => { s with selectionMark := slot }

/-- The quiet period of a derived value. -/
def delay (s : Scheduler J) (key : Derived) : Time :=
  if key.isDebounced then s.debounce else 0

/-- A value is out of date: its job is dropped, and its quiet period begins. -/
def invalidate (s : Scheduler J) (key : Derived) (now : Time) : Scheduler J :=
  s.setSlot key ⟨(s.slot key).generation + 1, some (now + s.delay key), none⟩

/-- Several values are out of date. -/
def invalidateAll (s : Scheduler J) (keys : List Derived) (now : Time) : Scheduler J :=
  keys.foldl (fun s key => s.invalidate key now) s

/-- The values whose quiet period is over, with their generations, in order. -/
def due (s : Scheduler J) (now : Time) : List (Derived × Nat) :=
  (Derived.all.filter fun key => (s.slot key).isDue now).map fun key =>
    (key, (s.slot key).generation)

/-- The slot without a deadline that has passed. -/
def clearDue (s : Scheduler J) (now : Time) (key : Derived) : Scheduler J :=
  if (s.slot key).isDue now then s.setSlot key { s.slot key with deadline := none } else s

/-- The values whose quiet period is over, and the scheduler in which they wait no longer. -/
def takeDue (s : Scheduler J) (now : Time) : List (Derived × Nat) × Scheduler J :=
  (s.due now, Derived.all.foldl (fun s key => s.clearDue now key) s)

/-- The generation is still the current one of the value. -/
def isCurrent (s : Scheduler J) (key : Derived) (generation : Nat) : Bool :=
  (s.slot key).generation = generation

/-- A job has started; it is dropped if its generation is not the current one any more. -/
def track (s : Scheduler J) (key : Derived) (generation : Nat) (job : J) : Scheduler J :=
  if s.isCurrent key generation then s.setSlot key { s.slot key with job := some job } else s

/-- A job has ended; of a current generation, the slot is free again. -/
def finish (s : Scheduler J) (key : Derived) (generation : Nat) : Scheduler J :=
  if s.isCurrent key generation then s.setSlot key { s.slot key with job := none } else s

/-- Nothing waits and nothing runs. -/
def isIdle (s : Scheduler J) : Bool := Derived.all.all fun key => (s.slot key).isIdle

/-- The earliest time at which a value is to be computed. -/
def nextDeadline? (s : Scheduler J) : Option Time :=
  (Derived.all.filterMap fun key => (s.slot key).deadline).min?

/-- The quiet period of some value is over. -/
def hasDue (s : Scheduler J) (now : Time) : Bool := s.nextDeadline?.any (· ≤ now)

/-- The jobs that run. -/
def jobs (s : Scheduler J) : List J :=
  Derived.all.filterMap fun key => (s.slot key).job

/-- Nothing waits and runs any more. -/
def cancelAll (s : Scheduler J) : Scheduler J :=
  Derived.all.foldl (fun s key => s.setSlot key { s.slot key with deadline := none, job := none }) s

end Scheduler

end GrammarDesk.Inspector
