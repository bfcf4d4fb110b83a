import GrammarDesk.Inspector.Engine

/-!
# Timelines

A timeline is an inspector in time: its engine, the jobs that run beside it, and a clock.  At each
instant everything is done that can be done before the clock moves on.  What is due is computed
first, then the jobs that came back are handled in the order in which they did, and only then do
waiting jobs go on; a job asks the backend, and each answer takes its time.

Main definitions:

- `Host`: the backend of a timeline.
- `Timeline`: an inspector in time.
- `Timeline.turn`, `Timeline.drain`: one thing that is done at an instant, and all of them.
- `Timeline.tell`, `Timeline.hover`, `Timeline.advance`, `Timeline.settle`, `Timeline.shutdown`:
  what an editor does with an inspector.

Main results:

- `Timeline.drain_now`: whatever is done at an instant takes no time.
-/

namespace GrammarDesk.Inspector

open Json GrammarDesk.Tree Grammar

/-! ## Jobs in time -/

/-- The backend of a timeline: the plugins, and for each call how long the answer takes and what it
is.  A backend may remember what it was asked. -/
structure Host (P σ : Type) where
  pluginOf : P → Plugin
  respond : Time → (call : Call) → σ → (Time × call.Answer) × σ

/-- How far a dialogue gets without waiting. -/
inductive Progress (α : Type) where
  | finished (result : α)
  | waiting (delay : Time) (rest : Inquiry α)

/-- Goes on with a dialogue until it is done or has to wait for an answer. -/
def proceed {σ α : Type} (respond : (call : Call) → σ → (Time × call.Answer) × σ) :
    Inquiry α → σ → Progress α × σ
  | .done result, world => (.finished result, world)
  | .ask call next, world =>
    let ((delay, answer), world) := respond call world
    if delay = 0 then proceed respond (next answer) world
    else (.waiting delay (next answer), world)

/-- A job that waits for an answer, and what it does with it. -/
structure Runner (P : Type) where
  job : Job P
  /-- When the answer arrives. -/
  wake : Time
  rest : Inquiry (Outcome P)

/-- An inspector in time. -/
structure Timeline (P σ : Type) where
  now : Time
  /-- The engine has not been shut down. -/
  isOpen : Bool
  engine : Engine P
  /-- The jobs that wait, in the order in which they were started. -/
  runners : List (Runner P)
  /-- What came back and has not been handled. -/
  arrived : List (Completion P)
  /-- The notifications that nobody has looked at. -/
  notes : List Notification
  world : σ

namespace Timeline

variable {P σ : Type}

/-! ## Events -/

/-- The scheduler still holds the job. -/
def isHeld (e : Engine P) (r : Runner P) : Bool :=
  (e.scheduler.slot r.job.work.key).job.any (·.generation = r.job.generation)

/-- The runner of a job that starts now. -/
def runnerOf (host : Host P σ) (now : Time) (job : Job P) : Runner P :=
  ⟨job, now, job.work.run host.pluginOf⟩

/-- Lets the engine handle an event; jobs that it drops stop. -/
def handle [DecidableEq P] (host : Host P σ) (t : Timeline P σ) (event : Event P) :
    Timeline P σ :=
  let (engine, effects) := t.engine.step t.now event
  { t with
    engine := engine
    runners := (t.runners ++ (jobsOf effects).map (runnerOf host t.now)).filter (isHeld engine)
    notes := t.notes ++ notesOf effects }

/-! ## One instant -/

/-- The job has its answer. -/
def canRun (now : Time) (r : Runner P) : Bool := r.wake ≤ now

/-- Lets one job go on. -/
def runOne (host : Host P σ) (t : Timeline P σ) (r : Runner P) : Timeline P σ :=
  if canRun t.now r then
    match proceed (host.respond t.now) r.rest t.world with
    | (.finished outcome, world) =>
      { t with arrived := t.arrived ++ [⟨r.job.generation, outcome⟩], world := world }
    | (.waiting delay rest, world) =>
      { t with runners := t.runners ++ [⟨r.job, t.now + delay, rest⟩], world := world }
  else { t with runners := t.runners ++ [r] }

/-- Lets all jobs go on that have their answers. -/
def runAll (host : Host P σ) (t : Timeline P σ) : Timeline P σ :=
  t.runners.foldl (runOne host) { t with runners := [] }

/-- Does one thing that can be done at this instant. -/
def turn [DecidableEq P] (host : Host P σ) (t : Timeline P σ) : Option (Timeline P σ) :=
  if t.engine.scheduler.hasDue t.now then some (t.handle host .fire)
  else match t.arrived with
    | completion :: rest => some ({ t with arrived := rest }.handle host (.complete completion))
    | [] => if t.runners.any (canRun t.now) then some (t.runAll host) else none

/-- How many turns are possible at this instant, at most.  A turn of the engine lowers its potential
and starts no more jobs than that; a job goes on once, and what it brings back is handled once. -/
def credit (t : Timeline P σ) : Nat :=
  3 * t.engine.potential + 2 * (t.runners.filter (canRun t.now)).length + t.arrived.length

/-- Takes turns, at most so many. -/
def turns [DecidableEq P] (host : Host P σ) : Nat → Timeline P σ → Timeline P σ
  | 0, t => t
  | n + 1, t =>
    match t.turn host with
    | some next => turns host n next
    | none => t

/-- Does everything that can be done at this instant. -/
def drain [DecidableEq P] (host : Host P σ) (t : Timeline P σ) : Timeline P σ :=
  turns host t.credit t

/-! ## No time passes at an instant -/

/-- An event takes no time. -/
@[simp] theorem handle_now [DecidableEq P] (host : Host P σ) (t : Timeline P σ)
    (event : Event P) : (t.handle host event).now = t.now := rfl

/-- A runner takes no time of its own. -/
@[simp] theorem runOne_now (host : Host P σ) (t : Timeline P σ) (r : Runner P) :
    (runOne host t r).now = t.now := by
  unfold runOne
  split
  · split <;> rfl
  · rfl

/-- Runners take no time of their own. -/
theorem foldl_runOne_now (host : Host P σ) (rs : List (Runner P)) (t : Timeline P σ) :
    (rs.foldl (runOne host) t).now = t.now := by
  induction rs generalizing t with
  | nil => rfl
  | cons r rs ih => simp [ih]

@[simp] theorem runAll_now (host : Host P σ) (t : Timeline P σ) : (t.runAll host).now = t.now := by
  simp [runAll, foldl_runOne_now]

/-- A turn takes no time. -/
theorem turn_now [DecidableEq P] {host : Host P σ} {t next : Timeline P σ}
    (h : t.turn host = some next) : next.now = t.now := by
  unfold turn at h
  split at h
  · cases h; rfl
  · split at h
    · cases h; rfl
    · split at h
      · cases h; simp
      · cases h

/-- No number of turns takes time. -/
theorem turns_now [DecidableEq P] (host : Host P σ) (n : Nat) (t : Timeline P σ) :
    (turns host n t).now = t.now := by
  induction n generalizing t with
  | zero => rfl
  | succ n ih =>
    unfold turns
    split
    · next next h => rw [ih, turn_now h]
    · rfl

/-- Whatever is done at an instant takes no time. -/
@[simp] theorem drain_now [DecidableEq P] (host : Host P σ) (t : Timeline P σ) :
    (t.drain host).now = t.now := turns_now host _ t

/-! ## Passing time -/

/-- The next instant at which something can be done. -/
def nextTime? (t : Timeline P σ) : Option Time :=
  (t.engine.scheduler.nextDeadline?.toList ++ t.runners.map (·.wake)).min?

/-- The timeline at another time, after everything that can be done then. -/
def moveTo [DecidableEq P] (host : Host P σ) (t : Timeline P σ) (time : Time) : Timeline P σ :=
  { t with now := time }.drain host

/-- The time to move to is reached. -/
@[simp] theorem moveTo_now [DecidableEq P] (host : Host P σ) (t : Timeline P σ) (time : Time) :
    (t.moveTo host time).now = time := by simp [moveTo]

/-- Lets time pass from instant to instant until one that lies behind the target, or until it is
enough. -/
def travel [DecidableEq P] (host : Host P σ) (target : Time) (isEnough : Timeline P σ → Bool)
    (t : Timeline P σ) : Timeline P σ :=
  if isEnough t then t
  else match t.nextTime? with
    | none => { t with now := target }
    | some next =>
      if _ : t.now < next ∧ next ≤ target then travel host target isEnough (t.moveTo host next)
      else { t with now := target }
termination_by target - t.now
decreasing_by
  rename_i h
  simpa using Nat.sub_lt_sub_left (Nat.lt_of_lt_of_le h.1 h.2) h.1

/-! ## What an editor does -/

/-- A new inspector. -/
def start [DecidableEq P] (host : Host P σ) (debounce : Time) (world : σ) : Timeline P σ :=
  drain host ⟨0, true, .start debounce 0, [], [], [], world⟩

/-- The snapshot that an editor sees. -/
def snapshot (t : Timeline P σ) : Snapshot := t.engine.published

/-- The inspector by its parts. -/
def describe (t : Timeline P σ) : String :=
  Text.describeRecord "Inspector" [
    ("revision", Text.decimal t.snapshot.revision)]

/-- Gives a command to an inspector that has not been shut down. -/
def tell [DecidableEq P] (host : Host P σ) (t : Timeline P σ) (command : Command P) :
    Except InspectorError (Timeline P σ) :=
  if t.isOpen then .ok ((t.handle host (.command command)).drain host) else .error .closed

/-- The node under an offset in the tree that an editor sees. -/
def nodeUnder? (t : Timeline P σ) (offset : Offset) : Option Node :=
  t.snapshot.nodeUnder? offset

/-- Selects the node under an offset, or nothing where there is none. -/
def hover [DecidableEq P] (host : Host P σ) (t : Timeline P σ) (offset : Offset) :
    Except InspectorError (Option Node × Timeline P σ) :=
  let node := t.nodeUnder? offset
  (t.tell host (.select node)).map fun next => (node, next)

/-- Lets a span of time pass; what is due at its end is done. -/
def advance [DecidableEq P] (host : Host P σ) (t : Timeline P σ) (span : Time) : Timeline P σ :=
  t.travel host (t.now + span) fun _ => false

/-- Waits until everything is computed, which has to be before the span of time is over. -/
def settle [DecidableEq P] (host : Host P σ) (t : Timeline P σ) (span : Time) :
    Except InspectorError Unit × Timeline P σ :=
  let limit := t.now + span
  let waiter := t.engine.waiters.length
  let isReleased := fun t : Timeline P σ => !t.engine.waiters.contains waiter
  match t.tell host (.settle waiter) with
  | .error e => (.error e, t)
  | .ok told =>
    let t := told.travel host limit isReleased
    (if isReleased t && t.now < limit then .ok () else .error .settleTimeout, t)

/-- Shuts the inspector down: nothing is computed any more, and the snapshot stays. -/
def shutdown (t : Timeline P σ) : Timeline P σ :=
  { t with
    isOpen := false
    engine := { t.engine with scheduler := t.engine.scheduler.cancelAll }
    runners := []
    arrived := [] }

/-- The notifications that nobody has looked at, and the timeline without them. -/
def takeNotes (t : Timeline P σ) : List Notification × Timeline P σ :=
  (t.notes, { t with notes := [] })

end Timeline

end GrammarDesk.Inspector
