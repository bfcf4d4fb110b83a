import GrammarDesk.Grammar.Call

/-!
# Tasks in a world

A world has an answer to every call, always the same.  In a world a task has one outcome and makes
one list of calls, and both are found part by part: a sequence goes on with the result of its first
part, or ends with its failure.

Main definitions:

- `World`: the replies to requests, the modules, and the answers of their functions.
- `Task.runIn`: the outcome of a task in a world and the calls that it makes.
- `Inquiry.resultIn`: the same for an inquiry, which cannot fail.

Main results:

- `Task.runIn_bind_of_ok`, `Task.runIn_bind_of_error`: sequences.
- `Task.runIn_bind_eq_ok_iff`, `Task.runIn_bind_eq_error_iff`: what the outcome of a sequence says
  about its parts.
- `Task.runIn_send` and the like: a single call is answered as the world says.
- `Task.runIn_congr`: only the answers to the calls that are made count.
-/

namespace GrammarDesk.Grammar

open Json GrammarDesk.Tree

/-- The answers to all calls. -/
structure World where
  reply (request : Http.Request) : Http.Reply
  module (url : String) : Except Failure Module
  parse (m : Module) (client rootTag input : String) : Except Failure (Option RawResult)
  eval (m : Module) (client rootTag input : String) (context : Value) :
    Except Failure (Option RawResult)
  option (m : Module) (client key : String) : Except Failure (Option Value)

/-- The answer to a call. -/
def World.answer (w : World) : (c : Call) → c.Answer
  | .send request => w.reply request
  | .load url => w.module url
  | .parse m client rootTag input => w.parse m client rootTag input
  | .eval m client rootTag input context => w.eval m client rootTag input context
  | .getOption m client key => w.option m client key

namespace Task

variable {α β : Type}

/-- The outcome of a task in a world, and the calls that it makes, in order. -/
def runIn (w : World) (t : Task α) : Except Failure α × List Call :=
  Dialogue.runWith w.answer t.run

/-! ## Sequences -/

section

variable (w : World)

@[simp]
theorem runIn_pure (a : α) : runIn w (pure a) = (.ok a, []) := rfl

/-- A failure ends a task without a call. -/
@[simp]
theorem runIn_throw (failure : Failure) :
    runIn w (throw failure : Task α) = (.error failure, []) := rfl

/-- A result that is known needs no call. -/
@[simp]
theorem runIn_mk_pure (result : Except Failure α) :
    runIn w (ExceptT.mk (pure result)) = (result, []) := rfl

/-- A reading makes no call, and a fault of it is a failure. -/
theorem runIn_ofReading (reading : Except Json.Fault α) :
    runIn w (ofReading reading) = (reading.mapError .json, []) := by
  cases reading <;> rfl

end

variable {w : World}

/-- A sequence of tasks is a sequence of dialogues. -/
theorem runIn_bind (t : Task α) (f : α → Task β) :
    runIn w (t >>= f) =
      Dialogue.runWith w.answer (Dialogue.bind t.run (ExceptT.bindCont f)) := rfl

/-- A sequence goes on with the result of its first part. -/
theorem runIn_bind_of_ok {t : Task α} {a : α} {calls : List Call}
    (h : runIn w t = (.ok a, calls)) (f : α → Task β) :
    runIn w (t >>= f) = ((runIn w (f a)).1, calls ++ (runIn w (f a)).2) := by
  have hfirst : Dialogue.runWith w.answer t.run = (.ok a, calls) := h
  rw [runIn_bind, Dialogue.runWith_bind, hfirst]
  rfl

/-- A sequence ends with the failure of its first part. -/
theorem runIn_bind_of_error {t : Task α} {failure : Failure} {calls : List Call}
    (h : runIn w t = (.error failure, calls)) (f : α → Task β) :
    runIn w (t >>= f) = (.error failure, calls) := by
  have hfirst : Dialogue.runWith w.answer t.run = (.error failure, calls) := h
  rw [runIn_bind, Dialogue.runWith_bind, hfirst]
  exact congrArg (Prod.mk _) (List.append_nil calls)

/-- A function of a result makes no further call. -/
theorem runIn_map (f : α → β) (t : Task α) :
    runIn w (f <$> t) = ((runIn w t).1.map f, (runIn w t).2) := by
  change Dialogue.runWith w.answer (Dialogue.bind t.run _) =
    ((Dialogue.runWith w.answer t.run).1.map f, (Dialogue.runWith w.answer t.run).2)
  rw [Dialogue.runWith_bind]
  cases (Dialogue.runWith w.answer t.run).1 <;> exact congrArg (Prod.mk _) (List.append_nil _)

/-- A sequence succeeds exactly when both parts do. -/
theorem runIn_bind_eq_ok_iff {t : Task α} {f : α → Task β} {b : β} :
    (runIn w (t >>= f)).1 = .ok b ↔ ∃ a, (runIn w t).1 = .ok a ∧ (runIn w (f a)).1 = .ok b := by
  cases hrun : runIn w t with
  | mk result calls =>
    cases result with
    | ok a => simp [runIn_bind_of_ok hrun]
    | error failure => simp [runIn_bind_of_error hrun]

/-- A sequence fails exactly when a part does, with the failure of that part. -/
theorem runIn_bind_eq_error_iff {t : Task α} {f : α → Task β} {failure : Failure} :
    (runIn w (t >>= f)).1 = .error failure ↔
      (runIn w t).1 = .error failure ∨
        ∃ a, (runIn w t).1 = .ok a ∧ (runIn w (f a)).1 = .error failure := by
  cases hrun : runIn w t with
  | mk result calls =>
    cases result with
    | ok a => simp [runIn_bind_of_ok hrun]
    | error cause => simp [runIn_bind_of_error hrun]

/-- A call of a sequence is one of the first part, or of the second. -/
theorem mem_calls_bind {t : Task α} {f : α → Task β} {call : Call}
    (h : call ∈ (runIn w (t >>= f)).2) :
    call ∈ (runIn w t).2 ∨ ∃ a, (runIn w t).1 = .ok a ∧ call ∈ (runIn w (f a)).2 := by
  cases hrun : runIn w t with
  | mk result calls =>
    cases result with
    | ok a => simpa [runIn_bind_of_ok hrun] using h
    | error failure => simpa [runIn_bind_of_error hrun] using h

/-- A sequence makes the calls of its first part if the second makes none. -/
theorem calls_bind_of_silent (t : Task α) {f : α → Task β}
    (h : ∀ a, (runIn w (f a)).2 = []) : (runIn w (t >>= f)).2 = (runIn w t).2 := by
  cases hrun : runIn w t with
  | mk result calls =>
    cases result with
    | ok a => simp [runIn_bind_of_ok hrun, h]
    | error failure => simp [runIn_bind_of_error hrun]

/-! ## Single calls -/

variable (w : World)

/-- A request is answered with the reply of the world. -/
@[simp]
theorem runIn_send (request : Http.Request) :
    runIn w (send request) = (.ok (w.reply request), [.send request]) := rfl

/-- A module is the one that the world has for the URL. -/
@[simp]
theorem runIn_load (url : String) :
    runIn w (load url) = (w.module url, [.load url]) := rfl

/-- The parse function of a module answers as the world says. -/
@[simp]
theorem runIn_parse (m : Module) (client rootTag input : String) :
    runIn w (parse m client rootTag input) =
      (w.parse m client rootTag input, [.parse m client rootTag input]) := rfl

/-- The evaluation function of a module answers as the world says. -/
@[simp]
theorem runIn_eval (m : Module) (client rootTag input : String) (context : Value) :
    runIn w (eval m client rootTag input context) =
      (w.eval m client rootTag input context, [.eval m client rootTag input context]) := rfl

/-- The option function of a module answers as the world says. -/
@[simp]
theorem runIn_getOption (m : Module) (client key : String) :
    runIn w (getOption m client key) =
      (w.option m client key, [.getOption m client key]) := rfl

end Task

/-! ## Inquiries -/

namespace Inquiry

variable {α β : Type}

/-- The result of an inquiry in a world, and the calls that it makes, in order. -/
def resultIn (w : World) (d : Inquiry α) : α × List Call :=
  Dialogue.runWith w.answer d

variable (w : World)

@[simp]
theorem resultIn_pure (a : α) : resultIn w (pure a) = (a, []) := rfl

/-- The second of two inquiries goes on with the result of the first. -/
theorem resultIn_bind (d : Inquiry α) (f : α → Inquiry β) :
    resultIn w (d >>= f) =
      ((resultIn w (f (resultIn w d).1)).1,
        (resultIn w d).2 ++ (resultIn w (f (resultIn w d).1)).2) :=
  Dialogue.runWith_bind w.answer d f

/-- An attempt results in the outcome of its task and makes the same calls. -/
theorem resultIn_attempt (t : Task α) : resultIn w (Task.attempt t) = Task.runIn w t := rfl

end Inquiry

namespace Task

variable {α : Type} (w : World)

theorem runIn_mk (d : Inquiry (Except Failure α)) :
    runIn w (ExceptT.mk d) = Inquiry.resultIn w d := rfl

/-- An inquiry is a task that cannot fail. -/
theorem runIn_lift (d : Inquiry α) :
    runIn w (ExceptT.lift d) = (.ok (Inquiry.resultIn w d).1, (Inquiry.resultIn w d).2) := by
  have hmap : runIn w (ExceptT.lift d) = Inquiry.resultIn w (d >>= fun a => pure (.ok a)) := rfl
  rw [hmap, Inquiry.resultIn_bind]
  simp

/-- A task has the same outcome in all worlds that answer its calls alike. -/
theorem runIn_congr {w w' : World} {t : Task α}
    (h : ∀ call ∈ (runIn w t).2, w.answer call = w'.answer call) :
    runIn w' t = runIn w t :=
  Dialogue.runWith_congr h

end Task

end GrammarDesk.Grammar
