/-!
# Dialogues

A computation that needs answers from outside is written down as a tree: it is done, or it asks a
question and goes on with the answer.  Such a dialogue can be run against a function that knows all
answers, against an environment that changes with each question, or one question at a time, with
time passing in between.

Main definitions:

- `Dialogue`: a computation that asks questions.
- `Dialogue.runWith`: the result and the questions asked, against a function.
- `Dialogue.runIn`: the result in a changing environment.

Main results:

- `Dialogue.runWith_bind`: a sequence of two dialogues asks the questions of both in order.
- `Dialogue.runWith_congr`: only the answers to the questions that are asked count.
-/

namespace GrammarDesk

/-- A computation that asks questions; `answer q` is the type of the answers to `q`. -/
inductive Dialogue (question : Type) (answer : question → Type) (α : Type) where
  | done (result : α)
  | ask (q : question) (next : answer q → Dialogue question answer α)

namespace Dialogue

variable {question : Type} {answer : question → Type} {α β : Type}

/-- Goes on with the result of a dialogue. -/
def bind (d : Dialogue question answer α) (f : α → Dialogue question answer β) :
    Dialogue question answer β :=
  match d with
  | done result => f result
  | ask q next => ask q fun a => (next a).bind f

instance : Monad (Dialogue question answer) where
  pure := done
  bind := bind

/-! ## Running dialogues -/

/-- The result and the questions asked, in order, when a function knows the answers. -/
def runWith (know : (q : question) → answer q) : Dialogue question answer α → α × List question
  | done result => (result, [])
  | ask q next =>
    let (result, later) := (next (know q)).runWith know
    (result, q :: later)

/-- The result in an environment that changes with each question. -/
def runIn {σ : Type} (respond : (q : question) → σ → answer q × σ) :
    Dialogue question answer α → σ → α × σ
  | done result, environment => (result, environment)
  | ask q next, environment =>
    let (a, environment) := respond q environment
    (next a).runIn respond environment

/-! ## Laws -/

/-- The second of two dialogues runs on the result of the first, and asks after it. -/
theorem runWith_bind (know : (q : question) → answer q) (d : Dialogue question answer α)
    (f : α → Dialogue question answer β) :
    (d.bind f).runWith know =
      (((f (d.runWith know).1).runWith know).1,
        (d.runWith know).2 ++ ((f (d.runWith know).1).runWith know).2) := by
  induction d with
  | done => rfl
  | ask q next ih => simp [bind, runWith, ih]

/-- Only the answers to the questions that are asked count. -/
theorem runWith_congr {know know' : (q : question) → answer q} {d : Dialogue question answer α}
    (h : ∀ q ∈ (d.runWith know).2, know q = know' q) : d.runWith know' = d.runWith know := by
  induction d with
  | done => rfl
  | ask q next ih =>
    simp only [runWith, List.forall_mem_cons] at h ⊢
    rw [← h.1, ih (know q) h.2]

end Dialogue

end GrammarDesk
