import GrammarDesk.Proofs.Grammar.Loading

/-!
# What the calls of a plugin ask

A parse and an evaluation ask the backend for nothing but that; whatever it answers, they do not ask
for options.  A look-up of the root tags asks for this option alone.

Main definitions:

- `Dialogue.AsksOnly`: a dialogue that asks only certain questions.

Main results:

- `Plugin.asksOnly_parse`, `Plugin.asksOnly_eval`: parses and evaluations ask for no option.
- `Plugin.asksOnly_rootTags`: a look-up asks for the root tags.
-/

namespace GrammarDesk

/-! ## Questions of a dialogue -/

namespace Dialogue

variable {question : Type} {answer : question → Type} {α β : Type}

/-- Whatever it is answered, the dialogue asks only such questions. -/
def AsksOnly (S : question → Prop) : Dialogue question answer α → Prop
  | done _ => True
  | ask q next => S q ∧ ∀ a, (next a).AsksOnly S

/-- A sequence asks only what both of its parts ask. -/
theorem AsksOnly.bind {S : question → Prop} {d : Dialogue question answer α}
    {f : α → Dialogue question answer β} (hd : d.AsksOnly S) (hf : ∀ a, (f a).AsksOnly S) :
    (d.bind f).AsksOnly S := by
  induction d with
  | done result => exact hf result
  | ask q next ih => exact ⟨hd.1, fun a => ih a (hd.2 a)⟩

end Dialogue

namespace Grammar

open Json GrammarDesk.Tree

/-! ## Questions of a task -/

namespace Task

variable {α β : Type} {S : Call → Prop}

/-- Whatever it is answered, the task makes only such calls. -/
def AsksOnly (S : Call → Prop) (t : Task α) : Prop := Dialogue.AsksOnly S t.attempt

/-- A sequence of tasks asks only what both of its parts ask. -/
theorem AsksOnly.bind {t : Task α} {f : α → Task β} (ht : AsksOnly S t)
    (hf : ∀ a, AsksOnly S (f a)) : AsksOnly S (t >>= f) := by
  refine Dialogue.AsksOnly.bind ht fun result => ?_
  cases result with
  | ok a => exact hf a
  | error failure => trivial

/-- Nothing is asked once a reply is there. -/
theorem asksOnly_readReply (operation address : String) (reply : Http.Reply) :
    AsksOnly S (Live.readReply operation address reply) := by
  have hbody : ∀ body, AsksOnly S (some <$> Live.readBody body) := by
    intro body
    rw [Live.readBody]
    split
    · trivial
    · cases Json.parse body <;> trivial
  cases reply with
  | answered status contentType body =>
    rw [Live.readReply]
    split
    · trivial
    · split
      · exact hbody body
      · trivial
  | _ => trivial

end Task

/-! ## Questions of a plugin -/

namespace Plugin

variable (p : Plugin) (key : String)

/-- An evaluation asks for no option. -/
theorem asksOnly_adapter_eval (a : Adapter) (r : EvalRequest) :
    Task.AsksOnly (fun call => ¬ call.AsksFor key) (a.eval r) := by
  cases a with
  | live base client recompiles =>
    have hquery : ("key", key) ∉ Live.evalQuery client r := by
      rw [Live.evalQuery]
      split <;> simp
    exact .bind ⟨hquery, fun _ => trivial⟩ fun reply =>
      .bind (Task.asksOnly_readReply _ _ reply) fun _ => trivial
  | module m client =>
    rw [Adapter.eval]
    split
    · split
      · exact ⟨id, fun _ => trivial⟩
      · trivial
    · split
      · exact ⟨id, fun _ => trivial⟩
      · trivial

/-- A parse asks for no option. -/
theorem asksOnly_parse (rootTag input : String) :
    Task.AsksOnly (fun call => ¬ call.AsksFor key) (p.parse rootTag input) := by
  rw [parse]
  split
  · exact .bind (asksOnly_adapter_eval key p.adapter _) fun _ => trivial
  · trivial

/-- An evaluation asks for no option. -/
theorem asksOnly_eval (rootTag input : String) (context : Value) :
    Task.AsksOnly (fun call => ¬ call.AsksFor key) (p.eval rootTag input context) := by
  rw [eval]
  split
  · exact .bind (asksOnly_adapter_eval key p.adapter _) fun _ => trivial
  · trivial

/-- A look-up asks for the root tags alone. -/
theorem asksOnly_rootTags : Task.AsksOnly (Call.AsksFor rootTagsKey) p.rootTags := by
  refine .bind ?_ fun _ => trivial
  rw [getOption]
  split
  · cases p.adapter with
    | live base client recompiles =>
      have hquery : ("key", rootTagsKey) ∈ [("clientId", client), ("key", rootTagsKey)] := by simp
      exact .bind ⟨hquery, fun _ => trivial⟩ fun reply =>
        .bind (Task.asksOnly_readReply _ _ reply) fun _ => trivial
    | module m client =>
      rw [Adapter.getOption]
      split
      · exact ⟨rfl, fun _ => trivial⟩
      · trivial
  · trivial

end Plugin

end Grammar

end GrammarDesk
