import Mathlib
import GrammarDesk.Grammar.Plugin
import GrammarDesk.Proofs.Grammar.Task
import GrammarDesk.Proofs.Json.Document

/-!
# Services and modules that answer alike

A live service tells its answers by replies: a status for a call that it does not offer, a text or
a blank for a value.  A module in process returns the answer itself.  Behind a plugin nobody sees
which of the two is asked: parses and evaluations have the same results and the same failures.
Options are the exception, because a service may wrap the value of an option in an object.

Main definitions:

- `Conveys`: the answer that a reply tells.

Main results:

- `runIn_readReply_eq_ok_iff`: a live call has exactly the answer that its reply tells.
- `extractOption_eq_self_iff`: the values that are not taken for wrapped ones.
- `transports_agree`: a plugin over a service and one over a module have the same results.
-/

namespace GrammarDesk.Grammar

open Json GrammarDesk.Tree

/-! ## What replies tell -/

/-- A reply tells an answer: that the call is not offered, or a value.  Beside the value's own text,
any other text that reads as the value tells it. -/
inductive Conveys : Http.Reply → Option Value → Prop where
  | absent (contentType : Option String) (body : String) :
    Conveys (.answered 404 contentType body) none
  | blank (contentType : Option String) {body : String} (h : Text.isBlankText body = true) :
    Conveys (.answered 200 contentType body) (some .null)
  | written (contentType : Option String) {body : String} {v : Value} (h : parse body = .ok v) :
    Conveys (.answered 200 contentType body) (some v)

/-- The text that a value is written as tells the value if it is read as it was written. -/
theorem Conveys.rendered (contentType : Option String) {v : Value} (h : parse v.render = .ok v) :
    Conveys (.answered 200 contentType v.render) (some v) :=
  .written contentType h

variable {w : World}

/-- A blank body is null. -/
theorem runIn_readBody_of_blank {body : String} (h : Text.isBlankText body = true) :
    Task.runIn w (Live.readBody body) = (.ok .null, []) := by
  rw [Live.readBody, if_pos h, Task.runIn_pure]

/-- Any other body is the value that it writes, or its fault is the failure. -/
theorem runIn_readBody_of_text {body : String} (h : Text.isBlankText body = false) :
    Task.runIn w (Live.readBody body) = ((parse body).mapError .json, []) := by
  rw [Live.readBody, if_neg (by rw [h]; decide), Task.runIn_ofReading]

theorem runIn_readReply_ok (operation address : String) (contentType : Option String)
    (body : String) :
    Task.runIn w (Live.readReply operation address (.answered 200 contentType body)) =
      ((Task.runIn w (Live.readBody body)).1.map some, (Task.runIn w (Live.readBody body)).2) :=
  Task.runIn_map some (Live.readBody body)

/-- A live call has an answer exactly when its reply tells the answer. -/
theorem runIn_readReply_eq_ok_iff (operation address : String) (reply : Http.Reply)
    (answer : Option Value) :
    Task.runIn w (Live.readReply operation address reply) = (.ok answer, []) ↔
      Conveys reply answer := by
  constructor
  · intro h
    cases reply with
    | lost fault => cases h
    | late => cases h
    | answered status contentType body =>
      by_cases h404 : status = 404
      · subst h404
        cases h
        exact .absent contentType body
      · by_cases h200 : status = 200
        · subst h200
          rw [runIn_readReply_ok] at h
          cases hblank : Text.isBlankText body with
          | true =>
            rw [runIn_readBody_of_blank hblank] at h
            cases h
            exact .blank contentType hblank
          | false =>
            rw [runIn_readBody_of_text hblank] at h
            cases hparse : parse body with
            | error fault =>
              rw [hparse] at h
              cases h
            | ok v =>
              rw [hparse] at h
              cases h
              exact .written contentType hparse
        · rw [Live.readReply, if_neg h404, if_neg h200] at h
          cases h
  · rintro (⟨contentType, body⟩ | ⟨contentType, hblank⟩ | ⟨contentType, hparse⟩)
    · rfl
    · rw [runIn_readReply_ok, runIn_readBody_of_blank hblank, Except.map]
    · rw [runIn_readReply_ok, runIn_readBody_of_text (isBlankText_of_parse hparse), hparse]
      rfl

/-- Reading a reply makes no call. -/
theorem calls_readReply (operation address : String) (reply : Http.Reply) :
    (Task.runIn w (Live.readReply operation address reply)).2 = [] := by
  cases reply with
  | lost fault => rfl
  | late => rfl
  | answered status contentType body =>
    by_cases h404 : status = 404
    · simp [Live.readReply, h404]
    · by_cases h200 : status = 200
      · subst h200
        rw [runIn_readReply_ok]
        cases hblank : Text.isBlankText body with
        | true => simp [runIn_readBody_of_blank hblank]
        | false => simp [runIn_readBody_of_text hblank]
      · simp [Live.readReply, h404, h200]

/-! ## Options -/

/-- An answer is the value of an option itself exactly if it binds nothing to the key. -/
theorem extractOption_eq_self_iff (key : String) (v : Value) :
    Live.extractOption key v = v ↔ v.get? key = none := by
  rw [Live.extractOption]
  cases hget : v.get? key with
  | none => simp
  | some inner =>
    have hsize := sizeOf_get? hget
    simp only [Option.getD_some, reduceCtorEq, iff_false]
    rintro rfl
    omega

/-! ## Live calls -/

section

variable {base client : String} {answer : Option Value}

/-- A service evaluates by one request, and the reply tells the result. -/
theorem runIn_live_eval {r : EvalRequest}
    (h : Conveys (w.reply (.post (base ++ Live.evalPath) (Live.evalQuery client r) r.input))
      answer) :
    Task.runIn w (Live.eval base client r) =
      (.ok (answer.map .ofJson),
        [.send (.post (base ++ Live.evalPath) (Live.evalQuery client r) r.input)]) := by
  rw [Live.eval, Task.runIn_bind_of_ok (Task.runIn_send w _),
    Task.runIn_bind_of_ok ((runIn_readReply_eq_ok_iff _ _ _ _).2 h)]
  rfl

/-- A service tells an option by one request; what the answer binds to the key counts. -/
theorem runIn_live_getOption {key : String}
    (h : Conveys (w.reply (.get (base ++ Live.optPath) [("clientId", client), ("key", key)]))
      answer) :
    Task.runIn w (Live.getOption base client key) =
      (.ok (answer.map (Live.extractOption key)),
        [.send (.get (base ++ Live.optPath) [("clientId", client), ("key", key)])]) := by
  rw [Live.getOption, Task.runIn_bind_of_ok (Task.runIn_send w _),
    Task.runIn_bind_of_ok ((runIn_readReply_eq_ok_iff _ _ _ _).2 h)]
  rfl

end

/-! ## Plugins -/

section

variable {p : Plugin} {raw : Option RawResult} {calls : List Call} {rootTag input : String}

/-- The tree of an input is that of the backend's result. -/
theorem runIn_plugin_parse (hoffer : p.capabilities.parse = true)
    (h : Task.runIn w (p.adapter.eval (.parse rootTag input)) = (.ok raw, calls)) :
    Task.runIn w (p.parse rootTag input) = (p.treeOf raw, calls) := by
  rw [Plugin.parse, if_pos hoffer, Task.runIn_bind_of_ok h, Task.runIn_mk_pure, List.append_nil]

/-- The value of an input is that of the backend's result. -/
theorem runIn_plugin_eval {context : Value} (hoffer : p.capabilities.eval = true)
    (h : Task.runIn w (p.adapter.eval (.run rootTag input context)) = (.ok raw, calls)) :
    Task.runIn w (p.eval rootTag input context) = (.ok (Plugin.valueOf raw), calls) := by
  rw [Plugin.eval, if_pos hoffer, Task.runIn_bind_of_ok h, Task.runIn_pure, List.append_nil]

end

/-- The check that a plugin makes before it asks for an option is made by its adapter as well. -/
theorem plugin_getOption_eq (p : Plugin) (key : String) :
    p.getOption key = p.adapter.getOption key := by
  rw [Plugin.getOption, Plugin.capabilities]
  cases p.adapter with
  | live base client recompiles => rfl
  | module m client =>
    by_cases hoffer : m.exports.getOption <;>
      simp [Adapter.capabilities, Adapter.getOption, hoffer]

/-- Over a live service and over a module that exports everything, a plugin finds the same trees and
values and fails alike when the replies of the service tell the answers of the module.  If the
call is not offered, a parse fails and an evaluation has no value.  An option is the same on both
sides exactly when its value is no object that binds the option's key. -/
theorem transports_agree (w : World) (e : Endpoint) (serial : Nat) (client : String)
    (mapping : Mapping) (origin origin' : Option Endpoint) :
    let base := Text.dropTrailing '/' e.resolvedUrl
    let m : Module := ⟨serial, .all⟩
    let live : Plugin := ⟨.ofLiveEndpoint e client, mapping, origin⟩
    let inProcess : Plugin := ⟨.module m client, mapping, origin'⟩
    (∀ (rootTag input : String) (answer : Option Value),
      Conveys (w.reply (.post (base ++ "/eval")
        [("clientId", client), ("rootTag", rootTag), ("mode", "PARSE")] input)) answer →
      w.parse m client rootTag input = .ok (answer.map .ofJson) →
      (Task.runIn w (live.parse rootTag input)).1 =
          (Task.runIn w (inProcess.parse rootTag input)).1 ∧
        (answer = none →
          (Task.runIn w (live.parse rootTag input)).1 = .error .parseUnavailable)) ∧
    (∀ (rootTag input : String) (context : Value) (answer : Option Value),
      Conveys (w.reply (.post (base ++ "/eval")
        [("clientId", client), ("rootTag", rootTag), ("mode", "RUN"), ("ctx", context.render)]
        input)) answer →
      w.eval m client rootTag input context = .ok (answer.map .ofJson) →
      (Task.runIn w (live.eval rootTag input context)).1 =
          (Task.runIn w (inProcess.eval rootTag input context)).1 ∧
        (answer = none → (Task.runIn w (live.eval rootTag input context)).1 = .ok none)) ∧
    (∀ (key : String) (answer : Option Value),
      Conveys (w.reply (.get (base ++ "/opt") [("clientId", client), ("key", key)])) answer →
      w.option m client key = .ok answer →
      ((Task.runIn w (live.getOption key)).1 = (Task.runIn w (inProcess.getOption key)).1 ↔
        ∀ v, answer = some v → v.get? key = none)) := by
  intro base m live inProcess
  refine ⟨?_, ?_, ?_⟩
  · intro rootTag input answer hreply hmodule
    have hlive : Task.runIn w (live.adapter.eval (.parse rootTag input)) = _ :=
      runIn_live_eval hreply
    have hinner : Task.runIn w (inProcess.adapter.eval (.parse rootTag input)) = _ :=
      Task.runIn_parse w m client rootTag input
    rw [hmodule] at hinner
    rw [runIn_plugin_parse rfl hlive, runIn_plugin_parse rfl hinner]
    refine ⟨rfl, ?_⟩
    rintro rfl
    rfl
  · intro rootTag input context answer hreply hmodule
    have hlive : Task.runIn w (live.adapter.eval (.run rootTag input context)) = _ :=
      runIn_live_eval hreply
    have hinner : Task.runIn w (inProcess.adapter.eval (.run rootTag input context)) = _ :=
      Task.runIn_eval w m client rootTag input context
    rw [hmodule] at hinner
    rw [runIn_plugin_eval rfl hlive, runIn_plugin_eval rfl hinner]
    refine ⟨rfl, ?_⟩
    rintro rfl
    rfl
  · intro key answer hreply hmodule
    have hlive : Task.runIn w (live.getOption key) = _ := runIn_live_getOption hreply
    have hinner : Task.runIn w (inProcess.getOption key) = _ :=
      Task.runIn_getOption w m client key
    rw [hlive, hinner, hmodule]
    cases answer with
    | none => simp
    | some v => simp [extractOption_eq_self_iff]

/-- A world in which every service gives the same reply and every module the same answer. -/
def World.answering (reply : Http.Reply) (answer : Option Value) : World where
  reply _ := reply
  module url := .error (.moduleNotFound url)
  parse _ _ _ _ := .ok (answer.map .ofJson)
  eval _ _ _ _ _ := .ok (answer.map .ofJson)
  option _ _ _ := .ok answer

/-- A sum beside the mapping that finds its name. -/
def mappedSum : Value :=
  .object [("json", .object [("n", .string "Sum")]), ("mapping", .object [("name", .string "n")])]

theorem parse_render_mappedSum : parse mappedSum.render = .ok mappedSum := by
  have htext : mappedSum.render =
      "\x7b\"json\":\x7b\"n\":\"Sum\"\x7d,\"mapping\":\x7b\"name\":\"n\"\x7d\x7d" := by rfl
  rw [htext]
  cbv

theorem normalize_mappedSum :
    normalize (.ofJson mappedSum) .identity = .ok (.leaf "Sum" 0 0) := by
  change Mapping.mapTree { Mapping.identity with name := "n" } (.object [("n", .string "Sum")]) = _
  rw [Mapping.mapTree]
  rfl

/-- The sum is found behind the text of a service, as behind a module. -/
theorem transports_agree_of_mappedSum :
    let w := World.answering (.answered 200 none mappedSum.render) (some mappedSum)
    let e : Endpoint := ⟨"http://[::1]/g", .live, [], "http://[::1]/g/"⟩
    let live : Plugin := ⟨.ofLiveEndpoint e "me", .identity, some e⟩
    (Task.runIn w (live.parse "Sum" "1+1")).1 = .ok (.leaf "Sum" 0 0) ∧
      (Task.runIn w (live.eval "Sum" "1+1" (.object []))).1 =
        .ok (some (.object [("n", .string "Sum")])) ∧
      (Task.runIn w (live.getOption "rootTags")).1 = .ok (some mappedSum) := by
  intro w e live
  have hreply : ∀ request, Conveys (w.reply request) (some mappedSum) :=
    fun _ => .rendered none parse_render_mappedSum
  obtain ⟨hparse, heval, hoption⟩ := transports_agree w e 7 "me" .identity (some e) none
  refine ⟨?_, ?_, ?_⟩
  · rw [(hparse "Sum" "1+1" (some mappedSum) (hreply _) rfl).1]
    exact normalize_mappedSum
  · rw [(heval "Sum" "1+1" (.object []) (some mappedSum) (hreply _) rfl).1]
    rfl
  · rw [(hoption "rootTags" (some mappedSum) (hreply _) rfl).2 (by rintro _ ⟨⟩; rfl)]
    rfl

end GrammarDesk.Grammar
