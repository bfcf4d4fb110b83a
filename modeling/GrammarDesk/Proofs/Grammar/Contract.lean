import GrammarDesk.Proofs.Grammar.Transparency
import GrammarDesk.Proofs.Tree.Answer

/-!
# What a plugin makes of its backend

A plugin calls a function of a module only if the module exports it, and compiles a grammar anew
only if a live service has said that it can.  What a parse makes of a JSON answer is one of five
things: the answer is empty, its mapping is missing, its mapping cannot be read, it is not built
like a tree, or it is a tree.  An evaluation takes every answer as it is, and only null for none.

Main definitions:

- `CallsExports`: the calls that a plugin over a module makes.
- `Cause`: the causes for which a JSON answer is no tree, with the answers that they apply to.
- `Verdict`: what a parse makes of a JSON answer.

Main results:

- `callsExports`: a plugin over a module calls what the module exports, and nothing else.
- `verdict_treeOf`: every JSON answer has its verdict.
- `plugin_contract`: the calls of a plugin, and the results of its parses and evaluations.
-/

namespace GrammarDesk.Grammar

open Json GrammarDesk.Tree

/-! ## Calls -/

/-- A plugin calls one function of a module for each of its own calls, if the module exports that
function, and has no call for a new compilation. -/
structure CallsExports (w : World) (m : Module) (client : String) (p : Plugin) : Prop where
  parse : ∀ rootTag input, (Task.runIn w (p.parse rootTag input)).2 =
    if m.exports.parse then [.parse m client rootTag input] else []
  eval : ∀ rootTag input context, (Task.runIn w (p.eval rootTag input context)).2 =
    if m.exports.eval then [.eval m client rootTag input context] else []
  getOption : ∀ key, (Task.runIn w (p.getOption key)).2 =
    if m.exports.getOption then [.getOption m client key] else []
  rootTags : (Task.runIn w p.rootTags).2 =
    if m.exports.getOption then [.getOption m client "rootTags"] else []
  recompile : ∀ source,
    Task.runIn w (p.recompile source) = (.error (.unsupported "recompile"), [])

section

variable (w : World) (m : Module) (client : String) (mapping : Mapping) (origin : Option Endpoint)

/-- The option function of a module is called exactly if it is exported. -/
theorem calls_plugin_getOption (key : String) :
    (Task.runIn w ((⟨.module m client, mapping, origin⟩ : Plugin).getOption key)).2 =
      if m.exports.getOption then [.getOption m client key] else [] := by
  rw [plugin_getOption_eq]
  by_cases hoffer : m.exports.getOption <;> simp [Adapter.getOption, hoffer]

/-- A plugin over a module calls what the module exports, and nothing else. -/
theorem callsExports : CallsExports w m client ⟨.module m client, mapping, origin⟩ where
  parse := by
    intro rootTag input
    by_cases hoffer : m.exports.parse
    · have hsilent : ∀ raw : Option RawResult, (Task.runIn w (ExceptT.mk (pure
          ((⟨.module m client, mapping, origin⟩ : Plugin).treeOf raw)))).2 = [] :=
        fun _ => rfl
      simp only [Plugin.parse, Plugin.capabilities, Adapter.capabilities, hoffer, if_true]
      rw [Task.calls_bind_of_silent _ hsilent]
      simp [Adapter.eval, EvalRequest.parse, hoffer]
    · simp [Plugin.parse, Plugin.capabilities, Adapter.capabilities, hoffer]
  eval := by
    intro rootTag input context
    by_cases hoffer : m.exports.eval
    · simp only [Plugin.eval, Plugin.capabilities, Adapter.capabilities, hoffer, if_true]
      rw [Task.calls_bind_of_silent _ fun _ => rfl]
      simp [Adapter.eval, EvalRequest.run, hoffer]
    · simp [Plugin.eval, Plugin.capabilities, Adapter.capabilities, hoffer]
  getOption := calls_plugin_getOption w m client mapping origin
  rootTags := by
    rw [Plugin.rootTags, Task.calls_bind_of_silent _ fun _ => rfl]
    exact calls_plugin_getOption w m client mapping origin "rootTags"
  recompile := by
    intro source
    simp [Plugin.recompile, Plugin.capabilities, Adapter.capabilities, recompileOperation]

/-- A live service is not asked to compile anew if it has not said that it can. -/
theorem runIn_live_recompile_of_not_mem {e : Endpoint}
    (h : "supports-recompile" ∉ e.capabilities) (source : String) :
    Task.runIn w ((⟨.ofLiveEndpoint e client, mapping, origin⟩ : Plugin).recompile source) =
      (.error (.unsupported "recompile"), []) := by
  have hnot : e.supports recompileCapability = false := by
    simpa [Endpoint.supports, recompileCapability] using h
  simp [Plugin.recompile, Plugin.capabilities, Adapter.capabilities, Adapter.ofLiveEndpoint, hnot,
    recompileOperation]

end

/-! ## Answers -/

/-- The causes for which a parse makes no tree of a JSON answer. -/
inductive Cause where
  | empty
  | unmapped
  | unreadable
  | misshapen

/-- What an answer is when a cause applies to it: one that counts as false, one that carries null in
the place of a mapping or a mapping that cannot be read, or one that delivers a value which breaks
the rules for trees. -/
def Cause.Applies (own : Mapping) (v : Value) : Cause → Prop
  | .empty => v ∈ Value.falsy
  | .unmapped => ∃ source, Carries v source .null
  | .unreadable => ∃ fault, Misdelivers v fault
  | .misshapen => ∃ source m, Delivers own v source m ∧ m.Malformed source

/-- The result of a parse reports a cause. -/
inductive Reports : Except Failure Node → Cause → Prop where
  | empty : Reports (.error .emptyResult) .empty
  | unmapped : Reports (.error .missingMapping) .unmapped
  | unreadable (fault : Fault) : Reports (.error (.json fault)) .unreadable
  | misshapen (hint : String) : Reports (.error (.unknownShape hint)) .misshapen

/-- A result reports one cause at most. -/
theorem Reports.unique {result : Except Failure Node} {cause other : Cause}
    (h : Reports result cause) (hother : Reports result other) : cause = other := by
  cases h <;> cases hother <;> rfl

/-- A result that reports a cause is no tree. -/
theorem Reports.ne_ok {result : Except Failure Node} {cause : Cause} (h : Reports result cause)
    (t : Node) : result ≠ .ok t := by
  cases h <;> simp

/-- What a parse makes of a JSON answer: it reports the cause that applies, and finds a tree if
there is none.  At most one cause applies.  What the answer delivers is read through its mapping. -/
structure Verdict (own : Mapping) (v : Value) (result : Except Failure Node) : Prop where
  reports_iff : ∀ cause : Cause, Reports result cause ↔ cause.Applies own v
  ok_iff : (∃ t, result = .ok t) ↔ ∀ cause : Cause, ¬ cause.Applies own v
  exclusive : ∀ cause other : Cause, cause.Applies own v → other.Applies own v → cause = other
  delivered : ∀ source m, Delivers own v source m → result = m.mapTree source

/-- A verdict is reached when every cause that applies is reported, and some cause applies unless
there is a tree. -/
theorem Verdict.of_reports {own : Mapping} {v : Value} {result : Except Failure Node}
    (hreports : ∀ cause : Cause, cause.Applies own v → Reports result cause)
    (htotal : (∃ t, result = .ok t) ∨ ∃ cause : Cause, cause.Applies own v)
    (hdelivered : ∀ source m, Delivers own v source m → result = m.mapTree source) :
    Verdict own v result where
  reports_iff := by
    intro cause
    constructor
    · intro h
      rcases htotal with ⟨t, ht⟩ | ⟨other, hother⟩
      · exact absurd ht (h.ne_ok t)
      · rwa [h.unique (hreports other hother)]
    · exact hreports cause
  ok_iff := by
    constructor
    · rintro ⟨t, ht⟩ cause hcause
      exact (hreports cause hcause).ne_ok t ht
    · intro hnone
      rcases htotal with htree | ⟨cause, hcause⟩
      · exact htree
      · exact absurd hcause (hnone cause)
  exclusive := by
    intro cause other hcause hother
    exact (hreports cause hcause).unique (hreports other hother)
  delivered := hdelivered

section

variable (p : Plugin) {v : Value}

/-- A falsy answer is an empty result. -/
theorem treeOf_of_mem_falsy (h : v ∈ Value.falsy) :
    p.treeOf (some (.ofJson v)) = .error .emptyResult := by
  rw [Plugin.treeOf, if_pos ((isFalsy_ofJson_iff v).2 h)]

/-- Any other answer is made into a tree. -/
theorem treeOf_of_not_mem_falsy (h : v ∉ Value.falsy) :
    p.treeOf (some (.ofJson v)) = normalize (.ofJson v) p.mapping := by
  rw [Plugin.treeOf, if_neg (mt (isFalsy_ofJson_iff v).1 h)]

/-- What an answer delivers is read through its mapping. -/
theorem treeOf_of_delivers {source : Value} {m : Mapping} (h : Delivers p.mapping v source m) :
    p.treeOf (some (.ofJson v)) = m.mapTree source := by
  rw [treeOf_of_not_mem_falsy p h.not_mem_falsy, normalize_of_delivers h]

/-- A cause that applies to an answer is reported. -/
theorem reports_treeOf {cause : Cause} (h : cause.Applies p.mapping v) :
    Reports (p.treeOf (some (.ofJson v))) cause := by
  cases cause with
  | empty =>
    rw [treeOf_of_mem_falsy p h]
    exact .empty
  | unmapped =>
    obtain ⟨source, hcarries⟩ := h
    rw [treeOf_of_not_mem_falsy p hcarries.not_mem_falsy, normalize_of_carries_null hcarries]
    exact .unmapped
  | unreadable =>
    obtain ⟨fault, hmisdelivers⟩ := h
    rw [treeOf_of_not_mem_falsy p hmisdelivers.not_mem_falsy,
      normalize_of_misdelivers hmisdelivers]
    exact .unreadable fault
  | misshapen =>
    obtain ⟨source, m, hdelivers, hmalformed⟩ := h
    obtain ⟨hint, hhint⟩ := (Mapping.mapTree_unknownShape_iff m source).2 hmalformed
    rw [treeOf_of_delivers p hdelivers, hhint]
    exact .misshapen hint

/-- Every JSON answer has its verdict. -/
theorem verdict_treeOf (v : Value) : Verdict p.mapping v (p.treeOf (some (.ofJson v))) := by
  refine .of_reports (fun _ => reports_treeOf p) ?_ fun _ _ => treeOf_of_delivers p
  cases AnswerKind.of p.mapping v with
  | empty h => exact .inr ⟨.empty, h⟩
  | leaf h hleaf => exact .inl ⟨_, (treeOf_of_not_mem_falsy p h).trans hleaf⟩
  | unmapped source h => exact .inr ⟨.unmapped, source, h⟩
  | unreadable fault h => exact .inr ⟨.unreadable, fault, h⟩
  | tree source m h =>
    by_cases hread : ∃ t, m.mapTree source = .ok t
    · obtain ⟨t, ht⟩ := hread
      exact .inl ⟨t, (treeOf_of_delivers p h).trans ht⟩
    · exact .inr ⟨.misshapen, source, m, h, (Mapping.malformed_iff m source).2 hread⟩

end

/-! ## Plugins over modules -/

/-- A plugin over a module calls only what the module exports and never has it compiled anew, nor a
live service that has not said that it can be.  Over a module that exports everything, a parse
reports the one cause that applies to a JSON answer, or finds a tree if there is none, and an
evaluation has the value that the answer is about, whatever it counts as, and none for null. -/
theorem plugin_contract (w : World) (m : Module) (client : String) (mapping : Mapping)
    (origin : Option Endpoint) :
    let p : Plugin := ⟨.module m client, mapping, origin⟩
    CallsExports w m client p ∧
    (∀ (e : Endpoint) (source : String), "supports-recompile" ∉ e.capabilities →
      Task.runIn w ((⟨.ofLiveEndpoint e client, mapping, origin⟩ : Plugin).recompile source) =
        (.error (.unsupported "recompile"), [])) ∧
    (m.exports = .all → ∀ (rootTag input : String) (v : Value),
      (w.parse m client rootTag input = .ok (some (.ofJson v)) →
        Verdict mapping v (Task.runIn w (p.parse rootTag input)).1) ∧
      (∀ context, w.eval m client rootTag input context = .ok (some (.ofJson v)) →
        ((Task.runIn w (p.eval rootTag input context)).1 = .ok none ↔ bareValue v = .null) ∧
        (bareValue v ≠ .null →
          (Task.runIn w (p.eval rootTag input context)).1 = .ok (some (bareValue v))))) := by
  intro p
  refine ⟨callsExports w m client mapping origin, ?_, ?_⟩
  · intro e source hnot
    exact runIn_live_recompile_of_not_mem w client mapping origin hnot source
  · intro hall rootTag input v
    have hoffer : p.capabilities.parse = true ∧ p.capabilities.eval = true := by
      simp [p, Plugin.capabilities, Adapter.capabilities, hall, Exports.all]
    constructor
    · intro hanswer
      have hinner : Task.runIn w (p.adapter.eval (.parse rootTag input)) =
          (.ok (some (.ofJson v)), [.parse m client rootTag input]) := by
        simp [p, Adapter.eval, EvalRequest.parse, hall, Exports.all, hanswer]
      rw [runIn_plugin_parse hoffer.1 hinner]
      exact verdict_treeOf p v
    · intro context hanswer
      have hinner : Task.runIn w (p.adapter.eval (.run rootTag input context)) =
          (.ok (some (.ofJson v)), [.eval m client rootTag input context]) := by
        simp [p, Adapter.eval, EvalRequest.run, hall, Exports.all, hanswer]
      rw [runIn_plugin_eval hoffer.2 hinner, Plugin.valueOf, Option.map_some, toValue_ofJson]
      cases bareValue v <;> simp [Value.isNull]

/-- A list of children under a key of its own, with a number among the children. -/
def mixedChildren : Value :=
  .object [("json", .object [("kids", .array [.object [], .number (.natural 0)])]),
    ("mapping", .object [("children", .string "kids")])]

/-- The number among the children fits no mapping that comes with the list. -/
theorem misshapen_applies_mixedChildren (own : Mapping) :
    Cause.misshapen.Applies own mixedChildren := by
  have hread : Mapping.ofValue (.object [("children", .string "kids")]) =
      .ok { Mapping.identity with children := "kids" } := by rfl
  refine ⟨_, _, .carried ⟨rfl, rfl⟩ hread, .number (.natural 0), ?_, ?_⟩
  · exact .item rfl (by simp) (.self _)
  · rintro ⟨_, ⟨⟩, -⟩

/-- The number among the children is no tree, but an evaluation has the list. -/
theorem plugin_contract_of_mixedChildren :
    let w := World.answering (.lost (.unsent "http://[::1]/g")) (some mixedChildren)
    let p : Plugin := ⟨.module ⟨7, .all⟩ "me", .identity, none⟩
    let e : Endpoint := ⟨"http://[::1]/g", .live, ["supports-eval"], "http://[::1]/g"⟩
    Reports (Task.runIn w (p.parse "Sum" "1+1")).1 .misshapen ∧
      (Task.runIn w (p.eval "Sum" "1+1" (.object []))).1 =
        .ok (some (.object [("kids", .array [.object [], .number (.natural 0)])])) ∧
      Task.runIn w ((⟨.ofLiveEndpoint e "me", .identity, some e⟩ : Plugin).recompile "Sum") =
        (.error (.unsupported "recompile"), []) := by
  intro w p e
  obtain ⟨-, hlive, hanswers⟩ := plugin_contract w ⟨7, .all⟩ "me" .identity none
  obtain ⟨hparse, heval⟩ := hanswers rfl "Sum" "1+1" mixedChildren
  refine ⟨?_, ?_, ?_⟩
  · exact ((hparse rfl).reports_iff .misshapen).2 (misshapen_applies_mixedChildren .identity)
  · exact (heval (.object []) rfl).2 (by rintro ⟨⟩)
  · exact hlive e "Sum" (by decide)

end GrammarDesk.Grammar
