import GrammarDesk.Grammar.Loader
import GrammarDesk.Proofs.Grammar.Probe
import GrammarDesk.Proofs.Grammar.Transparency

/-!
# What loading a grammar comes to

Loading passes three stages: the relayed URL is checked, it is probed, and the module is looked up
if one is served there.  The first stage that fails is the cause of the failure to load.  Otherwise
there is a plugin, and only its mapping is left to be chosen; whatever comes of the question for an
advertised mapping, the plugin is there.

Main definitions:

- `FailsFor`: the causes of the stages.
- `Adapts`: the adapter of an endpoint.
- `Offers`: the value that a backend has for an option.
- `Chooses`: the mapping of a plugin.
- `Call.AsksFor`: a call that asks for an option.

Main results:

- `plugin_getOption_eq_some_iff`: a plugin finds the options that its backend offers.
- `chooses_iff`: the mapping that is chosen.
- `not_asksFor_of_probe`: probing does not ask for a mapping.
- `load_contract`: the outcome of loading.
-/

namespace GrammarDesk.Grammar

open Json GrammarDesk.Tree

variable {w : World} {client : String}

/-! ## Options -/

/-- A backend has a value for an option: a live service tells it, alone or bound to the key in an
object, and a module returns it. -/
inductive Offers (w : World) (key : String) : Adapter → Value → Prop where
  | live {base client : String} {recompiles : Bool} {body : Value}
    (h : Conveys (w.reply (.get (base ++ "/opt") [("clientId", client), ("key", key)]))
      (some body)) :
    Offers w key (.live base client recompiles) (Live.extractOption key body)
  | module {m : Module} {client : String} {v : Value} (hexports : m.exports.getOption = true)
    (h : w.option m client key = .ok (some v)) : Offers w key (.module m client) v

/-- A reply has an answer exactly if it conveys it. -/
theorem runIn_readReply_fst_eq_ok_iff (operation address : String) (reply : Http.Reply)
    (answer : Option Value) :
    (Task.runIn w (Live.readReply operation address reply)).1 = .ok answer ↔
      Conveys reply answer := by
  rw [← runIn_readReply_eq_ok_iff (w := w) operation address, Prod.ext_iff, calls_readReply]
  simp

/-- A live service tells an option exactly when its reply does. -/
theorem live_getOption_eq_some_iff {base key : String} {v : Value} :
    (Task.runIn w (Live.getOption base client key)).1 = .ok (some v) ↔
      ∃ body, Conveys (w.reply (.get (base ++ "/opt") [("clientId", client), ("key", key)]))
        (some body) ∧ Live.extractOption key body = v := by
  rw [Live.getOption, Task.runIn_bind_of_ok (Task.runIn_send w _), Task.runIn_bind_eq_ok_iff]
  simp only [runIn_readReply_fst_eq_ok_iff, Task.runIn_pure, Except.ok.injEq, Live.optPath]
  constructor
  · rintro ⟨answer, hanswer, hvalue⟩
    cases answer with
    | none => cases hvalue
    | some body => exact ⟨body, hanswer, Option.some.inj hvalue⟩
  · rintro ⟨body, hbody, rfl⟩
    exact ⟨some body, hbody, rfl⟩

/-- A plugin finds the value of an option exactly when its backend offers it. -/
theorem plugin_getOption_eq_some_iff (p : Plugin) (key : String) (v : Value) :
    (Task.runIn w (p.getOption key)).1 = .ok (some v) ↔ Offers w key p.adapter v := by
  rw [plugin_getOption_eq]
  cases p.adapter with
  | live base client recompiles =>
    simp only [Adapter.getOption, live_getOption_eq_some_iff]
    constructor
    · rintro ⟨body, hbody, rfl⟩
      exact .live hbody
    · rintro ⟨hbody⟩
      exact ⟨_, hbody, rfl⟩
  | module m client =>
    by_cases hexports : m.exports.getOption
    · simp only [Adapter.getOption, hexports, if_true, Task.runIn_getOption]
      constructor
      · exact .module hexports
      · rintro (_ | ⟨-, h⟩)
        exact h
    · have hnone : ¬ Offers w key (.module m client) v := by
        rintro (_ | ⟨hoffer, -⟩)
        exact hexports hoffer
      simp [Adapter.getOption, hexports, hnone]

/-! ## Mappings -/

/-- The mapping of a plugin: the given one, or else an object that is offered as a mapping and can
be read as one, or else the fields' own names. -/
inductive Chooses (w : World) (a : Adapter) : Option Mapping → Mapping → Prop where
  | given (m : Mapping) : Chooses w a (some m) m
  | advertised {entries : Entries} {m : Mapping}
    (hoffer : Offers w "jsonMapping" a (.object entries))
    (hread : Mapping.ofValue (.object entries) = .ok m) : Chooses w a none m
  | canonical (h : ∀ entries m, Offers w "jsonMapping" a (.object entries) →
      Mapping.ofValue (.object entries) ≠ .ok m) : Chooses w a none .identity

/-- The mapping of an option is what an object is read as; anything else counts as none. -/
theorem mappingOfOption?_eq_some_iff (result : Except Failure (Option Value)) (m : Mapping) :
    mappingOfOption? result = some m ↔
      ∃ entries, result = .ok (some (.object entries)) ∧
        Mapping.ofValue (.object entries) = .ok m := by
  have htoOption : ∀ reading : Except Fault Mapping,
      reading.toOption = some m ↔ reading = .ok m := by
    intro reading
    cases reading <;> simp [Except.toOption]
  match result with
  | .error failure => simp [mappingOfOption?]
  | .ok none => simp [mappingOfOption?]
  | .ok (some v) =>
    cases v with
    | object entries => simp [mappingOfOption?, Value.isObject, htoOption]
    | _ => simp [mappingOfOption?, Value.isObject]

/-- A plugin keeps its mapping unless one is advertised that can be read. -/
theorem resultIn_chooseMapping_none (p : Plugin) :
    Inquiry.resultIn w (chooseMapping p none) =
      ({ p with mapping :=
          (mappingOfOption? (Task.runIn w (p.getOption "jsonMapping")).1).getD p.mapping },
        (Task.runIn w (p.getOption "jsonMapping")).2) := by
  have hrun : Inquiry.resultIn w (advertisedMapping p) =
      (mappingOfOption? (Task.runIn w (p.getOption "jsonMapping")).1,
        (Task.runIn w (p.getOption "jsonMapping")).2) := by
    rw [advertisedMapping, Inquiry.resultIn_bind, Inquiry.resultIn_attempt]
    simp [jsonMappingKey]
  rw [chooseMapping, Inquiry.resultIn_bind, hrun]
  cases mappingOfOption? (Task.runIn w (p.getOption "jsonMapping")).1 <;> simp

/-- The mapping that a backend advertises is read off an object that it offers. -/
theorem advertised_eq_some_iff (a : Adapter) (m : Mapping) :
    mappingOfOption? (Task.runIn w ((Plugin.ofAdapter a none).getOption "jsonMapping")).1 =
        some m ↔
      ∃ entries, Offers w "jsonMapping" a (.object entries) ∧
        Mapping.ofValue (.object entries) = .ok m := by
  simp only [mappingOfOption?_eq_some_iff, plugin_getOption_eq_some_iff, Plugin.ofAdapter]

/-- The plugin that loading makes of an adapter has the mapping that is chosen. -/
theorem chooses_iff (a : Adapter) (given : Option Mapping) (m : Mapping) :
    (Inquiry.resultIn w (chooseMapping (.ofAdapter a given) given)).1 = ⟨a, m, none⟩ ↔
      Chooses w a given m := by
  cases given with
  | some mapping =>
    have hrun :
        (Inquiry.resultIn w (chooseMapping (.ofAdapter a (some mapping)) (some mapping))).1 =
          ⟨a, mapping, none⟩ := rfl
    rw [hrun]
    constructor
    · rintro ⟨⟩
      exact .given _
    · rintro ⟨⟩
      rfl
  | none =>
    rw [resultIn_chooseMapping_none]
    cases hfound : mappingOfOption?
        (Task.runIn w ((Plugin.ofAdapter a none).getOption "jsonMapping")).1 with
    | none =>
      have hcanonical : ∀ entries m', Offers w "jsonMapping" a (.object entries) →
          Mapping.ofValue (.object entries) ≠ .ok m' := by
        intro entries m' hoffer hread
        have hsome := (advertised_eq_some_iff a m').2 ⟨entries, hoffer, hread⟩
        rw [hfound] at hsome
        cases hsome
      constructor
      · rintro ⟨⟩
        exact .canonical hcanonical
      · rintro (_ | ⟨hoffer, hread⟩ | _)
        · exact absurd hread (hcanonical _ m hoffer)
        · rfl
    | some mapping =>
      obtain ⟨entries, hoffer, hread⟩ := (advertised_eq_some_iff a mapping).1 hfound
      constructor
      · rintro ⟨⟩
        exact .advertised hoffer hread
      · rintro (_ | ⟨hoffer', hread'⟩ | h)
        · -- the backend has one answer to the question, whichever mapping is read off it
          have hsome := (advertised_eq_some_iff a m).2 ⟨_, hoffer', hread'⟩
          rw [hfound] at hsome
          cases hsome
          rfl
        · exact absurd hread (h entries mapping hoffer)

/-! ## Adapters -/

/-- The adapter of an endpoint: that of a live service, or that of the module for its file. -/
inductive Adapts (w : World) (client : String) (e : Endpoint) : Adapter → Prop where
  | live (h : e.transport = .live) : Adapts w client e (.ofLiveEndpoint e client)
  | module {m : Module} (h : e.transport = .static) (hmodule : w.module e.resolvedUrl = .ok m) :
    Adapts w client e (.module m client)

/-- An endpoint gets an adapter by how it is reached. -/
theorem adapts_iff (e : Endpoint) (a : Adapter) :
    (Task.runIn w (Adapter.ofEndpoint e client)).1 = .ok a ↔ Adapts w client e a := by
  rw [Adapter.ofEndpoint]
  cases htransport : e.transport with
  | live =>
    constructor
    · rintro ⟨⟩
      exact .live htransport
    · rintro (_ | ⟨hstatic, -⟩)
      · rfl
      · simp [htransport] at hstatic
  | static =>
    simp only [Task.runIn_bind_eq_ok_iff, Task.runIn_load, Task.runIn_pure]
    constructor
    · rintro ⟨m, hmodule, ⟨⟩⟩
      exact .module htransport hmodule
    · rintro (hlive | ⟨-, hmodule⟩)
      · simp [htransport] at hlive
      · exact ⟨_, hmodule, rfl⟩

/-- The adapter of an endpoint is missing exactly when the module for its file is. -/
theorem runIn_ofEndpoint_eq_error_iff (e : Endpoint) (failure : Failure) :
    (Task.runIn w (Adapter.ofEndpoint e client)).1 = .error failure ↔
      e.transport = .static ∧ w.module e.resolvedUrl = .error failure := by
  rw [Adapter.ofEndpoint]
  cases e.transport with
  | live => simp
  | static => simp [Task.runIn_bind_eq_error_iff]

/-! ## Stages -/

/-- The first stage that fails: the check of a URL, its probing, or the look-up of the module that
is served there. -/
inductive FailsFor (w : World) (client url : String) : Failure → Prop where
  | invalid {fault : Url.Fault} (h : Url.parse (registryKey url) = .error fault) :
    FailsFor w client url (.invalidUrl url fault)
  | unreached {address : Url} {cause : Failure} (hurl : Url.parse (registryKey url) = .ok address)
    (h : (Task.runIn w (probe client url)).1 = .error cause) : FailsFor w client url cause
  | missing {e : Endpoint} {cause : Failure} (hprobe : (Task.runIn w (probe client url)).1 = .ok e)
    (hstatic : e.transport = .static) (h : w.module e.resolvedUrl = .error cause) :
    FailsFor w client url cause

/-- A plugin is loaded exactly if the URL has an endpoint, which has an adapter, for which a mapping
is chosen. -/
theorem runIn_loadFrom_eq_ok_iff (url : String) (given : Option Mapping) (p : Plugin) :
    (Task.runIn w (loadFrom client url given)).1 = .ok p ↔
      ∃ e a m, (Task.runIn w (probe client url)).1 = .ok e ∧ Adapts w client e a ∧
        Chooses w a given m ∧ p = ⟨a, m, some e⟩ := by
  have hchoice : ∀ a, ∃ m,
      (Inquiry.resultIn w (chooseMapping (.ofAdapter a given) given)).1 = ⟨a, m, none⟩ := by
    intro a
    cases given with
    | some m => exact ⟨m, rfl⟩
    | none => exact ⟨_, congrArg Prod.fst (resultIn_chooseMapping_none _)⟩
  simp only [loadFrom, Task.runIn_bind_eq_ok_iff, Task.runIn_lift, Task.runIn_pure, adapts_iff,
    ← chooses_iff, Except.ok.injEq]
  constructor
  · rintro ⟨e, hprobe, a, hadapts, q, rfl, rfl⟩
    obtain ⟨m, hm⟩ := hchoice a
    exact ⟨e, a, m, hprobe, hadapts, hm, by rw [hm]⟩
  · rintro ⟨e, a, m, hprobe, hadapts, hm, rfl⟩
    exact ⟨e, hprobe, a, hadapts, _, rfl, by rw [hm]⟩

/-- A load fails exactly with what fails first. -/
theorem runIn_loadFrom_eq_error_iff (url : String) (given : Option Mapping) (cause : Failure) :
    (Task.runIn w (loadFrom client url given)).1 = .error cause ↔ FailsFor w client url cause := by
  simp only [loadFrom, Task.runIn_bind_eq_error_iff, Task.runIn_lift, Task.runIn_pure,
    runIn_ofEndpoint_eq_error_iff, reduceCtorEq, and_false, exists_false, or_false]
  constructor
  · rintro (hprobe | ⟨e, hprobe, hstatic, hmodule⟩)
    · cases hurl : Url.parse (registryKey url) with
      | error fault =>
        rw [runIn_probe_of_invalid (baseOf_of_error hurl)] at hprobe
        cases hprobe
        exact .invalid hurl
      | ok address => exact .unreached hurl hprobe
    · exact .missing hprobe hstatic hmodule
  · rintro (hurl | ⟨-, hprobe⟩ | ⟨hprobe, hstatic, hmodule⟩)
    · exact .inl (by rw [runIn_probe_of_invalid (baseOf_of_error hurl)])
    · exact .inl hprobe
    · exact .inr ⟨_, hprobe, hstatic, hmodule⟩

/-! ## Questions for an option -/

/-- The call asks a backend for an option. -/
def Call.AsksFor (key : String) : Call → Prop
  | .send request => ("key", key) ∈ request.query
  | .getOption _ _ asked => asked = key
  | _ => False

/-- Both worlds answer all calls alike, but for those that ask for an option. -/
def World.AgreesBut (w : World) (key : String) (w' : World) : Prop :=
  ∀ call : Call, ¬ call.AsksFor key → w.answer call = w'.answer call

/-- To agree but for one option is mutual. -/
theorem World.AgreesBut.symm {w w' : World} {key : String} (h : w.AgreesBut key w') :
    w'.AgreesBut key w :=
  fun call hcall => (h call hcall).symm

/-- Probing does not ask for a mapping. -/
theorem not_asksFor_of_probe {url : String} {call : Call}
    (h : call ∈ (Task.runIn w (probe client url)).2) : ¬ call.AsksFor "jsonMapping" := by
  have hquery : ∀ base, ¬ Call.AsksFor "jsonMapping" (.send (capabilityRequest client base)) := by
    intro base
    simp [Call.AsksFor, capabilityRequest, Http.Request.get, endpointTypeKey, supportsKey]
  have hfile : ∀ file, ¬ Call.AsksFor "jsonMapping" (.send (fileRequest client file)) := by
    intro file
    simp [Call.AsksFor, fileRequest, Http.Request.head]
  cases hbase : baseOf url with
  | error failure =>
    rw [runIn_probe_of_invalid hbase] at h
    cases h
  | ok base =>
    rcases runIn_probe_cases w client hbase with ⟨capabilities, hrun⟩ | ⟨found, asked, -, hrun⟩
    · rw [hrun, List.mem_singleton] at h
      exact h ▸ hquery base
    · rw [hrun, List.mem_cons, List.mem_map] at h
      obtain rfl | ⟨file, -, rfl⟩ := h
      · exact hquery base
      · exact hfile file

/-- The stages fail alike in worlds that differ only in what they offer as a mapping. -/
theorem FailsFor.congr {w' : World} {url : String} {cause : Failure}
    (hagree : w.AgreesBut "jsonMapping" w') (h : FailsFor w client url cause) :
    FailsFor w' client url cause := by
  have hprobe : Task.runIn w' (probe client url) = Task.runIn w (probe client url) :=
    Task.runIn_congr fun call hcall => hagree call (not_asksFor_of_probe hcall)
  have hmodule : ∀ file, w'.module file = w.module file :=
    fun file => (hagree (.load file) (by simp [Call.AsksFor])).symm
  cases h with
  | invalid hurl => exact .invalid hurl
  | unreached hurl hcause => exact .unreached hurl (by rw [hprobe, hcause])
  | missing hfound hstatic hcause =>
    exact .missing (by rw [hprobe, hfound]) hstatic (by rw [hmodule, hcause])

/-- With a mapping at hand nobody is asked for one. -/
theorem not_asksFor_of_loadFrom {url : String} {m : Mapping} {call : Call}
    (h : call ∈ (Task.runIn w (loadFrom client url (some m))).2) :
    ¬ call.AsksFor "jsonMapping" := by
  rw [loadFrom] at h
  obtain h | ⟨e, -, h⟩ := Task.mem_calls_bind h
  · exact not_asksFor_of_probe h
  · obtain h | ⟨a, -, h⟩ := Task.mem_calls_bind h
    · rw [Adapter.ofEndpoint] at h
      cases htransport : e.transport with
      | live => simp [htransport] at h
      | static =>
        rw [htransport, Task.calls_bind_of_silent _ fun _ => rfl, Task.runIn_load,
          List.mem_singleton] at h
        simp [h, Call.AsksFor]
    · rw [Task.calls_bind_of_silent _ fun _ => rfl, Task.runIn_lift] at h
      cases h

/-! ## Loading -/

/-- A load goes to the relayed URL and tells the given one in its failure. -/
theorem runIn_load_relayed (settings : Settings) (url : String) (given : Option Mapping) :
    Task.runIn w (load settings client url given) =
      ((Task.runIn w (loadFrom client (settings.relayed url) given)).1.mapError (.load url),
        (Task.runIn w (loadFrom client (settings.relayed url) given)).2) := by
  have hrun : Inquiry.resultIn w (loadFrom client (settings.relayed url) given).run =
      Task.runIn w (loadFrom client (settings.relayed url) given) := rfl
  rw [load, Task.runIn_mk, Inquiry.resultIn_bind, hrun]
  cases (Task.runIn w (loadFrom client (settings.relayed url) given)).1 <;>
    simp [Except.mapError]

/-- Loading fails with the URL as it was given and the cause of the first stage that fails for the
relayed URL.  Otherwise it finds the plugin for the endpoint that was probed, with the given
mapping, or the one that is offered, or the fields' own names.  With a mapping at hand nobody is
asked for one, and whatever is answered to that question, loading fails or succeeds alike. -/
theorem load_contract (w : World) (settings : Settings) (client url : String)
    (given : Option Mapping) :
    let target := settings.relayed url
    let outcome := Task.runIn w (load settings client url given)
    (∀ failure, outcome.1 = .error failure ↔
      ∃ cause, FailsFor w client target cause ∧ failure = .load url cause) ∧
    (∀ p, outcome.1 = .ok p ↔
      ∃ e a m, (Task.runIn w (probe client target)).1 = .ok e ∧ Adapts w client e a ∧
        Chooses w a given m ∧ p = ⟨a, m, some e⟩) ∧
    (given ≠ none → ∀ call ∈ outcome.2, ¬ call.AsksFor "jsonMapping") ∧
    (∀ w', w.AgreesBut "jsonMapping" w' → ∀ failure,
      (Task.runIn w' (load settings client url given)).1 = .error failure ↔
        outcome.1 = .error failure) := by
  intro target outcome
  have hfails : ∀ (w : World) (failure : Failure),
      (Task.runIn w (load settings client url given)).1 = .error failure ↔
        ∃ cause, FailsFor w client target cause ∧ failure = .load url cause := by
    intro w failure
    simp only [runIn_load_relayed, ← runIn_loadFrom_eq_error_iff _ given]
    cases (Task.runIn w (loadFrom client target given)).1 <;> simp [Except.mapError, eq_comm]
  refine ⟨hfails w, ?_, ?_, ?_⟩
  · intro p
    simp only [outcome, ← runIn_loadFrom_eq_ok_iff, runIn_load_relayed]
    cases (Task.runIn w (loadFrom client target given)).1 <;> simp [Except.mapError]
  · intro hgiven call hcall
    obtain ⟨m, rfl⟩ := Option.ne_none_iff_exists'.1 hgiven
    simp only [outcome, runIn_load_relayed] at hcall
    exact not_asksFor_of_loadFrom hcall
  · intro w' hagree failure
    rw [hfails w', hfails w]
    constructor
    · rintro ⟨cause, hcause, rfl⟩
      exact ⟨cause, hcause.congr hagree.symm, rfl⟩
    · rintro ⟨cause, hcause, rfl⟩
      exact ⟨cause, hcause.congr hagree, rfl⟩

/-- A world in which a module is served whose answer to the question for a mapping is given. -/
def World.advertising (answer : Except Failure (Option Value)) : World :=
  { World.serving "http://[::1]/g/index.js" "text/javascript" with
    module := fun _ => .ok ⟨7, .all⟩
    option := fun _ _ key => if key = "jsonMapping" then answer else .ok none }

/-- Such worlds agree but for the mapping. -/
theorem World.advertising_agreesBut (answer answer' : Except Failure (Option Value)) :
    (World.advertising answer).AgreesBut "jsonMapping" (.advertising answer') := by
  intro call hcall
  cases call with
  | getOption m client key =>
    have hkey : key ≠ "jsonMapping" := hcall
    change (if key = "jsonMapping" then answer else .ok none) =
      if key = "jsonMapping" then answer' else .ok none
    rw [if_neg hkey, if_neg hkey]
  | _ => rfl

/-- The mapping of a module is found, its failure to tell one does not count, and a given mapping
makes the question needless. -/
theorem load_contract_of_advertising :
    let w := World.advertising (.ok (some (.object [("name", .string "n")])))
    let w' := World.advertising (.error (.module "broken"))
    let e : Endpoint := ⟨"http://[::1]/g/", .static, [], "http://[::1]/g/index.js"⟩
    (Task.runIn w (load .standard "me" "http://[::1]/g/" none)).1 =
        .ok ⟨.module ⟨7, .all⟩ "me", { Mapping.identity with name := "n" }, some e⟩ ∧
      (∀ failure, (Task.runIn w' (load .standard "me" "http://[::1]/g/" none)).1 ≠
        .error failure) ∧
      ∀ call ∈ (Task.runIn w (load .standard "me" "http://[::1]/g/" (some .identity))).2,
        ¬ call.AsksFor "jsonMapping" := by
  intro w w' e
  obtain ⟨-, hloads, -, halike⟩ := load_contract w .standard "me" "http://[::1]/g/" none
  obtain ⟨-, -, hsilent, -⟩ := load_contract w .standard "me" "http://[::1]/g/" (some .identity)
  have hprobe : (Task.runIn w (probe "me" (Settings.standard.relayed "http://[::1]/g/"))).1 =
      .ok e := by rfl
  have hread : Mapping.ofValue (.object [("name", .string "n")]) =
      .ok { Mapping.identity with name := "n" } := by rfl
  have hloaded := (hloads _).2
    ⟨e, _, _, hprobe, .module rfl rfl, .advertised (.module rfl rfl) hread, rfl⟩
  refine ⟨hloaded, ?_, hsilent (by simp)⟩
  intro failure hfailed
  rw [halike w' (World.advertising_agreesBut _ _) failure, hloaded] at hfailed
  cases hfailed

end GrammarDesk.Grammar
