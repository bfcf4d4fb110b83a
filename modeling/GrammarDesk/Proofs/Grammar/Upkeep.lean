import GrammarDesk.Grammar.Record
import GrammarDesk.Proofs.Grammar.Loading

/-!
# Records over time

A record is edited, asked for its plugin, and told to load a new one, in any order.  Each load may
find a plugin or fail.  A failure leaves a message and nothing else, so the plugin of the last load
that succeeded stays in use; a success replaces the plugin together with what it advertises.

Main definitions:

- `valuesOf`: the values among which an option lists texts.
- `offered`, `supportsIn`: what a plugin advertises in a world.
- `Renews`: a record before and after a load that succeeds.
- `Move`, `Course`: what is done to a record, and the loads that a sequence of moves attempts.
- `Changes`: all that a move can do to a record.

Main results:

- `map_string_stringList`: what an option lists.
- `resultIn_reload_of_error`, `renews_reload`: a load that fails, and one that succeeds.
- `Move.changes`: every move is one of the changes.
- `Course.plugin_eq`, `Course.loadError_eq_some_iff`: plugin and message, by induction on the moves.
- `plugin_kept`: the plugin of a record that starts without one.
-/

namespace GrammarDesk.Grammar

open Json GrammarDesk.Tree

/-! ## What a plugin advertises -/

/-- The values that an option holds: the items of an array, or the one value that it is. -/
def valuesOf : Option Value → List Value
  | none => []
  | some (.array items) => items
  | some v => [v]

/-- The value is a text. -/
def isText : Value → Bool
  | .string _ => true
  | _ => false

/-- An option lists the texts among its values, in their order, and nothing else. -/
theorem map_string_stringList (option : Option Value) :
    (stringList option).map .string = (valuesOf option).filter isText := by
  cases option with
  | none => rfl
  | some v =>
    cases v with
    | array items =>
      rw [stringList, valuesOf]
      induction items with
      | nil => rfl
      | cons item items ih =>
        cases item with
        | string s => exact congrArg (List.cons _) ih
        | _ => exact ih
    | _ => rfl

/-- An array of texts lists these. -/
theorem stringList_ofStrings (texts : List String) :
    stringList (some (.ofStrings texts)) = texts := by
  refine List.map_injective_iff.2 (fun _ _ => Value.string.inj) ?_
  rw [map_string_stringList, Value.ofStrings, valuesOf, List.filter_eq_self, List.forall_mem_map]
  exact fun _ _ => rfl

/-- The value of an option in a world, if the plugin finds one. -/
def offered (w : World) (p : Plugin) (key : String) : Option Value :=
  (Task.runIn w (p.getOption key)).1.toOption.join

/-- The capabilities of a plugin in a world: those that its endpoint lists, or else those that it
has for the option. -/
def supportsIn (w : World) (p : Plugin) : List String :=
  let listed := (p.endpoint.map (·.capabilities)).getD []
  if listed = [] then stringList (offered w p "supports") else listed

variable (w : World) (r : Record) (p : Plugin)

/-- Asking for an option that is offered brings it, and any trouble brings none. -/
theorem resultIn_optionOrNone_fst (key : String) :
    (Inquiry.resultIn w (Record.optionOrNone p key)).1 = offered w p key := by
  rw [Record.optionOrNone, Inquiry.resultIn_bind, Inquiry.resultIn_attempt,
    Inquiry.resultIn_pure, offered]

/-- The capabilities that are asked for are those that the plugin advertises. -/
theorem resultIn_capabilitiesOf_fst :
    (Inquiry.resultIn w (Record.capabilitiesOf p)).1 = supportsIn w p := by
  have hask : (Inquiry.resultIn w (do
      return stringList (← Record.optionOrNone p supportsKey))).1 =
      stringList (offered w p "supports") := by
    rw [Inquiry.resultIn_bind, resultIn_optionOrNone_fst, Inquiry.resultIn_pure, supportsKey]
  rw [Record.capabilitiesOf, supportsIn]
  cases p.endpoint with
  | none => simpa using hask
  | some e =>
    cases hlisted : e.capabilities with
    | nil => simpa [hlisted, Option.filter] using hask
    | cons c cs => simp [hlisted, Option.filter]

/-- The productions are replaced by those that the plugin lists, if it lists any. -/
theorem replaceTags_rootTags (old : List String) :
    Record.replaceTags old (Task.runIn w p.rootTags).1 =
      if stringList (offered w p "rootTags") = [] then old
      else stringList (offered w p "rootTags") := by
  cases hrun : Task.runIn w (p.getOption "rootTags") with
  | mk result calls =>
    cases result with
    | error failure =>
      rw [Plugin.rootTags, rootTagsKey, Task.runIn_bind_of_error hrun]
      simp [offered, hrun, Except.toOption, Record.replaceTags, stringList]
    | ok value =>
      rw [Plugin.rootTags, rootTagsKey, Task.runIn_bind_of_ok hrun]
      by_cases htags : stringList value = [] <;>
        simp [offered, hrun, Except.toOption, Record.replaceTags, htags]

/-! ## Loads -/

/-- A record before and after a load that succeeds.  The productions are replaced exactly when the
plugin lists some; where the grammar is and how it is named stays. -/
structure Renews (w : World) (p : Plugin) (r after : Record) : Prop where
  plugin : after.plugin = some p
  loadError : after.loadError = none
  supports : after.supports = supportsIn w p
  editorUrl : after.editorUrl = Record.editorOf? (offered w p "editorUrl")
  rootTags : after.rootTags = if stringList (offered w p "rootTags") = [] then r.rootTags
    else stringList (offered w p "rootTags")
  name : after.name = r.name
  url : after.url = r.url
  jsonMapping : after.jsonMapping = r.jsonMapping
  predefined : after.predefined = r.predefined

section

variable {w r p}

/-- A load that fails leaves its message and nothing else. -/
theorem resultIn_reload_of_error {settings : Settings} {client : String} {failure : Failure}
    (h : (Task.runIn w (load settings client r.url r.jsonMapping)).1 = .error failure) :
    (Inquiry.resultIn w (r.reload settings client)).1 =
      (.error failure, { r with loadError := some failure.message }) := by
  rw [Record.reload, Inquiry.resultIn_bind, Inquiry.resultIn_attempt, h, Inquiry.resultIn_pure]

/-- What a plugin advertises replaces what the record has. -/
theorem resultIn_refresh_fst :
    (Inquiry.resultIn w (r.refresh p)).1 = { r with
      supports := supportsIn w p
      editorUrl := Record.editorOf? (offered w p "editorUrl")
      rootTags := if stringList (offered w p "rootTags") = [] then r.rootTags
        else stringList (offered w p "rootTags") } := by
  rw [Record.refresh]
  simp only [Inquiry.resultIn_bind, Inquiry.resultIn_attempt, Inquiry.resultIn_pure,
    resultIn_capabilitiesOf_fst, resultIn_optionOrNone_fst, editorUrlKey, replaceTags_rootTags]

/-- A load that succeeds puts the plugin into the record that has been refreshed. -/
theorem resultIn_reload_of_ok {settings : Settings} {client : String}
    (h : (Task.runIn w (load settings client r.url r.jsonMapping)).1 = .ok p) :
    (Inquiry.resultIn w (r.reload settings client)).1 =
      (.ok p,
        { (Inquiry.resultIn w (r.refresh p)).1 with plugin := some p, loadError := none }) := by
  rw [Record.reload, Inquiry.resultIn_bind, Inquiry.resultIn_attempt, h, Inquiry.resultIn_bind,
    Inquiry.resultIn_pure]

/-- A load that succeeds renews the record. -/
theorem renews_reload {settings : Settings} {client : String}
    (h : (Task.runIn w (load settings client r.url r.jsonMapping)).1 = .ok p) :
    Renews w p r (Inquiry.resultIn w (r.reload settings client)).1.2 := by
  rw [resultIn_reload_of_ok h, resultIn_refresh_fst]
  constructor <;> rfl

/-- What is handed out is the outcome of the load. -/
theorem answer_reload (settings : Settings) (client : String) :
    (Inquiry.resultIn w (r.reload settings client)).1.1 =
      (Task.runIn w (load settings client r.url r.jsonMapping)).1 := by
  cases h : (Task.runIn w (load settings client r.url r.jsonMapping)).1 with
  | error failure => rw [resultIn_reload_of_error h]
  | ok p => rw [resultIn_reload_of_ok h]

/-- A plugin that is there is handed out without a call. -/
theorem resultIn_ensureLoaded_of_some (h : r.plugin = some p) (settings : Settings)
    (client : String) :
    Inquiry.resultIn w (r.ensureLoaded settings client) = ((.ok p, r), []) := by
  rw [Record.ensureLoaded, h, Inquiry.resultIn_pure]

/-- Without a plugin, one is loaded. -/
theorem ensureLoaded_of_none (h : r.plugin = none) (settings : Settings) (client : String) :
    r.ensureLoaded settings client = r.reload settings client := by
  rw [Record.ensureLoaded, h]

end

/-! ## Moves -/

/-- What is done to a record.  An attempt to load meets the world as it is at the time; it asks no
question twice. -/
inductive Move where
  | edit (url : String) (mapping : Option Mapping)
  | ensure (w : World) (settings : Settings) (client : String)
  | reload (w : World) (settings : Settings) (client : String)

namespace Move

/-- The record after a move. -/
def after (r : Record) : Move → Record
  | .edit url mapping => { r with url := url, jsonMapping := mapping }
  | .ensure w settings client => (Inquiry.resultIn w (r.ensureLoaded settings client)).1.2
  | .reload w settings client => (Inquiry.resultIn w (r.reload settings client)).1.2

/-- The outcome of the load that a move attempts, if it attempts one. -/
def attempt? (r : Record) : Move → Option (Except Failure Plugin)
  | .edit _ _ => none
  | .ensure w settings client =>
    if r.plugin.isSome then none
    else some (Task.runIn w (load settings client r.url r.jsonMapping)).1
  | .reload w settings client => some (Task.runIn w (load settings client r.url r.jsonMapping)).1

end Move

/-- All that a move can do to a record, with the outcome of the load that it attempts. -/
inductive Changes (r : Record) : Option (Except Failure Plugin) → Record → Prop where
  | edited (url : String) (mapping : Option Mapping) :
    Changes r none { r with url := url, jsonMapping := mapping }
  | held {p : Plugin} (h : r.plugin = some p) : Changes r none r
  | failed (failure : Failure) :
    Changes r (some (.error failure)) { r with loadError := some failure.message }
  | renewed {w : World} {p : Plugin} {after : Record} (h : Renews w p r after) :
    Changes r (some (.ok p)) after

/-- A load is one of the changes. -/
theorem changes_reload (settings : Settings) (client : String) :
    Changes r (some (Task.runIn w (load settings client r.url r.jsonMapping)).1)
      (Inquiry.resultIn w (r.reload settings client)).1.2 := by
  cases houtcome : (Task.runIn w (load settings client r.url r.jsonMapping)).1 with
  | error failure =>
    rw [resultIn_reload_of_error houtcome]
    exact .failed failure
  | ok p => exact .renewed (renews_reload houtcome)

/-- Every move is one of the changes. -/
theorem Move.changes (m : Move) : Changes r (m.attempt? r) (m.after r) := by
  cases m with
  | edit url mapping => exact .edited url mapping
  | ensure w settings client =>
    cases hplugin : r.plugin with
    | none =>
      simp only [Move.attempt?, Move.after, hplugin, ensureLoaded_of_none]
      exact changes_reload w r settings client
    | some p =>
      simp only [Move.attempt?, Move.after, hplugin, resultIn_ensureLoaded_of_some hplugin]
      exact .held hplugin
  | reload w settings client => exact changes_reload w r settings client

/-! ## Sequences of moves -/

/-- The records that moves lead to, with the outcomes of the loads attempted on the way. -/
inductive Course (first : Record) : List (Except Failure Plugin) → Record → Prop where
  | start : Course first [] first
  | move {outcomes : List (Except Failure Plugin)} {r : Record} (h : Course first outcomes r)
    (m : Move) : Course first (outcomes ++ (m.attempt? r).toList) (m.after r)

/-- The plugin of the last load that succeeded. -/
def lastLoaded? (outcomes : List (Except Failure Plugin)) : Option Plugin :=
  (outcomes.filterMap Except.toOption).getLast?

/-- One load more counts exactly if it succeeds. -/
theorem lastLoaded?_append (outcomes : List (Except Failure Plugin))
    (outcome : Option (Except Failure Plugin)) :
    lastLoaded? (outcomes ++ outcome.toList) =
      (outcome.bind Except.toOption).or (lastLoaded? outcomes) := by
  simp only [lastLoaded?, List.filterMap_append, List.getLast?_append]
  match outcome with
  | none => simp
  | some (.error failure) => simp [Except.toOption]
  | some (.ok p) => simp [Except.toOption]

section

variable {first : Record} {outcomes : List (Except Failure Plugin)} {r : Record}

/-- A record that starts without a plugin has that of the last load that succeeded. -/
theorem Course.plugin_eq (hplugin : first.plugin = none) (h : Course first outcomes r) :
    r.plugin = lastLoaded? outcomes := by
  induction h with
  | start => rw [hplugin, lastLoaded?, List.filterMap_nil, List.getLast?_nil]
  | @move outcomes r _ m ih =>
    rw [lastLoaded?_append, ← ih]
    have hchanges := m.changes r
    generalize m.attempt? r = outcome, m.after r = after at hchanges ⊢
    cases hchanges with
    | edited url mapping => simp
    | held h => simp
    | failed failure => simp [Except.toOption]
    | renewed h => simp [Except.toOption, h.plugin]

/-- A record that starts without a message has one exactly after a load that failed. -/
theorem Course.loadError_eq_some_iff (herror : first.loadError = none)
    (h : Course first outcomes r) (text : String) :
    r.loadError = some text ↔
      ∃ failure, outcomes.getLast? = some (.error failure) ∧ text = failure.message := by
  induction h with
  | start => simp [herror]
  | @move outcomes r _ m ih =>
    have hchanges := m.changes r
    generalize m.attempt? r = outcome, m.after r = after at hchanges ⊢
    cases hchanges with
    | edited url mapping => simpa using ih
    | held h => simpa using ih
    | failed failure => simp [eq_comm]
    | renewed h => simp [h.loadError]

/-- A record that is loaded stays so. -/
theorem Course.isLoaded (hloaded : first.isLoaded = true) (h : Course first outcomes r) :
    r.isLoaded = true := by
  induction h with
  | start => exact hloaded
  | @move outcomes r _ m ih =>
    have hchanges := m.changes r
    generalize m.attempt? r = outcome, m.after r = after at hchanges ⊢
    cases hchanges with
    | edited url mapping => exact ih
    | held h => exact ih
    | failed failure => exact ih
    | renewed h => simp [Record.isLoaded, h.plugin]

end

/-- A record that starts without plugin and message keeps the plugin of the last load that
succeeded, and has the message of the last load exactly if that failed.  Once it is loaded it stays
so.  A load that fails changes nothing but the message, and one that succeeds renews the record.  A
record that has a plugin hands it out without a call and without a change. -/
theorem plugin_kept {first r : Record} {outcomes : List (Except Failure Plugin)}
    (hplugin : first.plugin = none) (herror : first.loadError = none)
    (h : Course first outcomes r) :
    r.plugin = lastLoaded? outcomes ∧
    (∀ text, r.loadError = some text ↔
      ∃ failure, outcomes.getLast? = some (.error failure) ∧ text = failure.message) ∧
    (r.isLoaded = true → ∀ more later, Course r more later → later.isLoaded = true) ∧
    (∀ w settings client,
      let outcome := (Task.runIn w (load settings client r.url r.jsonMapping)).1
      let result := (Inquiry.resultIn w (r.reload settings client)).1
      result.1 = outcome ∧
      (∀ failure, outcome = .error failure →
        result.2 = { r with loadError := some failure.message }) ∧
      (∀ p, outcome = .ok p → Renews w p r result.2) ∧
      (r.plugin = none → r.ensureLoaded settings client = r.reload settings client) ∧
      (∀ p, r.plugin = some p →
        Inquiry.resultIn w (r.ensureLoaded settings client) = ((.ok p, r), []))) := by
  refine ⟨h.plugin_eq hplugin, h.loadError_eq_some_iff herror, ?_, ?_⟩
  · intro hloaded more later hlater
    exact hlater.isLoaded hloaded
  · intro w settings client outcome result
    refine ⟨answer_reload settings client, ?_, ?_, ?_, ?_⟩
    · intro failure hfailed
      exact congrArg Prod.snd (resultIn_reload_of_error hfailed)
    · intro p hp
      exact renews_reload hp
    · intro hnone
      exact ensureLoaded_of_none hnone settings client
    · intro p hp
      exact resultIn_ensureLoaded_of_some hp settings client

/-- A world in which a module lists what it supports, and among its productions something that is no
text. -/
def World.listing : World :=
  { World.advertising (.ok none) with
    option := fun _ _ key => .ok (
      if key = "supports" then some (.ofStrings ["supports-recompile", "supports-eval"])
      else if key = "rootTags" then some (.array [.string "Sum", .null, .string "Word"])
      else none) }

/-- A record that is loaded, gets an empty URL and is told to load again keeps its plugin.  One that
has been saved with other capabilities and productions gets those that the plugin lists. -/
theorem plugin_kept_of_edited :
    let w := World.advertising (.ok none)
    let e : Endpoint := ⟨"http://[::1]/g/", .static, [], "http://[::1]/g/index.js"⟩
    let p : Plugin := ⟨.module ⟨7, .all⟩ "me", .identity, some e⟩
    let loaded := (Move.ensure w .standard "me").after (.fresh "Sum" "http://[::1]/g/")
    let edited := (Move.edit "" none).after loaded
    let r := (Move.reload w .standard "me").after edited
    r.plugin = some p ∧
      r.loadError = some
        "Error loading grammar from : Invalid URL '': relative URL without a base" ∧
      Inquiry.resultIn w (r.ensureLoaded .standard "me") = ((.ok p, r), []) ∧
      let saved : Record :=
        { Record.fresh "Sum" "http://[::1]/g/" with supports := ["old"], rootTags := ["Old"] }
      let renewed := (Inquiry.resultIn .listing (saved.reload .standard "me")).1.2
      renewed.supports = ["supports-recompile", "supports-eval"] ∧
        renewed.rootTags = ["Sum", "Word"] := by
  intro w e p loaded edited r
  have hfirst : (Move.ensure w .standard "me").attempt? (.fresh "Sum" "http://[::1]/g/") =
      some (.ok p) := by rfl
  have hfails : (Task.runIn w (load .standard "me" "" none)).1 =
      .error (.load "" (.invalidUrl "" .relative)) := by rfl
  have hlast : (Move.reload w .standard "me").attempt? edited =
      some (.error (.load "" (.invalidUrl "" .relative))) := congrArg some hfails
  have hcourse : Course (.fresh "Sum" "http://[::1]/g/")
      [.ok p, .error (.load "" (.invalidUrl "" .relative))] r := by
    have hmoves : Course (.fresh "Sum" "http://[::1]/g/") _ r :=
      .move (.move (.move .start (.ensure w .standard "me")) (.edit "" none))
        (.reload w .standard "me")
    rwa [hfirst, hlast] at hmoves
  obtain ⟨hplugin, herror, -, hnext⟩ := plugin_kept rfl rfl hcourse
  obtain ⟨-, -, -, -, hheld⟩ := hnext w .standard "me"
  refine ⟨hplugin, (herror _).2 ⟨_, rfl, rfl⟩, hheld p hplugin, ?_⟩
  intro saved renewed
  have hloads : (Task.runIn .listing (load .standard "me" "http://[::1]/g/" none)).1 =
      .ok ⟨.module ⟨7, .all⟩ "me", .identity, some e⟩ := by rfl
  have hstart : Course saved [] saved := .start
  obtain ⟨-, -, -, hfresh⟩ := plugin_kept rfl rfl hstart
  obtain ⟨-, -, hrenews, -⟩ := hfresh .listing .standard "me"
  have hrenewed := hrenews p hloads
  exact ⟨hrenewed.supports.trans (stringList_ofStrings _), hrenewed.rootTags⟩

end GrammarDesk.Grammar
