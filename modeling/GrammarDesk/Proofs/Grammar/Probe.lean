import Mathlib
import GrammarDesk.Grammar.Probe
import GrammarDesk.Proofs.Grammar.Task

/-!
# Which endpoint a URL has

Probing goes by what comes back for at most three requests.  The service is asked first, and the
files of a module only if it does not say that it is live; the second file is asked for only if the
first is absent or cannot be reached.  The answers alone decide what is found.

Main definitions:

- `CapabilityResponse`: what a service says about itself.
- `IsLive`, `IsModule`, `IsAbsent`: what a reply says about a service and about a file.
- `Search`: what a search among files finds, and which of them it asks for.

Main results:

- `liveCapabilities?_eq_some_iff`, `findingOf_eq_module_iff`, `findingOf_eq_absent_iff`: replies are
  understood as these predicates say.
- `exists_search`: every search comes to an end, by induction on the files.
- `Search.asked_pair`: a search among two files.
- `runIn_probe_cases`: a probe finds a live service or searches.
- `probe_precedence`: the requests and the outcome of probing, for all replies.
-/

namespace GrammarDesk

open Json

/-! ## Texts inside texts -/

namespace Text

/-- A text starts with its prefixes. -/
theorem startsWith_iff (part cs : List Char) : startsWith part cs = true ↔ part <+: cs := by
  fun_induction startsWith part cs with
  | case1 => simp
  | case2 => simp
  | case3 p ps c cs ih => rw [Bool.and_eq_true, beq_iff_eq, ih, List.cons_prefix_cons]

/-- A part occurs in a text exactly if it stands somewhere in it without a gap. -/
theorem occursIn_iff (part cs : List Char) : occursIn part cs = true ↔ part <:+: cs := by
  induction cs with
  | nil => rw [occursIn, startsWith_iff, List.prefix_nil, List.infix_nil]
  | cons c cs ih => rw [occursIn, Bool.or_eq_true, startsWith_iff, ih, List.infix_cons_iff]

end Text

namespace Grammar

/-! ## What replies say -/

/-- What a service says about itself. -/
structure CapabilityResponse where
  endpointType : Option String
  supports : List String

/-- The answer to the query for capabilities that a text writes, if it has the shape of one. -/
def CapabilityResponse.ofText (body : String) : Except Fault CapabilityResponse :=
  (capabilityShape.read body).map fun v => ⟨v.textAt? endpointTypeKey, v.textsAt supportsKey⟩

/-- The reply is that of a live service with these capabilities. -/
def IsLive (capabilities : List String) (reply : Http.Reply) : Prop :=
  ∃ contentType body, reply = .answered 200 contentType body ∧
    CapabilityResponse.ofText body = .ok ⟨some "LIVE", capabilities⟩

/-- The text has a part that is the word when upper and lower case count as the same. -/
def Mentions (word text : String) : Prop :=
  ∃ part, part <:+: text.toList ∧ part.map Char.toLower = word.toList

/-- The reply says that the file is a module: it is there, and of the type of a script. -/
def IsModule (reply : Http.Reply) : Prop :=
  ∃ contentType body, reply = .answered 200 (some contentType) body ∧
    Mentions "javascript" contentType

/-- The reply says that the file is not there, or no reply has come. -/
def IsAbsent (reply : Http.Reply) : Prop :=
  (∃ fault, reply = .lost fault) ∨ reply = .late ∨
    ∃ contentType body, reply = .answered 404 contentType body

/-- The capabilities of a text are those that it tells of a live service. -/
theorem capabilitiesOf?_eq_some_iff (body : String) (capabilities : List String) :
    capabilitiesOf? body = some capabilities ↔
      CapabilityResponse.ofText body = .ok ⟨some "LIVE", capabilities⟩ := by
  rw [capabilitiesOf?, CapabilityResponse.ofText]
  cases capabilityShape.read body with
  | error fault => simp [Except.map]
  | ok v => by_cases hlive : v.textAt? endpointTypeKey = some "LIVE" <;>
      simp [Except.map, liveType, hlive]

/-- A reply has the capabilities of the live service that it comes from. -/
theorem liveCapabilities?_eq_some_iff (reply : Http.Reply) (capabilities : List String) :
    liveCapabilities? reply = some capabilities ↔ IsLive capabilities reply := by
  simp only [IsLive, ← capabilitiesOf?_eq_some_iff]
  fun_cases liveCapabilities? reply with
  | case1 contentType body =>
    constructor
    · intro h
      exact ⟨contentType, body, rfl, h⟩
    · rintro ⟨_, _, ⟨⟩, h⟩
      exact h
  | case2 reply hother =>
    constructor
    · intro h
      cases h
    · rintro ⟨contentType, body, hreply, -⟩
      exact absurd hreply (hother contentType body)

/-- A content type is that of a script if it mentions the word, in whatever case. -/
theorem isScript_iff (contentType : Option String) :
    isScript contentType = true ↔ ∃ s, contentType = some s ∧ Mentions "javascript" s := by
  cases contentType with
  | none => simp [isScript]
  | some s =>
    rw [isScript, Option.any_some, Text.occursIn_iff, List.infix_map_iff]
    constructor
    · rintro ⟨part, hpart, hword⟩
      exact ⟨s, rfl, part, hpart, hword.symm⟩
    · rintro ⟨_, ⟨⟩, part, hpart, hword⟩
      exact ⟨part, hpart, hword.symm⟩

/-- A file is found to be a module exactly if the reply says so. -/
theorem findingOf_eq_module_iff (reply : Http.Reply) :
    findingOf reply = .module ↔ IsModule reply := by
  cases reply with
  | lost fault => simp [findingOf, IsModule]
  | late => simp [findingOf, IsModule]
  | answered status contentType body =>
    by_cases h200 : status = 200
    · subst h200
      simp [findingOf, IsModule, isScript_iff]
    · rw [findingOf]
      split <;> simp [IsModule, h200]

/-- A file is found to be absent exactly if the reply says so or has not come. -/
theorem findingOf_eq_absent_iff (reply : Http.Reply) :
    findingOf reply = .absent ↔ IsAbsent reply := by
  cases reply with
  | lost fault => simp [findingOf, IsAbsent]
  | late => simp [findingOf, IsAbsent]
  | answered status contentType body =>
    by_cases h404 : status = 404
    · simp [findingOf, IsAbsent, h404]
    · rw [findingOf, if_neg h404]
      split <;> simp [IsAbsent, h404]

/-- No reply says of a file both that it is a module and that it is absent. -/
theorem IsModule.not_isAbsent {reply : Http.Reply} (h : IsModule reply) : ¬ IsAbsent reply := by
  rw [← findingOf_eq_absent_iff, (findingOf_eq_module_iff reply).2 h]
  decide

/-! ## Looking for a file -/

variable (w : World) (client : String)

/-- The search ends at the first file that is a module. -/
theorem runIn_findFile_of_module {file : String}
    (h : IsModule (w.reply (fileRequest client file))) (others : List String) :
    Task.runIn w (findFile client (file :: others)) =
      (.ok (some file), [.send (fileRequest client file)]) := by
  rw [findFile, Task.runIn_bind_of_ok (Task.runIn_send w _), (findingOf_eq_module_iff _).2 h]
  rfl

/-- The search goes on behind a file that is absent. -/
theorem runIn_findFile_of_absent {file : String}
    (h : IsAbsent (w.reply (fileRequest client file))) (others : List String) :
    Task.runIn w (findFile client (file :: others)) =
      ((Task.runIn w (findFile client others)).1,
        .send (fileRequest client file) :: (Task.runIn w (findFile client others)).2) := by
  rw [findFile, Task.runIn_bind_of_ok (Task.runIn_send w _), (findingOf_eq_absent_iff _).2 h]
  rfl

/-- The search ends without a file at a reply that is neither. -/
theorem runIn_findFile_of_other {file : String}
    (hmodule : ¬ IsModule (w.reply (fileRequest client file)))
    (habsent : ¬ IsAbsent (w.reply (fileRequest client file))) (others : List String) :
    Task.runIn w (findFile client (file :: others)) =
      (.ok none, [.send (fileRequest client file)]) := by
  rw [← findingOf_eq_module_iff] at hmodule
  rw [← findingOf_eq_absent_iff] at habsent
  rw [findFile, Task.runIn_bind_of_ok (Task.runIn_send w _)]
  split
  case h_1 hfinding => exact absurd hfinding hmodule
  case h_2 hfinding => exact absurd hfinding habsent
  case h_3 => rfl

/-- A search among files: it asks for one file after the other while all before are absent, and
finds the file that it has asked for and that is a module. -/
structure Search (files : List String) (found : Option String) (asked : List String) : Prop where
  run : Task.runIn w (findFile client files) =
    (.ok found, asked.map fun file => .send (fileRequest client file))
  goesAlong : asked <+: files
  asks_iff : ∀ before file, before ++ [file] <+: files →
    (before ++ [file] <+: asked ↔ ∀ f ∈ before, IsAbsent (w.reply (fileRequest client f)))
  found_iff : ∀ file, found = some file ↔
    file ∈ asked ∧ IsModule (w.reply (fileRequest client file))

variable {w client}

/-- A file that is not absent ends the search. -/
theorem Search.last {file : String} {others : List String} {found : Option String}
    (hrun : Task.runIn w (findFile client (file :: others)) =
      (.ok found, [.send (fileRequest client file)]))
    (habsent : ¬ IsAbsent (w.reply (fileRequest client file)))
    (hfound : ∀ f, found = some f ↔ f = file ∧ IsModule (w.reply (fileRequest client f))) :
    Search w client (file :: others) found [file] where
  run := hrun
  goesAlong := by simp
  asks_iff := by
    intro before f hbefore
    cases before with
    | nil =>
      obtain ⟨rfl, -⟩ := List.cons_prefix_cons.1 hbefore
      simp
    | cons earlier before =>
      obtain ⟨rfl, -⟩ := List.cons_prefix_cons.1 hbefore
      simp [habsent]
  found_iff := by simpa using hfound

/-- After an absent file the search goes on. -/
theorem Search.next {file : String} {others asked : List String} {found : Option String}
    (habsent : IsAbsent (w.reply (fileRequest client file)))
    (h : Search w client others found asked) :
    Search w client (file :: others) found (file :: asked) where
  run := by rw [runIn_findFile_of_absent w client habsent, h.run, List.map_cons]
  goesAlong := List.cons_prefix_cons.2 ⟨rfl, h.goesAlong⟩
  asks_iff := by
    intro before f hbefore
    cases before with
    | nil =>
      obtain ⟨rfl, -⟩ := List.cons_prefix_cons.1 hbefore
      simp
    | cons earlier before =>
      obtain ⟨rfl, hrest⟩ := List.cons_prefix_cons.1 hbefore
      rw [List.cons_append, List.cons_prefix_cons, List.forall_mem_cons, h.asks_iff before f hrest]
      simp [habsent]
  found_iff := by
    intro f
    rw [h.found_iff, List.mem_cons]
    constructor
    · rintro ⟨hf, hmodule⟩
      exact ⟨.inr hf, hmodule⟩
    · rintro ⟨rfl | hf, hmodule⟩
      · exact absurd habsent hmodule.not_isAbsent
      · exact ⟨hf, hmodule⟩

/-- Every search comes to an end. -/
theorem exists_search (w : World) (client : String) (files : List String) :
    ∃ found asked, Search w client files found asked := by
  induction files with
  | nil => exact ⟨none, [], rfl, List.prefix_rfl, by simp, by simp⟩
  | cons file others ih =>
    by_cases habsent : IsAbsent (w.reply (fileRequest client file))
    · obtain ⟨found, asked, h⟩ := ih
      exact ⟨found, file :: asked, h.next habsent⟩
    · by_cases hmodule : IsModule (w.reply (fileRequest client file))
      · refine ⟨some file, [file], .last (runIn_findFile_of_module w client hmodule others) habsent ?_⟩
        intro f
        constructor
        · rintro ⟨⟩
          exact ⟨rfl, hmodule⟩
        · rintro ⟨rfl, -⟩
          rfl
      · refine ⟨none, [file],
          .last (runIn_findFile_of_other w client hmodule habsent others) habsent ?_⟩
        rintro f
        constructor
        · rintro ⟨⟩
        · rintro ⟨rfl, h⟩
          exact absurd h hmodule

/-! ## Probing -/

/-- A URL that cannot be read has no base. -/
theorem baseOf_of_error {url : String} {fault : Url.Fault}
    (h : Url.parse (registryKey url) = .error fault) :
    baseOf url = .error (.invalidUrl url fault) := by
  simp only [baseOf, h]

theorem baseOf_of_ok {url : String} {address : Url} (h : Url.parse (registryKey url) = .ok address) :
    baseOf url = .ok (registryKey url) := by
  simp only [baseOf, h]

/-- Nothing is asked at a URL that cannot be read. -/
theorem runIn_probe_of_invalid {url : String} {failure : Failure}
    (h : baseOf url = .error failure) :
    Task.runIn w (probe client url) = (.error failure, []) := by
  rw [probe, h, Task.runIn_bind_of_error (Task.runIn_mk_pure w _)]

/-- A live service is found by a single request. -/
theorem runIn_probe_of_live {url base : String} {capabilities : List String}
    (hbase : baseOf url = .ok base)
    (hlive : IsLive capabilities (w.reply (capabilityRequest client base))) :
    Task.runIn w (probe client url) =
      (.ok ⟨url, .live, capabilities, base⟩, [.send (capabilityRequest client base)]) := by
  rw [probe, hbase, Task.runIn_bind_of_ok (Task.runIn_mk_pure w _),
    Task.runIn_bind_of_ok (Task.runIn_send w _), (liveCapabilities?_eq_some_iff _ _).2 hlive]
  rfl

/-- The outcome of a search as an endpoint. -/
def endpointOf (url : String) : Option String → Except Failure Endpoint
  | some file => .ok ⟨url, .static, [], file⟩
  | none => .error (.unreachable url)

/-- A URL without a live service has the endpoint of the file that the search finds. -/
theorem runIn_probe_of_search {url base : String} {found : Option String} {asked : List String}
    (hbase : baseOf url = .ok base)
    (hlive : ∀ capabilities, ¬ IsLive capabilities (w.reply (capabilityRequest client base)))
    (hsearch : Search w client (moduleFiles.map (base ++ ·)) found asked) :
    Task.runIn w (probe client url) =
      (endpointOf url found, .send (capabilityRequest client base) ::
        asked.map fun file => .send (fileRequest client file)) := by
  have hnone : liveCapabilities? (w.reply (capabilityRequest client base)) = none := by
    rw [Option.eq_none_iff_forall_ne_some]
    intro capabilities h
    exact hlive capabilities ((liveCapabilities?_eq_some_iff _ _).1 h)
  rw [probe, hbase, Task.runIn_bind_of_ok (Task.runIn_mk_pure w _),
    Task.runIn_bind_of_ok (Task.runIn_send w _), hnone,
    Task.runIn_bind_of_ok hsearch.run]
  cases found <;> simp [endpointOf]

/-- The probe of a URL finds a live service, or has the outcome of a search among the files. -/
theorem runIn_probe_cases (w : World) (client : String) {url base : String}
    (hbase : baseOf url = .ok base) :
    (∃ capabilities, Task.runIn w (probe client url) =
      (.ok ⟨url, .live, capabilities, base⟩, [.send (capabilityRequest client base)])) ∨
    ∃ found asked, Search w client (moduleFiles.map (base ++ ·)) found asked ∧
      Task.runIn w (probe client url) =
        (endpointOf url found, .send (capabilityRequest client base) ::
          asked.map fun file => .send (fileRequest client file)) := by
  by_cases hlive : ∃ capabilities, IsLive capabilities (w.reply (capabilityRequest client base))
  · obtain ⟨capabilities, hlive⟩ := hlive
    exact .inl ⟨capabilities, runIn_probe_of_live hbase hlive⟩
  · obtain ⟨found, asked, hsearch⟩ := exists_search w client (moduleFiles.map (base ++ ·))
    exact .inr ⟨found, asked, hsearch,
      runIn_probe_of_search hbase (not_exists.1 hlive) hsearch⟩

/-- An endpoint is found exactly where a module is among the files that were asked for. -/
theorem Search.endpointOf_eq_ok_iff {files asked : List String} {found : Option String}
    (h : Search w client files found asked) (url : String) (endpoint : Endpoint) :
    endpointOf url found = .ok endpoint ↔
      ∃ file ∈ asked, IsModule (w.reply (fileRequest client file)) ∧
        endpoint = ⟨url, .static, [], file⟩ := by
  constructor
  · intro hfound
    cases found with
    | none => cases hfound
    | some file =>
      cases hfound
      obtain ⟨hasked, hmodule⟩ := (h.found_iff file).1 rfl
      exact ⟨file, hasked, hmodule, rfl⟩
  · rintro ⟨file, hasked, hmodule, rfl⟩
    rw [(h.found_iff file).2 ⟨hasked, hmodule⟩, endpointOf]

/-- The URL is unreachable if no file that was asked for is a module. -/
theorem Search.endpointOf_eq_error {files asked : List String} {found : Option String}
    (h : Search w client files found asked) (url : String)
    (hnone : ∀ file ∈ asked, ¬ IsModule (w.reply (fileRequest client file))) :
    endpointOf url found = .error (.unreachable url) := by
  cases found with
  | none => rfl
  | some file =>
    obtain ⟨hasked, hmodule⟩ := (h.found_iff file).1 rfl
    exact absurd hmodule (hnone file hasked)

/-- A list of two has three prefixes. -/
theorem prefix_pair_iff {α : Type} (l : List α) (a b : α) :
    l <+: [a, b] ↔ l = [] ∨ l = [a] ∨ l = [a, b] := by
  simp only [List.prefix_cons_iff, List.prefix_nil]
  constructor
  · rintro (rfl | ⟨_, rfl, rfl | ⟨_, rfl, rfl⟩⟩) <;> simp
  · rintro (rfl | rfl | rfl) <;> simp

/-- A search among two files asks for the second exactly when the first is absent. -/
theorem Search.asked_pair {first second : String} {found : Option String} {asked : List String}
    (h : Search w client [first, second] found asked) :
    asked = [first] ∧ ¬ IsAbsent (w.reply (fileRequest client first)) ∨
      asked = [first, second] ∧ IsAbsent (w.reply (fileRequest client first)) := by
  have hfirst : [first] <+: asked := (h.asks_iff [] first (by simp)).2 (by simp)
  have hsecond : [first, second] <+: asked ↔ IsAbsent (w.reply (fileRequest client first)) := by
    simpa using h.asks_iff [first] second List.prefix_rfl
  rcases (prefix_pair_iff asked first second).1 h.goesAlong with rfl | rfl | rfl
  · simp at hfirst
  · exact .inl ⟨rfl, fun habsent => by simpa using hsecond.2 habsent⟩
  · exact .inr ⟨rfl, hsecond.1 List.prefix_rfl⟩

/-- Probing asks at the URL without blanks around it and slashes behind it, unless that is no URL.
The query for capabilities comes first, and a live service is found from its reply alone.
Otherwise the first file is asked for, and the second exactly when the first is absent or no reply
has come.  A module is found exactly when one of the files that were asked for is one; in all other
cases the URL is unreachable. -/
theorem probe_precedence (w : World) (client url : String) :
    let base := Text.dropTrailing '/' (Text.trim url)
    let query : Http.Request :=
      .get (base ++ "/opt") [("clientId", client), ("key", "endpointType,supports")]
    let head : String → Http.Request := fun file => .head file [("clientId", client)]
    let first := base ++ "/index.js"
    let second := base ++ "/index.es.js"
    let found := (Task.runIn w (probe client url)).1
    let calls := (Task.runIn w (probe client url)).2
    (∀ fault, Url.parse base = .error fault →
      found = .error (.invalidUrl url fault) ∧ calls = []) ∧
    ∀ address, Url.parse base = .ok address →
      (∀ capabilities, IsLive capabilities (w.reply query) →
        found = .ok ⟨url, .live, capabilities, base⟩ ∧ calls = [.send query]) ∧
      ((∀ capabilities, ¬ IsLive capabilities (w.reply query)) →
        ∃ asked : List String,
          calls = .send query :: asked.map (fun file => .send (head file)) ∧
          (asked = [first] ∧ ¬ IsAbsent (w.reply (head first)) ∨
            asked = [first, second] ∧ IsAbsent (w.reply (head first))) ∧
          (∀ endpoint, found = .ok endpoint ↔
            ∃ file ∈ asked, IsModule (w.reply (head file)) ∧
              endpoint = ⟨url, .static, [], file⟩) ∧
          ((∀ file ∈ asked, ¬ IsModule (w.reply (head file))) →
            found = .error (.unreachable url))) := by
  intro base query head first second found calls
  constructor
  · intro fault hparse
    have hrun : Task.runIn w (probe client url) = (.error (.invalidUrl url fault), []) :=
      runIn_probe_of_invalid (baseOf_of_error hparse)
    exact ⟨congrArg Prod.fst hrun, congrArg Prod.snd hrun⟩
  · intro address hparse
    have hbase : baseOf url = .ok base := baseOf_of_ok hparse
    constructor
    · intro capabilities hlive
      have hrun := runIn_probe_of_live hbase hlive
      exact ⟨congrArg Prod.fst hrun, congrArg Prod.snd hrun⟩
    · intro hlive
      obtain ⟨file?, asked, hsearch⟩ := exists_search w client [first, second]
      have hrun := runIn_probe_of_search hbase hlive hsearch
      have hfound : found = endpointOf url file? := congrArg Prod.fst hrun
      refine ⟨asked, congrArg Prod.snd hrun, hsearch.asked_pair, ?_, ?_⟩
      · intro endpoint
        rw [hfound]
        exact hsearch.endpointOf_eq_ok_iff url endpoint
      · intro hnone
        rw [hfound]
        exact hsearch.endpointOf_eq_error url hnone

/-- A world in which one file is served as a script, and nothing else is reached. -/
def World.serving (file contentType : String) : World where
  reply request := if request.address = file then .answered 200 (some contentType) "" else .late
  module url := .error (.moduleNotFound url)
  parse _ _ _ _ := .error .parseUnavailable
  eval _ _ _ _ _ := .error .evalUnavailable
  option _ _ _ := .ok none

/-- A world in which everything that is asked over the network is answered with one text. -/
def World.telling (body : String) : World :=
  { World.serving "" "" with reply := fun _ => .answered 200 (some "text/plain") body }

/-- What a live service says that evaluates. -/
def liveBody : String :=
  "\x7b\"endpointType\":\"LIVE\",\"supports\":[\"supports-eval\"]\x7d"

/-- The second file is found after a service and a first file that cannot be reached.  A service
that tells what it supports is found without a look at the files. -/
theorem probe_precedence_of_second_file :
    (Task.runIn (.serving "http://[::1]/g/index.es.js" "Text/JavaScript; charset=utf-8")
        (probe "me" " http://[::1]/g// ")).1 =
      .ok ⟨" http://[::1]/g// ", .static, [], "http://[::1]/g/index.es.js"⟩ ∧
    Task.runIn (.telling liveBody) (probe "me" " http://[::1]/g// ") =
      (.ok ⟨" http://[::1]/g// ", .live, ["supports-eval"], "http://[::1]/g"⟩,
        [.send (.get "http://[::1]/g/opt"
          [("clientId", "me"), ("key", "endpointType,supports")])]) := by
  have hparse : Url.parse (Text.dropTrailing '/' (Text.trim " http://[::1]/g// ")) =
      .ok ⟨"http", some "[::1]", none, "/g", none⟩ := by rfl
  constructor
  · obtain ⟨-, hreached⟩ := probe_precedence
      (.serving "http://[::1]/g/index.es.js" "Text/JavaScript; charset=utf-8") "me"
      " http://[::1]/g// "
    obtain ⟨-, hfiles⟩ := hreached _ hparse
    obtain ⟨asked, -, hasked, hfound, -⟩ := hfiles (by
      rintro capabilities ⟨contentType, body, ⟨⟩, -⟩)
    refine (hfound _).2 ⟨"http://[::1]/g/index.es.js", ?_, ⟨_, _, rfl, ?_⟩, rfl⟩
    · rcases hasked with ⟨-, habsent⟩ | ⟨rfl, -⟩
      · exact absurd (.inr (.inl rfl)) habsent
      · exact List.mem_cons_of_mem _ List.mem_cons_self
    · exact ⟨"JavaScript".toList, ⟨"Text/".toList, "; charset=utf-8".toList, rfl⟩, rfl⟩
  · have hbody : CapabilityResponse.ofText liveBody = .ok ⟨some "LIVE", ["supports-eval"]⟩ := by
      cbv
    obtain ⟨-, hreached⟩ := probe_precedence (.telling liveBody) "me" " http://[::1]/g// "
    obtain ⟨hservice, -⟩ := hreached _ hparse
    obtain ⟨hfound, hcalls⟩ := hservice ["supports-eval"] ⟨_, _, rfl, hbody⟩
    exact Prod.ext hfound hcalls

end Grammar

end GrammarDesk
