import GrammarDesk.Proofs.Grammar.Probe
import GrammarDesk.Proofs.Text.Blank

/-!
# Modules for probed URLs

Probing a URL leads to one of the module files below its base, and a registry answers for such a
file by the latest registration under the file itself or else under the base.  Both take the base
of a URL in the same way.  Putting a file behind it leaves nothing to be trimmed, and taking the
file off again gives the base back, although one file ends almost like the other.

Main definitions:

- `Registration`, `Registered`: what has been registered, in order, and the registry after it.
- `IsLatest`: the latest registration under a key.
- `Supply.Gives`: an instance that a registration hands out.
- `ResolvesTo`: the files that probing can find for a URL.

Main results:

- `registryKey_file`, `withoutModuleFile?_file`: putting a file behind a base, and taking it off.
- `resolvesTo_iff`: probing finds the files below the base of a URL.
- `Registered.under?_eq_some_iff`: what a registry keeps, by induction on the registrations.
- `registry_answers`: the registration that answers for a probed URL.
-/

namespace GrammarDesk.Grammar

variable {α : Type}

/-! ## Keys and files -/

/-- The key of a URL starts with no blank. -/
theorem isBlank_of_head?_registryKey {url : String} {c : Char}
    (h : (registryKey url).toList.head? = some c) : Text.isBlank c = false := by
  refine Text.isBlank_of_head?_trim (s := url) ?_ h
  rw [registryKey, Text.dropTrailing, String.toList_ofList]
  exact Text.isPrefix_dropEndWhile _ _

/-- A module file starts and ends with characters that are never trimmed there. -/
theorem ends_of_mem_moduleFiles {file : String} (h : file ∈ moduleFiles) :
    file.toList.head? = some '/' ∧ file.toList.getLast? = some 's' := by
  simp only [moduleFiles, List.mem_cons, List.not_mem_nil, or_false] at h
  rcases h with rfl | rfl <;> decide

/-- A file below the base of a URL is its own key. -/
theorem registryKey_file (url : String) {file : String} (hfile : file ∈ moduleFiles) :
    registryKey (registryKey url ++ file) = registryKey url ++ file := by
  obtain ⟨hhead, hlast⟩ := ends_of_mem_moduleFiles hfile
  have hstart : ∀ c, (registryKey url ++ file).toList.head? = some c →
      Text.isBlank c = false := by
    intro c hc
    rw [String.toList_append, List.head?_append] at hc
    cases hbase : (registryKey url).toList.head? with
    | none =>
      simp [hbase, hhead] at hc
      subst hc
      decide
    | some d =>
      simp [hbase] at hc
      subst hc
      exact isBlank_of_head?_registryKey hbase
  have hend : (registryKey url ++ file).toList.getLast? = some 's' := by
    simp [List.getLast?_append, hlast]
  have hlastBlank : ∀ c, (registryKey url ++ file).toList.getLast? = some c →
      Text.isBlank c = false := by
    intro c hc
    rw [hend] at hc
    cases hc
    decide
  have hlastSlash : ∀ c, (registryKey url ++ file).toList.getLast? = some c → c ≠ '/' := by
    intro c hc
    rw [hend] at hc
    cases hc
    decide
  rw [registryKey, Text.trim_eq_self hstart hlastBlank, Text.dropTrailing_eq_self hlastSlash]

/-- The file is taken off again, although the longer one ends almost like the other. -/
theorem withoutModuleFile?_file (base : String) {file : String} (hfile : file ∈ moduleFiles) :
    withoutModuleFile? (base ++ file) = some base := by
  have hown : ∀ file, Text.beforeEnding? file (base ++ file) = some base :=
    fun file => (Text.beforeEnding?_eq_some_iff _ _ _).2 rfl
  have hother : Text.beforeEnding? "/index.js" (base ++ "/index.es.js") = none := by
    rw [Option.eq_none_iff_forall_ne_some]
    intro before hbefore
    rw [Text.beforeEnding?_eq_some_iff, ← String.toList_inj, String.toList_append,
      String.toList_append] at hbefore
    -- two endings of one text: the shorter would be an ending of the longer
    have hends : "/index.js".toList <:+ "/index.es.js".toList :=
      List.suffix_of_suffix_length_le ⟨_, hbefore.symm⟩ ⟨_, rfl⟩ (by decide)
    exact absurd hends (by decide)
  simp only [moduleFiles, List.mem_cons, List.not_mem_nil, or_false] at hfile
  rcases hfile with rfl | rfl
  · simp [withoutModuleFile?, moduleFiles, hown]
  · simp [withoutModuleFile?, moduleFiles, hown, hother]

/-! ## Files that probing finds -/

/-- Probing finds a module for the URL, served as the file. -/
def ResolvesTo (url file : String) : Prop :=
  ∃ w client e, (Task.runIn w (probe client url)).1 = .ok e ∧ e.transport = .static ∧
    e.resolvedUrl = file

/-- A service that answers with an empty text is not live. -/
theorem not_isLive_of_empty (capabilities : List String) (status : Nat)
    (contentType : Option String) : ¬ IsLive capabilities (.answered status contentType "") := by
  rintro ⟨_, _, ⟨⟩, hread⟩
  cases hread

/-- The file that is served is a module. -/
theorem isModule_serving {client file : String} :
    IsModule ((World.serving file "text/javascript").reply (fileRequest client file)) := by
  refine ⟨"text/javascript", "", ?_, "javascript".toList, ⟨"text/".toList, [], rfl⟩, by decide⟩
  simp [World.serving, fileRequest, Http.Request.head]

/-- Any other file is absent. -/
theorem isAbsent_serving {client file other : String} (h : other ≠ file) :
    IsAbsent ((World.serving file "text/javascript").reply (fileRequest client other)) := by
  refine .inr (.inl ?_)
  simp [World.serving, fileRequest, Http.Request.head, h]

/-- No service is live where files are served. -/
theorem not_isLive_serving (capabilities : List String) (file client base : String) :
    ¬ IsLive capabilities
      ((World.serving file "text/javascript").reply (capabilityRequest client base)) := by
  by_cases haddress : (capabilityRequest client base).address = file
  · simpa [World.serving, haddress] using not_isLive_of_empty capabilities 200 _
  · rintro ⟨contentType, body, hreply, -⟩
    simp [World.serving, haddress] at hreply

/-- Each of the files below a base is found if it is the one that is served. -/
theorem exists_mem_asked_serving {client base file : String} (hfile : file ∈ moduleFiles)
    {found : Option String} {asked : List String}
    (h : Search (.serving (base ++ file) "text/javascript") client
      [base ++ "/index.js", base ++ "/index.es.js"] found asked) : base ++ file ∈ asked := by
  simp only [moduleFiles, List.mem_cons, List.not_mem_nil, or_false] at hfile
  have hpair := h.asked_pair
  rcases hfile with rfl | rfl
  · rcases hpair with ⟨rfl, -⟩ | ⟨rfl, -⟩ <;> simp
  · have hne : base ++ "/index.js" ≠ base ++ "/index.es.js" := by
      simp [← String.toList_inj]
    rcases hpair with ⟨-, hfirst⟩ | ⟨rfl, -⟩
    · exact absurd (isAbsent_serving hne) hfirst
    · simp

/-- Probing finds exactly the files below the base of a URL that can be read as one. -/
theorem resolvesTo_iff (url file : String) :
    ResolvesTo url file ↔
      (∃ address, Url.parse (registryKey url) = .ok address) ∧
        ∃ name ∈ moduleFiles, file = registryKey url ++ name := by
  constructor
  · rintro ⟨w, client, e, hprobe, hstatic, rfl⟩
    cases hurl : Url.parse (registryKey url) with
    | error fault =>
      rw [runIn_probe_of_invalid (baseOf_of_error hurl)] at hprobe
      cases hprobe
    | ok address =>
      refine ⟨⟨address, rfl⟩, ?_⟩
      rcases runIn_probe_cases w client (baseOf_of_ok hurl) with
        ⟨capabilities, hrun⟩ | ⟨found, asked, hsearch, hrun⟩
      · rw [hrun] at hprobe
        cases hprobe
        cases hstatic
      · rw [hrun] at hprobe
        obtain ⟨file, hasked, -, rfl⟩ := (hsearch.endpointOf_eq_ok_iff url e).1 hprobe
        obtain ⟨name, hname, rfl⟩ := List.mem_map.1 (hsearch.goesAlong.mem hasked)
        exact ⟨name, hname, rfl⟩
  · rintro ⟨⟨address, hurl⟩, name, hname, rfl⟩
    obtain ⟨found, asked, hsearch⟩ :=
      exists_search (.serving (registryKey url ++ name) "text/javascript") ""
        (moduleFiles.map (registryKey url ++ ·))
    have hrun := runIn_probe_of_search (baseOf_of_ok hurl)
      (fun capabilities => not_isLive_serving capabilities _ _ _) hsearch
    have hasked := exists_mem_asked_serving hname hsearch
    have hfound := (hsearch.endpointOf_eq_ok_iff url _).2 ⟨_, hasked, isModule_serving, rfl⟩
    exact ⟨_, _, _, (congrArg Prod.fst hrun).trans hfound, rfl, rfl⟩

/-! ## Registrations -/

/-- What is registered: a URL as it is given, and what is handed out for it. -/
structure Registration (α : Type) where
  url : String
  supply : Supply α

/-- What has been registered, in order, and the registry after it; loads may come in between. -/
inductive Registered : List (Registration α) → Registry α → Prop where
  | empty : Registered [] .empty
  | register {history : List (Registration α)} {r : Registry α} (h : Registered history r)
    (url : String) (content : α) :
    Registered (history ++ [⟨url, .fresh content⟩]) (r.register url content)
  | share {history : List (Registration α)} {r : Registry α} (h : Registered history r)
    (url : String) (content : α) :
    Registered (history ++ [⟨url, .shared ⟨r.next, content⟩⟩]) (r.share url content)
  | load {history : List (Registration α)} {r : Registry α} (h : Registered history r)
    (url : String) : Registered history (r.load url).2

/-- The latest registration under a key. -/
def IsLatest (history : List (Registration α)) (key : String) (e : Registration α) : Prop :=
  ∃ before after, history = before ++ e :: after ∧ registryKey e.url = key ∧
    ∀ later ∈ after, registryKey later.url ≠ key

/-- An instance that is handed out: a new one of the content, or the shared one. -/
inductive Supply.Gives : Supply α → Instance α → Prop where
  | fresh (content : α) (serial : Nat) : Gives (.fresh content) ⟨serial, content⟩
  | shared (one : Instance α) : Gives (.shared one) one

section

variable {history : List (Registration α)} {r : Registry α} {key : String}

/-- A registration is the latest under its own key, and passed over under any other. -/
theorem isLatest_concat_iff (e latest : Registration α) :
    IsLatest (history ++ [e]) key latest ↔
      registryKey e.url = key ∧ latest = e ∨
        registryKey e.url ≠ key ∧ IsLatest history key latest := by
  constructor
  · rintro ⟨before, after, hsplit, hkey, hlater⟩
    -- the history is split at its last registration or before it
    rcases List.eq_nil_or_concat after with rfl | ⟨earlier, last, rfl⟩
    · obtain ⟨-, hlast⟩ := List.append_inj' hsplit rfl
      cases hlast
      exact .inl ⟨hkey, rfl⟩
    · rw [List.concat_eq_append, ← List.cons_append, ← List.append_assoc] at hsplit
      obtain ⟨rfl, hlast⟩ := List.append_inj' hsplit rfl
      cases hlast
      simp only [List.concat_eq_append, List.mem_append, List.mem_singleton] at hlater
      exact .inr ⟨hlater e (.inr rfl), before, earlier, rfl, hkey,
        fun later hmem => hlater later (.inl hmem)⟩
  · rintro (⟨hkey, rfl⟩ | ⟨hkey, before, after, rfl, hlatest, hlater⟩)
    · exact ⟨history, [], rfl, hkey, by simp⟩
    · refine ⟨before, after ++ [e], by simp, hlatest, ?_⟩
      intro later hmem
      rcases List.mem_append.1 hmem with hafter | hlast
      · exact hlater later hafter
      · rw [List.mem_singleton.1 hlast]
        exact hkey

/-- The latest registration is one of the history. -/
theorem IsLatest.mem {e : Registration α} (h : IsLatest history key e) : e ∈ history := by
  obtain ⟨before, after, rfl, -, -⟩ := h
  simp

/-- The latest registration for a key has that key. -/
theorem IsLatest.key_eq {e : Registration α} (h : IsLatest history key e) :
    registryKey e.url = key := by
  obtain ⟨before, after, -, hkey, -⟩ := h
  exact hkey

/-- One registration more is the latest for its own key, and for no other. -/
theorem exists_latest_concat_iff (e : Registration α) (supply : Supply α) :
    (∃ latest, IsLatest (history ++ [e]) key latest ∧ latest.supply = supply) ↔
      if registryKey e.url = key then e.supply = supply
      else ∃ latest, IsLatest history key latest ∧ latest.supply = supply := by
  by_cases hkey : registryKey e.url = key <;> simp [isLatest_concat_iff, hkey]

/-! ## Registries -/

/-- A module that is registered is found under its key from then on. -/
theorem under?_register (url : String) (content : α) :
    (r.register url content).under? key =
      if registryKey url = key then some (.fresh content) else r.under? key := by
  by_cases hkey : registryKey url = key <;> simp [Registry.under?, Registry.register, hkey]

/-- An instance that is shared is found under its key from then on. -/
theorem under?_share (url : String) (content : α) :
    (r.share url content).under? key =
      if registryKey url = key then some (.shared ⟨r.next, content⟩) else r.under? key := by
  by_cases hkey : registryKey url = key <;> simp [Registry.under?, Registry.share, hkey]

/-- A load keeps all registrations. -/
theorem under?_load (url : String) : (r.load url).2.under? key = r.under? key := by
  rw [Registry.load]
  split <;> rfl

/-- What a registry keeps under a key is the latest registration under it. -/
theorem Registered.under?_eq_some_iff (h : Registered history r) (supply : Supply α) :
    r.under? key = some supply ↔ ∃ e, IsLatest history key e ∧ e.supply = supply := by
  induction h with
  | empty => simp [Registry.under?, Registry.empty, IsLatest]
  | @register history r h url content ih =>
    rw [exists_latest_concat_iff, ← ih, under?_register]
    by_cases hkey : registryKey url = key <;> simp [hkey]
  | @share history r h url content ih =>
    rw [exists_latest_concat_iff, ← ih, under?_share]
    by_cases hkey : registryKey url = key <;> simp [hkey]
  | load h url ih => rw [under?_load, ih]

/-- A registry keeps nothing under the keys without registrations. -/
theorem Registered.under?_eq_none_iff (h : Registered history r) :
    r.under? key = none ↔ ∀ e ∈ history, registryKey e.url ≠ key := by
  induction h with
  | empty => simp [Registry.under?, Registry.empty]
  | @register history r h url content ih =>
    rw [under?_register]
    by_cases hkey : registryKey url = key <;> simp [hkey, ih, or_imp, forall_and]
  | @share history r h url content ih =>
    rw [under?_share]
    by_cases hkey : registryKey url = key <;> simp [hkey, ih, or_imp, forall_and]
  | load h url ih => rw [under?_load, ih]

/-- What is found is loaded, from the supply that is found. -/
theorem load_of_find? {url : String} {supply : Supply α} (h : r.find? url = some supply) :
    ∃ i, (r.load url).1 = .ok i ∧ supply.Gives i := by
  cases supply with
  | fresh content => exact ⟨_, by rw [Registry.load, h], .fresh content r.next⟩
  | shared one => exact ⟨one, by rw [Registry.load, h], .shared one⟩

/-- What is not found is not loaded. -/
theorem load_of_find?_eq_none {url : String} (h : r.find? url = none) :
    (r.load url).1 = .error (.moduleNotFound url) := by
  rw [Registry.load, h]

/-- A registry has an instance exactly for the URLs that it answers for. -/
theorem contains_iff (url : String) :
    r.contains url = true ↔ ∃ i, (r.load url).1 = .ok i := by
  rw [Registry.contains]
  cases hfind : r.find? url with
  | none => simp [load_of_find?_eq_none hfind]
  | some supply =>
    obtain ⟨i, hi, -⟩ := load_of_find? hfind
    simp [hi]

/-- For a file below the base of a URL, the registration under the file itself comes first, and
then the one under the base. -/
theorem find?_file (url : String) {file : String} (hfile : file ∈ moduleFiles) :
    r.find? (registryKey url ++ file) =
      (r.under? (registryKey url ++ file)).or (r.under? (registryKey url)) := by
  rw [Registry.find?, registryKey_file url hfile, withoutModuleFile?_file _ hfile,
    Option.bind_some]

end

/-! ## Probed URLs -/

/-- For each of the two files that probing can find for a URL, a registry answers by the latest
registration under the file, or else by the latest one under any spelling of the URL, or else it
has no module.  So a module that is registered under the URL is always found, and none that is
registered elsewhere. -/
theorem registry_answers {history : List (Registration α)} {r : Registry α}
    (h : Registered history r) {url file : String} (hfile : ResolvesTo url file) :
    (∀ other, ResolvesTo url other ↔
      other = registryKey url ++ "/index.js" ∨ other = registryKey url ++ "/index.es.js") ∧
    (∀ e, IsLatest history file e → ∃ i, (r.load file).1 = .ok i ∧ e.supply.Gives i) ∧
    ((∀ e ∈ history, registryKey e.url ≠ file) → ∀ e, IsLatest history (registryKey url) e →
      ∃ i, (r.load file).1 = .ok i ∧ e.supply.Gives i) ∧
    ((∀ e ∈ history, registryKey e.url ≠ file) →
      (∀ e ∈ history, registryKey e.url ≠ registryKey url) →
      (r.load file).1 = .error (.moduleNotFound file)) ∧
    (r.contains file = true ↔ ∃ i, (r.load file).1 = .ok i) ∧
    (∀ e ∈ history, registryKey e.url = registryKey url → r.contains file = true) ∧
    (∀ i, (r.load file).1 = .ok i → ∃ e ∈ history,
      (registryKey e.url = file ∨ registryKey e.url = registryKey url) ∧ e.supply.Gives i) := by
  obtain ⟨haddress, name, hname, rfl⟩ := (resolvesTo_iff url file).1 hfile
  have hfind := find?_file (r := r) url hname
  have hnone : ∀ key, (∀ e ∈ history, registryKey e.url ≠ key) → r.under? key = none :=
    fun key => h.under?_eq_none_iff.2
  have hlatest : ∀ key e, IsLatest history key e → r.under? key = some e.supply :=
    fun key e he => (h.under?_eq_some_iff e.supply).2 ⟨e, he, rfl⟩
  refine ⟨?_, ?_, ?_, ?_, contains_iff _, ?_, ?_⟩
  · intro other
    simp [resolvesTo_iff, haddress, moduleFiles]
  · intro e he
    exact load_of_find? (by rw [hfind, hlatest _ e he, Option.some_or])
  · intro hfile e he
    exact load_of_find? (by rw [hfind, hnone _ hfile, hlatest _ e he, Option.none_or])
  · intro hfile hurl
    exact load_of_find?_eq_none (by rw [hfind, hnone _ hfile, hnone _ hurl, Option.none_or])
  · intro e he hkey
    have hsome : r.under? (registryKey url) ≠ none := by
      rw [Ne, h.under?_eq_none_iff]
      exact fun hother => hother e he hkey
    rw [Registry.contains, hfind, Option.isSome_or, Bool.or_eq_true]
    exact .inr (Option.isSome_iff_ne_none.2 hsome)
  · intro i hi
    cases hfound : r.find? (registryKey url ++ name) with
    | none =>
      rw [load_of_find?_eq_none hfound] at hi
      cases hi
    | some supply =>
      obtain ⟨j, hj, hgives⟩ := load_of_find? hfound
      rw [hj] at hi
      cases hi
      rw [hfind, Option.or_eq_some_iff] at hfound
      rcases hfound with hunder | ⟨-, hunder⟩
      · obtain ⟨e, he, rfl⟩ := (h.under?_eq_some_iff supply).1 hunder
        exact ⟨e, he.mem, .inl he.key_eq, hgives⟩
      · obtain ⟨e, he, rfl⟩ := (h.under?_eq_some_iff supply).1 hunder
        exact ⟨e, he.mem, .inr he.key_eq, hgives⟩

/-- Of three modules the last one that is registered under some spelling of the URL answers, and
every load hands out the one instance of it. -/
theorem registry_answers_of_respelled :
    let first := (Registry.empty : Registry Nat).register "http://[::1]/g" 1
    let second := first.share " http://[::1]/g// " 2
    let third := second.register "http://[::1]/gg" 3
    (third.load "http://[::1]/g/index.es.js").1 = .ok ⟨0, 2⟩ := by
  intro first second third
  have hregistered := ((Registered.empty.register "http://[::1]/g" 1).share
    " http://[::1]/g// " 2).register "http://[::1]/gg" 3
  have hfile : ResolvesTo "http://[::1]/g/" "http://[::1]/g/index.es.js" :=
    (resolvesTo_iff _ _).2 ⟨⟨_, rfl⟩, "/index.es.js", by simp [moduleFiles], by rfl⟩
  have hlatest : IsLatest
      [⟨"http://[::1]/g", .fresh 1⟩, ⟨" http://[::1]/g// ", .shared ⟨0, 2⟩⟩,
        ⟨"http://[::1]/gg", .fresh 3⟩]
      (registryKey "http://[::1]/g/") ⟨" http://[::1]/g// ", .shared ⟨0, 2⟩⟩ :=
    ⟨[⟨"http://[::1]/g", .fresh 1⟩], [⟨"http://[::1]/gg", .fresh 3⟩], rfl, by decide, by decide⟩
  obtain ⟨-, -, hbase, -⟩ := registry_answers hregistered hfile
  obtain ⟨i, hi, hgives⟩ := hbase (by decide) _ hlatest
  cases hgives
  exact hi

end GrammarDesk.Grammar
