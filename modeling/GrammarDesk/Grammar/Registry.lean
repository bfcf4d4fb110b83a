import GrammarDesk.Failure
import GrammarDesk.Text.Blank

/-!
# The registry of modules

The host registers modules under URLs up front.  Either each load builds a fresh instance, or all
loads share one.  A module answers under its URL, without blanks around it and slashes behind it,
and under the module files below it.  The latest registration under a URL counts.

Main definitions:

- `Registry`: the registrations.
- `registryKey`, `moduleFiles`: what URLs are compared by, and the files of a module.
- `Registry.register`, `Registry.share`: the two ways to register.
- `Registry.find?`, `Registry.load`: the registration for a URL, and an instance of it.
-/

namespace GrammarDesk.Grammar

/-- An instance of a registered thing; instances are told apart by their numbers. -/
structure Instance (α : Type) where
  serial : Nat
  content : α

/-- What a registration hands out. -/
inductive Supply (α : Type) where
  /-- A fresh instance on each load. -/
  | fresh (content : α)
  /-- The same instance on all loads. -/
  | shared (one : Instance α)

/-- Registrations under keys, the latest first, and the number of the next instance. -/
structure Registry (α : Type) where
  entries : List (String × Supply α)
  next : Nat

/-- What URLs are compared by: no blanks around, and no slashes behind. -/
def registryKey (url : String) : String :=
  Text.dropTrailing '/' (Text.trim url)

/-- The files that a module may be served as. -/
def moduleFiles : List String := ["/index.js", "/index.es.js"]

/-- The key without the file of a module at its end. -/
def withoutModuleFile? (key : String) : Option String :=
  moduleFiles.findSome? (Text.beforeEnding? · key)

namespace Registry

variable {α : Type}

/-- A registry without registrations. -/
def empty : Registry α := ⟨[], 0⟩

/-- Registers something of which each load builds a fresh instance. -/
def register (r : Registry α) (url : String) (content : α) : Registry α :=
  { r with entries := (registryKey url, .fresh content) :: r.entries }

/-- Registers something of which all loads share one instance. -/
def share (r : Registry α) (url : String) (content : α) : Registry α :=
  { entries := (registryKey url, .shared ⟨r.next, content⟩) :: r.entries, next := r.next + 1 }

/-- The latest registration under a key. -/
def under? (r : Registry α) (key : String) : Option (Supply α) :=
  (r.entries.find? (·.1 = key)).map (·.2)

/-- The registration for a URL: the one under its key, or under the key of the module whose file
the URL names. -/
def find? (r : Registry α) (url : String) : Option (Supply α) :=
  let key := registryKey url
  (r.under? key).or ((withoutModuleFile? key).bind r.under?)

/-- The registry answers for the URL. -/
def contains (r : Registry α) (url : String) : Bool := (r.find? url).isSome

/-- An instance for a URL. -/
def load (r : Registry α) (url : String) : Except Failure (Instance α) × Registry α :=
  match r.find? url with
  | some (.shared one) => (.ok one, r)
  | some (.fresh content) => (.ok ⟨r.next, content⟩, { r with next := r.next + 1 })
  | none => (.error (.moduleNotFound url), r)

/-- The keys with registrations, in order and each once. -/
def keys (r : Registry α) : List String :=
  (r.entries.map (·.1)).eraseDups.mergeSort (fun a b => a ≤ b)

/-- The registry by its keys. -/
def describe (r : Registry α) : String :=
  Text.describeRecord "ModuleRegistry" [
    ("modules", Text.describeList (r.keys.map Text.quote))]

end Registry

end GrammarDesk.Grammar
