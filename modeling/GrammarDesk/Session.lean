import GrammarDesk.Grammar.Record

/-!
# Saved sessions

A session is what an editor saves and restores: the input, the list of grammars and which of them
is active, and the layout of the view, which this library carries without looking at it.

Main definitions:

- `Session`: a saved session.
- `Session.save`: the text of a session, spread over lines.
- `Session.restore`: the session that a text writes.
- `Session.active?`: the active grammar.
-/

namespace GrammarDesk

open Json Grammar

/-- A saved session. -/
structure Session where
  expression : String
  contextText : String
  grammarTag : Option String
  grammars : List Record
  activeIndex : UInt64
  layout : Option Value

namespace Session

/-- A session without input and grammars. -/
def blank : Session := ⟨"", "", none, [], 0, none⟩

/-! ## Saving -/

/-- The session as an object in the order of declaration. -/
def toJson (s : Session) : Value :=
  .object ([("expression", .string s.expression), ("contextStr", .string s.contextText),
      ("grammarTag", .ofOption (s.grammarTag.map .string)),
      ("grammars", .array (s.grammars.map Record.toJson)), ("grammarIdx", .ofNat s.activeIndex)]
    ++ Record.entry? "layout" s.layout)

/-- The text of a session. -/
def save (s : Session) : String := s.toJson.renderSpread 0

/-! ## Restoring -/

/-- What a saved session has to be; everything has a default. -/
def shape : Shape :=
  .record "SessionEnvelope" [
    .optional "expression" .text, .optional "contextStr" .text, .nullable "grammarTag" .text,
    .optional "grammars" (.list Record.shape), .optional "grammarIdx" .offset,
    .nullable "layout" .anything]

/-- The session of a value in normal form. -/
def ofNormal (v : Value) : Session where
  expression := v.textAt "expression" ""
  contextText := v.textAt "contextStr" ""
  grammarTag := v.textAt? "grammarTag"
  grammars := (v.itemsAt "grammars").map Record.ofNormal
  activeIndex := v.offsetAt "grammarIdx"
  layout := (v.get? "layout").filter (!·.isNull)

/-- The session that a text writes. -/
def ofText (text : String) : Except Fault Session :=
  (shape.read text).map ofNormal

/-- The session that a text writes, with the saved layout or without. -/
def restore (text : String) (withLayout : Bool) : Except Failure Session :=
  match ofText text with
  | .ok s => .ok (if withLayout then s else { s with layout := none })
  | .error fault => .error (.json fault)

/-! ## The active grammar -/

/-- The active grammar, if the index is one of the list. -/
def active? (s : Session) : Option Record := s.grammars[s.activeIndex.toNat]?

/-- The session with a changed active grammar. -/
def modifyActive (s : Session) (change : Record → Record) : Session :=
  { s with grammars := s.grammars.modify s.activeIndex.toNat change }

end Session

end GrammarDesk
