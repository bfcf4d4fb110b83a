import GrammarDesk.Session
import GrammarDesk.Proofs.Json.Shaped

/-!
# Saving and restoring a session

Whatever a session holds, restoring its text gives the session back.  Three things are not saved:
the plugin of a grammar, the message of its last load, and a layout that is null, which reads as no
layout.  The layout belongs to the view and may be any value, so it is assumed to be read back from
its text; all else a session holds is read back, whatever characters its texts consist of.

Main definitions:

- `Record.unloaded`, `Session.kept`: what a saved record and a saved session keep.

Main results:

- `Mapping.accepts_toRecord`, `Record.accepts_toJson`: mappings and records are read back.
- `Session.restore_save`: a session survives saving and restoring.
-/

namespace GrammarDesk

open Json

/-! ## Mappings -/

namespace Tree.Mapping

/-- The entries of a mapping in the order of declaration. -/
def entries (m : Mapping) : Entries :=
  [("name", .string m.name), ("start", .string m.start), ("end", .string m.stop),
    ("children", .string m.children), ("skip", .string m.skip), ("error", .string m.error),
    ("value", .string m.value), ("tokenType", .string m.tokenType)]

/-- The keys of a mapping are eight different words. -/
theorem nodup_keys (m : Mapping) : (m.entries.map Prod.fst).Nodup := by
  change ["name", "start", "end", "children", "skip", "error", "value", "tokenType"].Nodup
  decide

/-- What is written for a mapping is accepted, and its normal form binds the same texts. -/
theorem accepts_toRecord (m : Mapping) {indent depth : Nat} (outer : Shape) (hdepth : 1 < depth) :
    shape.Accepts indent depth outer m.toRecord (.ofEntries m.entries) := by
  change shape.Accepts indent depth outer (.object m.entries) (.ofEntries m.entries)
  refine .record hdepth (List.forall₂_same.2 fun e he => ?_) m.nodup_keys rfl
  simp only [entries, List.mem_cons, List.not_mem_nil, or_false] at he
  obtain rfl | rfl | rfl | rfl | rfl | rfl | rfl | rfl := he <;>
    exact ⟨rfl, _, rfl, .optional (.text _)⟩

/-- A mapping is found again in its normal form. -/
theorem ofNormal_entries (m : Mapping) : ofNormal (.ofEntries m.entries) = m := by
  simp only [ofNormal, Value.textAt, Value.get?_ofEntries m.nodup_keys]
  simp only [entries, Entries.get?_cons, Entries.get?_nil]
  rfl

end Tree.Mapping

/-! ## Records -/

namespace Grammar.Record

open GrammarDesk.Tree

/-- What of a record is saved: all but the plugin and the message of the last load. -/
def unloaded (r : Record) : Record := { r with plugin := none, loadError := none }

/-- The entries of a record in the order of declaration, with a value for its mapping. -/
def entries (ofMapping : Mapping → Value) (r : Record) : Entries :=
  [("name", .string r.name), ("url", .string r.url)]
    ++ entry? "jsonMapping" (r.jsonMapping.map ofMapping)
    ++ [("rootTags", .ofStrings r.rootTags), ("predefined", .bool r.predefined),
      ("supports", .ofStrings r.supports)]
    ++ entry? "externalEditorUrl" (r.editorUrl.map .string)

/-- A record in normal form. -/
def normal (r : Record) : Value := .ofEntries (r.entries fun m => .ofEntries m.entries)

/-- The keys of a record are different words, whichever of its optional fields are there. -/
theorem nodup_keys (ofMapping : Mapping → Value) (r : Record) :
    ((r.entries ofMapping).map Prod.fst).Nodup := by
  cases hmapping : r.jsonMapping <;> cases heditor : r.editorUrl <;>
    simp [entries, entry?, hmapping, heditor]

/-- A list of texts is accepted as it stands. -/
theorem accepts_ofStrings {indent depth : Nat} {outer : Shape} (items : List String)
    (hdepth : 1 < depth) :
    (Shape.list .text).Accepts indent depth outer (.ofStrings items) (.ofStrings items) :=
  .list hdepth (List.forall₂_same.2 fun v hv => by
    obtain ⟨s, -, rfl⟩ := List.mem_map.1 hv
    exact .text s)

/-- A field that is left out when it is absent is there on both sides or on neither. -/
theorem forall₂_entry? {α : Type} {R : String × Value → String × Value → Prop} {key : String}
    {o : Option α} {f g : α → Value} (h : ∀ a, R (key, f a) (key, g a)) :
    List.Forall₂ R (Record.entry? key (o.map f)) (Record.entry? key (o.map g)) := by
  cases o with
  | none => exact .nil
  | some a => exact .cons (h a) .nil

/-- What is written for a record is accepted; the room for nesting is that of its mapping and lists.
-/
theorem accepts_toJson (r : Record) {indent depth : Nat} (outer : Shape) (hdepth : 2 < depth) :
    shape.Accepts indent depth outer r.toJson r.normal := by
  have hinner : 1 < depth - 1 := by omega
  change shape.Accepts indent depth outer (.object (r.entries Mapping.toRecord)) r.normal
  refine .record (by omega) ?_ (r.nodup_keys _) rfl
  refine List.rel_append (List.rel_append (List.rel_append ?_ ?_) ?_) ?_
  · exact .cons ⟨rfl, _, rfl, .required (.text _)⟩ (.cons ⟨rfl, _, rfl, .required (.text _)⟩ .nil)
  · exact forall₂_entry? fun m => ⟨rfl, _, rfl, .nullable (m.accepts_toRecord _ hinner) nofun⟩
  · exact .cons ⟨rfl, _, rfl, .optional (accepts_ofStrings _ hinner)⟩
      (.cons ⟨rfl, _, rfl, .optional (.boolean _)⟩
        (.cons ⟨rfl, _, rfl, .optional (accepts_ofStrings _ hinner)⟩ .nil))
  · exact forall₂_entry? fun s => ⟨rfl, _, rfl, .nullable (.text s) nofun⟩

/-- All that is saved of a record is found again in its normal form. -/
theorem ofNormal_normal (r : Record) : ofNormal r.normal = r.unloaded := by
  have hget := Value.get?_ofEntries (r.nodup_keys fun m => .ofEntries m.entries)
  simp only [ofNormal, normal, mappingAt?, Value.textAt, Value.textAt?, Value.textsAt,
    Value.itemsAt, Value.boolAt, hget]
  -- which entries there are depends on two fields
  obtain ⟨name, url, mapping, tags, predefined, supports, editor, plugin, loadError⟩ := r
  cases mapping <;> cases editor <;>
    simp [entries, Record.entry?, Entries.get?_cons, Entries.get?_nil, Value.ofStrings, unloaded,
      Mapping.ofNormal_entries]

end Grammar.Record

/-! ## Sessions -/

namespace Session

open Grammar

/-- What is restored of a session that was saved, with the layout or without. -/
def kept (s : Session) (withLayout : Bool) : Session :=
  { s with
    grammars := s.grammars.map Record.unloaded
    layout := if withLayout then s.layout.filter (!·.isNull) else none }

/-- The entries of a session in the order of declaration, with a value for each of its records. -/
def entries (ofRecord : Record → Value) (s : Session) : Entries :=
  [("expression", .string s.expression), ("contextStr", .string s.contextText),
      ("grammarTag", .ofOption (s.grammarTag.map .string)),
      ("grammars", .array (s.grammars.map ofRecord)), ("grammarIdx", .ofNat s.activeIndex)]
    ++ Record.entry? "layout" s.layout

/-- A session in normal form. -/
def normal (s : Session) : Value := .ofEntries (s.entries Record.normal)

/-- The keys of a session are different words, with a layout or without. -/
theorem nodup_keys (ofRecord : Record → Value) (s : Session) :
    ((s.entries ofRecord).map Prod.fst).Nodup := by
  cases hlayout : s.layout <;> simp [entries, Record.entry?, hlayout]

/-- What is written for a session is accepted, if its layout is read back. -/
theorem accepts_toJson (s : Session) (hlayout : ∀ v, s.layout = some v →
      v.Legible 1 (Scan.depthLimit - 1)) :
    shape.Accepts 0 Scan.depthLimit shape s.toJson s.normal := by
  change shape.Accepts 0 Scan.depthLimit shape (.object (s.entries Record.toJson)) s.normal
  refine .record (by decide) ?_ (s.nodup_keys _) rfl
  refine List.rel_append ?_ ?_
  · refine .cons ⟨rfl, _, rfl, .optional (.text _)⟩ (.cons ⟨rfl, _, rfl, .optional (.text _)⟩
      (.cons ⟨rfl, _, rfl, ?_⟩ (.cons ⟨rfl, _, rfl, .optional (.list (by decide) ?_)⟩
        (.cons ⟨rfl, _, rfl, .optional (.offset _)⟩ .nil))))
    · cases s.grammarTag with
      | none => exact .null rfl
      | some tag => exact .nullable (.text tag) nofun
    · rw [List.forall₂_map_left_iff, List.forall₂_map_right_iff, List.forall₂_same]
      exact fun r _ => r.accepts_toJson _ (by decide)
  · cases hv : s.layout with
    | none => exact .nil
    | some v =>
      refine .cons ⟨rfl, _, rfl, ?_⟩ .nil
      by_cases hnull : v = .null
      · rw [hnull]
        exact .null rfl
      · exact .nullable (.anything (hlayout v hv)) hnull

/-- All that is saved of a session is found again in its normal form. -/
theorem ofNormal_normal (s : Session) : ofNormal s.normal = s.kept true := by
  have hget := Value.get?_ofEntries (s.nodup_keys Record.normal)
  simp only [ofNormal, normal, Value.textAt, Value.textAt?, Value.itemsAt, Value.offsetAt, hget]
  obtain ⟨expression, contextText, tag, grammars, index, layout⟩ := s
  cases tag <;> cases layout <;>
    simp [entries, Record.entry?, Entries.get?_cons, Entries.get?_nil, Value.ofOption, Value.ofNat,
      kept, Record.ofNormal_normal]

/-- The same grammar is active after restoring, without its plugin. -/
theorem active?_kept (s : Session) (withLayout : Bool) :
    (s.kept withLayout).active? = s.active?.map Record.unloaded :=
  List.getElem?_map

/-- All that is written of a session is kept, unless its layout is null. -/
theorem save_kept {s : Session} (h : s.layout ≠ some .null) : (s.kept true).save = s.save := by
  have hlayout : s.layout.filter (!·.isNull) = s.layout := by
    cases hv : s.layout with
    | none => rfl
    | some v =>
      have hnull : v.isNull = false := by
        cases v with
        | null => exact absurd hv h
        | _ => rfl
      rw [Option.filter_some, hnull]
      rfl
  have hgrammars : (s.grammars.map Record.unloaded).map Record.toJson =
      s.grammars.map Record.toJson := by
    rw [List.map_map]
    rfl
  rw [save, save, toJson, toJson, kept, hgrammars, if_pos rfl, hlayout]

/-- A session survives saving and restoring: what is restored equals what was saved, but for the
plugins and the messages of the last loads, which are not saved, and for a layout that is null,
which becomes absent; and it is written as it was.  Only of the layout it is assumed that it is read
back from its text, which holds of every plain value by `Value.legible_of_isPlain`. -/
theorem restore_save (s : Session)
    (hlayout : ∀ v, s.layout = some v → v.Legible 1 (Scan.depthLimit - 1)) :
    restore s.save true = .ok (s.kept true) ∧
    restore s.save false = .ok { s.kept true with layout := none } ∧
    (∀ withLayout t, restore s.save withLayout = .ok t →
      t.activeIndex = s.activeIndex ∧ t.active? = s.active?.map Record.unloaded) ∧
    (s.layout ≠ some .null → ∀ t, restore s.save true = .ok t → t.save = s.save) := by
  have hread : shape.read s.save = .ok s.normal := (s.accepts_toJson hlayout).read
  have hrestore : ∀ withLayout, restore s.save withLayout = .ok (s.kept withLayout) := by
    intro withLayout
    rw [restore, ofText, hread, Except.map, ofNormal_normal]
    cases withLayout <;> rfl
  refine ⟨hrestore true, hrestore false, ?_, ?_⟩
  · intro withLayout t ht
    rw [hrestore] at ht
    cases ht
    exact ⟨rfl, s.active?_kept withLayout⟩
  · intro hnull t ht
    rw [hrestore] at ht
    cases ht
    exact save_kept hnull

/-- A session of two grammars, one of which has a plugin, a mapping and a failed load, with quotes,
a backslash and a line end in its texts, and with a layout. -/
def panelled : Session where
  expression := "1 + \"a\\b\"\n"
  contextText := ""
  grammarTag := some "Program"
  grammars := [
    { Record.fresh "calc" "https://x/calc" with
      jsonMapping := some .identity
      predefined := true
      plugin := some ⟨.module ⟨7, .all⟩ "me", .identity, none⟩
      loadError := some "no reply" },
    Record.fresh "json" "https://x/json"]
  activeIndex := 1
  layout := some (.object [("panels", .array [.ofNat 1, .ofNat 2])])

theorem restore_save_of_panelled :
    (∀ v, panelled.layout = some v → v.Legible 1 (Scan.depthLimit - 1)) ∧
    panelled.layout ≠ some .null ∧
    ∃ t, restore panelled.save true = .ok t ∧
      t.layout = some (.object [("panels", .array [.ofNat 1, .ofNat 2])]) ∧
      t.grammars.map (·.plugin) = [none, none] ∧
      t.active? = some (Record.fresh "json" "https://x/json") ∧
      t.save = panelled.save := by
  have hlayout : ∀ v, panelled.layout = some v → v.Legible 1 (Scan.depthLimit - 1) := by
    rintro v ⟨⟩
    exact Value.legible_of_isPlain _ (by decide)
  obtain ⟨hrestore, -, hactive, hsave⟩ := restore_save panelled hlayout
  refine ⟨hlayout, nofun, _, hrestore, rfl, rfl, ?_, hsave nofun _ hrestore⟩
  exact (hactive true _ hrestore).2

end Session

end GrammarDesk
