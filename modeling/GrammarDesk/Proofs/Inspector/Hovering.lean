import GrammarDesk.Proofs.Inspector.Commanded
import GrammarDesk.Proofs.Inspector.Publication
import GrammarDesk.Proofs.Inspector.Snapshots
import GrammarDesk.Proofs.Tree.Lookup

/-!
# Hovered selections

Whoever hovers looks the node up in the snapshot that was published last, and sends a command to
select it.  The command waits in the inbox of the engine.  A tree that is shown in the meantime
drops the selection of its predecessor, but not one that is still on its way.

Main definitions:

- `Desk`: an inspector, and the commands that it has not received yet.
- `Deed`, `Desk.Does`: what can be done at a desk.
- `Scene`, `Play`: a deed in its place, and the histories of a desk.
- `Scene.KeepsTree`: the tree that is shown stays.

Main results:

- `Play.run`: seen from the engine the history of a desk is a run.
- `Play.sent_eq`: commands are received in the order in which they were sent.
- `Play.selection_hovered`: a selection is a node of the tree that was shown when it was hovered,
  and this tree is still shown unless it went before the engine received the command.
- `Play.not_selection_within`: a selection need not be a node of the tree that is shown.
-/

namespace GrammarDesk.Inspector

open Json GrammarDesk.Tree Grammar

variable {P : Type}

/-! ## Desks -/

/-- An inspector and the commands on their way to it, the oldest first. -/
structure Desk (P : Type) where
  world : World P
  inbox : List (Command P)

/-- The desk of a new inspector. -/
def Desk.start (debounce now : Time) : Desk P := ⟨.start debounce now, []⟩

/-- The desk after a command has been sent. -/
def Desk.send (d : Desk P) (command : Command P) : Desk P := ⟨d.world, d.inbox ++ [command]⟩

/-- The node under an offset in the tree that was published last. -/
def Desk.nodeUnder? (d : Desk P) (offset : Offset) : Option Node :=
  d.world.engine.published.nodeUnder? offset

/-- What is done at a desk. -/
inductive Deed (P : Type) where
  /-- Sends a command to select the node under an offset. -/
  | hover (offset : Offset)
  | send (command : Command P)
  /-- The engine receives a command. -/
  | receive (command : Command P)
  /-- A quiet period ends, or a job comes back. -/
  | proceed (event : Event P)

section Does

variable [DecidableEq P]

/-- The deeds that are possible at a desk, and the desk after each.  Nodes are selected by hovering
alone. -/
inductive Desk.Does (brings : Work P → Outcome P → Prop) (d : Desk P) (now : Time) :
    Deed P → Desk P → Prop where
  | hover (offset : Offset) :
      Does brings d now (.hover offset) (d.send (.select (d.nodeUnder? offset)))
  | send (command : Command P) (hother : ∀ node, command ≠ .select (some node)) :
      Does brings d now (.send command) (d.send command)
  | receive {command : Command P} {rest : List (Command P)} {w : World P}
      (hinbox : d.inbox = command :: rest)
      (hoccurs : Occurs brings d.world now (.command command) w) :
      Does brings d now (.receive command) ⟨w, rest⟩
  | proceed {event : Event P} {w : World P} (hown : ∀ command, event ≠ .command command)
      (hoccurs : Occurs brings d.world now event w) :
      Does brings d now (.proceed event) ⟨w, d.inbox⟩

/-- A deed in its place in a history. -/
structure Scene (P : Type) where
  before : Desk P
  now : Time
  deed : Deed P
  after : Desk P

/-- The histories that lead from one desk to another. -/
inductive Play (brings : Work P → Outcome P → Prop) (d : Desk P) :
    List (Scene P) → Desk P → Prop where
  | refl : Play brings d [] d
  | snoc {ss : List (Scene P)} {e f : Desk P} {now : Time} {deed : Deed P}
      (hplay : Play brings d ss e) (hdoes : e.Does brings now deed f) :
      Play brings d (ss ++ [⟨e, now, deed, f⟩]) f

end Does

namespace Scene

/-- The command that is sent in a scene. -/
def sent? (s : Scene P) : Option (Command P) :=
  match s.deed with
  | .hover offset => some (.select (s.before.nodeUnder? offset))
  | .send command => some command
  | .receive _ | .proceed _ => none

/-- The command that the engine receives in a scene. -/
def received? (s : Scene P) : Option (Command P) :=
  match s.deed with
  | .receive command => some command
  | .hover _ | .send _ | .proceed _ => none

/-- What a scene is to the engine. -/
def moment? (s : Scene P) : Option (Moment P) :=
  match s.deed with
  | .receive command => some ⟨s.before.world, s.now, .command command, s.after.world⟩
  | .proceed event => some ⟨s.before.world, s.now, event, s.after.world⟩
  | .hover _ | .send _ => none

/-- The tree that is shown stays. -/
def KeepsTree (s : Scene P) : Prop :=
  s.after.world.engine.state.treeRoot = s.before.world.engine.state.treeRoot

end Scene

/-! ## Histories of a desk -/

section Play

variable [DecidableEq P] {brings : Work P → Outcome P → Prop} {debounce start now : Time}
  {ss past later : List (Scene P)} {s : Scene P} {d e f : Desk P}

/-- Seen from the engine the history of a desk is a run. -/
theorem Play.run (hplay : Play brings d ss e) :
    Run brings d.world (ss.filterMap Scene.moment?) e.world := by
  induction hplay with
  | refl => exact .refl
  | snoc _ hdoes ih =>
    rw [List.filterMap_append]
    cases hdoes with
    | hover | send => simpa [List.filterMap_cons, Scene.moment?, Desk.send] using ih
    | receive _ hoccurs => exact ih.snoc hoccurs
    | proceed _ hoccurs => exact ih.snoc hoccurs

/-- Commands are received in the order in which they were sent, and those that were not received
yet are in the inbox. -/
theorem Play.sent_eq (hplay : Play brings (.start debounce start) ss d) :
    ss.filterMap Scene.sent? = ss.filterMap Scene.received? ++ d.inbox := by
  induction hplay with
  | refl => rfl
  | snoc _ hdoes ih =>
    rw [List.filterMap_append, List.filterMap_append, ih]
    cases hdoes with
    | hover | send => simp [List.filterMap_cons, Scene.sent?, Scene.received?, Desk.send]
    | receive hinbox _ => simp [List.filterMap_cons, Scene.sent?, Scene.received?, hinbox]
    | proceed => simp [List.filterMap_cons, Scene.sent?, Scene.received?]

/-- A history can be cut at any scene. -/
theorem Play.cut (hplay : Play brings d ss f) (hss : ss = past ++ s :: later) :
    Play brings d past s.before ∧ s.before.Does brings s.now s.deed s.after ∧
      Play brings s.after later f := by
  induction hplay generalizing later with
  | refl => simp at hss
  | @snoc ss e f now deed hplay hdoes ih =>
    rcases List.eq_nil_or_concat later with rfl | ⟨middle, last, rfl⟩
    · rw [List.append_inj_left' hss rfl] at hplay
      obtain rfl := List.singleton_inj.mp (List.append_inj_right' hss rfl)
      exact ⟨hplay, hdoes, .refl⟩
    · have hsplit : ss ++ [⟨e, now, deed, f⟩] = (past ++ s :: middle) ++ [last] := by
        simpa using hss
      obtain rfl := List.singleton_inj.mp (List.append_inj_right' hsplit rfl)
      rcases ih (List.append_inj_left' hsplit rfl) with ⟨hbefore, hat, hafter⟩
      rw [List.concat_eq_append]
      exact ⟨hbefore, hat, hafter.snoc hdoes⟩

/-- A tree that stays in every scene is shown at the end. -/
theorem Play.keepsTree (hplay : Play brings d ss e) (hkeeps : ∀ s ∈ ss, s.KeepsTree) :
    e.world.engine.state.treeRoot = d.world.engine.state.treeRoot := by
  induction hplay with
  | refl => rfl
  | snoc _ _ ih =>
    rw [List.forall_mem_append, List.forall_mem_singleton] at hkeeps
    exact hkeeps.2.trans (ih hkeeps.1)

/-! ## Where a selection comes from -/

/-- No command touches the tree that is shown. -/
theorem Occurs.treeRoot_of_command {w u : World P} {command : Command P}
    (hoccurs : Occurs brings w now (.command command) u) :
    u.engine.state.treeRoot = w.engine.state.treeRoot := by
  have hexhibit := hoccurs.exhibit_eq
  rw [Engine.handle, Engine.exhibit_apply] at hexhibit
  exact congrArg Prod.fst hexhibit

/-- Only what the engine does of its own accord touches the tree that is shown. -/
theorem Desk.Does.keepsTree {deed : Deed P} (hdoes : d.Does brings now deed e)
    (hother : ∀ event, deed ≠ .proceed event) :
    e.world.engine.state.treeRoot = d.world.engine.state.treeRoot := by
  cases hdoes with
  | hover | send => rfl
  | receive _ hoccurs => exact hoccurs.treeRoot_of_command
  | proceed => exact absurd rfl (hother _)

/-- A tree that goes or is replaced takes the selection with it. -/
theorem Occurs.treeRoot_of_selection? {ms : List (Moment P)} {w u : World P} {event : Event P}
    (hbrings : ∀ work outcome, brings work outcome → Outcome.Of work outcome)
    (hrun : Run brings (.start debounce start) ms w) (hoccurs : Occurs brings w now event u)
    (hnone : (⟨w, now, event, u⟩ : Moment P).selection? = none) :
    u.engine.state.treeRoot = w.engine.state.treeRoot := by
  have hexhibit := congrArg Prod.fst hoccurs.exhibit_eq
  cases event with
  | command command => exact hoccurs.treeRoot_of_command
  | fire =>
    have htree : u.engine.state.treeRoot = (w.engine.fire now).state.treeRoot := hexhibit
    rcases w.engine.selection_fire now with ⟨_, hsame⟩ | ⟨_, hshown, hgone⟩
    · exact htree.trans hsame
    · rw [Moment.selection?, if_pos ⟨hshown, htree.trans hgone⟩] at hnone
      cases hnone
  | complete c =>
    have htree : u.engine.state.treeRoot = (w.engine.commit now c).state.treeRoot := hexhibit
    have htakes := hrun.takes hbrings hoccurs
    generalize w.engine.commit now c = e at htakes htree
    cases htakes with
    | passed | evaluated => exact htree
    | parsed generation plugin source tree hcurrent _ _ =>
      have hparse : Moment.parse?
          ⟨w, now, .complete ⟨generation, .tree plugin source (.ok tree)⟩, u⟩ =
          some ⟨plugin, source, tree⟩ := if_pos hcurrent
      rw [Moment.selection?, hparse] at hnone
      cases hnone
    | failed =>
      rw [Engine.learnDefaultTag_eq] at htree
      exact htree

omit [DecidableEq P] in
/-- Of its own accord the engine selects nothing. -/
theorem Moment.selection?_of_own {m : Moment P} (hown : ∀ command, m.event ≠ .command command)
    {node : Node} : m.selection? ≠ some (some node) := by
  obtain ⟨before, now, event, after⟩ := m
  cases event with
  | command command => exact absurd rfl (hown command)
  | fire =>
    simp only [Moment.selection?]
    split <;> simp
  | complete c => simp [Moment.selection?]

/-- A node that is sent off to be selected was found under an offset. -/
theorem Play.hovered_of_sent (hplay : Play brings d ss e) {n : Node}
    {sent waiting : List (Command P)}
    (hsent : ss.filterMap Scene.sent? = sent ++ .select (some n) :: waiting) :
    ∃ past h later offset, ss = past ++ h :: later ∧ past.filterMap Scene.sent? = sent ∧
      h.deed = .hover offset ∧ h.before.nodeUnder? offset = some n := by
  rcases List.filterMap_eq_append_iff.mp hsent with ⟨front, back, rfl, hfront, hback⟩
  rcases List.filterMap_eq_cons_iff.mp hback with ⟨quiet, h, later, rfl, hquiet, hthis, _⟩
  refine ⟨front ++ quiet, h, later, ?_⟩
  have hnothing : quiet.filterMap Scene.sent? = [] := List.filterMap_eq_nil_iff.mpr hquiet
  rcases hplay.cut (List.append_assoc front quiet (h :: later)).symm with ⟨_, hdoes, _⟩
  obtain ⟨before, now, deed, after⟩ := h
  have hdoes : before.Does brings now deed after := hdoes
  cases hdoes with
  | hover offset =>
    injection hthis with hselect
    injection hselect with hnode
    refine ⟨offset, by simp, ?_, rfl, hnode⟩
    rw [List.filterMap_append, hfront, hnothing, List.append_nil]
  | send command hother =>
    injection hthis with hselect
    exact absurd hselect (hother n)
  | receive | proceed => cases hthis

/-- A node was found under an offset, the command to select it was sent off, and after the engine
has received this very command the tree that was shown then has stayed. -/
def Hovered (ss : List (Scene P)) (n : Node) : Prop :=
  ∃ past h between r later offset, ss = past ++ h :: (between ++ r :: later) ∧
    h.deed = .hover offset ∧ h.before.nodeUnder? offset = some n ∧
    r.deed = .receive (.select (some n)) ∧
    past.filterMap Scene.sent? = (past ++ h :: between).filterMap Scene.received? ∧
    ∀ s ∈ later, s.KeepsTree

omit [DecidableEq P] in
theorem Hovered.snoc {n : Node} (h : Hovered ss n) (hkeeps : s.KeepsTree) :
    Hovered (ss ++ [s]) n := by
  rcases h with ⟨past, h, between, r, later, offset, rfl, hhover, hfound, hreceive, hsame, hlater⟩
  refine ⟨past, h, between, r, later ++ [s], offset, by simp, hhover, hfound, hreceive, hsame, ?_⟩
  rw [List.forall_mem_append, List.forall_mem_singleton]
  exact ⟨hlater, hkeeps⟩

/-- Every selection was hovered. -/
theorem Play.hovered (hbrings : ∀ work outcome, brings work outcome → Outcome.Of work outcome)
    (hplay : Play brings (.start debounce start) ss d) {n : Node}
    (hselected : d.world.engine.inputs.selection = some n) : Hovered ss n := by
  induction hplay with
  | refl => cases hselected
  | @snoc ss e f now deed hplay hdoes ih =>
    cases hdoes with
    | hover | send => exact (ih hselected).snoc rfl
    | @receive command rest w hinbox hoccurs =>
      have hsets := (hoccurs.setsInputs hbrings hplay.run).selection
      have hkeeps := hoccurs.treeRoot_of_command
      cases command with
      | select node =>
        obtain rfl : some n = node := hselected.symm.trans hsets
        have hsent := hplay.sent_eq
        rw [hinbox] at hsent
        rcases hplay.hovered_of_sent hsent with
          ⟨past, h, between, offset, rfl, hsame, hhover, hfound⟩
        exact ⟨past, h, between, ⟨e, now, .receive (.select (some n)), ⟨w, rest⟩⟩, [], offset,
          by simp, hhover, hfound, rfl, hsame, by simp⟩
      | _ => exact (ih (hsets.symm.trans hselected)).snoc hkeeps
    | @proceed event w hown hoccurs =>
      have hsets := (hoccurs.setsInputs hbrings hplay.run).selection
      cases hselection : Moment.selection? ⟨e.world, now, event, w⟩ with
      | none =>
        rw [hselection] at hsets
        exact (ih (hsets.symm.trans hselected)).snoc
          (hoccurs.treeRoot_of_selection? hbrings hplay.run hselection)
      | some node =>
        rw [hselection] at hsets
        obtain rfl : node = some n := hsets.symm.trans hselected
        exact absurd hselection (Moment.selection?_of_own hown)

theorem Snapshot.nodeUnder?_eq_some_iff (s : Snapshot) (offset : Offset) (n : Node) :
    s.nodeUnder? offset = some n ↔ ∃ root, s.treeRoot = some root ∧ nodeAt? root offset = some n :=
  Option.bind_eq_some_iff

/-- Whatever is selected is a node of the tree that was shown when it was hovered.  This tree is
still shown unless it has gone between then and the moment at which the engine received the command
to select the node; afterwards it cannot go without the selection. -/
theorem Play.selection_hovered {pluginOf : P → Plugin}
    (hplay : Play (Work.MayBring pluginOf) (.start debounce start) ss d) {n : Node}
    (hselected : d.world.engine.state.selection = some n) :
    ∃ past h between r later offset root, ss = past ++ h :: (between ++ r :: later) ∧
      h.deed = .hover offset ∧ h.before.world.engine.published.treeRoot = some root ∧
      nodeAt? root offset = some n ∧ n.Within root ∧ r.deed = .receive (.select (some n)) ∧
      past.filterMap Scene.sent? = (past ++ h :: between).filterMap Scene.received? ∧
      (∀ s ∈ later, s.KeepsTree) ∧
      ((∀ s ∈ between, s.KeepsTree) → d.world.engine.state.treeRoot = some root) := by
  have hof : ∀ (work : Work P) (outcome : Outcome P),
      work.MayBring pluginOf outcome → Outcome.Of work outcome := fun _ _ h => h.of
  have hinput : d.world.engine.inputs.selection = some n :=
    ((coherent_stable _).of_run hplay.run).selected.symm.trans hselected
  rcases hplay.hovered hof hinput with
    ⟨past, h, between, r, later, offset, rfl, hhover, hfound, hreceive, hsame, hlater⟩
  rcases (Snapshot.nodeUnder?_eq_some_iff _ _ _).mp hfound with ⟨root, hroot, hnode⟩
  refine ⟨past, h, between, r, later, offset, root, rfl, hhover, hroot, hnode,
    within_of_nodeAt? hnode, hreceive, hsame, hlater, ?_⟩
  intro hbetween
  rcases hplay.cut rfl with ⟨hbefore, hhovers, hafter⟩
  rcases hafter.cut rfl with ⟨_, hreceives, _⟩
  have hshown : h.before.world.engine.state.treeRoot = some root := by
    have halike := congrArg Snapshot.treeRoot hbefore.run.visible.1.alike
    exact halike.symm.trans hroot
  have hhovered : h.KeepsTree := hhovers.keepsTree (by simp [hhover])
  have hreceived : r.KeepsTree := hreceives.keepsTree (by simp [hreceive])
  have hstays : ∀ s ∈ between ++ r :: later, s.KeepsTree := by
    rw [List.forall_mem_append, List.forall_mem_cons]
    exact ⟨hbetween, hreceived, hlater⟩
  rw [hafter.keepsTree hstays, hhovered, hshown]

end Play

/-! ## A selection of an old tree -/

namespace Play

variable {brings : Work Bool → Outcome Bool → Prop} {ss : List (Scene Bool)} {d e : Desk Bool}

theorem receive (hplay : Play brings d ss e) (now : Time) {command : Command Bool}
    {rest : List (Command Bool)} (hinbox : e.inbox = command :: rest) :
    Play brings d
      (ss ++ [⟨e, now, .receive command, ⟨e.world.react now (.command command), rest⟩⟩])
      ⟨e.world.react now (.command command), rest⟩ :=
  hplay.snoc (.receive hinbox (.command command))

/-- A command is sent, and received at once. -/
theorem tell (hplay : Play brings d ss e) (now : Time) (command : Command Bool)
    (hother : ∀ node, command ≠ .select (some node)) (hempty : e.inbox = []) :
    Play brings d
      (ss ++ [⟨e, now, .send command, e.send command⟩] ++
        [⟨e.send command, now, .receive command,
          ⟨(e.send command).world.react now (.command command), []⟩⟩])
      ⟨(e.send command).world.react now (.command command), []⟩ :=
  (hplay.snoc (.send command hother)).receive now (by rw [Desk.send, hempty, List.nil_append])

theorem hover (hplay : Play brings d ss e) (now : Time) (offset : Offset) :
    Play brings d
      (ss ++ [⟨e, now, .hover offset, e.send (.select (e.nodeUnder? offset))⟩])
      (e.send (.select (e.nodeUnder? offset))) :=
  hplay.snoc (.hover offset)

theorem fire (hplay : Play brings d ss e) (now : Time) :
    Play brings d (ss ++ [⟨e, now, .proceed .fire, ⟨e.world.react now .fire, e.inbox⟩⟩])
      ⟨e.world.react now .fire, e.inbox⟩ :=
  hplay.snoc (.proceed (by simp) .fire)

theorem arrive (hplay : Play brings d ss e) (now : Time) (i : Nat) (job : Job Bool)
    (outcome : Outcome Bool) (hjob : e.world.underWay[i]? = some job)
    (hbrings : brings job.work outcome) :
    Play brings d
      (ss ++ [⟨e, now, .proceed (.complete ⟨job.generation, outcome⟩),
        ⟨(e.world.without i).react now (.complete ⟨job.generation, outcome⟩), e.inbox⟩⟩])
      ⟨(e.world.without i).react now (.complete ⟨job.generation, outcome⟩), e.inbox⟩ :=
  hplay.snoc (.proceed (by simp) (.arrive i job outcome hjob hbrings))

end Play

namespace Sample

/-- A tree of one leaf that is named after the text which it was parsed from. -/
def word (text : String) : Node := ⟨text, 0, 2, [], none, false, none, none⟩

/-- The plugins answer as before, but parse a text to the leaf that is named after it. -/
def spell : (call : Call) → call.Answer
  | .parse _ _ _ text => .ok (some (.prebuilt (.hydrated (word text))))
  | call => answer call

theorem brings_word (text : String) (tag : Option String) :
    (Work.parse true text tag).MayBring plugin
      (.tree true ⟨text, tag.getD "R"⟩ (.ok (word text))) :=
  ⟨Unit, fun call _ => (spell call, ()), (), by cases tag <;> rfl⟩

/-- The old tree is hovered, the new one is shown, and only then the old node is selected. -/
theorem play_overtaken :
    ∃ (ss : List (Scene Bool)) (d : Desk Bool),
      Play (Work.MayBring plugin) (.start 300 0) ss d ∧
      d.world.engine.state.selection = some (word "1") ∧
      d.world.engine.state.treeRoot = some (word "2") := by
  have hstart : Play (Work.MayBring plugin) (.start 300 0) [] (.start 300 0) := .refl
  have hold := ((hstart.tell 0 (.setExpression "1") (by simp) rfl).tell 10
    (.setPlugin (some true)) (by simp) rfl).fire 400 |>.arrive 500 0 ⟨2, .parse true "1" none⟩ _
    rfl (brings_word "1" none)
  have hnew := ((hold.tell 600 (.setExpression "2") (by simp) rfl).fire 1000).hover 1010 1 |>.arrive
    1020 0 ⟨3, .parse true "2" (some "R")⟩ _ (by cbv) (brings_word "2" (some "R"))
  exact ⟨_, _, hnew.receive 1030 rfl, by cbv, by cbv⟩

theorem not_within_word : ¬ (word "1").Within (word "2") := by
  rw [Node.within_iff]
  simp [word]

end Sample

/-- A node of the old tree is selected while the new one is shown: it was hovered in the old tree,
which has gone before the engine received the command. -/
theorem Play.selection_hovered_of_overtaken :
    ∃ (ss : List (Scene Bool)) (d : Desk Bool),
      Play (Work.MayBring Sample.plugin) (.start 300 0) ss d ∧
      d.world.engine.state.selection = some (Sample.word "1") ∧
      d.world.engine.state.treeRoot = some (Sample.word "2") ∧
      ∃ past h between r later offset root, ss = past ++ h :: (between ++ r :: later) ∧
        h.deed = .hover offset ∧ h.before.world.engine.published.treeRoot = some root ∧
        nodeAt? root offset = some (Sample.word "1") ∧ (Sample.word "1").Within root ∧
        r.deed = .receive (.select (some (Sample.word "1"))) ∧
        past.filterMap Scene.sent? = (past ++ h :: between).filterMap Scene.received? ∧
        (∀ s ∈ later, s.KeepsTree) ∧ ∃ s ∈ between, ¬ s.KeepsTree := by
  rcases Sample.play_overtaken with ⟨ss, d, hplay, hselected, hshown⟩
  rcases hplay.selection_hovered hselected with
    ⟨past, h, between, r, later, offset, root, hss, hhover, hroot, hnode, hwithin, hreceive, hsame,
      hlater, hbetween⟩
  refine ⟨ss, d, hplay, hselected, hshown, past, h, between, r, later, offset, root, hss, hhover,
    hroot, hnode, hwithin, hreceive, hsame, hlater, ?_⟩
  by_contra hkeeps
  push Not at hkeeps
  obtain rfl : root = Sample.word "2" :=
    Option.some.inj ((hbetween hkeeps).symm.trans hshown)
  exact Sample.not_within_word hwithin

/-- A selection need not be a node of the tree that is shown, although it was hovered. -/
theorem Play.not_selection_within :
    ¬ ∀ (ss : List (Scene Bool)) (d : Desk Bool) (n : Node),
      Play (Work.MayBring Sample.plugin) (.start 300 0) ss d →
      d.world.engine.state.selection = some n →
      ∃ root, d.world.engine.state.treeRoot = some root ∧ n.Within root := by
  intro hbelongs
  rcases Sample.play_overtaken with ⟨ss, d, hplay, hselected, hshown⟩
  rcases hbelongs ss d _ hplay hselected with ⟨root, hroot, hwithin⟩
  obtain rfl := Option.some.inj (hroot.symm.trans hshown)
  exact Sample.not_within_word hwithin

end GrammarDesk.Inspector
