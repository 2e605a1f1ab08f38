import Cardfile.Proofs.Desk.Failing
import Cardfile.Proofs.Session.History

/-!
# Episodes of a desk

What an operation does to the field that is open, to the current card and to the field pointer, and
what it logs on the way, is one of four things (`Desk.Episode`). It browses: it stays on the card
and leaves the open field alone (`Desk.Remains`), or it moves to another card and closes the field
(`Desk.Moves`). It opens a field, or closes the one that is open. Or it merges a snapshot, which
logs nothing.

Every operation is an episode with few events (`Desk.exists_episode_operate`). So what is said
about opening, closing and moving along a run needs one case for each kind of episode.
-/

set_option autoImplicit false
set_option relaxedAutoImplicit false

namespace Cardfile

/-- Events that tell of a field or a card being opened or closed. -/
def EventKind.isPassage : EventKind → Bool
  | .openField | .closeField | .openCard | .closeCard => true
  | _ => false

/-- The command that a line says, the blanks at its ends left out. -/
def Command.said (raw : String) : Command :=
  ofLineWith Grammar.standard.commands (Text.strip raw).toList

/-- A session without its recent cards, remembered commands, variables and tool. -/
def Session.core (session : Session) : Session :=
  { session with
    recentCards := []
    commandHistory := []
    historyIndex := none
    vars := {}
    selectedTool := .browse }

namespace Desk

/-! ### What an operation points at and writes -/

/-- The name of the field on the current card that is found by a name. -/
def fieldName? (desk : Desk) (name : String) : Option String :=
  (desk.currentCard?.bind fun card ↦ card.findField? name).map (·.name)

/-- The name of the field that a command writes or reads. -/
def found? (desk : Desk) : Command → Option String
  | .put _ name => if desk.stack.cantModify then none else desk.fieldName? name
  | .get name => desk.fieldName? name
  | _ => none

theorem found?_congr {desk other : Desk} (hstack : other.stack = desk.stack)
    (hcard : other.currentCard? = desk.currentCard?) (command : Command) :
    other.found? command = desk.found? command := by
  simp only [found?, fieldName?, hstack, hcard]

/-- The name of the field that an operation points at without opening it. -/
def foundBy? (desk : Desk) : Operation → Option String
  | .execute line => desk.found? (Command.said line)
  | _ => none

/-- A command that may write a text. -/
def MayPut (desk : Desk) (command : Command) : Prop :=
  desk.stack.cantModify = false ∧ ∃ expression name, command = .put expression name

/-- Operations that may write the stack while they leave the open field alone. -/
def MayWrite (desk : Desk) : Operation → Prop
  | .execute line => desk.MayPut (Command.said line)
  | .editFieldText _ | .editScript _ _ | .renameCard _ | .setUserLevel _ | .setProperty _ _ => True
  | _ => False

/-! ### Staying on a card -/

/-- The current card and the open field are the same, the field pointer is the same unless a field
was found, the stack is the same unless it is written, and the events that were logged tell of no
field or card being opened or closed. -/
structure Remains (desk : Desk) (found? : Option String) (writes : Prop) (events : List Event)
    (after : Desk) : Prop where
  logs : desk.session.Logs events after.session
  plain : ∀ event ∈ events, event.kind.isPassage = false
  editing : after.session.editingFieldId = desk.session.editingFieldId
  index : after.session.currentCardIndex = desk.session.currentCardIndex
  pointer : after.session.currentFieldName = found?.or desk.session.currentFieldName
  stack : ¬ writes → after.stack = desk.stack

variable {desk middle after : Desk} {found? : Option String} {writes : Prop}
  {events noted later : List Event} {card old new : Card} {most more : Nat}

namespace Remains

theorem refl (desk : Desk) : desk.Remains none writes [] desk :=
  ⟨.refl, by simp, rfl, rfl, rfl, fun _ ↦ rfl⟩

theorem trans (h : desk.Remains none False events middle)
    (hlast : middle.Remains found? writes later after) :
    desk.Remains found? writes (events ++ later) after where
  logs := h.logs.trans hlast.logs
  plain := List.forall_mem_append.mpr ⟨h.plain, hlast.plain⟩
  editing := hlast.editing.trans h.editing
  index := hlast.index.trans h.index
  pointer := by simpa [h.pointer] using hlast.pointer
  stack hnot := (hlast.stack hnot).trans (h.stack not_false)

/-- What no event tells of may change. -/
theorem quiet (h : desk.Remains found? writes events middle) (hstack : after.stack = middle.stack)
    (hcore : after.session.core = middle.session.core) :
    desk.Remains found? writes events after where
  logs := h.logs.quiet (congrArg Session.messageLog hcore :) (congrArg Session.eventsLogged hcore :)
  plain := h.plain
  editing := (congrArg Session.editingFieldId hcore).trans h.editing
  index := (congrArg Session.currentCardIndex hcore).trans h.index
  pointer := (congrArg Session.currentFieldName hcore).trans h.pointer
  stack hnot := hstack.trans (h.stack hnot)

theorem log (h : desk.Remains found? writes events middle) {kind : EventKind}
    (hkind : kind.isPassage = false) (detail : String) :
    desk.Remains found? writes (events ++ [⟨kind, detail⟩]) (middle.log kind detail) where
  logs := h.logs.log kind detail
  plain := List.forall_mem_append.mpr ⟨h.plain, by simpa using hkind⟩
  editing := h.editing
  index := h.index
  pointer := h.pointer
  stack := h.stack

theorem point (desk : Desk) (name : String) :
    desk.Remains (some name) writes [] (desk.mapSession fun session ↦
      { session with currentFieldName := some name }) :=
  ⟨Session.Logs.refl.quiet rfl rfl, by simp, rfl, rfl, rfl, fun _ ↦ rfl⟩

/-- The stack may be written where that is expected. -/
theorem write {expected : Prop} (h : desk.Remains found? writes events middle)
    (hwrites : expected) (stack : Stack) :
    desk.Remains found? expected events { middle with stack := stack } :=
  { h with stack := fun hnot ↦ absurd hwrites hnot }

theorem currentCard?_eq (h : desk.Remains found? False events after) :
    after.currentCard? = desk.currentCard? := by
  rw [currentCard?, currentCard?, h.stack not_false, h.index]

end Remains

theorem remains_of_core_eq (hstack : after.stack = desk.stack)
    (hcore : after.session.core = desk.session.core) : desk.Remains none writes [] after :=
  (Remains.refl desk).quiet hstack hcore

theorem remains_log (desk : Desk) {kind : EventKind} (hkind : kind.isPassage = false)
    (detail : String) : desk.Remains none writes [⟨kind, detail⟩] (desk.log kind detail) :=
  (Remains.refl desk).log hkind detail

/-! ### Moving to another card -/

/-- What closing the open field logs, if one is open. -/
def closing (desk : Desk) : List Event :=
  if desk.session.editingFieldId.isSome then
    [⟨.closeField, desk.session.currentFieldName.getD ""⟩]
  else []

theorem length_closing_le (desk : Desk) : desk.closing.length ≤ 1 := by
  unfold closing
  split_ifs <;> simp

theorem Remains.closing_eq (h : desk.Remains none writes events after) :
    after.closing = desk.closing := by
  rw [closing, closing, h.editing, h.pointer, Option.none_or]

/-- The desk has come from one card to another: some events were noted, then the open field was
closed, then the old card, and then the new card was opened. -/
structure Moves (desk : Desk) (noted : List Event) (old new : Card) (after : Desk) : Prop where
  logs : desk.session.Logs
    (noted ++ desk.closing ++ [⟨.closeCard, old.name⟩, ⟨.openCard, new.name⟩]) after.session
  plain : ∀ event ∈ noted, event.kind.isPassage = false
  old : desk.currentCard? = some old
  new : after.currentCard? = some new
  editing : after.session.editingFieldId = none
  index : after.session.currentCardIndex ≠ desk.session.currentCardIndex
  stack : after.stack = desk.stack

namespace Moves

theorem afterNoting (hfirst : desk.Remains none False noted middle)
    (h : middle.Moves later old new after) : desk.Moves (noted ++ later) old new after where
  logs := by
    have hlogs := hfirst.logs.trans h.logs
    rw [hfirst.closing_eq] at hlogs
    simpa using hlogs
  plain := List.forall_mem_append.mpr ⟨hfirst.plain, h.plain⟩
  old := hfirst.currentCard?_eq ▸ h.old
  new := h.new
  editing := h.editing
  index := hfirst.index ▸ h.index
  stack := h.stack.trans (hfirst.stack not_false)

theorem quiet (h : desk.Moves noted old new middle) (hstack : after.stack = middle.stack)
    (hcore : after.session.core = middle.session.core) : desk.Moves noted old new after := by
  have hindex : after.session.currentCardIndex = middle.session.currentCardIndex :=
    (congrArg Session.currentCardIndex hcore :)
  have hcard : after.currentCard? = middle.currentCard? := by
    rw [currentCard?, currentCard?, hstack, hindex]
  exact {
    logs := h.logs.quiet (congrArg Session.messageLog hcore :)
      (congrArg Session.eventsLogged hcore :)
    plain := h.plain
    old := h.old
    new := hcard.trans h.new
    editing := (congrArg Session.editingFieldId hcore).trans h.editing
    index := hindex ▸ h.index
    stack := hstack.trans h.stack }

end Moves

theorem logs_leaveField (desk : Desk) : desk.session.Logs desk.closing desk.leaveField.session := by
  unfold leaveField closing
  split_ifs with hediting
  · exact (Session.Logs.refl.log .closeField _).quiet rfl rfl
  · exact .refl

theorem editingFieldId_leaveField (desk : Desk) :
    desk.leaveField.session.editingFieldId = none := by
  unfold leaveField
  split_ifs with hediting
  · rfl
  · simpa using hediting

theorem moves_arrive {target : Int} (hold : desk.currentCard? = some old)
    (hnew : desk.stack.cardAt? target = some new) (hne : target ≠ desk.session.currentCardIndex) :
    desk.Moves [] old new (desk.arrive old new target) := by
  have hstack : (desk.arrive old new target).stack = desk.stack := desk.stack_leaveField
  have hlogs : desk.session.Logs (desk.closing ++ [⟨.closeCard, old.name⟩] ++
      [⟨.openCard, new.name⟩]) (desk.arrive old new target).session := by
    have hpushed : desk.session.Logs desk.closing (desk.leaveField.session.pushRecent old.id) :=
      desk.logs_leaveField.quiet rfl rfl
    have hstanding : desk.session.Logs (desk.closing ++ [⟨.closeCard, old.name⟩])
        { (desk.leaveField.session.pushRecent old.id).log .closeCard old.name with
          currentCardIndex := target } :=
      (hpushed.log .closeCard old.name).quiet rfl rfl
    exact (hstanding.log .openCard new.name).quiet rfl rfl
  exact {
    logs := by simpa using hlogs
    plain := by simp
    old := hold
    new := by rw [currentCard?, hstack]; exact hnew
    editing := desk.editingFieldId_leaveField
    index := hne
    stack := hstack }

/-- Moving to a position is a move to another card, or nothing happens. -/
theorem moveTo_cases (desk : Desk) (target : Int) :
    (desk.moveTo target).2 = desk ∨ ∃ old new, desk.Moves [] old new (desk.moveTo target).2 := by
  unfold moveTo
  split_ifs with hrange hhere
  · exact Or.inl rfl
  · exact Or.inl rfl
  · split
    · next old new hold hnew => exact Or.inr ⟨old, new, moves_arrive hold hnew hhere⟩
    · exact Or.inl rfl

/-! ### Browsing -/

/-- The desk stays on its card or moves to another one, and logs a number of events at most. -/
inductive Browses (desk : Desk) (most : Nat) (found? : Option String) (writes : Prop) :
    List Event → Desk → Prop
  | remains {events : List Event} {after : Desk} (h : desk.Remains found? writes events after)
      (hfew : events.length ≤ most) :
    Browses desk most found? writes events after
  | moves {noted : List Event} {old new : Card} {after : Desk}
      (h : desk.Moves noted old new after) (hfew : noted.length + 3 ≤ most) :
    Browses desk most found? writes
      (noted ++ desk.closing ++ [⟨.closeCard, old.name⟩, ⟨.openCard, new.name⟩]) after

namespace Browses

theorem logs (h : desk.Browses most found? writes events after) :
    desk.session.Logs events after.session := by
  cases h with
  | remains h => exact h.logs
  | moves h => exact h.logs

theorem length_le (h : desk.Browses most found? writes events after) : events.length ≤ most := by
  cases h with
  | remains h hfew => exact hfew
  | moves h hfew =>
    have hclosing := desk.length_closing_le
    simp only [List.length_append, List.length_cons, List.length_nil]
    omega

theorem mono (h : desk.Browses most found? writes events after) (hle : most ≤ more) :
    desk.Browses more found? writes events after := by
  cases h with
  | remains h hfew => exact .remains h (by omega)
  | moves h hfew => exact .moves h (by omega)

theorem quiet (h : desk.Browses most found? writes events middle)
    (hstack : after.stack = middle.stack) (hcore : after.session.core = middle.session.core) :
    desk.Browses most found? writes events after := by
  cases h with
  | remains h hfew => exact .remains (h.quiet hstack hcore) hfew
  | moves h hfew => exact .moves (h.quiet hstack hcore) hfew

theorem exists_afterNoting (hfirst : desk.Remains none False noted middle)
    (h : middle.Browses most found? writes events after) (hmore : noted.length + most ≤ more) :
    ∃ events, desk.Browses more found? writes events after := by
  cases h with
  | remains h hfew =>
    exact ⟨_, .remains (hfirst.trans h) (by rw [List.length_append]; omega)⟩
  | moves h hfew =>
    exact ⟨_, .moves (.afterNoting hfirst h) (by rw [List.length_append]; omega)⟩

end Browses

/-! ### Executing a line -/

theorem remains_receive (desk : Desk) (raw : String) :
    desk.Remains none writes [⟨.command, raw⟩] (desk.receive raw) := by
  have hlogged : desk.Remains none writes [⟨.command, raw⟩] (desk.log .command raw) :=
    desk.remains_log rfl raw
  unfold receive
  split_ifs with hblank
  · exact hlogged
  · exact hlogged.quiet rfl rfl

theorem remains_report (desk : Desk) (message : String) :
    desk.Remains none writes [] (desk.report message).2 :=
  remains_of_core_eq rfl rfl

theorem remains_setVariables (desk : Desk) (it result : String) :
    desk.Remains none writes [] (desk.setVariables it result) :=
  remains_of_core_eq rfl rfl

theorem remains_resolve (desk : Desk) (destination : Destination) :
    desk.Remains none writes [] (desk.resolve destination).2 := by
  have hrecent : desk.Remains none writes [] { desk with session := desk.session.popRecent.2 } := by
    unfold Session.popRecent
    split <;> exact remains_of_core_eq rfl rfl
  unfold resolve
  split_ifs with hempty
  · exact .refl desk
  · cases destination with
    | number n => exact .refl desk
    | name name => exact .refl desk
    | toward direction =>
      cases direction with
      | recent => exact hrecent
      | next | previous | first | last => exact .refl desk

theorem exists_browses_moveTo (desk : Desk) (target : Int) :
    ∃ events, desk.Browses 3 none writes events (desk.moveTo target).2 := by
  rcases desk.moveTo_cases target with hsame | ⟨old, new, hmoves⟩
  · rw [hsame]
    exact ⟨[], .remains (.refl desk) (by simp)⟩
  · exact ⟨_, .moves hmoves (by simp)⟩

theorem exists_browses_go (desk : Desk) (line : String) (going? : Option Going) :
    ∃ events, desk.Browses 3 none writes events (desk.go line going?).2 := by
  have hstays : ∃ events, desk.Browses 3 none writes events desk :=
    ⟨[], .remains (.refl desk) (by simp)⟩
  cases going? with
  | none => exact hstays
  | some going =>
    unfold go
    dsimp only
    cases going.destination with
    | error failure => exact hstays
    | ok destination =>
      have hresolve : desk.Remains none False [] (desk.resolve destination).2 :=
        desk.remains_resolve destination
      dsimp only
      cases (desk.resolve destination).1 with
      | none => exact ⟨_, .remains (hresolve.trans (remains_report ..)) (by simp)⟩
      | some target =>
        obtain ⟨events, hmoved⟩ := exists_browses_moveTo (desk.resolve destination).2 target
        exact hmoved.exists_afterNoting hresolve (by simp)

theorem exists_browses_withValue (hnone : desk.currentCard? = none → found? = none)
    {grammar : Grammar} {expression : String} {next : String → Outcome}
    (hnext : ∀ value, ∃ events, desk.Browses most found? writes events (next value).2) :
    ∃ events, desk.Browses most found? writes events
      (desk.withValue grammar expression next).2 := by
  unfold withValue
  cases hvalue : desk.evaluateWith grammar.expressions expression with
  | ok value => exact hnext value
  | error failure =>
    -- Only an expression about the current card fails, and only if there is none.
    have hcard : desk.currentCard? = none := by
      by_contra hsome
      obtain ⟨card, hcard⟩ := Option.ne_none_iff_exists'.mp hsome
      obtain ⟨value, hok⟩ := exists_evaluateWith_eq_ok hcard grammar.expressions expression
      simp [hvalue] at hok
    rw [hnone hcard]
    exact ⟨[], .remains (.refl desk) (by simp)⟩

theorem fieldName?_eq (hcard : desk.currentCard? = some card) (name : String) :
    desk.fieldName? name = (card.findField? name).map (·.name) := by
  rw [fieldName?, hcard, Option.bind_some]

theorem exists_remains_writeField (hwrites : writes) (name value : String) :
    ∃ events, events.length ≤ 1 ∧
      desk.Remains (desk.fieldName? name) writes events (desk.writeField name value).2 := by
  cases hcard : desk.currentCard? with
  | none =>
    have hsame : (desk.writeField name value).2 = desk := by
      simp [writeField, hcard]
    rw [hsame, fieldName?, hcard]
    exact ⟨[], by simp, .refl desk⟩
  | some card =>
    obtain ⟨place, hplace⟩ := exists_currentPlace? hcard
    rw [fieldName?_eq hcard]
    unfold writeField
    rw [hplace, hcard]
    dsimp only
    cases hfield : card.findField? name with
    | none =>
      have hnone : card.fieldPlace? name = none := by
        simpa [Card.fieldPlace?, Card.findField?] using hfield
      rw [hnone]
      exact ⟨[], by simp, desk.remains_report _⟩
    | some field =>
      have hsome : (card.fieldPlace? name).isSome := by
        have hmem := List.find?_isSome.mp (Option.isSome_of_eq_some hfield)
        simpa [Card.fieldPlace?, List.findIdx?_isSome] using hmem
      obtain ⟨fieldPlace, hfieldPlace⟩ := Option.isSome_iff_exists.mp hsome
      rw [hfieldPlace]
      have hnoted : desk.Remains (some field.name) writes [⟨.setField, field.name⟩]
          ((desk.mapSession fun session ↦
            { session with currentFieldName := some field.name }).log .setField field.name) :=
        (Remains.point desk field.name).log rfl field.name
      exact ⟨_, by simp, (hnoted.write hwrites _).quiet rfl rfl⟩

theorem exists_browses_put (desk : Desk) (grammar : Grammar) (expression name : String) :
    ∃ events, desk.Browses 1 (desk.found? (.put expression name))
      (desk.MayPut (.put expression name)) events (desk.put grammar expression name).2 := by
  unfold put found?
  by_cases hcant : desk.stack.cantModify
  · simp only [hcant, if_true]
    exact ⟨[], .remains (desk.remains_report _) (by simp)⟩
  · simp only [hcant]
    refine exists_browses_withValue (fun hcard ↦ by simp [fieldName?, hcard]) fun value ↦ ?_
    have hwrites : desk.MayPut (.put expression name) := ⟨by simpa using hcant, _, _, rfl⟩
    obtain ⟨events, hfew, hremains⟩ := exists_remains_writeField hwrites name value
    exact ⟨events, .remains hremains hfew⟩

theorem remains_get (desk : Desk) (name : String) :
    desk.Remains (desk.found? (.get name)) writes [] (desk.get name).2 := by
  show desk.Remains (desk.fieldName? name) writes [] (desk.get name).2
  unfold get
  cases hcard : desk.currentCard? with
  | none =>
    rw [fieldName?, hcard]
    exact .refl desk
  | some card =>
    rw [fieldName?_eq hcard]
    dsimp only
    cases card.findField? name with
    | none => exact desk.remains_setVariables "" ""
    | some field => exact (Remains.point desk field.name).quiet rfl rfl

theorem exists_browses_findText (desk : Desk) (query : String) :
    ∃ events, desk.Browses 4 none writes events (desk.findText query).2 := by
  have hlogged : desk.Remains none False [⟨.find, query⟩] (desk.log .find query) :=
    desk.remains_log rfl query
  unfold findText
  dsimp only
  cases (desk.log .find query).stack.searchFields? query with
  | none => exact ⟨_, .remains (hlogged.trans (remains_of_core_eq rfl rfl)) (by simp)⟩
  | some target =>
    obtain ⟨moved, hmoved⟩ := (desk.log .find query).exists_browses_moveTo target
    have hnoted : ∃ events, desk.Browses 4 none writes events
        ((desk.log .find query).moveTo target).2 :=
      hmoved.exists_afterNoting hlogged (by simp)
    obtain ⟨events, hbrowses⟩ := hnoted
    refine ⟨events, ?_⟩
    dsimp only
    rcases hmove : (desk.log .find query).moveTo target with ⟨outcome, arrived⟩
    rw [hmove] at hbrowses
    cases outcome with
    | error failure => exact hbrowses
    | ok moved => exact hbrowses.quiet rfl rfl

theorem exists_browses_perform (desk : Desk) (grammar : Grammar) (line : String)
    (command : Command) :
    ∃ events, desk.Browses 4 (desk.found? command) (desk.MayPut command) events
      (desk.perform grammar line command).2 := by
  have hnone : desk.currentCard? = none → (none : Option String) = none := fun _ ↦ rfl
  cases command with
  | nothing => exact ⟨[], .remains (.refl desk) (by simp)⟩
  | beep => exact ⟨[], .remains (remains_of_core_eq rfl rfl) (by simp)⟩
  | go going? =>
    obtain ⟨events, hbrowses⟩ := desk.exists_browses_go line going?
    exact ⟨events, hbrowses.mono (by simp)⟩
  | put expression name =>
    obtain ⟨events, hbrowses⟩ := desk.exists_browses_put grammar expression name
    exact ⟨events, hbrowses.mono (by simp)⟩
  | get name => exact ⟨[], .remains (desk.remains_get name) (by simp)⟩
  | answer expression =>
    exact exists_browses_withValue hnone fun value ↦
      ⟨[], .remains (desk.remains_setVariables "OK" "") (by simp)⟩
  | find expression => exact exists_browses_withValue hnone desk.exists_browses_findText
  | message => exact ⟨[], .remains (desk.remains_setVariables "" line) (by simp)⟩

theorem exists_browses_execute (desk : Desk) (raw : String) :
    ∃ events, desk.Browses 5 (desk.found? (Command.said raw)) (desk.MayPut (Command.said raw))
      events (desk.execute raw).2 := by
  have hreceived : desk.Remains none False [⟨.command, raw⟩] (desk.receive raw) :=
    desk.remains_receive raw
  obtain ⟨events, hbrowses⟩ :=
    (desk.receive raw).exists_browses_perform .standard (Text.strip raw) (Command.said raw)
  rw [found?_congr (hreceived.stack not_false) hreceived.currentCard?_eq, MayPut,
    hreceived.stack not_false] at hbrowses
  exact hbrowses.exists_afterNoting hreceived (by simp)

/-! ### Opening and closing a field -/

/-- The field that was open is closed, and a field of the card is opened. -/
structure Opens (desk : Desk) (field : TextField) (after : Desk) : Prop where
  logs : desk.session.Logs (desk.closing ++ [⟨.openField, field.name⟩]) after.session
  editing : after.session.editingFieldId = some field.id
  index : after.session.currentCardIndex = desk.session.currentCardIndex
  pointer : after.session.currentFieldName = some field.name
  stack : after.stack = desk.stack

theorem currentCardIndex_leaveField (desk : Desk) :
    desk.leaveField.session.currentCardIndex = desk.session.currentCardIndex := by
  unfold leaveField
  split_ifs <;> rfl

theorem openField_of_openable {name : String} {field : TextField}
    (hopenable : desk.openable name = .ok field) :
    (desk.openField name).1 = .ok field ∧ desk.Opens field (desk.openField name).2 := by
  unfold openField
  rw [hopenable]
  refine ⟨rfl, ?_, rfl, desk.currentCardIndex_leaveField, rfl, desk.stack_leaveField⟩
  have hpointed : desk.session.Logs desk.closing { desk.leaveField.session with
      editingFieldId := some field.id, currentFieldName := some field.name } :=
    desk.logs_leaveField.quiet rfl rfl
  exact hpointed.log .openField field.name

theorem openField_of_refused {name : String} {refusal : Refusal}
    (hrefused : desk.openable name = .error refusal) :
    desk.openField name = (.error refusal, desk) := by
  rw [openField, hrefused]

/-! ### Episodes -/

/-- What an operation does, and which events it logs. -/
inductive Episode (desk : Desk) : Operation → List Event → Desk → Prop
  | browses {operation : Operation} {events : List Event} {after : Desk}
      (h : desk.Browses 5 (desk.foundBy? operation) (desk.MayWrite operation) events after) :
    Episode desk operation events after
  | opens {name : String} {field : TextField} {after : Desk}
      (hopenable : desk.openable name = .ok field) (h : desk.Opens field after) :
    Episode desk (.openField name) (desk.closing ++ [⟨.openField, field.name⟩]) after
  | closes (hopen : desk.session.editingFieldId.isSome) :
    Episode desk .closeField desk.closing desk.leaveField
  | merges (settings : Settings) (store : Store) (snapshot : Snapshot) :
    Episode desk (.restore settings store) [] (desk.merge snapshot)

namespace Episode

variable {operation : Operation}

theorem logs (h : desk.Episode operation events after) :
    desk.session.Logs events after.session := by
  cases h with
  | browses h => exact h.logs
  | opens _ h => exact h.logs
  | closes => exact desk.logs_leaveField
  | merges settings store snapshot => exact Session.Logs.refl.quiet rfl rfl

theorem length_le (h : desk.Episode operation events after) : events.length ≤ 5 := by
  have hclosing := desk.length_closing_le
  cases h with
  | browses h => exact h.length_le
  | opens _ h => simp; omega
  | closes => omega
  | merges => simp

theorem refl (desk : Desk) (operation : Operation) (hnone : desk.foundBy? operation = none) :
    desk.Episode operation [] desk :=
  .browses (.remains (hnone ▸ .refl desk) (by simp))

/-- The stack is written, and one event tells so. -/
theorem write (desk : Desk) {kind : EventKind} (hkind : kind.isPassage = false) (detail : String)
    (stack : Stack) (hnone : desk.foundBy? operation = none) (hwrites : desk.MayWrite operation) :
    desk.Episode operation [⟨kind, detail⟩] ({ desk with stack := stack }.log kind detail) := by
  have hlogged : desk.Remains none True [⟨kind, detail⟩] (desk.log kind detail) :=
    desk.remains_log hkind detail
  exact .browses (.remains (hnone ▸ hlogged.write hwrites stack) (by simp))

end Episode

theorem exists_episode_editFieldText (desk : Desk) (text : String) :
    ∃ events, desk.Episode (.editFieldText text) events (desk.editFieldText text).2 := by
  unfold editFieldText
  split
  · exact ⟨[], .refl desk _ rfl⟩
  · split
    · dsimp only
      split
      · exact ⟨_, .write desk rfl _ _ rfl trivial⟩
      · exact ⟨[], .refl desk _ rfl⟩
    · exact ⟨[], .refl desk _ rfl⟩

theorem exists_episode_editScript (desk : Desk) (buttonId : Int) (script : String) :
    ∃ events, desk.Episode (.editScript buttonId script) events
      (desk.editScript buttonId script).2 := by
  unfold editScript
  split
  · exact ⟨_, .write desk rfl _ _ rfl trivial⟩
  · exact ⟨[], .refl desk _ rfl⟩

theorem exists_episode_renameCard (desk : Desk) (name : String) :
    ∃ events, desk.Episode (.renameCard name) events (desk.renameCard name).2 := by
  unfold renameCard
  split
  · next place card _ _ =>
    dsimp only
    split
    · -- The name is given, and no event tells so.
      have hsame : desk.Remains none False [] desk := .refl desk
      have hrenamed : desk.Remains none True [] (desk.withCardName place name) :=
        hsame.write trivial _
      exact ⟨[], .browses (.remains hrenamed (by simp))⟩
    · exact ⟨_, .write desk rfl _ _ rfl trivial⟩
  · exact ⟨[], .refl desk _ rfl⟩

theorem exists_episode_setUserLevel (desk : Desk) (level : Int) {operation : Operation}
    (hnone : desk.foundBy? operation = none) (hwrites : desk.MayWrite operation) :
    ∃ events, desk.Episode operation events (desk.setUserLevel level).2 := by
  unfold setUserLevel
  split
  · exact ⟨[], .refl desk _ hnone⟩
  · exact ⟨_, .write desk rfl _ _ hnone hwrites⟩

theorem exists_episode_setProperty (desk : Desk) (name : String) (value : PropertyValue) :
    ∃ events, desk.Episode (.setProperty name value) events (desk.setProperty name value).2 := by
  unfold setProperty
  split_ifs with hlevel
  · split
    · exact desk.exists_episode_setUserLevel _ rfl trivial
    · exact ⟨[], .refl desk _ rfl⟩
  · split
    · exact ⟨[], .refl desk _ rfl⟩
    · exact ⟨[], .refl desk _ rfl⟩
    · exact ⟨_, .write desk rfl _ _ rfl trivial⟩

theorem remains_selectTool (desk : Desk) (name : String) :
    desk.Remains none writes [] (desk.selectTool name).2 := by
  unfold selectTool
  split
  · exact .refl desk
  · exact remains_of_core_eq rfl rfl

theorem remains_historyPrevious (desk : Desk) :
    desk.Remains none writes [] desk.historyPrevious.2 := by
  obtain ⟨index, hindex⟩ := desk.session.exists_historyPrevious_eq
  refine remains_of_core_eq rfl ?_
  show desk.session.historyPrevious.2.core = desk.session.core
  rw [hindex]
  rfl

theorem remains_historyNext (desk : Desk) : desk.Remains none writes [] desk.historyNext.2 := by
  obtain ⟨index, hindex⟩ := desk.session.exists_historyNext_eq
  refine remains_of_core_eq rfl ?_
  show desk.session.historyNext.2.core = desk.session.core
  rw [hindex]
  rfl

theorem exists_episode_operate (desk : Desk) (operation : Operation) :
    ∃ events, desk.Episode operation events (desk.operate operation) := by
  cases operation with
  | execute line =>
    obtain ⟨events, hbrowses⟩ := desk.exists_browses_execute line
    exact ⟨events, .browses hbrowses⟩
  | openField name =>
    show ∃ events, desk.Episode _ events (desk.openField name).2
    cases hopenable : desk.openable name with
    | error refusal =>
      rw [openField_of_refused hopenable]
      exact ⟨[], .refl desk _ rfl⟩
    | ok field => exact ⟨_, .opens hopenable (openField_of_openable hopenable).2⟩
  | editFieldText text => exact desk.exists_episode_editFieldText text
  | closeField =>
    show ∃ events, desk.Episode _ events desk.closeField.2
    unfold closeField
    split_ifs with hopen
    · exact ⟨_, .closes hopen⟩
    · exact ⟨[], .refl desk _ rfl⟩
  | editScript buttonId script => exact desk.exists_episode_editScript buttonId script
  | renameCard name => exact desk.exists_episode_renameCard name
  | setUserLevel level => exact desk.exists_episode_setUserLevel level rfl trivial
  | setProperty name value => exact desk.exists_episode_setProperty name value
  | selectTool name => exact ⟨[], .browses (.remains (desk.remains_selectTool name) (by simp))⟩
  | historyPrevious => exact ⟨[], .browses (.remains desk.remains_historyPrevious (by simp))⟩
  | historyNext => exact ⟨[], .browses (.remains desk.remains_historyNext (by simp))⟩
  | save settings store => exact ⟨[], .refl desk _ rfl⟩
  | restore settings store =>
    show ∃ events, desk.Episode _ events (desk.restore settings store).2.1
    rw [restore_eq]
    cases (store.loadSnapshot settings desk.stack.name).1 with
    | none => exact ⟨[], .refl desk _ rfl⟩
    | some snapshot => exact ⟨[], .merges settings store snapshot⟩

end Desk

end Cardfile
