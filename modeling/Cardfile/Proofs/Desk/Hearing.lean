import Cardfile.Proofs.Desk.Run
import Cardfile.Proofs.Session.History

/-!
# What a desk hears

A line is heard when it is executed: it is logged, and unless it is blank it is remembered and the
recall cursor goes to a new line (`Desk.receive`). All that comes after that, whatever the line says
and whether it can be carried out or not, leaves the remembered lines and the cursor alone and logs
no line (`Desk.HearsNothing`, `Desk.hearsNothing_perform`). So does every other operation, up to the
cursor, which is what recalling a line moves (`Desk.hearsNothing_operate`).
-/

set_option autoImplicit false
set_option relaxedAutoImplicit false

namespace Cardfile

/-- The log of a session, its remembered lines and its recall cursor. -/
def Session.records (session : Session) : (List Event × Nat) × List String × Option Int :=
  ((session.messageLog, session.eventsLogged), session.commandHistory, session.historyIndex)

namespace Desk

/-- No line is heard from one desk to the other. The remembered lines and the recall cursor are the
same, and no event that was logged in between is a line. -/
structure HearsNothing (before after : Desk) : Prop where
  history : after.session.commandHistory = before.session.commandHistory
  historyIndex : after.session.historyIndex = before.session.historyIndex
  logs : ∃ events, (∀ event ∈ events, event.kind ≠ .command) ∧
    before.session.Logs events after.session

variable {desk before middle after : Desk}

namespace HearsNothing

theorem refl (desk : Desk) : HearsNothing desk desk :=
  ⟨rfl, rfl, [], by simp, .refl⟩

theorem trans (h : HearsNothing before middle) (hlast : HearsNothing middle after) :
    HearsNothing before after := by
  obtain ⟨events, hevents, hlogs⟩ := h.logs
  obtain ⟨later, hlater, hlaterLogs⟩ := hlast.logs
  exact ⟨hlast.history.trans h.history, hlast.historyIndex.trans h.historyIndex, events ++ later,
    List.forall_mem_append.mpr ⟨hevents, hlater⟩, hlogs.trans hlaterLogs⟩

/-- What is neither logged nor remembered may change. -/
theorem quiet (h : HearsNothing before middle)
    (hrecords : after.session.records = middle.session.records) : HearsNothing before after := by
  obtain ⟨events, hevents, hlogs⟩ := h.logs
  exact ⟨(congrArg (·.2.1) hrecords).trans h.history,
    (congrArg (·.2.2) hrecords).trans h.historyIndex, events, hevents,
    hlogs.quiet (congrArg (·.1.1) hrecords) (congrArg (·.1.2) hrecords)⟩

theorem log (h : HearsNothing before middle) {kind : EventKind} (hkind : kind ≠ .command)
    (detail : String) : HearsNothing before (middle.log kind detail) := by
  obtain ⟨events, hevents, hlogs⟩ := h.logs
  exact ⟨h.history, h.historyIndex, events ++ [⟨kind, detail⟩],
    List.forall_mem_append.mpr ⟨hevents, by simpa using hkind⟩, hlogs.log kind detail⟩

end HearsNothing

theorem hearsNothing_of_records (hrecords : after.session.records = before.session.records) :
    HearsNothing before after :=
  (HearsNothing.refl before).quiet hrecords

/-! ### Commands -/

theorem hearsNothing_leaveField (desk : Desk) : HearsNothing desk desk.leaveField := by
  unfold leaveField
  split_ifs
  · exact ((HearsNothing.refl desk).log (by decide) _).quiet rfl
  · exact .refl desk

theorem hearsNothing_arrive (desk : Desk) (old new : Card) (target : Int) :
    HearsNothing desk (desk.arrive old new target) := by
  have hpushed : HearsNothing desk
      (desk.leaveField.mapSession fun session ↦ session.pushRecent old.id) :=
    desk.hearsNothing_leaveField.quiet rfl
  have hclosing : EventKind.closeCard ≠ .command := by decide
  have hopening : EventKind.openCard ≠ .command := by decide
  have hstanding : HearsNothing desk
      (((desk.leaveField.mapSession fun session ↦ session.pushRecent old.id).log .closeCard
        old.name).mapSession fun session ↦ { session with currentCardIndex := target }) :=
    (hpushed.log hclosing old.name).quiet rfl
  exact (hstanding.log hopening new.name).quiet rfl

theorem hearsNothing_moveTo (desk : Desk) (target : Int) :
    HearsNothing desk (desk.moveTo target).2 := by
  unfold moveTo
  split_ifs
  · exact .refl desk
  · exact .refl desk
  · split
    · next old new _ _ => exact desk.hearsNothing_arrive old new target
    · exact .refl desk

theorem hearsNothing_resolve (desk : Desk) (destination : Destination) :
    HearsNothing desk (desk.resolve destination).2 := by
  have hrecent : HearsNothing desk { desk with session := desk.session.popRecent.2 } := by
    unfold Session.popRecent
    split <;> exact hearsNothing_of_records rfl
  unfold resolve
  split_ifs
  · exact .refl desk
  · cases destination with
    | number n => exact .refl desk
    | name name => exact .refl desk
    | toward direction =>
      cases direction with
      | recent => exact hrecent
      | next | previous | first | last => exact .refl desk

theorem hearsNothing_go (desk : Desk) (line : String) (going? : Option Going) :
    HearsNothing desk (desk.go line going?).2 := by
  unfold go
  split
  · exact .refl desk
  · split
    · exact .refl desk
    · next destination _ =>
      have hresolved := desk.hearsNothing_resolve destination
      dsimp only
      split
      · exact hresolved.quiet rfl
      · next target _ => exact hresolved.trans (hearsNothing_moveTo _ target)

theorem hearsNothing_writeField (desk : Desk) (name value : String) :
    HearsNothing desk (desk.writeField name value).2 := by
  unfold writeField
  split
  · next place card _ _ =>
    dsimp only
    split
    · next fieldPlace field _ _ =>
      have hwritten : HearsNothing desk
          { stack := desk.stack.modifyCard place fun card ↦ card.writeText fieldPlace value
            session := { desk.session with currentFieldName := some field.name } } :=
        hearsNothing_of_records rfl
      have hkind : EventKind.setField ≠ .command := by decide
      exact (hwritten.log hkind field.name).quiet rfl
    · exact hearsNothing_of_records rfl
  · exact .refl desk

theorem hearsNothing_withValue {grammar : Grammar} {expression : String} {next : String → Outcome}
    (hnext : ∀ value, HearsNothing desk (next value).2) :
    HearsNothing desk (desk.withValue grammar expression next).2 := by
  unfold withValue
  split
  · exact hnext _
  · exact .refl desk

theorem hearsNothing_put (desk : Desk) (grammar : Grammar) (expression name : String) :
    HearsNothing desk (desk.put grammar expression name).2 := by
  unfold put
  split_ifs
  · exact hearsNothing_of_records rfl
  · exact hearsNothing_withValue (desk.hearsNothing_writeField name)

theorem hearsNothing_get (desk : Desk) (name : String) : HearsNothing desk (desk.get name).2 := by
  unfold get
  split
  · exact .refl desk
  · split <;> exact hearsNothing_of_records rfl

theorem hearsNothing_findText (desk : Desk) (query : String) :
    HearsNothing desk (desk.findText query).2 := by
  have hnoted : HearsNothing desk (desk.log .find query) :=
    (HearsNothing.refl desk).log (by decide) query
  unfold findText
  dsimp only
  split
  · exact hnoted.quiet rfl
  · next target _ =>
    have hmoved := hnoted.trans ((desk.log .find query).hearsNothing_moveTo target)
    split <;> next hmove =>
      rw [hmove] at hmoved
      exact hmoved.quiet rfl

/-- Carrying out a command is not hearing a line. -/
theorem hearsNothing_perform (desk : Desk) (grammar : Grammar) (line : String)
    (command : Command) : HearsNothing desk (desk.perform grammar line command).2 := by
  cases command with
  | nothing => exact .refl desk
  | beep => exact hearsNothing_of_records rfl
  | go going? => exact desk.hearsNothing_go line going?
  | put expression name => exact desk.hearsNothing_put grammar expression name
  | get name => exact desk.hearsNothing_get name
  | answer expression => exact hearsNothing_withValue fun value ↦ hearsNothing_of_records rfl
  | find expression => exact hearsNothing_withValue desk.hearsNothing_findText
  | message => exact hearsNothing_of_records rfl

/-! ### Other operations -/

/-- The stack is written, and one event tells so. -/
theorem hearsNothing_write (desk : Desk) {kind : EventKind} (hkind : kind ≠ .command)
    (detail : String) (stack : Stack) :
    HearsNothing desk ({ desk with stack := stack }.log kind detail) := by
  have hwritten : HearsNothing desk { desk with stack := stack } := hearsNothing_of_records rfl
  exact hwritten.log hkind detail

theorem hearsNothing_openField (desk : Desk) (name : String) :
    HearsNothing desk (desk.openField name).2 := by
  unfold openField
  split
  · exact .refl desk
  · next field _ =>
    have hpointed : HearsNothing desk (desk.leaveField.mapSession fun session ↦
        { session with editingFieldId := some field.id, currentFieldName := some field.name }) :=
      desk.hearsNothing_leaveField.quiet rfl
    exact hpointed.log (by decide) field.name

theorem hearsNothing_editFieldText (desk : Desk) (text : String) :
    HearsNothing desk (desk.editFieldText text).2 := by
  unfold editFieldText
  split
  · exact .refl desk
  · split
    · dsimp only
      split
      · exact desk.hearsNothing_write (by decide) _ _
      · exact .refl desk
    · exact .refl desk

theorem hearsNothing_setUserLevel (desk : Desk) (level : Int) :
    HearsNothing desk (desk.setUserLevel level).2 := by
  unfold setUserLevel
  split
  · exact .refl desk
  · exact desk.hearsNothing_write (by decide) _ _

theorem hearsNothing_setProperty (desk : Desk) (name : String) (value : PropertyValue) :
    HearsNothing desk (desk.setProperty name value).2 := by
  unfold setProperty
  split_ifs
  · split
    · exact desk.hearsNothing_setUserLevel _
    · exact .refl desk
  · split
    · exact .refl desk
    · exact .refl desk
    · exact desk.hearsNothing_write (by decide) _ _

/-- Among the operations only the execution of a line hears one, and only recall moves the cursor
otherwise. -/
theorem hearsNothing_operate {operation : Operation} (hline : ∀ line, operation ≠ .execute line)
    (hprevious : operation ≠ .historyPrevious) (hnext : operation ≠ .historyNext) (desk : Desk) :
    HearsNothing desk (desk.operate operation) := by
  cases operation with
  | execute line => exact absurd rfl (hline line)
  | historyPrevious => exact absurd rfl hprevious
  | historyNext => exact absurd rfl hnext
  | openField name => exact desk.hearsNothing_openField name
  | editFieldText text => exact desk.hearsNothing_editFieldText text
  | closeField =>
    rw [operate, closeField]
    split_ifs
    · exact desk.hearsNothing_leaveField
    · exact .refl desk
  | editScript buttonId script =>
    rw [operate, editScript]
    split
    · exact desk.hearsNothing_write (by decide) _ _
    · exact .refl desk
  | renameCard name =>
    rw [operate, renameCard]
    split
    · dsimp only
      split
      · exact hearsNothing_of_records rfl
      · exact desk.hearsNothing_write (by decide) _ _
    · exact .refl desk
  | setUserLevel level => exact desk.hearsNothing_setUserLevel level
  | setProperty name value => exact desk.hearsNothing_setProperty name value
  | selectTool name =>
    rw [operate, selectTool]
    split
    · exact .refl desk
    · exact hearsNothing_of_records rfl
  | save settings store => exact .refl desk
  | restore settings store =>
    rw [operate, restore_eq]
    cases (store.loadSnapshot settings desk.stack.name).1 with
    | none => exact .refl desk
    | some snapshot => exact hearsNothing_of_records rfl

end Desk

end Cardfile
