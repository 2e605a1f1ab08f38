import Cardfile.Command.Basic
import Cardfile.Desk.Execution
import Cardfile.Proofs.Session.History

/-!
# Desks that differ in what was written

The line that was entered leaves traces that no command reads: the line itself in the history, and
the detail of an event in the log. Two desks that differ in such traces only (`Desk.Alike`) carry
out any command with the same answer, and they are alike afterwards (`Desk.Alike.perform`).
-/

set_option autoImplicit false
set_option relaxedAutoImplicit false

namespace Cardfile

theorem Session.map_lastOf {α β : Type} (read : α → β) (count : Nat) (elements : List α) :
    (lastOf count elements).map read = lastOf count (elements.map read) := by
  rw [lastOf, lastOf, List.map_drop, List.length_map]

namespace Desk

/-- Two desks that differ at most in the remembered lines, in the details of logged events and in
the variable `result`. -/
structure AlikeButResult (desk other : Desk) : Prop where
  stack : other.stack = desk.stack
  currentCardIndex : other.session.currentCardIndex = desk.session.currentCardIndex
  recentCards : other.session.recentCards = desk.session.recentCards
  currentFieldName : other.session.currentFieldName = desk.session.currentFieldName
  editingFieldId : other.session.editingFieldId = desk.session.editingFieldId
  selectedTool : other.session.selectedTool = desk.session.selectedTool
  it : other.session.vars.it = desk.session.vars.it
  eventsLogged : other.session.eventsLogged = desk.session.eventsLogged
  eventKinds : other.session.messageLog.map (·.kind) = desk.session.messageLog.map (·.kind)

/-- Two desks that differ at most in the remembered lines and in the details of logged events. -/
structure Alike (desk other : Desk) : Prop extends AlikeButResult desk other where
  result : other.session.vars.result = desk.session.vars.result

/-- Two outcomes that are the same, with desks that are alike afterwards. -/
def AlikeOutcomes {α : Type} (outcome other : α × Desk) : Prop :=
  other.1 = outcome.1 ∧ outcome.2.Alike other.2

variable {desk other third : Desk}

namespace AlikeButResult

theorem symm (h : desk.AlikeButResult other) : other.AlikeButResult desk where
  stack := h.stack.symm
  currentCardIndex := h.currentCardIndex.symm
  recentCards := h.recentCards.symm
  currentFieldName := h.currentFieldName.symm
  editingFieldId := h.editingFieldId.symm
  selectedTool := h.selectedTool.symm
  it := h.it.symm
  eventsLogged := h.eventsLogged.symm
  eventKinds := h.eventKinds.symm

theorem trans (h : desk.AlikeButResult other) (hthird : other.AlikeButResult third) :
    desk.AlikeButResult third where
  stack := hthird.stack.trans h.stack
  currentCardIndex := hthird.currentCardIndex.trans h.currentCardIndex
  recentCards := hthird.recentCards.trans h.recentCards
  currentFieldName := hthird.currentFieldName.trans h.currentFieldName
  editingFieldId := hthird.editingFieldId.trans h.editingFieldId
  selectedTool := hthird.selectedTool.trans h.selectedTool
  it := hthird.it.trans h.it
  eventsLogged := hthird.eventsLogged.trans h.eventsLogged
  eventKinds := hthird.eventKinds.trans h.eventKinds

end AlikeButResult

namespace Alike

/-! ### Steps of a command -/

theorem refl (desk : Desk) : desk.Alike desk := by
  constructor
  · constructor <;> rfl
  · rfl

theorem log (h : desk.Alike other) (kind : EventKind) (detail second : String) :
    (desk.log kind detail).Alike (other.log kind second) :=
  { h with
    eventsLogged := congrArg (· + 1) h.eventsLogged
    eventKinds := by
      show (Session.lastOf _ _).map _ = (Session.lastOf _ _).map _
      rw [Session.map_lastOf, Session.map_lastOf, List.map_append, List.map_append, h.eventKinds]
      rfl }

/-- Whatever two lines are received, they leave the same but for what is written in them. -/
theorem receive (desk : Desk) (line other : String) :
    (desk.receive line).Alike (desk.receive other) := by
  have hlogged := (refl desk).log .command line other
  unfold Desk.receive
  dsimp only
  split_ifs
  · exact hlogged
  · exact { hlogged with }
  · exact { hlogged with }
  · exact { hlogged with }

theorem report (h : desk.Alike other) (message : String) :
    AlikeOutcomes (desk.report message) (other.report message) :=
  ⟨rfl, { h with result := rfl }⟩

theorem setVariables (h : desk.Alike other) (it result : String) :
    (desk.setVariables it result).Alike (other.setVariables it result) :=
  { h with it := rfl, result := rfl }

theorem point (h : desk.Alike other) (name? : Option String) :
    (desk.mapSession fun session ↦ { session with currentFieldName := name? }).Alike
      (other.mapSession fun session ↦ { session with currentFieldName := name? }) :=
  { h with currentFieldName := rfl }

theorem currentCard? (h : desk.Alike other) : other.currentCard? = desk.currentCard? := by
  rw [Desk.currentCard?, Desk.currentCard?, h.stack, h.currentCardIndex]

theorem currentPlace? (h : desk.Alike other) : other.currentPlace? = desk.currentPlace? := by
  rw [Desk.currentPlace?, Desk.currentPlace?, h.stack, h.currentCardIndex]

theorem leaveField (h : desk.Alike other) : desk.leaveField.Alike other.leaveField := by
  unfold Desk.leaveField
  rw [h.editingFieldId]
  by_cases hediting : desk.session.editingFieldId.isSome = true
  · rw [if_pos hediting, if_pos hediting]
    exact { h.log .closeField _ _ with editingFieldId := rfl }
  · rw [if_neg hediting, if_neg hediting]
    exact h

theorem arrive (h : desk.Alike other) (old new : Card) (target : Int) :
    (desk.arrive old new target).Alike (other.arrive old new target) := by
  have hleft := h.leaveField
  have hpushed : (desk.leaveField.mapSession fun session ↦ session.pushRecent old.id).Alike
      (other.leaveField.mapSession fun session ↦ session.pushRecent old.id) := by
    refine { hleft with recentCards := ?_ }
    show (old.id :: other.leaveField.session.recentCards).take _ = _
    rw [hleft.recentCards]
    rfl
  have hopened := (hpushed.log .closeCard old.name old.name).log .openCard new.name new.name
  exact { hopened with currentCardIndex := rfl, currentFieldName := rfl, it := rfl, result := rfl }

theorem moveTo (h : desk.Alike other) (target : Int) :
    AlikeOutcomes (desk.moveTo target) (other.moveTo target) := by
  unfold Desk.moveTo
  rw [h.currentCard?, h.stack, h.currentCardIndex]
  split_ifs
  · exact ⟨rfl, h⟩
  · exact ⟨rfl, h⟩
  · cases desk.currentCard? with
    | none => exact ⟨rfl, h⟩
    | some old =>
      cases desk.stack.cardAt? target with
      | none => exact ⟨rfl, h⟩
      | some new => exact ⟨rfl, h.arrive old new target⟩

theorem resolveDirection (h : desk.Alike other) (direction : Direction) :
    AlikeOutcomes (desk.resolveDirection direction) (other.resolveDirection direction) := by
  have haround : ∀ offset, other.placeAround offset = desk.placeAround offset := by
    intro offset
    rw [placeAround, placeAround, h.currentCardIndex, h.stack]
  cases direction with
  | next => exact ⟨congrArg some (haround 1), h⟩
  | previous => exact ⟨congrArg some (haround (-1)), h⟩
  | first => exact ⟨rfl, h⟩
  | last => exact ⟨by rw [Desk.resolveDirection, h.stack]; rfl, h⟩
  | recent =>
    unfold Desk.resolveDirection Session.popRecent
    dsimp only
    rw [h.recentCards, h.stack]
    cases desk.session.recentCards with
    | nil => exact ⟨rfl, { h with stack := rfl }⟩
    | cons cardId rest => exact ⟨rfl, { h with stack := rfl, recentCards := rfl }⟩

theorem resolve (h : desk.Alike other) (destination : Destination) :
    AlikeOutcomes (desk.resolve destination) (other.resolve destination) := by
  unfold Desk.resolve
  rw [h.stack]
  split_ifs
  · exact ⟨rfl, h⟩
  · cases destination with
    | number n => exact ⟨rfl, h⟩
    | name title => exact ⟨rfl, h⟩
    | toward direction => exact h.resolveDirection direction

/-! ### Commands -/

theorem evaluateWith (h : desk.Alike other) (table : List (Rule Expression)) (text : String) :
    other.evaluateWith table text = desk.evaluateWith table text := by
  unfold Desk.evaluateWith
  cases Expression.ofTextWith table (Text.trim text.toList) with
  | literal text => rfl
  | field name => simp only [Expression.value, h.currentCard?]
  | cardName => simp only [Expression.value, h.currentCard?]
  | cardCount => simp only [Expression.value, h.stack]
  | result => exact congrArg Except.ok h.result
  | it => exact congrArg Except.ok h.it

/-- Continuing with the value of an expression. -/
theorem withValue (h : desk.Alike other) (grammar : Grammar) (expression : String)
    {next second : String → Outcome} (hnext : ∀ value, AlikeOutcomes (next value) (second value)) :
    AlikeOutcomes (desk.withValue grammar expression next)
      (other.withValue grammar expression second) := by
  unfold Desk.withValue
  rw [h.evaluateWith]
  cases desk.evaluateWith grammar.expressions expression with
  | error failure => exact ⟨rfl, h⟩
  | ok value => exact hnext value

theorem go (h : desk.Alike other) (line : String) (going? : Option Going) :
    AlikeOutcomes (desk.go line going?) (other.go line going?) := by
  cases going? with
  | none => exact ⟨rfl, h⟩
  | some going =>
    unfold Desk.go
    dsimp only
    cases going.destination with
    | error failure => exact ⟨rfl, h⟩
    | ok destination =>
      obtain ⟨htarget, hresolved⟩ := h.resolve destination
      dsimp only
      rw [htarget]
      cases (desk.resolve destination).1 with
      | none => exact hresolved.report _
      | some target =>
        obtain ⟨hmoved, harrived⟩ := hresolved.moveTo target
        exact ⟨congrArg (Except.map _) hmoved, harrived⟩

theorem writeField (h : desk.Alike other) (name value : String) :
    AlikeOutcomes (desk.writeField name value) (other.writeField name value) := by
  unfold Desk.writeField
  rw [h.currentPlace?, h.currentCard?, h.stack]
  cases desk.currentPlace? with
  | none => exact ⟨rfl, h⟩
  | some place =>
    cases desk.currentCard? with
    | none => exact ⟨rfl, h⟩
    | some card =>
      dsimp only
      cases card.fieldPlace? name with
      | none => exact h.report _
      | some fieldPlace =>
        cases card.findField? name with
        | none => exact h.report _
        | some field =>
          have hwritten : Desk.Alike
              { stack := desk.stack.modifyCard place fun card ↦ card.writeText fieldPlace value
                session := { desk.session with currentFieldName := some field.name } }
              { stack := desk.stack.modifyCard place fun card ↦ card.writeText fieldPlace value
                session := { other.session with currentFieldName := some field.name } } :=
            { h with stack := rfl, currentFieldName := rfl }
          exact ⟨rfl, (hwritten.log .setField _ _).setVariables value ""⟩

theorem get (h : desk.Alike other) (name : String) :
    AlikeOutcomes (desk.get name) (other.get name) := by
  unfold Desk.get
  rw [h.currentCard?]
  cases desk.currentCard? with
  | none => exact ⟨rfl, h⟩
  | some card =>
    dsimp only
    cases card.findField? name with
    | none => exact ⟨rfl, h.setVariables "" ""⟩
    | some field => exact ⟨rfl, (h.point (some field.name)).setVariables field.text ""⟩

theorem findText (h : desk.Alike other) (query : String) :
    AlikeOutcomes (desk.findText query) (other.findText query) := by
  have hlogged := h.log .find query query
  unfold Desk.findText
  dsimp only
  rw [hlogged.stack]
  cases (desk.log .find query).stack.searchFields? query with
  | none => exact ⟨rfl, { hlogged with result := rfl }⟩
  | some target =>
    obtain ⟨hmoved, harrived⟩ := hlogged.moveTo target
    dsimp only
    rcases hdesk : (desk.log .find query).moveTo target with ⟨failure | moved, arrived⟩
    all_goals
      rcases hother : (other.log .find query).moveTo target with ⟨_, second⟩
      rw [hdesk, hother] at hmoved harrived
      obtain rfl := hmoved
    · exact ⟨rfl, harrived⟩
    · exact ⟨rfl, harrived.setVariables query ""⟩

/-- A command has the same answer on desks that are alike, and they are alike afterwards. -/
theorem perform (h : desk.Alike other) (grammar : Grammar) (line : String) (command : Command) :
    AlikeOutcomes (desk.perform grammar line command) (other.perform grammar line command) := by
  cases command with
  | nothing => exact ⟨rfl, h⟩
  | beep => exact ⟨rfl, { h with it := rfl, result := rfl }⟩
  | go going? => exact h.go line going?
  | put expression name =>
    show AlikeOutcomes (desk.put grammar expression name) (other.put grammar expression name)
    unfold put
    rw [h.stack]
    split_ifs
    · exact h.report _
    · exact h.withValue grammar expression fun value ↦ h.writeField name value
  | get name => exact h.get name
  | answer expression =>
    exact h.withValue grammar expression fun value ↦ ⟨rfl, h.setVariables "OK" ""⟩
  | find expression => exact h.withValue grammar expression h.findText
  | message => exact ⟨rfl, h.setVariables "" line⟩

end Alike

end Desk

end Cardfile
