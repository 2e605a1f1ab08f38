import Cardfile.Desk.Navigation
import Cardfile.Stack.Property

/-!
# Direct edits

Edits that do not go through the message box. A field is opened, its text is edited any number of
times, and it is closed again; opening another field closes the first. A refused edit leaves the
desk as it was. A card with a long id is renamed all the same, but the event that tells so cannot be
written, so the renaming fails.
-/

set_option autoImplicit false
set_option relaxedAutoImplicit false

namespace Cardfile

/-- Why a direct edit is refused. -/
inductive Refusal where
  | noSuchField (name : String)
  | lockedField (name : String)
  | cantModify
  | noOpenField
  | openFieldGone
  | noSuchButton
  /-- The session stands at no card of the stack. -/
  | noCurrentCard
  deriving DecidableEq, Repr

def Refusal.message : Refusal → String
  | .noSuchField name => "Can't find field \"" ++ name ++ "\""
  | .lockedField name => "Field \"" ++ name ++ "\" is locked"
  | .cantModify => Desk.cantModifyMessage
  | .noOpenField => "No field is open for editing"
  | .openFieldGone => "Open field no longer exists"
  | .noSuchButton => "Button not found"
  | .noCurrentCard => Failure.noSuchPosition.message

namespace Desk

/-! ### Fields -/

/-- The field of the current card that would be opened by a name, unless opening it is refused. -/
def openable (desk : Desk) (name : String) : Except Refusal TextField :=
  match desk.currentCard? with
  | none => .error .noCurrentCard
  | some card =>
    match card.findField? name with
    | none => .error (.noSuchField name)
    | some field =>
      if field.lockText then .error (.lockedField field.name)
      else if desk.stack.cantModify then .error .cantModify
      else .ok field

/-- Opens a field of the current card for editing, closing the one that is open. -/
def openField (desk : Desk) (name : String) : Except Refusal TextField × Desk :=
  match desk.openable name with
  | .error refusal => (.error refusal, desk)
  | .ok field =>
    let opened := desk.leaveField.mapSession fun session ↦
      { session with editingFieldId := some field.id, currentFieldName := some field.name }
    (.ok field, opened.log .openField field.name)

/-- Writes the text of the open field, if it is on the current card. -/
def editFieldText (desk : Desk) (text : String) : Except Refusal Unit × Desk :=
  match desk.session.editingFieldId with
  | none => (.error .noOpenField, desk)
  | some id =>
    match desk.currentPlace?, desk.currentCard? with
    | some place, some card =>
      let isOpen (field : TextField) := field.id == id
      match card.fields.findIdx? isOpen, card.fields.find? isOpen with
      | some fieldPlace, some field =>
        let written : Desk :=
          { desk with
            stack := desk.stack.modifyCard place fun card ↦ card.writeText fieldPlace text }
        (.ok (), written.log .setField field.name)
      | _, _ => (.error .openFieldGone, desk)
    | _, _ => (.error .noCurrentCard, desk)

def closeField (desk : Desk) : Except Refusal Unit × Desk :=
  if desk.session.editingFieldId.isSome then (.ok (), desk.leaveField)
  else (.error .noOpenField, desk)

/-! ### Scripts, names, properties, tools -/

def editScript (desk : Desk) (buttonId : Int) (script : String) : Except Refusal Unit × Desk :=
  match desk.stack.buttonPlace? buttonId, desk.stack.findButton? buttonId with
  | some (cardPlace, place), some button =>
    let written : Desk :=
      { desk with
        stack := desk.stack.modifyCard cardPlace fun card ↦ card.writeScript place script }
    (.ok (), written.log .scriptEdited button.name)
  | _, _ => (.error .noSuchButton, desk)

/-- The desk with another name for the card at a place. -/
def withCardName (desk : Desk) (place : Nat) (name : String) : Desk :=
  { desk with stack := desk.stack.modifyCard place fun card ↦ { card with name := name } }

/-- Names the current card. The name is given before the id is written into the event. -/
def renameCard (desk : Desk) (name : String) : Except Failure Unit × Desk :=
  match desk.currentPlace?, desk.currentCard? with
  | some place, some card =>
    let renamed := desk.withCardName place name
    match Text.writeWhole? card.id with
    | none => (.error .numberTooLong, renamed)
    | some id => (.ok (), renamed.log .setProperty ("name of card " ++ id))
  | _, _ => (.error .noSuchPosition, desk)

/-- Sets the user level; tells whether it was in range. -/
def setUserLevel (desk : Desk) (level : Int) : Bool × Desk :=
  match desk.stack.setUserLevel? level with
  | none => (false, desk)
  | some stack => (true, { desk with stack := stack }.log .userLevelChanged (Text.decimal level))

/-- Sets a property of the stack; tells whether it was accepted. The user level has an event of its
own. -/
def setProperty (desk : Desk) (name : String) (value : PropertyValue) :
    Except Failure Bool × Desk :=
  if Property.ofName? name = some .userLevel then
    match value.whole? with
    | some level =>
      let (accepted, after) := desk.setUserLevel level
      (.ok accepted, after)
    | none => (.ok false, desk)
  else
    match desk.stack.setProperty? name value with
    | .error failure => (.error failure, desk)
    | .ok none => (.ok false, desk)
    | .ok (some stack) => (.ok true, { desk with stack := stack }.log .setProperty name)

/-- Selects a tool by name; tells whether there is one. -/
def selectTool (desk : Desk) (name : String) : Bool × Desk :=
  match Tool.ofName? (Text.caseFold (Text.strip name)) with
  | none => (false, desk)
  | some tool => (true, desk.mapSession fun session ↦ { session with selectedTool := tool })

/-! ### Command recall -/

def historyPrevious (desk : Desk) : Except Failure (Option String) × Desk :=
  let (line, session) := desk.session.historyPrevious
  (line, { desk with session := session })

def historyNext (desk : Desk) : Except Failure (Option String) × Desk :=
  let (line, session) := desk.session.historyNext
  (line, { desk with session := session })

end Desk

end Cardfile
