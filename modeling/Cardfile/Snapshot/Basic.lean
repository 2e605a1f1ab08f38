import Cardfile.Desk.Basic
import Cardfile.Stack.Property

/-!
# Snapshots of a desk

A snapshot keeps what a person may have changed: the level, font and size, the current card and
field, and the names of cards and texts of fields by id. Merging it into a desk takes over each
part that suits the desk and skips the rest. Of several cards with one id the first is meant, of
several fields of a card with one id the last.
-/

set_option autoImplicit false
set_option relaxedAutoImplicit false

namespace Cardfile

structure FieldSnapshot where
  id : Int
  text : String := ""
  deriving DecidableEq, Repr

structure CardSnapshot where
  id : Int
  name : String := ""
  fields : List FieldSnapshot := []
  deriving DecidableEq, Repr

structure Snapshot where
  userLevel : Int := 5
  scriptTextFont : WideText := "Monaco"
  scriptTextSize : Int := 9
  currentCardIndex : Int := 0
  currentFieldName : Option String := none
  cards : List CardSnapshot := []
  deriving DecidableEq, Repr

/-! ### Taking a snapshot -/

def TextField.snapshot (field : TextField) : FieldSnapshot :=
  ⟨field.id, field.text⟩

def Card.snapshot (card : Card) : CardSnapshot :=
  ⟨card.id, card.name, card.fields.map TextField.snapshot⟩

def Desk.snapshot (desk : Desk) : Snapshot where
  userLevel := desk.stack.userLevel
  scriptTextFont := desk.stack.scriptTextFont
  scriptTextSize := desk.stack.scriptTextSize
  currentCardIndex := desk.session.currentCardIndex
  currentFieldName := desk.session.currentFieldName
  cards := desk.stack.cards.map Card.snapshot

/-! ### Merging a snapshot -/

/-- The place of the last field with an id. -/
def Card.lastFieldPlace? (card : Card) (id : Int) : Option Nat :=
  (card.fields.reverse.findIdx? fun field ↦ field.id == id).map fun place ↦
    card.fields.length - 1 - place

def Card.mergeField (card : Card) (saved : FieldSnapshot) : Card :=
  match card.lastFieldPlace? saved.id with
  | some place => card.writeText place saved.text
  | none => card

def Card.merge (card : Card) (saved : CardSnapshot) : Card :=
  saved.fields.foldl Card.mergeField { card with name := saved.name }

def Stack.mergeCard (stack : Stack) (saved : CardSnapshot) : Stack :=
  match stack.cardPlace? saved.id with
  | some place => stack.modifyCard place fun card ↦ card.merge saved
  | none => stack

/-- The stack with the saved level, font and size, as far as each suits. -/
def Stack.mergeProperties (stack : Stack) (snapshot : Snapshot) : Stack :=
  { stack with
    userLevel :=
      if isUserLevel snapshot.userLevel then snapshot.userLevel else stack.userLevel
    scriptTextFont :=
      if snapshot.scriptTextFont.isAllBlank then stack.scriptTextFont
      else snapshot.scriptTextFont
    scriptTextSize :=
      if 0 < snapshot.scriptTextSize then snapshot.scriptTextSize else stack.scriptTextSize }

def Stack.merge (stack : Stack) (snapshot : Snapshot) : Stack :=
  snapshot.cards.foldl Stack.mergeCard (stack.mergeProperties snapshot)

/-- The name of the field to stand at on a card: the one saved under a non-empty name if the card
has it, else the first. -/
def Card.restoredFieldName? (card : Card) (saved : Option String) : Option String :=
  let named := saved.bind fun name ↦ if name.isEmpty then none else card.findField? name
  (named.map (·.name)) <|> card.firstFieldName?

/-- The session at the saved card, if there is one with that position, and at the saved field. -/
def Session.merge (session : Session) (stack : Stack) (snapshot : Snapshot) : Session :=
  let position :=
    if 0 ≤ snapshot.currentCardIndex ∧ snapshot.currentCardIndex < stack.cards.length then
      snapshot.currentCardIndex
    else session.currentCardIndex
  { session with
    currentCardIndex := position
    currentFieldName :=
      (stack.cardAt? position).bind fun card ↦ card.restoredFieldName? snapshot.currentFieldName }

def Desk.merge (desk : Desk) (snapshot : Snapshot) : Desk :=
  let stack := desk.stack.merge snapshot
  ⟨stack, desk.session.merge stack snapshot⟩

end Cardfile
