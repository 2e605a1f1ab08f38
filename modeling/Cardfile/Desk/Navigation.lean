import Cardfile.Desk.Basic

/-!
# Moving between cards

A destination is resolved to the place of a card, if it leads anywhere, and the desk is then moved
there. Moving closes the field being edited, remembers the card left behind, logs the change,
points at the first field of the new card and clears the variables. Moving to the card the desk is
on changes nothing.
-/

set_option autoImplicit false
set_option relaxedAutoImplicit false

namespace Cardfile

inductive Direction where
  | next
  | previous
  | first
  | last
  | recent
  deriving DecidableEq, Repr

def Direction.name : Direction → String
  | .next => "next"
  | .previous => "previous"
  | .first => "first"
  | .last => "last"
  | .recent => "recent"

/-- Cards are numbered from one. -/
inductive Destination where
  | number (number : Int)
  | name (name : String)
  | toward (direction : Direction)
  deriving DecidableEq, Repr

namespace Desk

/-- The place `offset` cards further round the stack. -/
def placeAround (desk : Desk) (offset : Int) : Nat :=
  ((desk.session.currentCardIndex + offset) % desk.stack.cards.length).toNat

/-- The place a direction leads to. Going to the recent card uses it up, even if it is gone from
the stack. -/
def resolveDirection (desk : Desk) : Direction → Option Nat × Desk
  | .next => (some (desk.placeAround 1), desk)
  | .previous => (some (desk.placeAround (-1)), desk)
  | .first => (some 0, desk)
  | .last => (some (desk.stack.cards.length - 1), desk)
  | .recent =>
    let (cardId?, session) := desk.session.popRecent
    (cardId?.bind desk.stack.cardPlace?, { desk with session := session })

/-- The place a destination leads to, and the desk afterwards. -/
def resolve (desk : Desk) (destination : Destination) : Option Nat × Desk :=
  if desk.stack.cards.isEmpty then (none, desk)
  else
    match destination with
    | .number n =>
      (if 1 ≤ n ∧ n ≤ desk.stack.cards.length then some (n - 1).toNat else none, desk)
    | .name name => (desk.stack.cardPlaceByName? name, desk)
    | .toward direction => desk.resolveDirection direction

/-- Ends the editing of a field, if one is open. -/
def leaveField (desk : Desk) : Desk :=
  if desk.session.editingFieldId.isSome then
    (desk.log .closeField (desk.session.currentFieldName.getD "")).mapSession fun session ↦
      { session with editingFieldId := none }
  else desk

/-- Goes from one card to another at a given position. -/
def arrive (desk : Desk) (old new : Card) (target : Int) : Desk :=
  ((desk.leaveField.mapSession fun session ↦ session.pushRecent old.id).log .closeCard
    old.name).mapSession fun session ↦
      ({ session with currentCardIndex := target }.log .openCard new.name
        |> fun session ↦ { session with currentFieldName := new.firstFieldName? }
        |> Session.clearVariables)

/-- Moves to the card at a position; tells whether that was a move. -/
def moveTo (desk : Desk) (target : Int) : Except Failure Bool × Desk :=
  if target < 0 ∨ desk.stack.cards.length ≤ target then (.error (.noSuchCard target), desk)
  else if target = desk.session.currentCardIndex then (.ok false, desk)
  else
    match desk.currentCard?, desk.stack.cardAt? target with
    | some old, some new => (.ok true, desk.arrive old new target)
    | _, _ => (.error .noSuchPosition, desk)

end Desk

end Cardfile
