import Cardfile.Desk.Basic
import Cardfile.Stack.Document

/-!
# What a desk shows

The view holds all that is needed to draw the current card, with a short and a longer tail of the
event log. It is a value of its own: later changes of the desk leave it alone.
-/

set_option autoImplicit false
set_option relaxedAutoImplicit false

namespace Cardfile

namespace Event

def toJson (event : Event) : Json :=
  .record [("name", .text event.kind.name), ("detail", .text event.detail)]

end Event

namespace Json

/-- A text, or `null` for none. -/
def ofText? : Option String → Json
  | some value => .text value
  | none => .null

/-- A whole number, or `null` for none. -/
def ofWhole? : Option Int → Json
  | some value => .whole value
  | none => .null

end Json

def Variables.toJson (vars : Variables) : Json :=
  .record [("it", .text vars.it), ("result", .text vars.result)]

structure CardSummary where
  id : Int
  name : String
  number : Nat
  deriving DecidableEq, Repr

def CardSummary.toJson (summary : CardSummary) : Json :=
  .record [("id", .whole summary.id), ("name", .text summary.name),
    ("number", .whole summary.number)]

structure View where
  stackName : String
  userLevel : Int
  cantModify : Bool
  cardCount : Nat
  currentCardIndex : Int
  currentCard : Card
  currentFieldName : Option String
  vars : Variables
  recentCards : List Int
  selectedTool : Tool
  events : List Event
  watcher : List Event
  deriving DecidableEq, Repr

def View.toJson (view : View) : Json :=
  .record [("stack_name", .text view.stackName), ("user_level", .whole view.userLevel),
    ("cant_modify", .bool view.cantModify), ("card_count", .whole view.cardCount),
    ("current_card_index", .whole view.currentCardIndex),
    ("current_card", view.currentCard.toJson),
    ("current_field_name", .ofText? view.currentFieldName),
    ("variables", view.vars.toJson),
    ("recent_cards", .list (view.recentCards.map Json.whole)),
    ("selected_tool", .text view.selectedTool.name),
    ("events", .list (view.events.map Event.toJson)),
    ("watcher", .list (view.watcher.map Event.toJson))]

namespace Desk

/-- How many of the latest events the event strip shows. -/
def eventStripSize : Nat := 6

/-- How many of the latest events the message watcher shows. -/
def watcherSize : Nat := 12

/-- The cards in order, numbered from one. -/
def cardSummaries (desk : Desk) : List CardSummary :=
  desk.stack.cards.mapIdx fun place card ↦ ⟨card.id, card.name, place + 1⟩

/-- The view, as long as the desk stands at a card. -/
def view? (desk : Desk) : Option View :=
  desk.currentCard?.map fun card ↦
    { stackName := desk.stack.name
      userLevel := desk.stack.userLevel
      cantModify := desk.stack.cantModify
      cardCount := desk.stack.cards.length
      currentCardIndex := desk.session.currentCardIndex
      currentCard := card
      currentFieldName := desk.currentField?.map (·.name)
      vars := desk.session.vars
      recentCards := desk.session.recentCards
      selectedTool := desk.session.selectedTool
      events := desk.session.recentMessages eventStripSize
      watcher := desk.session.recentMessages watcherSize }

end Desk

end Cardfile
