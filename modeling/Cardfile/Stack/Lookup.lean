import Cardfile.Stack.Basic
import Cardfile.Text.Fold

/-!
# Finding and changing parts of a stack

Names match whatever their letter case; blanks in them count. Each search gives the first match in
order, each change replaces one part and leaves the rest alone.
-/

set_option autoImplicit false
set_option relaxedAutoImplicit false

namespace Cardfile

open Text

/-! ### Fields of a card -/

namespace Card

def fieldPlace? (card : Card) (name : String) : Option Nat :=
  card.fields.findIdx? fun field ↦ sameName field.name name

def findField? (card : Card) (name : String) : Option TextField :=
  card.fields.find? fun field ↦ sameName field.name name

/-- The text of the field with a name, empty if there is none. -/
def fieldText (card : Card) (name : String) : String :=
  ((card.findField? name).map (·.text)).getD ""

def firstFieldName? (card : Card) : Option String :=
  card.fields.head?.map (·.name)

def writeText (card : Card) (place : Nat) (text : String) : Card :=
  { card with fields := card.fields.modify place fun field ↦ { field with text := text } }

def writeScript (card : Card) (place : Nat) (script : String) : Card :=
  { card with buttons := card.buttons.modify place fun button ↦ { button with script := script } }

end Card

/-! ### Parts of a stack -/

namespace Stack

def cardAt? (stack : Stack) (position : Int) : Option Card :=
  elementAt? stack.cards position

def cardPlace? (stack : Stack) (id : Int) : Option Nat :=
  stack.cards.findIdx? fun card ↦ card.id == id

def findCard? (stack : Stack) (id : Int) : Option Card :=
  stack.cards.find? fun card ↦ card.id == id

def cardPlaceByName? (stack : Stack) (name : String) : Option Nat :=
  stack.cards.findIdx? fun card ↦ sameName card.name name

def findFieldById? (stack : Stack) (id : Int) : Option TextField :=
  (stack.cards.flatMap (·.fields)).find? fun field ↦ field.id == id

def findButton? (stack : Stack) (id : Int) : Option Button :=
  (stack.cards.flatMap (·.buttons)).find? fun button ↦ button.id == id

/-- The card and the place on it of the first button with an id. -/
def buttonPlace? (stack : Stack) (id : Int) : Option (Nat × Nat) := do
  let holds (button : Button) := button.id == id
  let cardPlace ← stack.cards.findIdx? fun card ↦ card.buttons.any holds
  let card ← stack.cards[cardPlace]?
  let place ← card.buttons.findIdx? holds
  return (cardPlace, place)

/-- The first card one of whose fields holds the query, whatever the letter case. -/
def searchFields? (stack : Stack) (query : String) : Option Nat :=
  let needle := fold query.toList
  stack.cards.findIdx? fun card ↦ card.fields.any fun field ↦
    occursIn needle (fold field.text.toList)

def modifyCard (stack : Stack) (place : Nat) (change : Card → Card) : Stack :=
  { stack with cards := stack.cards.modify place change }

end Stack

end Cardfile
