import Cardfile.Session
import Cardfile.Stack.Lookup
import Cardfile.Stack.Starter

/-!
# The desk: a stack and the session browsing it

Every operation on a desk gives an outcome and the desk afterwards; a failed operation may have
changed the desk before it failed.
-/

set_option autoImplicit false
set_option relaxedAutoImplicit false

namespace Cardfile

structure Desk where
  stack : Stack
  session : Session := {}
  deriving DecidableEq, Repr

namespace Desk

def noCardsMessage : String := "A stack needs at least one card"

def cantModifyMessage : String := "Can't modify this stack"

def currentCard? (desk : Desk) : Option Card :=
  desk.stack.cardAt? desk.session.currentCardIndex

/-- The place of the current card in its stack. -/
def currentPlace? (desk : Desk) : Option Nat :=
  placeOf? desk.stack.cards.length desk.session.currentCardIndex

/-- The desk with a fresh session on a stack's first card and that card's first field; none for a
stack without cards. -/
def open? (stack : Stack) : Option Desk :=
  match stack.cards with
  | [] => none
  | first :: _ => some ⟨stack, { currentFieldName := first.firstFieldName? }⟩

/-- A fresh desk with the starter stack. -/
def starter : Desk :=
  ⟨Stack.starter, { currentFieldName := some "Title" }⟩

theorem open?_starter : open? Stack.starter = some starter := rfl

def mapSession (desk : Desk) (change : Session → Session) : Desk :=
  { desk with session := change desk.session }

def log (desk : Desk) (kind : EventKind) (detail : String) : Desk :=
  desk.mapSession fun session ↦ session.log kind detail

/-- The field named by the session if the current card has it, else that card's first field. -/
def currentField? (desk : Desk) : Option TextField := do
  let card ← desk.currentCard?
  let named := desk.session.currentFieldName.bind fun name ↦
    if name.isEmpty then none else card.findField? name
  named <|> card.fields.head?

end Desk

end Cardfile
