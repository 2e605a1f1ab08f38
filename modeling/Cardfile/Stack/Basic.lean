import Cardfile.Text.Wide

/-!
# Stacks of cards

A stack holds cards in order; a card holds text fields and buttons. Ids and names need not be
distinct: every lookup settles for the first match.
-/

set_option autoImplicit false
set_option relaxedAutoImplicit false

namespace Cardfile

structure Rect where
  x : Int := 0
  y : Int := 0
  w : Int := 512
  h : Int := 342
  deriving DecidableEq, Repr

structure Background where
  id : Int
  name : String := ""
  rect : Rect := {}
  deriving DecidableEq, Repr

/-- A field with `lockText` refuses direct edits; `put` commands still write it. -/
structure TextField where
  id : Int
  name : String
  text : String := ""
  textFont : String := "Geneva"
  textSize : Int := 12
  lockText : Bool := false
  deriving DecidableEq, Repr

/-- The script of a button is kept for its editor and never run. -/
structure Button where
  id : Int
  name : String
  script : String := ""
  deriving DecidableEq, Repr

structure Card where
  id : Int
  name : String := ""
  backgroundId : Int
  rect : Rect := {}
  fields : List TextField := []
  buttons : List Button := []
  deriving DecidableEq, Repr

structure Stack where
  name : String
  cantModify : Bool := false
  userLevel : Int := 5
  scriptTextFont : WideText := "Monaco"
  scriptTextSize : Int := 9
  reportTemplates : List String := []
  backgrounds : List Background := []
  cards : List Card := []
  deriving DecidableEq, Repr

/-- The place of an integer position in a list of `length` elements; negative positions count from
the end. -/
def placeOf? (length : Nat) (position : Int) : Option Nat :=
  if 0 ≤ position then
    if position < length then some position.toNat else none
  else if -(length : Int) ≤ position then some (position + length).toNat
  else none

/-- The element at an integer position. -/
def elementAt? {α : Type} (elements : List α) (position : Int) : Option α :=
  (placeOf? elements.length position).bind fun place ↦ elements[place]?

theorem placeOf?_natCast {length place : Nat} (h : place < length) :
    placeOf? length (place : Int) = some place := by
  unfold placeOf?
  have : (place : Int) < length := by omega
  simp [this]

end Cardfile
