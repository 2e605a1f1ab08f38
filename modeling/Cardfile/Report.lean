import Cardfile.Stack.Basic
import Cardfile.Table
import Cardfile.Text.Blank
import Cardfile.Text.Fold

/-!
# Reports

A stack lists the report templates that may be printed for it, matched without blanks at the ends
and whatever the letter case. Two templates have a layout: one row for each card, or one row for
each field.
-/

set_option autoImplicit false
set_option relaxedAutoImplicit false

namespace Cardfile

open Text

inductive ReportError where
  | unlisted (template : String)
  | noLayout (template : String)
  deriving DecidableEq, Repr

def ReportError.message : ReportError → String
  | .unlisted template => "Unknown report template: " ++ template
  | .noLayout template => "Report template has no layout: " ++ template

inductive Layout where
  | cardNames
  | fieldListing
  deriving DecidableEq, Repr

namespace Layout

/-- The folded name of the template that a layout serves. -/
def template : Layout → String
  | cardNames => "card names"
  | fieldListing => "field listing"

def ofTemplate? (folded : String) : Option Layout :=
  [cardNames, fieldListing].find? fun layout ↦ layout.template == folded

end Layout

namespace Stack

def cardNames (stack : Stack) : Table where
  columns := ["number", "id", "name"]
  rows := stack.cards.mapIdx fun place card ↦
    [.number (place + 1), .number card.id, .text card.name]

def fieldListing (stack : Stack) : Table where
  columns := ["card", "card_id", "field", "field_id", "text"]
  rows := stack.cards.flatMap fun card ↦ card.fields.map fun field ↦
    [.text card.name, .number card.id, .text field.name, .number field.id, .text field.text]

def lay (stack : Stack) : Layout → Table
  | .cardNames => stack.cardNames
  | .fieldListing => stack.fieldListing

/-- A template name as it is matched. -/
def templateKey (template : String) : String :=
  caseFold (strip template)

def report (stack : Stack) (template : String) : Except ReportError Table :=
  if (stack.reportTemplates.map templateKey).contains (templateKey template) then
    match Layout.ofTemplate? (templateKey template) with
    | some layout => .ok (stack.lay layout)
    | none => .error (.noLayout template)
  else .error (.unlisted template)

end Stack

end Cardfile
