import Cardfile.Command.Word
import Cardfile.Desk.Basic

/-!
# Expressions

An expression is a quoted literal, a field, the name of the current card, the number of cards or
one of the two variables; any other text stands for itself. The forms are listed as a table of
rules of which the first that recognises the text decides.
-/

set_option autoImplicit false
set_option relaxedAutoImplicit false

namespace Cardfile

open Text

/-- One entry of a table: a form and the meaning of the texts that have it. -/
structure Rule (α : Type) where
  form : String
  recognise : List Char → Option α

/-- The meaning by the first rule that recognises a text. -/
def Rule.first? {α : Type} (rules : List (Rule α)) (text : List Char) : Option α :=
  rules.findSome? fun rule ↦ rule.recognise text

inductive Expression where
  | literal (text : String)
  | field (name : String)
  | cardName
  | cardCount
  | result
  | it
  deriving DecidableEq, Repr

namespace Expression

open Command

/-- A text between double quotes; what stands between them is taken as it is, quotes included. -/
def literal? : List Char → Option (List Char)
  | '"' :: rest =>
    let inner := dropLineEnd rest
    if inner.getLast? = some '"' then some inner.dropLast else none
  | _ => none

def phrase (words : List String) (expression : Expression) : List Char → Option Expression :=
  fun text ↦ if isPhrase words text then some expression else none

def rules : List (Rule Expression) := [
  ⟨"quoted literal", fun text ↦ (literal? text).map fun inner ↦ .literal (String.ofList inner)⟩,
  ⟨"field", fun text ↦ (fieldReference? text).map fun name ↦ .field (String.ofList name)⟩,
  ⟨"card name", phrase ["the", "name", "of", "this", "card"] .cardName⟩,
  ⟨"card count", phrase ["the", "number", "of", "cards"] .cardCount⟩,
  ⟨"result", phrase ["the", "result"] .result⟩,
  ⟨"it", phrase ["it"] .it⟩]

/-- What a text without blanks at its ends says under a table of rules. -/
def ofTextWith (table : List (Rule Expression)) (text : List Char) : Expression :=
  (Rule.first? table text).getD (.literal (String.ofList text))

/-- The value on a desk. A field that the current card does not have is empty. -/
def value (expression : Expression) (desk : Desk) : Except Failure String :=
  let ofCard (read : Card → String) : Except Failure String :=
    match desk.currentCard? with
    | some card => .ok (read card)
    | none => .error .noSuchPosition
  match expression with
  | literal text => .ok text
  | field name => ofCard fun card ↦ card.fieldText name
  | cardName => ofCard fun card ↦ card.name
  | cardCount => .ok (decimal desk.stack.cards.length)
  | result => .ok desk.session.vars.result
  | it => .ok desk.session.vars.it

end Expression

namespace Desk

/-- The value of an expression text, blanks at its ends ignored, under a table of rules. -/
def evaluateWith (desk : Desk) (table : List (Rule Expression)) (text : String) :
    Except Failure String :=
  (Expression.ofTextWith table (trim text.toList)).value desk

def evaluate (desk : Desk) (text : String) : Except Failure String :=
  desk.evaluateWith Expression.rules text

end Desk

end Cardfile
