import Cardfile.Command.Expression
import Cardfile.Command.Going

/-!
# Commands of the message box

A line is a command by the first rule of a table that recognises it; a line that no rule
recognises is a message.
-/

set_option autoImplicit false
set_option relaxedAutoImplicit false

namespace Cardfile

open Text

inductive Command where
  | nothing
  | beep
  /-- A `go` line, with the destination if it spells one. -/
  | go (going : Option Going)
  | put (expression fieldName : String)
  | get (fieldName : String)
  | answer (expression : String)
  | find (expression : String)
  | message
  deriving DecidableEq, Repr

namespace Command

def beep? (line : List Char) : Option Command :=
  if isPhrase ["beep"] line then some .beep else none

def go? (line : List Char) : Option Command :=
  (takeWordAndBlanks? "go" line).map fun _ ↦ .go (Going.ofLine? line)

/-- The field named by a clause `into field "name"`. -/
def intoClause? (text : List Char) : Option (List Char) :=
  (takeWordAndBlanks? "into" text).bind fieldReference?

/-- A text split before its clause `into field "name"`, and the name. -/
def splitInto? : List Char → Option (List Char × List Char)
  | [] => none
  | c :: rest =>
    match intoClause? (c :: rest) with
    | some name => some ([], name)
    | none => (splitInto? rest).map fun (before, name) ↦ (c :: before, name)

def put? (line : List Char) : Option Command := do
  let (middle, name) ← splitInto? (← takeWord? "put".toList line)
  return .put (String.ofList (← enclosed? middle)) (String.ofList name)

def get? (line : List Char) : Option Command := do
  let name ← fieldReference? (← takeWordAndBlanks? "get" line)
  return .get (String.ofList name)

def answer? (line : List Char) : Option Command := do
  return .answer (String.ofList (← argument? (← takeWord? "answer".toList line)))

def find? (line : List Char) : Option Command := do
  return .find (String.ofList (← argument? (← takeWord? "find".toList line)))

def rules : List (Rule Command) := [
  ⟨"empty", fun line ↦ if isEnd line then some .nothing else none⟩,
  ⟨"beep", beep?⟩,
  ⟨"go", go?⟩,
  ⟨"put", put?⟩,
  ⟨"get", get?⟩,
  ⟨"answer", answer?⟩,
  ⟨"find", find?⟩]

/-- What a line says under a table of rules. -/
def ofLineWith (table : List (Rule Command)) (line : List Char) : Command :=
  (Rule.first? table line).getD .message

end Command

/-- The tables by which lines and expressions are understood. -/
structure Grammar where
  commands : List (Rule Command)
  expressions : List (Rule Expression)

def Grammar.standard : Grammar :=
  ⟨Command.rules, Expression.rules⟩

end Cardfile
