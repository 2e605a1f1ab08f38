import Cardfile.Command.Word
import Cardfile.Desk.Navigation
import Cardfile.Text.Numeral

/-!
# The spellings of a destination

`go [to] card 3`, `go [to] card "name"`, and `go [to] next [card]` with one of the words for a
direction. Card numbers are written in the digits of any script, with a minus sign at most.
-/

set_option autoImplicit false
set_option relaxedAutoImplicit false

namespace Cardfile

open Text Command

/-- A destination as written. -/
inductive Going where
  | number (negative : Bool) (digits : List Nat)
  | name (name : String)
  | toward (direction : Direction)
  deriving DecidableEq, Repr

namespace Going

def directionWords : List (String × Direction) :=
  [("next", .next), ("previous", .previous), ("prev", .previous), ("first", .first),
    ("last", .last), ("recent", .recent)]

/-- A number in digits of any script, and nothing after it. -/
def number? (text : List Char) : Option Going :=
  let (negative, unsigned) :=
    match text with
    | '-' :: rest => (true, rest)
    | _ => (false, text)
  match unsigned.takeWhile isAnyDigit with
  | [] => none
  | digits =>
    if isEnd (unsigned.dropWhile isAnyDigit) then
      some (.number negative (digits.filterMap digitValue?))
    else none

/-- A card by number or name, after the word `card`. -/
def card? (text : List Char) : Option Going := do
  let rest ← takeWordAndBlanks? "card" text
  match number? rest with
  | some going => some going
  | none => (quotedName? rest).map fun name ↦ .name (String.ofList name)

/-- A direction, with or without the word `card`. -/
def direction? (text : List Char) : Option Going :=
  directionWords.findSome? fun (word, direction) ↦
    if isPhrase [word] text || isPhrase [word, "card"] text then some (.toward direction) else none

/-- What a line says about where to go. -/
def ofLine? (line : List Char) : Option Going := do
  let rest := skipWord "to" (← takeWordAndBlanks? "go" line)
  card? rest <|> direction? rest

/-- The destination meant; a number of too many digits is not read. -/
def destination : Going → Except Failure Destination
  | .number negative digits =>
    if digits.length ≤ digitLimit then .ok (.number (withSign negative (numberOfDigits digits)))
    else .error (.numeralTooLong digits.length)
  | .name title => .ok (.name title)
  | .toward direction => .ok (.toward direction)

end Going

/-- The destination that a `go` line spells, if any. -/
def Destination.ofLine? (line : String) : Except Failure (Option Destination) :=
  match Going.ofLine? line.toList with
  | none => .ok none
  | some going => going.destination.map some

end Cardfile
