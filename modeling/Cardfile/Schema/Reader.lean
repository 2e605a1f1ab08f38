import Cardfile.Json.Value
import Cardfile.Schema.Checked
import Cardfile.Text.LooseNumeral

/-!
# Readers of JSON parts

A `Reader` turns a JSON value into a value of the domain. Readers are lenient about form: a whole
number may be written as a truth value, as a text or with an empty fraction, and a truth value as
a number or a word. Unknown keys of a record are ignored.
-/

set_option autoImplicit false
set_option relaxedAutoImplicit false

namespace Cardfile.Schema

open Text

abbrev Reader (α : Type) := Json → Checked α

variable {α : Type}

/-! ### Plain values -/

def wholeOfText (text : String) : Checked Int :=
  match readLoosely text with
  | .ok n => .valid n
  | .error .tooLong => .flawed .oversizedWhole
  | .error .unreadable => .flawed .unreadableWhole

/-- Binary numbers count as whole below `2 ^ 63` in magnitude. -/
def wholeOfReal : Binary64 → Checked Int
  | .finite mantissa exponent =>
    match (Binary64.finite mantissa exponent).whole? with
    | none => .flawed .fractional
    | some n => if -Int.pow 2 63 < n && n < Int.pow 2 63 then .valid n else .flawed .oversizedWhole
  | _ => .flawed .notFinite

def wholeNumber : Reader Int
  | .whole n => .valid n
  | .bool b => .valid (if b then 1 else 0)
  | .real x => wholeOfReal x
  | .text t => wholeOfText t
  | _ => .flawed .notWhole

def anyText : Reader String
  | .text t => .valid t
  | _ => .flawed .notText

def wideText : Reader WideText
  | .text t => .valid (.plain t)
  | .halved codes => .valid (.halved codes)
  | _ => .flawed .notText

def textUpTo (limit : Nat) : Reader String := fun json ↦
  (anyText json).andThen fun t ↦
    if limit < t.length then .flawed .textTooLong else .valid t

/-- Zero and one are truth values; other numbers that fit 64 bits are unreadable ones. -/
def flagOfWhole (n : Int) : Checked Bool :=
  if n = 0 then .valid false
  else if n = 1 then .valid true
  else if -Int.pow 2 63 ≤ n && n < Int.pow 2 63 then .flawed .unreadableFlag
  else .flawed .notFlag

def falseWords : List String := ["0", "off", "f", "false", "n", "no"]

def trueWords : List String := ["1", "on", "t", "true", "y", "yes"]

def truthValue : Reader Bool
  | .bool b => .valid b
  | .whole n => flagOfWhole n
  | .real x =>
    match wholeOfReal x with
    | .valid n => flagOfWhole n
    | .invalid _ => .flawed .notFlag
  | .text t =>
    let word := String.ofList (t.toList.map Char.toLower)
    if falseWords.contains word then .valid false
    else if trueWords.contains word then .valid true
    else .flawed .unreadableFlag
  | _ => .flawed .notFlag

/-- A text, or nothing for `null`. -/
def nullable (reader : Reader α) : Reader (Option α)
  | .null => .valid none
  | json => some <$> reader json

/-! ### Bounds -/

def atLeast (minimum : Int) (reader : Reader Int) : Reader Int := fun json ↦
  (reader json).andThen fun n ↦ if n < minimum then .flawed .belowMinimum else .valid n

def atMost (maximum : Int) (reader : Reader Int) : Reader Int := fun json ↦
  (reader json).andThen fun n ↦ if maximum < n then .flawed .aboveMaximum else .valid n

def above (bound : Int) (reader : Reader Int) : Reader Int := fun json ↦
  (reader json).andThen fun n ↦ if n ≤ bound then .flawed .notAbove else .valid n

/-! ### Lists, records, alternatives -/

def itemsFrom (reader : Reader α) : Nat → List Json → Checked (List α)
  | _, [] => .valid []
  | position, item :: rest =>
    List.cons <$> (reader item).under (.index position) <*> itemsFrom reader (position + 1) rest

def listOf (reader : Reader α) : Reader (List α)
  | .list items => itemsFrom reader 0 items
  | _ => .flawed .notList

/-- A record read member by member; anything else has the given flaw. -/
def recordOr (flaw : Flaw) (build : List (String × Json) → Checked α) : Reader α
  | .record members => build members
  | _ => .flawed flaw

def record (build : List (String × Json) → Checked α) : Reader α :=
  recordOr .notRecord build

def required (members : List (String × Json)) (key : String) (reader : Reader α) : Checked α :=
  (match Json.member? members key with
    | some json => reader json
    | none => .flawed .missing).under (.key key)

def withDefault (members : List (String × Json)) (key : String) (reader : Reader α) (default : α) :
    Checked α :=
  match Json.member? members key with
  | some json => (reader json).under (.key key)
  | none => .valid default

/-- The first labelled alternative that reads the value; if none does, the problems of all. -/
def firstOf : List (String × Reader α) → Reader α
  | [], _ => .invalid []
  | (label, reader) :: rest, json =>
    match reader json with
    | .valid value => .valid value
    | .invalid problems =>
      match firstOf rest json with
      | .valid value => .valid value
      | .invalid more =>
        .invalid (problems.map (fun problem ↦ ⟨problem.flaw, .key label :: problem.path⟩) ++ more)

end Cardfile.Schema
