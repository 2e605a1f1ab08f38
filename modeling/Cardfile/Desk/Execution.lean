import Cardfile.Command.Basic

/-!
# Executing a line of the message box

Every line is logged and, unless it is blank, remembered; then it is carried out. What a command
cannot do it reports in its answer and in the variable `result`.
-/

set_option autoImplicit false
set_option relaxedAutoImplicit false

namespace Cardfile

namespace Destination

def arrivalMessage : Destination → String
  | .number n => "→ went to card " ++ Text.decimal n
  | .name title => "→ went to card \"" ++ title ++ "\""
  | .toward direction => "→ went to " ++ direction.name ++ " card"

def failureMessage : Destination → String
  | .number n => "Can't go to card " ++ Text.decimal n
  | .name title => "Can't find card \"" ++ title ++ "\""
  | .toward .recent => "No recent card"
  | .toward direction => "Can't go to " ++ direction.name ++ " card"

end Destination

namespace Desk

/-- An answer or a failure, and the desk afterwards. -/
abbrev Outcome := Except Failure String × Desk

/-- Answers with a message that is also left in `result`. -/
def report (desk : Desk) (message : String) : Outcome :=
  (.ok message, desk.mapSession fun session ↦ session.setResult message)

def setVariables (desk : Desk) (it result : String) : Desk :=
  desk.mapSession fun session ↦ session.setVariables (some it) (some result)

/-- Continues with the value of an expression. -/
def withValue (desk : Desk) (grammar : Grammar) (expression : String)
    (next : String → Outcome) : Outcome :=
  match desk.evaluateWith grammar.expressions expression with
  | .ok value => next value
  | .error failure => (.error failure, desk)

def go (desk : Desk) (line : String) : Option Going → Outcome
  | none => (.ok ("Unknown navigation: " ++ line), desk)
  | some going =>
    match going.destination with
    | .error failure => (.error failure, desk)
    | .ok destination =>
      let (target?, resolved) := desk.resolve destination
      match target? with
      | none => resolved.report destination.failureMessage
      | some target =>
        let (moved, arrived) := resolved.moveTo target
        (moved.map fun _ ↦ destination.arrivalMessage, arrived)

/-- Writes a value into the field with a name on the current card. -/
def writeField (desk : Desk) (name value : String) : Outcome :=
  match desk.currentPlace?, desk.currentCard? with
  | some place, some card =>
    match card.fieldPlace? name, card.findField? name with
    | some fieldPlace, some field =>
      let written : Desk :=
        { stack := desk.stack.modifyCard place fun card ↦ card.writeText fieldPlace value
          session := { desk.session with currentFieldName := some field.name } }
      (.ok value, (written.log .setField field.name).setVariables value "")
    | _, _ => desk.report ("Can't find field \"" ++ name ++ "\"")
  | _, _ => (.error .noSuchPosition, desk)

def put (desk : Desk) (grammar : Grammar) (expression name : String) : Outcome :=
  if desk.stack.cantModify then desk.report cantModifyMessage
  else desk.withValue grammar expression fun value ↦ desk.writeField name value

/-- Reads the field with a name on the current card, empty if there is none. -/
def get (desk : Desk) (name : String) : Outcome :=
  match desk.currentCard? with
  | none => (.error .noSuchPosition, desk)
  | some card =>
    match card.findField? name with
    | none => (.ok "", desk.setVariables "" "")
    | some field =>
      let pointed := desk.mapSession fun session ↦
        { session with currentFieldName := some field.name }
      (.ok field.text, pointed.setVariables field.text "")

def answer (desk : Desk) (grammar : Grammar) (expression : String) : Outcome :=
  desk.withValue grammar expression fun value ↦
    (.ok ("answer \"" ++ value ++ "\" (simulated)"), desk.setVariables "OK" "")

/-- Goes to the first card with a field that holds the query. -/
def findText (desk : Desk) (query : String) : Outcome :=
  let logged := desk.log .find query
  match logged.stack.searchFields? query with
  | none =>
    (.ok ("Couldn't find \"" ++ query ++ "\""),
      logged.mapSession fun session ↦ session.setResult "not found")
  | some target =>
    match logged.moveTo target with
    | (.error failure, stopped) => (.error failure, stopped)
    | (.ok _, arrived) => (.ok ("found \"" ++ query ++ "\""), arrived.setVariables query "")

def find (desk : Desk) (grammar : Grammar) (expression : String) : Outcome :=
  desk.withValue grammar expression desk.findText

/-- Carries out a command that a line without blanks at its ends says. -/
def perform (desk : Desk) (grammar : Grammar) (line : String) : Command → Outcome
  | .nothing => (.ok "", desk)
  | .beep => (.ok "🔔 (beep)", desk.mapSession Session.clearVariables)
  | .go going => desk.go line going
  | .put expression name => desk.put grammar expression name
  | .get name => desk.get name
  | .answer expression => desk.answer grammar expression
  | .find expression => desk.find grammar expression
  | .message => (.ok ("sent line: " ++ line), desk.setVariables "" line)

/-- Logs a line, and remembers it unless it is blank. -/
def receive (desk : Desk) (raw : String) : Desk :=
  let logged := desk.log .command raw
  if (Text.strip raw).isEmpty then logged
  else logged.mapSession fun session ↦ session.rememberCommand raw

def executeWith (grammar : Grammar) (desk : Desk) (raw : String) : Outcome :=
  let line := Text.strip raw
  (desk.receive raw).perform grammar line (Command.ofLineWith grammar.commands line.toList)

def execute (desk : Desk) (raw : String) : Outcome :=
  desk.executeWith .standard raw

end Desk

end Cardfile
