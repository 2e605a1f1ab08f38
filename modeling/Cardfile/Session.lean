import Cardfile.Failure
import Cardfile.Stack.Basic

/-!
# The session of one person browsing a stack

A session holds the current card and field, the two message variables, the recent cards, the
remembered commands with a recall cursor, and a log of events. The log keeps only its latest
entries, but every event is counted, so that the events since an earlier count can be told apart
even after older ones are gone.
-/

set_option autoImplicit false
set_option relaxedAutoImplicit false

namespace Cardfile

/-! ### Events -/

inductive EventKind where
  | openCard
  | closeCard
  | setField
  | openField
  | closeField
  | find
  | scriptEdited
  | userLevelChanged
  | setProperty
  | command
  /-- A kind that no operation of a desk logs. -/
  | other (name : String)
  deriving DecidableEq, Repr

namespace EventKind

def name : EventKind → String
  | openCard => "openCard"
  | closeCard => "closeCard"
  | setField => "setField"
  | openField => "openField"
  | closeField => "closeField"
  | find => "find"
  | scriptEdited => "scriptEdited"
  | userLevelChanged => "userLevelChanged"
  | setProperty => "setProperty"
  | command => "command"
  | other name => name

def known : List EventKind :=
  [openCard, closeCard, setField, openField, closeField, find, scriptEdited, userLevelChanged,
    setProperty, command]

def ofName (name : String) : EventKind :=
  (known.find? fun kind ↦ kind.name == name).getD (other name)

end EventKind

structure Event where
  kind : EventKind
  detail : String := ""
  deriving DecidableEq, Repr

/-! ### State -/

inductive Tool where
  | browse
  | button
  | field
  deriving DecidableEq, Repr

namespace Tool

def name : Tool → String
  | browse => "browse"
  | button => "button"
  | field => "field"

def ofName? (name : String) : Option Tool :=
  [browse, button, field].find? fun tool ↦ tool.name == name

end Tool

structure Variables where
  it : String := ""
  result : String := ""
  deriving DecidableEq, Repr

/-- `editingFieldId` names the field open for direct editing, if any. `historyIndex` is the recall
cursor, absent when the input line is a new one. -/
structure Session where
  currentCardIndex : Int := 0
  currentFieldName : Option String := none
  recentCards : List Int := []
  messageLog : List Event := []
  commandHistory : List String := []
  historyIndex : Option Int := none
  vars : Variables := {}
  selectedTool : Tool := .browse
  editingFieldId : Option Int := none
  eventsLogged : Nat := 0
  deriving DecidableEq, Repr

namespace Session

def messageLogLimit : Nat := 40

def recentCardsLimit : Nat := 20

/-- The last `count` elements of a list, all of them if there are fewer. -/
def lastOf {α : Type} (count : Nat) (elements : List α) : List α :=
  elements.drop (elements.length - count)

/-! ### The log -/

def log (session : Session) (kind : EventKind) (detail : String) : Session :=
  { session with
    messageLog := lastOf messageLogLimit (session.messageLog ++ [⟨kind, detail⟩])
    eventsLogged := session.eventsLogged + 1 }

/-- The latest `count` entries of the log, none for a count below one. -/
def recentMessages (session : Session) (count : Int) : List Event :=
  lastOf count.toNat session.messageLog

/-- The entries logged after the first `mark` events, as far as the log still holds them. -/
def eventsSince (session : Session) (mark : Int) : List Event :=
  session.recentMessages (min (session.eventsLogged - mark) session.messageLog.length)

/-! ### Recent cards -/

def pushRecent (session : Session) (cardId : Int) : Session :=
  { session with recentCards := (cardId :: session.recentCards).take recentCardsLimit }

def popRecent (session : Session) : Option Int × Session :=
  match session.recentCards with
  | [] => (none, session)
  | cardId :: rest => (some cardId, { session with recentCards := rest })

/-! ### Variables -/

def clearVariables (session : Session) : Session :=
  { session with vars := {} }

def setVariables (session : Session) (it result : Option String) : Session :=
  { session with
    vars :=
      { it := it.getD session.vars.it, result := result.getD session.vars.result } }

def setResult (session : Session) (result : String) : Session :=
  session.setVariables none (some result)

/-! ### Command history -/

def rememberCommand (session : Session) (line : String) : Session :=
  { session with commandHistory := session.commandHistory ++ [line], historyIndex := none }

/-- The remembered line under the cursor, once the cursor has been moved to `position`. -/
def recallAt (session : Session) (position : Int) : Except Failure (Option String) × Session :=
  let moved := { session with historyIndex := some position }
  match elementAt? session.commandHistory position with
  | some line => (.ok (some line), moved)
  | none => (.error .noSuchPosition, moved)

/-- Steps the cursor back, to the newest line first and never before the oldest. -/
def historyPrevious (session : Session) : Except Failure (Option String) × Session :=
  if session.commandHistory.isEmpty then (.ok none, session)
  else
    match session.historyIndex with
    | none => session.recallAt (session.commandHistory.length - 1)
    | some position => session.recallAt (if 0 < position then position - 1 else position)

/-- Steps the cursor forward; past the newest line lies an empty new one. -/
def historyNext (session : Session) : Except Failure (Option String) × Session :=
  match session.historyIndex with
  | none => (.ok none, session)
  | some position =>
    if (session.commandHistory.length : Int) - 1 ≤ position then
      (.ok (some ""), { session with historyIndex := none })
    else session.recallAt (position + 1)

end Session

end Cardfile
