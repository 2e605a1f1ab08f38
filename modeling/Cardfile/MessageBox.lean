import Cardfile.Desk.Execution
import Cardfile.Store.Persistence
import Cardfile.Text.Quoted

/-!
# The message box

A message box executes one line after another on a desk. It shows a prompt before each line, and
after it the answer and a status line. With a store, the desk is restored at the start and saved
after every line that was executed.
-/

set_option autoImplicit false
set_option relaxedAutoImplicit false

namespace Cardfile

/-- Where the desk of a message box stands. -/
structure Status where
  cardNumber : Int
  cardCount : Nat
  cardName : String
  vars : Variables
  deriving DecidableEq, Repr

def Status.text (status : Status) : String :=
  "[card " ++ Text.decimal status.cardNumber ++ "/" ++ Text.decimal status.cardCount ++ " " ++
    Text.quoted status.cardName ++ "] it=" ++ Text.quoted status.vars.it ++
    " result=" ++ Text.quoted status.vars.result

def Desk.status? (desk : Desk) : Option Status :=
  desk.currentCard?.map fun card ↦
    { cardNumber := desk.session.currentCardIndex + 1
      cardCount := desk.stack.cards.length
      cardName := card.name
      vars := desk.session.vars }

/-- A piece of what a message box shows. -/
inductive Display where
  | greeting (stackName : String)
  | status (standing : Status)
  | prompt
  | answer (text : String)
  | endOfInput
  deriving DecidableEq, Repr

def Display.text : Display → String
  | .greeting stackName =>
    "Message box for stack " ++ Text.quoted stackName ++ "\nExit: quit/exit\n\n"
  | .status standing => standing.text ++ "\n"
  | .prompt => "> "
  | .answer text => text ++ "\n"
  | .endOfInput => "\n"

structure MessageBox where
  desk : Desk
  /-- Where the desk is saved, if anywhere. -/
  store : Option Store := none
  settings : Settings := {}

/-- What a conversation showed, the failure that ended it if one did, and the box afterwards. -/
structure Conversation where
  shown : List Display
  failure : Option Failure
  box : MessageBox

def Conversation.text (conversation : Conversation) : String :=
  String.join (conversation.shown.map Display.text)

namespace MessageBox

/-- A message box on the starter desk, with what the store holds of it. -/
def start (settings : Settings) (store : Option Store) : MessageBox :=
  let (desk, store) := Desk.resume settings store
  { desk, store, settings }

def statusDisplay (box : MessageBox) : List Display :=
  (box.desk.status?.map Display.status).toList

def welcome (box : MessageBox) : List Display :=
  .greeting box.desk.stack.name :: box.statusDisplay

/-- Whether a line ends the conversation. -/
def isFarewell (line : String) : Bool :=
  ["quit", "exit"].contains (Text.strip line)

def save (box : MessageBox) : MessageBox :=
  { box with store := box.store.map fun store ↦ (box.desk.save box.settings store).2 }

/-- Executes a line and shows the answer, unless it is empty, and the status. -/
def enter (box : MessageBox) (line : String) : Except Failure (List Display) × MessageBox :=
  match box.desk.execute line with
  | (.error failure, after) => (.error failure, { box with desk := after })
  | (.ok answer, after) =>
    let answered := if answer.isEmpty then [] else [Display.answer answer]
    let changed : MessageBox := { box with desk := after }
    (.ok (answered ++ changed.statusDisplay), changed.save)

/-- Enters lines until one bids farewell or fails, or no line is left. -/
def enterAll (box : MessageBox) : List String → Conversation
  | [] => ⟨[.prompt, .endOfInput], none, box⟩
  | line :: rest =>
    if isFarewell line then ⟨[.prompt], none, box⟩
    else
      match box.enter line with
      | (.error failure, after) => ⟨[.prompt], some failure, after⟩
      | (.ok shown, after) =>
        let later := after.enterAll rest
        { later with shown := .prompt :: shown ++ later.shown }

/-- A whole conversation, from the greeting on. -/
def converse (settings : Settings) (store : Option Store) (lines : List String) : Conversation :=
  let box := start settings store
  let later := box.enterAll lines
  { later with shown := box.welcome ++ later.shown }

end MessageBox

end Cardfile
