import Cardfile.Desk.Edit
import Cardfile.Desk.Execution
import Cardfile.Service.Action
import Cardfile.Store.Feed
import Cardfile.Store.Lock
import Cardfile.Store.Persistence
import Cardfile.Text.Quoted
import Cardfile.Watchers

/-!
# The service

A service is a desk, made when the first request needs it, with a store behind it and watchers in
front. A change of the desk is committed: the desk is saved, the new events are appended to the
feed, and every watcher is sent an update. A request that needs the desk closes its connection to
the store in the end. Neither a failed save nor a failed append nor a failed closing stops the
request.
-/

set_option autoImplicit false
set_option relaxedAutoImplicit false

namespace Cardfile

open Service

/-- The state of a service. Updates to the `unreachable` watchers fail; those that arrive are
listed in `sent`. -/
structure Service where
  desk : Option Desk := none
  store : Store := {}
  settings : Settings := {}
  watchers : Watchers := {}
  unreachable : List WatcherId := []
  sent : List (WatcherId × Update) := []

namespace Service

def notStartedMessage : String :=
  "Engine not initialized. Call init_engine() first."

/-! ### The desk -/

/-- The desk, a starter one if there was none. -/
def start (service : Service) : Desk × Service :=
  match service.desk with
  | some desk => (desk, service)
  | none => (Desk.starter, { service with desk := some Desk.starter })

/-- The desk; if there was none, a starter one with the stored snapshot. -/
def startRestored (service : Service) : Desk × Service :=
  match service.desk with
  | some desk => (desk, service)
  | none =>
    let (_, desk, store) := Desk.starter.restore service.settings service.store
    (desk, { service with desk := some desk, store := store })

def setDesk (service : Service) (desk : Desk) : Service :=
  { service with desk := some desk }

/-! ### Committing a change -/

/-- Sends some events of a desk to its watchers; gives the number of them reached. -/
def broadcast (service : Service) (desk : Desk) (events : List Event) : Nat × Service :=
  match desk.update? events with
  | none => (0, service)
  | some update =>
    let delivery := service.watchers.broadcast desk.stack.name update fun id ↦
      !service.unreachable.contains id
    let delivered := delivery.offers.filter (·.delivered)
    (delivery.reached,
      { service with
        watchers := delivery.watchers
        sent := service.sent ++ delivered.map fun offer ↦ (offer.watcher, offer.update) })

/-- Takes over a changed desk, and passes on the events since an earlier count. -/
def commit (service : Service) (desk : Desk) (mark : Nat) : Service :=
  let events := desk.session.eventsSince mark
  let (_, saved) := desk.save service.settings service.store
  let (_, published) := Feed.publish saved desk.stack.name events
  (broadcast { service with desk := some desk, store := published } desk events).2

/-! ### Answers -/

def viewResponse (desk : Desk) : Response :=
  match desk.view? with
  | some view => .ok view.toJson
  | none => .internalError

def answerResponse (answer : String) (desk : Desk) : Response :=
  match desk.view? with
  | some view => .ok (.record [("response", .text answer), ("view", view.toJson)])
  | none => .internalError

def cardsResponse (desk : Desk) : Response :=
  .ok (.record [("cards", .list (desk.cardSummaries.map CardSummary.toJson))])

def recallResponse (desk : Desk) : Except Failure (Option String) → Response
  | .ok line => .ok (.record [("line", .ofText? line),
      ("history_index", .ofWhole? desk.session.historyIndex)])
  | .error _ => .internalError

def eventsResponse (stackName : String) (entries : List StreamEntry) : Response :=
  let message (entry : StreamEntry) : Json :=
    .record [("id", .text entry.id), ("fields", entry.event.toJson)]
  .ok (.record [("stack", .text stackName), ("stream", .text (Feed.key stackName)),
    ("messages", .list (entries.map message))])

def failureResponse : Failure → Response
  | .noSuchPosition => .internalError
  | failure => .refused failure.message

def refusalResponse : Refusal → Response
  | .noCurrentCard => .internalError
  | refusal => .refused refusal.message

/-- A property value as a refusal shows it. -/
def shownValue? : PropertyValue → Option String
  | .text value => some value.quoted
  | .number value => Text.writeWhole? value
  | .flag value => some (if value then "True" else "False")

/-- The response that refuses to set a property, unless its value cannot be shown. -/
def propertyRefusal (name : String) (value : PropertyValue) : Response :=
  match shownValue? value with
  | some shown => .refused ("Can't set " ++ name ++ " to " ++ shown)
  | none => .internalError

/-! ### Actions -/

/-- Executes a line under the lock of the stack. -/
def execute (service : Service) (desk : Desk) (line : String) : Response × Service :=
  let (outcome, store) := Lock.run service.store service.settings desk.stack.name none fun held ↦
    (desk.execute line, held)
  let unlocked := { service with store := store }
  match outcome with
  | none => (.refused Lock.busyMessage, unlocked)
  | some (.error failure, after) => (failureResponse failure, unlocked.setDesk after)
  | some (.ok answer, after) =>
    (answerResponse answer after, unlocked.commit after desk.session.eventsLogged)

/-- Commits an edit unless it was refused. -/
def edit {α : Type} (service : Service) (desk : Desk) (outcome : Except Refusal α × Desk) :
    Response × Service :=
  match outcome with
  | (.error refusal, _) => (refusalResponse refusal, service)
  | (.ok _, after) => (viewResponse after, service.commit after desk.session.eventsLogged)

/-- Commits a setting unless it was refused. -/
def adjust (service : Service) (desk : Desk) (outcome : Bool × Desk) (refusal : Response) :
    Response × Service :=
  match outcome with
  | (false, _) => (refusal, service)
  | (true, after) => (viewResponse after, service.commit after desk.session.eventsLogged)

def setProperty (service : Service) (desk : Desk) (name : String) (value : PropertyValue) :
    Response × Service :=
  match desk.setProperty name value with
  | (.error _, _) => (.internalError, service)
  | (.ok accepted, after) =>
    service.adjust desk (accepted, after) (propertyRefusal name value)

/-- Commits a new name of the current card. If the renaming fails, what it did to the desk stays. -/
def rename (service : Service) (desk : Desk) (name : String) : Response × Service :=
  match desk.renameCard name with
  | (.error _, after) => (.internalError, service.setDesk after)
  | (.ok _, after) => (viewResponse after, service.commit after desk.session.eventsLogged)

def editScript (service : Service) (desk : Desk) (buttonId : Int) (script : String) :
    Response × Service :=
  match desk.editScript buttonId script with
  | (.error refusal, _) => (.detail 404 refusal.message, service)
  | (.ok _, after) =>
    (match after.stack.findButton? buttonId with
      | some button => .ok button.toJson
      | none => .internalError,
      service.commit after desk.session.eventsLogged)

def selectTool (service : Service) (desk : Desk) (name : String) : Response × Service :=
  match desk.selectTool name with
  | (false, _) => (.refused ("Unknown tool: " ++ name), service)
  | (true, after) => (viewResponse after, service.setDesk after)

def recallLine (service : Service) (outcome : Except Failure (Option String) × Desk) :
    Response × Service :=
  (recallResponse outcome.2 outcome.1, service.setDesk outcome.2)

/-- The most events that one request may read. -/
def eventCountLimit : Int := 200

def readEvents (service : Service) (desk : Desk) (count : Int) : Response × Service :=
  if count < 1 ∨ eventCountLimit < count then
    (.refused "count must be between 1 and 200", service)
  else
    let (entries, store) := Feed.latest service.store desk.stack.name count
    (match entries with
      | .ok entries => eventsResponse desk.stack.name entries
      | .error _ => .internalError,
      { service with store := store })

/-- Answers an order that names something. A name with half of a surrogate pair names nothing, and
the response that says so cannot be sent. -/
def withName (service : Service) (name : WideText) (answer : String → Response × Service) :
    Response × Service :=
  match name with
  | .plain text => answer text
  | .halved _ => (.internalError, service)

/-- Carries out an action on the desk of the service. -/
def act (service : Service) (desk : Desk) : Action → Response × Service
  | .showView => (viewResponse desk, service)
  | .listCards => (cardsResponse desk, service)
  | .execute line => service.execute desk line
  | .setUserLevel level =>
    service.adjust desk (desk.setUserLevel level) (.refused "user level must be 1..5")
  | .setProperty name value => service.withName name fun name ↦
    service.setProperty desk name value
  | .renameCard name => service.rename desk name
  | .openField name => service.withName name fun name ↦
    service.edit desk (desk.openField name)
  | .editField text => service.edit desk (desk.editFieldText text)
  | .closeField => service.edit desk desk.closeField
  | .editScript buttonId script => service.editScript desk buttonId script
  | .selectTool name => service.withName name fun name ↦ service.selectTool desk name
  | .previousLine => service.recallLine desk.historyPrevious
  | .nextLine => service.recallLine desk.historyNext
  | .readEvents count => service.readEvents desk count

/-- Closes the connection of a request to the store, whether or not that works. -/
def release (service : Service) : Service :=
  { service with store := service.store.close.2 }

/-- Carries out an intent. -/
def fulfil (service : Service) : Intent → Response × Service
  | .answered response => (response, service)
  | .rejected response => (response, service.startRestored.2.release)
  | .order action =>
    let (desk, started) := service.startRestored
    let (response, after) := started.act desk action
    (response, after.release)

/-- Answers a request. -/
def respond (service : Service) (request : Request) : Response × Service :=
  let (response, after) := service.fulfil request.intent
  (if request.method = "HEAD" then response.headOnly else response, after)

/-! ### Watching -/

def watch (service : Service) (stackName : String) (id : WatcherId) : Service :=
  { service with
    watchers := service.watchers.connect stackName id
    unreachable := service.unreachable.filter (· != id) }

def unwatch (service : Service) (stackName : String) (id : WatcherId) : Service :=
  { service with watchers := service.watchers.disconnect stackName id }

/-- A watcher leaves the stack that it watches. -/
def leave (service : Service) (id : WatcherId) : Service :=
  match service.watchers.stackOf? id with
  | some stackName => service.unwatch stackName id
  | none => service

/-- A watcher that can no longer be reached; it is dropped when that is noticed. -/
def lose (service : Service) (id : WatcherId) : Service :=
  { service with unreachable := id :: service.unreachable }

/-- A watcher that comes to the service itself and watches the stack of its desk. -/
def join (service : Service) (id : WatcherId) : Service :=
  let (desk, started) := service.startRestored
  started.watch desk.stack.name id

end Service

end Cardfile
