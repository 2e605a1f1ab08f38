import Cardfile.Desk.View

/-!
# Watchers of a stack

Each stack has a set of watchers. A broadcast offers one update to the watchers of the stack, one
after another, and drops those that it cannot be delivered to. Stacks without watchers are not kept.
-/

set_option autoImplicit false
set_option relaxedAutoImplicit false

namespace Cardfile

abbrev WatcherId := String

/-- What a watcher needs to redraw the card strip and the event watcher. -/
structure Update where
  stackName : String
  cardIndex : Int
  cardId : Int
  cardName : String
  vars : Variables
  events : List Event
  deriving DecidableEq, Repr

def Update.toJson (update : Update) : Json :=
  .record [("type", .text "stack_updated"), ("stack", .text update.stackName),
    ("card_index", .whole update.cardIndex), ("card_id", .whole update.cardId),
    ("card_name", .text update.cardName), ("variables", update.vars.toJson),
    ("events", .list (update.events.map Event.toJson))]

/-- The update that reports some events of a desk. -/
def Desk.update? (desk : Desk) (events : List Event) : Option Update :=
  desk.currentCard?.map fun card ↦
    { stackName := desk.stack.name
      cardIndex := desk.session.currentCardIndex
      cardId := card.id
      cardName := card.name
      vars := desk.session.vars
      events := events }

/-- The watchers by stack name. -/
structure Watchers where
  groups : List (String × List WatcherId) := []
  deriving DecidableEq, Repr

namespace Watchers

def of (watchers : Watchers) (stackName : String) : List WatcherId :=
  (watchers.groups.lookup stackName).getD []

/-- How many watch a stack. -/
def watching (watchers : Watchers) (stackName : String) : Nat :=
  (watchers.of stackName).length

/-- The stack that someone watches. -/
def stackOf? (watchers : Watchers) (id : WatcherId) : Option String :=
  (watchers.groups.find? fun group ↦ group.2.contains id).map (·.1)

/-- The watchers with one group replaced; an empty group is dropped. -/
def withGroup (watchers : Watchers) (stackName : String) (group : List WatcherId) : Watchers :=
  let others := watchers.groups.filter fun entry ↦ entry.1 != stackName
  ⟨if group.isEmpty then others else (stackName, group) :: others⟩

def connect (watchers : Watchers) (stackName : String) (id : WatcherId) : Watchers :=
  let group := watchers.of stackName
  watchers.withGroup stackName (if group.contains id then group else group ++ [id])

def disconnect (watchers : Watchers) (stackName : String) (id : WatcherId) : Watchers :=
  watchers.withGroup stackName ((watchers.of stackName).filter (· != id))

end Watchers

/-! ### Broadcasts -/

/-- An update offered to a watcher, and whether it was delivered. -/
structure Offer where
  watcher : WatcherId
  update : Update
  delivered : Bool
  deriving DecidableEq, Repr

/-- The offers of a broadcast in order, how many were delivered, and the watchers after it. -/
structure Delivery where
  offers : List Offer
  reached : Nat
  watchers : Watchers
  deriving DecidableEq, Repr

namespace Watchers

/-- Offers an update to a row of watchers. A watcher that it cannot be delivered to is disconnected
before the next one has its turn. -/
def offerEach (watchers : Watchers) (stackName : String) (update : Update)
    (delivers : WatcherId → Bool) : List WatcherId → Delivery
  | [] => ⟨[], 0, watchers⟩
  | id :: rest =>
    if delivers id then
      let later := watchers.offerEach stackName update delivers rest
      ⟨⟨id, update, true⟩ :: later.offers, later.reached + 1, later.watchers⟩
    else
      let later := (watchers.disconnect stackName id).offerEach stackName update delivers rest
      ⟨⟨id, update, false⟩ :: later.offers, later.reached, later.watchers⟩

/-- Offers an update to everyone who watches a stack when the broadcast starts. -/
def broadcast (watchers : Watchers) (stackName : String) (update : Update)
    (delivers : WatcherId → Bool) : Delivery :=
  watchers.offerEach stackName update delivers (watchers.of stackName)

end Watchers

end Cardfile
