import Cardfile.Session

/-!
# The store

A store maps keys to texts and keeps streams of numbered entries. Any call may fail: the outage of
a store says, for the number of a call and its command, whether it does. Every call is recorded,
the failed ones too, and a failed call changes nothing else. Closing a connection to the store is no
call: it is counted apart, and it may fail as well.
-/

set_option autoImplicit false
set_option relaxedAutoImplicit false

namespace Cardfile

inductive StoreCommand where
  | get
  | set
  | delete
  | append
  | readLatest
  deriving DecidableEq, Repr

/-- A call as recorded, without the value. -/
inductive StoreCall where
  | get (key : String)
  | set (key : String) (onlyIfAbsent : Bool) (lifetime : Option Int)
  | delete (key : String)
  | append (stream : String)
  | readLatest (stream : String)
  deriving DecidableEq, Repr

def StoreCall.command : StoreCall → StoreCommand
  | .get _ => .get
  | .set _ _ _ => .set
  | .delete _ => .delete
  | .append _ => .append
  | .readLatest _ => .readLatest

/-- The error of a call that fails. -/
structure StoreDown where
  deriving DecidableEq, Repr

def StoreDown.message (_ : StoreDown) : String := "down"

structure StreamEntry where
  id : String
  event : Event
  deriving DecidableEq, Repr

structure Store where
  data : List (String × String) := []
  streams : List (String × List StreamEntry) := []
  appended : Nat := 0
  calls : List StoreCall := []
  outage : Nat → StoreCommand → Bool := fun _ _ ↦ false
  closings : Nat := 0
  closingFails : Nat → Bool := fun _ ↦ false

/-- An association list with a key bound to a value, in its old place if it was bound before. -/
def bindKey {α : Type} (key : String) (value : α) : List (String × α) → List (String × α)
  | [] => [(key, value)]
  | (other, old) :: rest =>
    if other == key then (key, value) :: rest else (other, old) :: bindKey key value rest

def unbindKey {α : Type} (key : String) (entries : List (String × α)) : List (String × α) :=
  entries.filter fun entry ↦ entry.1 != key

namespace Store

/-- A call's result, or its failure, and the store afterwards. -/
abbrev Result (α : Type) := Except StoreDown α × Store

def value? (store : Store) (key : String) : Option String :=
  store.data.lookup key

def stream (store : Store) (key : String) : List StreamEntry :=
  (store.streams.lookup key).getD []

/-- The keys in order. -/
def sortedKeys (store : Store) : List String :=
  (store.data.map (·.1)).mergeSort fun a b ↦ decide (a ≤ b)

/-- Records a call, and then lets it act unless it fails. -/
def call {α : Type} (store : Store) (call : StoreCall) (act : Store → α × Store) : Result α :=
  let recorded := { store with calls := store.calls ++ [call] }
  if store.outage store.calls.length call.command then (.error {}, recorded)
  else
    let (result, after) := act recorded
    (.ok result, after)

def withKey (store : Store) (key value : String) : Store :=
  { store with data := bindKey key value store.data }

def withoutKey (store : Store) (key : String) : Store :=
  { store with data := unbindKey key store.data }

def get (store : Store) (key : String) : Result (Option String) :=
  store.call (.get key) fun store ↦ (store.value? key, store)

def set (store : Store) (key value : String) : Result Unit :=
  store.call (.set key false none) fun store ↦ ((), store.withKey key value)

/-- Binds a key for a lifetime in milliseconds if it is free; tells whether it was. -/
def acquire (store : Store) (key value : String) (lifetime : Int) : Result Bool :=
  store.call (.set key true (some lifetime)) fun store ↦
    if (store.value? key).isSome then (false, store) else (true, store.withKey key value)

def delete (store : Store) (key : String) : Result Unit :=
  store.call (.delete key) fun store ↦ ((), store.withoutKey key)

/-- Appends an event to a stream under an id that counts the entries of all streams. -/
def append (store : Store) (key : String) (event : Event) : Result String :=
  store.call (.append key) fun store ↦
    let id := Text.decimal (store.appended + 1 : Nat) ++ "-0"
    (id, { store with
      streams := bindKey key (store.stream key ++ [⟨id, event⟩]) store.streams
      appended := store.appended + 1 })

/-- The latest entries of a stream, newest first. -/
def readLatest (store : Store) (key : String) (count : Int) : Result (List StreamEntry) :=
  store.call (.readLatest key) fun store ↦ ((store.stream key).reverse.take count.toNat, store)

/-- Closes a connection. -/
def close (store : Store) : Result Unit :=
  let closed := { store with closings := store.closings + 1 }
  if store.closingFails store.closings then (.error {}, closed) else (.ok (), closed)

end Store

end Cardfile
