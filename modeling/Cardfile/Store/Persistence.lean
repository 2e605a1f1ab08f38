import Cardfile.Settings
import Cardfile.Snapshot.Document
import Cardfile.Store.Basic

/-!
# Saving and restoring a desk

Persistence never stops an operation: a store that fails and a text that is no snapshot both count
as nothing saved.
-/

set_option autoImplicit false
set_option relaxedAutoImplicit false

namespace Cardfile

namespace Store

/-- The snapshot stored for a stack, if there is a readable one. -/
def loadSnapshot (store : Store) (settings : Settings) (stackName : String) :
    Option Snapshot × Store :=
  match store.get (settings.snapshotKey stackName) with
  | (.ok (some text), after) =>
    (if text.isEmpty then none else (Snapshot.decode text).value?, after)
  | (_, after) => (none, after)

/-- Stores the snapshot of a stack if it has a text; tells whether the store took it. -/
def saveSnapshot (store : Store) (settings : Settings) (stackName : String) (snapshot : Snapshot) :
    Bool × Store :=
  match snapshot.encode? with
  | none => (false, store)
  | some text =>
    match store.set (settings.snapshotKey stackName) text with
    | (.ok _, after) => (true, after)
    | (.error _, after) => (false, after)

end Store

namespace Desk

def save (desk : Desk) (settings : Settings) (store : Store) : Bool × Store :=
  store.saveSnapshot settings desk.stack.name desk.snapshot

/-- Merges the stored snapshot into the desk; tells whether there was one. -/
def restore (desk : Desk) (settings : Settings) (store : Store) : Bool × Desk × Store :=
  match store.loadSnapshot settings desk.stack.name with
  | (some snapshot, after) => (true, desk.merge snapshot, after)
  | (none, after) => (false, desk, after)

/-- The starter desk, with what a store holds of it if there is a store. -/
def resume (settings : Settings) : Option Store → Desk × Option Store
  | none => (starter, none)
  | some store =>
    let (_, desk, after) := starter.restore settings store
    (desk, some after)

end Desk

end Cardfile
