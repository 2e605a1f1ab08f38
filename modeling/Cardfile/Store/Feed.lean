import Cardfile.Store.Basic

/-!
# The event feed

The events of a stack are appended to a stream for watchers outside the program.
-/

set_option autoImplicit false
set_option relaxedAutoImplicit false

namespace Cardfile.Feed

def key (stackName : String) : String :=
  "events:" ++ stackName

/-- Appends events in order up to the first call that fails, and gives their ids. -/
def publish (store : Store) (stackName : String) : List Event → Store.Result (List String)
  | [] => (.ok [], store)
  | event :: rest =>
    match store.append (key stackName) event with
    | (.error down, after) => (.error down, after)
    | (.ok id, after) =>
      let (ids, final) := publish after stackName rest
      (ids.map (id :: ·), final)

/-- The latest entries, oldest first. -/
def latest (store : Store) (stackName : String) (count : Int) : Store.Result (List StreamEntry) :=
  let (entries, after) := store.readLatest (key stackName) count
  (entries.map List.reverse, after)

end Cardfile.Feed
