import Cardfile.Settings
import Cardfile.Store.Basic

/-!
# Lock sections

A section runs its body while it holds the lock key of a stack. If the key is taken the body does
not run; if the store cannot be asked the body runs unlocked. The key is released only by the
section that took it, whatever the body's outcome and whether or not releasing works.
-/

set_option autoImplicit false
set_option relaxedAutoImplicit false

namespace Cardfile.Lock

def key (stackName : String) : String :=
  "lock:stack:" ++ stackName

def busyMessage : String := "Stack is busy"

/-- Runs a body under the lock of a stack. The result is the body's, or nothing if the lock is
taken. -/
def run {α : Type} (store : Store) (settings : Settings) (stackName : String)
    (lifetime : Option Int) (body : Store → α × Store) : Option α × Store :=
  match store.acquire (key stackName) "1" (lifetime.getD settings.lockLifetime) with
  | (.ok true, held) =>
    let (result, after) := body held
    (some result, (after.delete (key stackName)).2)
  | (.ok false, after) => (none, after)
  | (.error _, unlocked) =>
    let (result, after) := body unlocked
    (some result, after)

end Cardfile.Lock
