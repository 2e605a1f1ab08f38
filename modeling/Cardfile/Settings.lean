import Cardfile.Text.Numeral

/-!
# Settings from the environment

Three environment variables override the defaults. A lock lifetime that is not a positive whole
number counts as not given.
-/

set_option autoImplicit false
set_option relaxedAutoImplicit false

namespace Cardfile

structure Settings where
  snapshotKeyStart : String := "cardstack:snapshot:"
  lockLifetime : Int := 5000
  storeUrl : String := "redis://localhost:6379/0"
  deriving DecidableEq, Repr

namespace Settings

/-- The lifetime written in a text, in milliseconds. -/
def lifetimeOf? (text : String) : Option Int :=
  (Text.readWhole? text).filter fun lifetime ↦ 0 < lifetime

def ofEnvironment (valueOf : String → Option String) : Settings :=
  let defaults : Settings := {}
  { snapshotKeyStart :=
      (valueOf "CARDSTACK_SNAPSHOT_KEY_PREFIX").getD defaults.snapshotKeyStart
    lockLifetime :=
      ((valueOf "CARDSTACK_LOCK_TTL_MS").bind lifetimeOf?).getD defaults.lockLifetime
    storeUrl := (valueOf "REDIS_URL").getD defaults.storeUrl }

/-- The key under which the snapshot of a stack is stored. -/
def snapshotKey (settings : Settings) (stackName : String) : String :=
  settings.snapshotKeyStart ++ stackName

end Settings

end Cardfile
