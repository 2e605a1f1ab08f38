import Cardfile.Service.Message
import Cardfile.Service.Path

/-!
# Request targets

A target is a path, perhaps with a query behind a `?`; what follows a `#` is not sent.
-/

set_option autoImplicit false
set_option relaxedAutoImplicit false

namespace Cardfile.Service

open Text

/-- A target without the authority that follows two slashes. -/
def withoutAuthority : List Char → List Char
  | '/' :: '/' :: rest => rest.dropWhile fun c ↦ c != '/' && c != '?'
  | target => target

/-- The request for a target. Parameters that are given apart replace the query of the target. -/
def Request.ofTarget (method target : String) (parameters : Option (List (String × String)))
    (body : Option String) : Request :=
  let sent := withoutAuthority (splitAtFirst '#' target.toList).1
  let query := (splitAtFirst '?' sent).2.getD []
  { method := method
    path := String.ofList (receivedPath (pathOfTarget sent))
    query := parameters.getD ((queryPairs true query).map fun (name, value) ↦
      (String.ofList name, String.ofList value))
    body := body }

end Cardfile.Service
