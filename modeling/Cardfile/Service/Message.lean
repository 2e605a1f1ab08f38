import Cardfile.Json.Value
import Cardfile.Schema.Checked

/-!
# Requests and responses
-/

set_option autoImplicit false
set_option relaxedAutoImplicit false

namespace Cardfile.Service

structure Request where
  method : String
  path : String
  query : List (String × String) := []
  body : Option String := none
  deriving DecidableEq, Repr

/-- What a response holds: JSON, plain text, or the problems found in a request. -/
inductive Content where
  | json (value : Json)
  | plain (text : String)
  | problems (found : List Schema.Problem)

structure Response where
  status : Nat
  content : Content

namespace Response

def ok (value : Json) : Response :=
  ⟨200, .json value⟩

def detail (status : Nat) (message : String) : Response :=
  ⟨status, .json (.record [("detail", .text message)])⟩

/-- An order that is understood but refused. -/
def refused (message : String) : Response :=
  detail 422 message

def invalid (found : List Schema.Problem) : Response :=
  ⟨422, .problems found⟩

def notFound : Response :=
  detail 404 "Not Found"

def methodNotAllowed : Response :=
  detail 405 "Method Not Allowed"

def unparsableBody : Response :=
  detail 400 "There was an error parsing the body"

def internalError : Response :=
  ⟨500, .plain "Internal Server Error"⟩

/-- The response to a request that asks for the head alone. -/
def headOnly (response : Response) : Response :=
  { response with content := .plain "" }

end Response

end Cardfile.Service
