import Cardfile.Json.Encoding
import Cardfile.Json.Reader
import Cardfile.Schema.Reader
import Cardfile.Service.Message
import Cardfile.Service.Route
import Cardfile.Stack.Property

/-!
# From requests to actions

What a request orders depends on the request alone. `Request.intent` gives the action, or the
response to a request that orders nothing: one that no route serves, or one with faults.
-/

set_option autoImplicit false
set_option relaxedAutoImplicit false

namespace Cardfile.Service

open Schema

/-- What a well-formed request orders. -/
inductive Action where
  | showView
  | listCards
  | execute (line : String)
  | setUserLevel (level : Int)
  | setProperty (name : WideText) (value : PropertyValue)
  | renameCard (name : String)
  | openField (name : WideText)
  | editField (text : String)
  | closeField
  | editScript (buttonId : Int) (script : String)
  | selectTool (name : WideText)
  | previousLine
  | nextLine
  | readEvents (count : Int)
  deriving DecidableEq, Repr

/-- What a request comes to. A rejected request still needs the desk to be there. -/
inductive Intent where
  | answered (response : Response)
  | rejected (response : Response)
  | order (action : Action)

/-! ### Bodies -/

def lineLimit : Nat := 4000

def scriptLimit : Nat := 30000

def fieldTextLimit : Nat := 30000

def cardNameLimit : Nat := 255

/-- A text stays a text; anything else must be a whole number. -/
def propertyValue : Reader PropertyValue :=
  firstOf [("str", fun json ↦ PropertyValue.text <$> wideText json),
    ("int", fun json ↦ PropertyValue.number <$> wholeNumber json)]

/-- What the body of a route must hold, if the route has a body. The reader takes the button id of
a script, which comes from the path. -/
def bodyReader? : Route → Option (List (String × Json) → Int → Checked Action)
  | .command => some fun m _ ↦ .execute <$> required m "line" (textUpTo lineLimit)
  | .userLevel => some fun m _ ↦ .setUserLevel <$> required m "level" wholeNumber
  | .property => some fun m _ ↦
    .setProperty <$> required m "name" wideText <*> required m "value" propertyValue
  | .cardName => some fun m _ ↦ .renameCard <$> required m "name" (textUpTo cardNameLimit)
  | .openField => some fun m _ ↦ .openField <$> required m "name" wideText
  | .fieldText => some fun m _ ↦ .editField <$> required m "text" (textUpTo fieldTextLimit)
  | .script _ => some fun m buttonId ↦
    .editScript buttonId <$> required m "script" (textUpTo scriptLimit)
  | .tool => some fun m _ ↦ .selectTool <$> required m "tool" wideText
  | _ => none

/-- The JSON of request bodies. -/
def bodyDialect (encoding : Json.Encoding) : Json.Dialect where
  nestingLimit := 962
  countsEmpty := true
  limitsFractions := false
  admitsHalfPairs := true
  hasStandIns := encoding != .utf8

/-- The body of a request, none if it is absent or empty; or the response to a body that is no
JSON. -/
def readBody (request : Request) : Except Response (Option Json) :=
  match request.body.filter (!·.isEmpty) with
  | none => .ok none
  | some text =>
    match Json.decoded? text with
    | none => .error .unparsableBody
    | some (encoding, chars) =>
      match Json.readChars (bodyDialect encoding) chars with
      | .ok value => .ok (some value)
      | .error (.unexpected remaining) =>
        let position := chars.length - remaining
        .error (.invalid [⟨.brokenJson, [.key "body", .index position]⟩])
      | .error _ => .error .unparsableBody

/-- Reads the members of a body. -/
def readMembers (body : Option Json) (build : List (String × Json) → Checked Action) :
    Checked Action :=
  let members :=
    match body with
    | none => Checked.flawed .missing
    | some json => recordOr .notRequestBody build json
  members.under (.key "body")

/-! ### Parameters -/

/-- The button id of a script route; other routes have none. -/
def pathParameter : Route → Checked Int
  | .script button => ((wholeOfText button).under (.key "button_id")).under (.key "path")
  | _ => .valid 0

def defaultEventCount : Int := 20

/-- How many events to read; of several parameters the last counts. -/
def countParameter (query : List (String × String)) : Checked Int :=
  match query.reverse.lookup "count" with
  | some text => ((wholeOfText text).under (.key "count")).under (.key "query")
  | none => .valid defaultEventCount

/-! ### Intents -/

/-- The value in which a problem was found, as far as a response shows it: what is missing, or no
record, is shown by the whole body, any other flaw by the member of the body that it lies in. -/
def questioned? (body : Option Json) (problem : Problem) : Option Json :=
  match problem.path with
  | .key "body" :: rest =>
    if problem.flaw = .missing ∨ problem.flaw = .notRequestBody then body
    else
      match rest with
      | .key name :: _ => body.bind (Json.field? name)
      | _ => body
  | _ => none

/-- How many containers may lie within each other in a value that a response shows. -/
def shownNestingLimit : Nat := 957

def isShowable (body : Option Json) (problem : Problem) : Bool :=
  (questioned? body problem).all (Json.isSendable shownNestingLimit)

/-- The response to a request with problems shows the values in question, and fails if one of them
cannot be sent. -/
def problemsResponse (body : Option Json) (problems : List Problem) : Response :=
  if problems.all (isShowable body) then
    .invalid problems
  else .internalError

def Intent.ofChecked (body : Option Json) : Checked Action → Intent
  | .valid action => .order action
  | .invalid problems => .rejected (problemsResponse body problems)

/-- The action of a route with a body: the id from the path goes first, then the body. -/
def bodyAction (route : Route) (body : Option Json)
    (build : List (String × Json) → Int → Checked Action) : Checked Action :=
  match pathParameter route with
  | .valid id => readMembers body fun m ↦ build m id
  | .invalid problems =>
    match readMembers body fun m ↦ build m 0 with
    | .valid _ => .invalid problems
    | .invalid more => .invalid (problems ++ more)

def healthReport : Json :=
  .record [("status", .text "ok")]

def aboutReport : Json :=
  .record [("name", .text "cardstack"), ("version", .text "0.1.0")]

/-- What a request on a route comes to. -/
def Route.intent (route : Route) (request : Request) : Intent :=
  match bodyReader? route with
  | some build =>
    match readBody request with
    | .error response => .answered response
    | .ok body => .ofChecked body (bodyAction route body build)
  | none =>
    match route with
    | .health => .answered (.ok healthReport)
    | .info => .answered (.ok aboutReport)
    | .cards => .order .listCards
    | .closeField => .order .closeField
    | .previousLine => .order .previousLine
    | .nextLine => .order .nextLine
    | .events => .ofChecked none (Action.readEvents <$> countParameter request.query)
    | _ => .order .showView

def Request.intent (request : Request) : Intent :=
  match Route.ofPath? request.path with
  | none => .answered .notFound
  | some route =>
    if request.method = route.method then route.intent request else .answered .methodNotAllowed

end Cardfile.Service
