import Cardfile.Service.Path

/-!
# Routes

Each path of the service answers to one method; one line break at its end does not matter. A path
with slashes at its end leads on to the path without them, if a route has that one, and it is
received anew.
-/

set_option autoImplicit false
set_option relaxedAutoImplicit false

namespace Cardfile.Service

inductive Route where
  | health
  | info
  | view
  | cards
  | command
  | userLevel
  | property
  | cardName
  | openField
  | fieldText
  | closeField
  /-- The script of a button, whose id is still text. -/
  | script (button : String)
  | tool
  | previousLine
  | nextLine
  | events
  deriving DecidableEq, Repr

namespace Route

def method : Route → String
  | command | userLevel | property | openField | fieldText | closeField | tool => "POST"
  | cardName | script _ => "PUT"
  | _ => "GET"

def fixedPaths : List (String × Route) :=
  [("/healthcheck", health), ("/info", info), ("/stack", view), ("/stack/cards", cards),
    ("/stack/command", command), ("/stack/user_level", userLevel), ("/stack/property", property),
    ("/stack/card/name", cardName), ("/stack/field/open", openField),
    ("/stack/field/text", fieldText), ("/stack/field/close", closeField), ("/stack/tool", tool),
    ("/stack/history/previous", previousLine), ("/stack/history/next", nextLine),
    ("/stack/events", events)]

/-- The button in a path `/stack/buttons/…/script`. -/
def scriptButton? (path : List Char) : Option (List Char) :=
  let start := "/stack/buttons/".toList
  if start.isPrefixOf path then
    let rest := path.drop start.length
    let button := rest.takeWhile (· != '/')
    if !button.isEmpty && rest.drop button.length == "/script".toList then some button else none
  else none

def withoutLineBreak (path : List Char) : List Char :=
  if path.getLast? = some '\n' then path.dropLast else path

def ofExactPath? (path : List Char) : Option Route :=
  match fixedPaths.lookup (String.ofList (withoutLineBreak path)) with
  | some route => some route
  | none =>
    (scriptButton? (withoutLineBreak path)).map fun button ↦ script (String.ofList button)

def withoutEndSlashes (path : List Char) : List Char :=
  (path.reverse.dropWhile (· == '/')).reverse

/-- The route of a path that may lead on to others, each of them shorter. -/
def follow : Nat → List Char → Option Route
  | 0, _ => none
  | fuel + 1, path =>
    match ofExactPath? path with
    | some route => some route
    | none =>
      let bare := withoutEndSlashes path
      if bare.length < path.length && (ofExactPath? bare).isSome then
        follow fuel (receivedPath bare)
      else none

def ofPath? (path : String) : Option Route :=
  follow (path.length + 1) path.toList

end Route

end Cardfile.Service
