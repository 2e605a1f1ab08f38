import Cardfile.Stack.Basic

/-!
# The starter stack

The stack a new session opens when none is given.
-/

set_option autoImplicit false
set_option relaxedAutoImplicit false

namespace Cardfile.Stack

def goScript (direction : String) : String :=
  "on mouseUp\n  go " ++ direction ++ " card\nend mouseUp"

def welcomeCard : Card where
  id := 101
  name := "Welcome"
  backgroundId := 1
  fields := [
    { id := 1001, name := "Title", text := "Welcome to your stack" },
    { id := 1002, name := "Body", text := "Type commands into the message box, e.g. go next" }]
  buttons := [{ id := 2001, name := "Next", script := goScript "next" }]

def notesCard : Card where
  id := 102
  name := "Notes"
  backgroundId := 1
  fields := [
    { id := 1003, name := "Title", text := "Notes" },
    { id := 1004, name := "Body", text := "Fields hold plain text." }]
  buttons := [
    { id := 2002, name := "Prev", script := goScript "prev" },
    { id := 2003, name := "Next", script := goScript "next" }]

def indexCard : Card where
  id := 103
  name := "Index"
  backgroundId := 1
  fields := [
    { id := 1005, name := "Title", text := "Index" },
    { id := 1006, name := "Body" },
    { id := 1007, name := "Footer", text := "Last card", lockText := true }]
  buttons := [{ id := 2004, name := "Home", script := goScript "first" }]

def starter : Stack where
  name := "Home"
  reportTemplates := ["Card Names", "Field Listing"]
  backgrounds := [{ id := 1, name := "Main Background" }]
  cards := [welcomeCard, notesCard, indexCard]

end Cardfile.Stack
