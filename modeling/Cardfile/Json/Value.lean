import Cardfile.Json.Binary64
import Cardfile.Text.Wide

/-!
# JSON values

Whole numbers are exact; other numerals are binary numbers. A record keeps its members in the
order written, and a repeated key means its last member. A text may hold halves of surrogate pairs;
it is then known by its code points.
-/

set_option autoImplicit false
set_option relaxedAutoImplicit false

namespace Cardfile

inductive Json where
  | null
  | bool (value : Bool)
  | whole (value : Int)
  | real (value : Binary64)
  | text (value : String)
  /-- A text with half of a surrogate pair in it, as its code points. -/
  | halved (codes : List Nat)
  | list (items : List Json)
  | record (members : List (String × Json))
  deriving Repr

namespace Json

def ofWide : WideText → Json
  | .plain value => .text value
  | .halved codes => .halved codes

/-- The member with a key; of several, the last. -/
def member? (members : List (String × Json)) (key : String) : Option Json :=
  members.reverse.lookup key

def field? (key : String) : Json → Option Json
  | .record members => member? members key
  | _ => none

mutual

/-- Whether a value can be written as strict JSON with so many containers within each other at most:
no part of it is an infinity, not a number, or a text with half of a surrogate pair. Members that a
later one with the same key replaces do not count. -/
def isSendable : Nat → Json → Bool
  | _, .real (.finite _ _) => true
  | _, .real _ => false
  | _, .halved _ => false
  | 0, .list _ => false
  | 0, .record _ => false
  | room + 1, .list items => areSendable room items
  | room + 1, .record members => membersSendable room members
  | _, _ => true

def areSendable : Nat → List Json → Bool
  | _, [] => true
  | room, item :: rest => isSendable room item && areSendable room rest

def membersSendable : Nat → List (String × Json) → Bool
  | _, [] => true
  | room, (key, value) :: rest =>
    (rest.any (·.1 == key) || isSendable room value) && membersSendable room rest

end

end Json

end Cardfile
