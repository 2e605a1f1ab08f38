import Cardfile.Failure
import Cardfile.Stack.Basic
import Cardfile.Text.Fold

/-!
# Properties of a stack set by name

A property has two spellings, matched without blanks at the ends and whatever the letter case. A
value that does not suit its property is refused, and the stack stays as it was. A font is set to
the text of a value; a number too long to be written has none, and setting the font to it fails.
-/

set_option autoImplicit false
set_option relaxedAutoImplicit false

namespace Cardfile

open Text

def minUserLevel : Int := 1

def maxUserLevel : Int := 5

def isUserLevel (level : Int) : Bool :=
  minUserLevel ≤ level && level ≤ maxUserLevel

inductive Property where
  | userLevel
  | scriptTextSize
  | scriptTextFont
  | cantModify
  deriving DecidableEq, Repr

namespace Property

def spellings : Property → List String
  | userLevel => ["userlevel", "user_level"]
  | scriptTextSize => ["scripttextsize", "script_text_size"]
  | scriptTextFont => ["scripttextfont", "script_text_font"]
  | cantModify => ["cantmodify", "cant_modify"]

def all : List Property :=
  [userLevel, scriptTextSize, scriptTextFont, cantModify]

def ofName? (name : String) : Option Property :=
  all.find? fun property ↦ property.spellings.contains (caseFold (strip name))

end Property

inductive PropertyValue where
  | text (value : WideText)
  | number (value : Int)
  | flag (value : Bool)
  deriving DecidableEq, Repr

namespace PropertyValue

/-- The value as a whole number, if it is one. -/
def whole? : PropertyValue → Option Int
  | text value => value.plain?.bind readWhole?
  | number value => some value
  | flag value => some (if value then 1 else 0)

/-- The value as a text. -/
def display? : PropertyValue → Option WideText
  | text value => some value
  | number value => (writeWhole? value).map .plain
  | flag value => some (.plain (if value then "True" else "False"))

/-- A text switches on only by one of three words; a number unless it is zero. -/
def switchesOn : PropertyValue → Bool
  | text value =>
    value.plain?.any fun word ↦ ["true", "1", "yes"].contains (caseFold (strip word))
  | number value => value != 0
  | flag value => value

end PropertyValue

namespace Stack

def setUserLevel? (stack : Stack) (level : Int) : Option Stack :=
  if isUserLevel level then some { stack with userLevel := level } else none

def setScriptTextSize? (stack : Stack) (size : Int) : Option Stack :=
  if 0 < size then some { stack with scriptTextSize := size } else none

def setScriptTextFont? (stack : Stack) (font : WideText) : Option Stack :=
  if font.isEmpty then none else some { stack with scriptTextFont := font }

/-- The stack with one property set, or nothing if the property or its value is refused. -/
def setProperty? (stack : Stack) (name : String) (value : PropertyValue) :
    Except Failure (Option Stack) :=
  match Property.ofName? name with
  | none => .ok none
  | some .userLevel => .ok (value.whole?.bind stack.setUserLevel?)
  | some .scriptTextSize => .ok (value.whole?.bind stack.setScriptTextSize?)
  | some .scriptTextFont =>
    match value.display? with
    | none => .error .numberTooLong
    | some shown => .ok (stack.setScriptTextFont? shown.strip)
  | some .cantModify => .ok (some { stack with cantModify := value.switchesOn })

end Stack

end Cardfile
