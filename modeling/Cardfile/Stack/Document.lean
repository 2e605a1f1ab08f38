import Cardfile.Schema.Reader
import Cardfile.Stack.Basic

/-!
# Stacks as JSON documents

`Stack.ofJson` reads a stack against its schema; `toJson` writes every member in the order of
declaration.
-/

set_option autoImplicit false
set_option relaxedAutoImplicit false

namespace Cardfile

open Schema

namespace Rect

def ofJson : Reader Rect := record fun m ↦
  mk <$> withDefault m "x" wholeNumber 0 <*> withDefault m "y" wholeNumber 0 <*>
    withDefault m "w" wholeNumber 512 <*> withDefault m "h" wholeNumber 342

def toJson (rect : Rect) : Json :=
  .record [("x", .whole rect.x), ("y", .whole rect.y), ("w", .whole rect.w), ("h", .whole rect.h)]

end Rect

namespace Background

def ofJson : Reader Background := record fun m ↦
  mk <$> required m "id" wholeNumber <*> withDefault m "name" anyText "" <*>
    withDefault m "rect" Rect.ofJson {}

def toJson (background : Background) : Json :=
  .record [("id", .whole background.id), ("name", .text background.name),
    ("rect", background.rect.toJson)]

end Background

namespace TextField

def ofJson : Reader TextField := record fun m ↦
  mk <$> required m "id" wholeNumber <*> required m "name" anyText <*>
    withDefault m "text" anyText "" <*> withDefault m "text_font" anyText "Geneva" <*>
    withDefault m "text_size" wholeNumber 12 <*> withDefault m "lock_text" truthValue false

def toJson (field : TextField) : Json :=
  .record [("id", .whole field.id), ("name", .text field.name), ("text", .text field.text),
    ("text_font", .text field.textFont), ("text_size", .whole field.textSize),
    ("lock_text", .bool field.lockText)]

end TextField

namespace Button

def ofJson : Reader Button := record fun m ↦
  mk <$> required m "id" wholeNumber <*> required m "name" anyText <*>
    withDefault m "script" anyText ""

def toJson (button : Button) : Json :=
  .record [("id", .whole button.id), ("name", .text button.name), ("script", .text button.script)]

end Button

namespace Card

def ofJson : Reader Card := record fun m ↦
  mk <$> required m "id" wholeNumber <*> withDefault m "name" anyText "" <*>
    required m "background_id" wholeNumber <*> withDefault m "rect" Rect.ofJson {} <*>
    withDefault m "fields" (listOf TextField.ofJson) [] <*>
    withDefault m "buttons" (listOf Button.ofJson) []

def toJson (card : Card) : Json :=
  .record [("id", .whole card.id), ("name", .text card.name),
    ("background_id", .whole card.backgroundId), ("rect", card.rect.toJson),
    ("fields", .list (card.fields.map TextField.toJson)),
    ("buttons", .list (card.buttons.map Button.toJson))]

end Card

namespace Stack

def ofJson : Reader Stack := record fun m ↦
  mk <$> required m "name" anyText <*> withDefault m "cant_modify" truthValue false <*>
    withDefault m "user_level" (atMost 5 (atLeast 1 wholeNumber)) 5 <*>
    withDefault m "script_text_font" wideText "Monaco" <*>
    withDefault m "script_text_size" (above 0 wholeNumber) 9 <*>
    withDefault m "report_templates" (listOf anyText) [] <*>
    withDefault m "backgrounds" (listOf Background.ofJson) [] <*>
    withDefault m "cards" (listOf Card.ofJson) []

def toJson (stack : Stack) : Json :=
  .record [("name", .text stack.name), ("cant_modify", .bool stack.cantModify),
    ("user_level", .whole stack.userLevel), ("script_text_font", .ofWide stack.scriptTextFont),
    ("script_text_size", .whole stack.scriptTextSize),
    ("report_templates", .list (stack.reportTemplates.map Json.text)),
    ("backgrounds", .list (stack.backgrounds.map Background.toJson)),
    ("cards", .list (stack.cards.map Card.toJson))]

end Stack

end Cardfile
