import Cardfile.Desk.View
import Cardfile.Json.Reader
import Cardfile.Json.Writer
import Cardfile.Schema.Reader
import Cardfile.Snapshot.Basic

/-!
# Snapshots as text

`Snapshot.encode?` writes a snapshot as compact JSON with its members in a fixed order;
`Snapshot.decode` reads one leniently, with defaults for absent members, from JSON within the
limits of `Snapshot.dialect`.
-/

set_option autoImplicit false
set_option relaxedAutoImplicit false

namespace Cardfile

open Schema

namespace FieldSnapshot

def ofJson : Reader FieldSnapshot := record fun m ↦
  mk <$> required m "id" wholeNumber <*> withDefault m "text" anyText ""

def toJson (field : FieldSnapshot) : Json :=
  .record [("id", .whole field.id), ("text", .text field.text)]

end FieldSnapshot

namespace CardSnapshot

def ofJson : Reader CardSnapshot := record fun m ↦
  mk <$> required m "id" wholeNumber <*> withDefault m "name" anyText "" <*>
    withDefault m "fields" (listOf FieldSnapshot.ofJson) []

def toJson (card : CardSnapshot) : Json :=
  .record [("id", .whole card.id), ("name", .text card.name),
    ("fields", .list (card.fields.map FieldSnapshot.toJson))]

end CardSnapshot

namespace Snapshot

def ofJson : Reader Snapshot := record fun m ↦
  mk <$> withDefault m "user_level" wholeNumber 5 <*>
    withDefault m "script_text_font" wideText "Monaco" <*>
    withDefault m "script_text_size" wholeNumber 9 <*>
    withDefault m "current_card_index" wholeNumber 0 <*>
    withDefault m "current_field_name" (nullable anyText) none <*>
    withDefault m "cards" (listOf CardSnapshot.ofJson) []

def toJson (snapshot : Snapshot) : Json :=
  .record [("user_level", .whole snapshot.userLevel),
    ("script_text_font", .ofWide snapshot.scriptTextFont),
    ("script_text_size", .whole snapshot.scriptTextSize),
    ("current_card_index", .whole snapshot.currentCardIndex),
    ("current_field_name", .ofText? snapshot.currentFieldName),
    ("cards", .list (snapshot.cards.map CardSnapshot.toJson))]

/-- The text of a snapshot; none if its font holds half of a surrogate pair, for which no text has a
character. -/
def encode? (snapshot : Snapshot) : Option String :=
  snapshot.scriptTextFont.plain?.map fun _ ↦ snapshot.toJson.compact

/-- The JSON of stored snapshots. -/
def dialect : Json.Dialect where
  nestingLimit := 200
  limitsFractions := true
  admitsHalfPairs := false

def decode (text : String) : Checked Snapshot :=
  match Json.read dialect text with
  | .error _ => .flawed .brokenJson
  | .ok json => ofJson json

end Snapshot

end Cardfile
