import Cardfile.Text.Encoding
import Cardfile.Text.Hex

/-!
# Percent escapes

In a URL a `%` with two hexadecimal digits stands for a byte of UTF-8. `unescape` puts the
characters in place; a text without escapes is left as it is, and so is a `%` without its digits.
-/

set_option autoImplicit false
set_option relaxedAutoImplicit false

namespace Cardfile.Text

/-- The characters of a text whose escapes go on from a reading of UTF-8. -/
def unescapeFrom (state : Utf8State) : List Char → List Char
  | [] => state.finish
  | '%' :: a :: b :: rest =>
    match hexValue? a, hexValue? b with
    | some high, some low =>
      let (chars, next) := state.step (16 * high + low)
      chars ++ unescapeFrom next rest
    | _, _ => state.finish ++ '%' :: unescapeFrom {} (a :: b :: rest)
  | c :: rest => state.finish ++ c :: unescapeFrom {} rest

def unescape (text : List Char) : List Char :=
  unescapeFrom {} text

/-- A text before the first separator, and the text behind it if there is one. -/
def splitAtFirst (separator : Char) (text : List Char) : List Char × Option (List Char) :=
  (text.takeWhile (· != separator),
    match text.dropWhile (· != separator) with
    | [] => none
    | _ :: rest => some rest)

/-- The names and values of a query, which `&` divides from each other and `=` within. A plus sign
is a space. A piece without a value is left out unless `keepsBlanks`. -/
def queryPairs (keepsBlanks : Bool) (query : List Char) : List (List Char × List Char) :=
  (query.splitOn '&').filterMap fun piece ↦
    let (name, value?) := splitAtFirst '=' piece
    let value := value?.getD []
    let plain (text : List Char) := unescape (text.map fun c ↦ if c = '+' then ' ' else c)
    if value.isEmpty && (!keepsBlanks || piece.isEmpty) then none
    else some (plain name, plain value)

end Cardfile.Text
