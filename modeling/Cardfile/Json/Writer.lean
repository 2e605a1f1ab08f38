import Cardfile.Json.Value
import Cardfile.Text.Hex
import Cardfile.Text.Numeral

/-!
# Writing JSON

Values are written without any space. Within a text only the quote, the backslash, the control
characters below the space and halves of surrogate pairs are escaped; everything else stands for
itself.
-/

set_option autoImplicit false
set_option relaxedAutoImplicit false

namespace Cardfile.Json

open Text

/-- One character of a text: five controls have a letter, the other controls a code. -/
def escapeChar (c : Char) : List Char :=
  if c = '"' then ['\\', '"']
  else if c = '\\' then ['\\', '\\']
  else if c = '\n' then ['\\', 'n']
  else if c = '\r' then ['\\', 'r']
  else if c = '\t' then ['\\', 't']
  else if c = '\x08' then ['\\', 'b']
  else if c = '\x0c' then ['\\', 'f']
  else if c.toNat < 32 then '\\' :: 'u' :: hexDigits 4 c.toNat
  else [c]

def escapeCode (code : Nat) : List Char :=
  if isSurrogate code then '\\' :: 'u' :: hexDigits 4 code else escapeChar (Char.ofNat code)

def writeText (text : String) : List Char :=
  '"' :: text.toList.flatMap escapeChar ++ ['"']

def writeHalved (codes : List Nat) : List Char :=
  '"' :: codes.flatMap escapeCode ++ ['"']

/-- A binary number in full: whole ones with `.0`, others with as many places as they need. -/
def writeReal : Binary64 → List Char
  | .notANumber => "NaN".toList
  | .infinite false => "Infinity".toList
  | .infinite true => "-Infinity".toList
  | .finite mantissa exponent =>
    if 0 ≤ exponent then decimalDigits (mantissa * Int.pow 2 exponent.toNat) ++ ['.', '0']
    else
      let places := (-exponent).toNat
      let scaled := mantissa.natAbs * Nat.pow 5 places
      let sign := if mantissa < 0 then ['-'] else []
      let fraction := Nat.toDigits 10 (scaled % Nat.pow 10 places)
      sign ++ Nat.toDigits 10 (scaled / Nat.pow 10 places) ++
        '.' :: (List.replicate (places - fraction.length) '0' ++ fraction)

mutual

def write : Json → List Char
  | .null => "null".toList
  | .bool true => "true".toList
  | .bool false => "false".toList
  | .whole value => decimalDigits value
  | .real value => writeReal value
  | .text value => writeText value
  | .halved codes => writeHalved codes
  | .list [] => ['[', ']']
  | .list (item :: rest) => '[' :: write item ++ writeItems rest
  | .record [] => ['{', '}']
  | .record ((key, value) :: rest) =>
    '{' :: writeText key ++ ':' :: write value ++ writeMembers rest

/-- The items after the first one, and the closing bracket. -/
def writeItems : List Json → List Char
  | [] => [']']
  | item :: rest => ',' :: write item ++ writeItems rest

/-- The members after the first one, and the closing brace. -/
def writeMembers : List (String × Json) → List Char
  | [] => ['}']
  | (key, value) :: rest => ',' :: writeText key ++ ':' :: write value ++ writeMembers rest

end

/-- The value as compact text. -/
def compact (value : Json) : String :=
  String.ofList (write value)

end Cardfile.Json
