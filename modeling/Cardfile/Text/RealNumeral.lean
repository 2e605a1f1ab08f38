import Cardfile.Text.Numeral

/-!
# Numerals of real numbers

A real number is written as digits of any script with a point and an exponent or without them, or
as a word for an infinity or for no number. Padding, one sign, and single underscores between
digits are allowed.
-/

set_option autoImplicit false
set_option relaxedAutoImplicit false

namespace Cardfile.Text

def realWords : List String := ["inf", "infinity", "nan"]

/-- Whether every underscore of a text stands between two digits. -/
def underscoresSeparate : Option Char → List Char → Bool
  | _, [] => true
  | before, c :: rest =>
    (c != '_' || (before.any isAnyDigit && rest.head?.any isAnyDigit)) &&
      underscoresSeparate (some c) rest

/-- Nothing, or an `e` with a signed row of digits. -/
def isExponent : List Char → Bool
  | [] => true
  | c :: rest =>
    let digits := (takeSign rest).2
    (c == 'e' || c == 'E') && !digits.isEmpty && digits.all isAnyDigit

/-- Digits with a point among them or without, at least one digit, and perhaps an exponent. -/
def isUnsignedReal (text : List Char) : Bool :=
  let whole := text.takeWhile isAnyDigit
  match text.dropWhile isAnyDigit with
  | '.' :: rest =>
    let fraction := rest.takeWhile isAnyDigit
    (!whole.isEmpty || !fraction.isEmpty) && isExponent (rest.dropWhile isAnyDigit)
  | rest => !whole.isEmpty && isExponent rest

def isRealNumeral (text : String) : Bool :=
  let written := trimOf isNumeralPadding text.toList
  let unsigned := (takeSign (written.filter (· != '_'))).2
  underscoresSeparate none written &&
    (realWords.contains (String.ofList (unsigned.map Char.toLower)) || isUnsignedReal unsigned)

end Cardfile.Text
