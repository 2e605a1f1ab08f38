import Cardfile.Text.Numeral

/-!
# Loosely written whole numbers

A plain numeral is what JSON allows: ASCII digits without leading zeros, behind a minus sign or
not. `readLoosely` reads plain numerals, and texts that become one by dropping what carries no
meaning: padding, a plus sign, leading zeros, an empty fraction, single underscores.
-/

set_option autoImplicit false
set_option relaxedAutoImplicit false

namespace Cardfile.Text

/-- Why a text is not read as a whole number. -/
inductive NumeralFault where
  | unreadable
  | tooLong
  deriving DecidableEq, Repr

/-- Splits off one minus sign. -/
def takeMinus : List Char → Bool × List Char
  | '-' :: rest => (true, rest)
  | text => (false, text)

/-- ASCII digits, at least one, and none of them a leading zero. -/
def isPlainMagnitude (digits : List Char) : Bool :=
  !digits.isEmpty && digits.all Char.isDigit && (digits.length == 1 || digits.head? != some '0')

/-- The value of a plain numeral of at most `digitLimit` digits. -/
def plainWhole? (text : List Char) : Option Int :=
  let (negative, digits) := takeMinus text
  if isPlainMagnitude digits && digits.length ≤ digitLimit then
    some (withSign negative (numberOfDigits (digits.filterMap asciiDigitValue?)))
  else none

/-- Whether a text starts as a plain numeral of more than `digitLimit` digits does. -/
def startsTooLong (text : List Char) : Bool :=
  let digits := (takeMinus text).2.takeWhile Char.isDigit
  digits.head? != some '0' && digitLimit < digits.length

/-- What follows a zero and any more zeros and underscores. The zero is kept if nothing else stands
before a point or the end, and a sign may follow the zeros. -/
def afterZeros (last : Char) : List Char → Option (List Char)
  | [] => some [last]
  | c :: rest =>
    if c = '0' ∨ c = '_' then afterZeros c rest
    else if c = '.' then some (last :: c :: rest)
    else if c.isDigit || c = '-' then some (c :: rest)
    else none

/-- A numeral without its leading zeros. -/
def dropLeadingZeros : List Char → Option (List Char)
  | [] => none
  | c :: rest =>
    if c = '0' then afterZeros c rest
    else if c.isDigit || c = '-' then some (c :: rest)
    else none

/-- A numeral without a point followed by zeros only. -/
def dropEmptyFraction (text : List Char) : List Char :=
  match text.dropWhile (· != '.') with
  | _ :: c :: rest => if (c :: rest).all (· == '0') then text.takeWhile (· != '.') else text
  | _ => text

/-- A text with two underscores side by side. -/
def hasDoubleUnderscore : List Char → Bool
  | '_' :: '_' :: _ => true
  | _ :: rest => hasDoubleUnderscore rest
  | [] => false

/-- A numeral without its underscores, if they are single ones between other characters. -/
def dropUnderscores (text : List Char) : List Char :=
  if text.head? == some '_' || text.getLast? == some '_' || hasDoubleUnderscore text then text
  else text.filter (· != '_')

/-- A numeral without what carries no meaning in it, and whether it had a minus sign in front. -/
def cleanNumeral? (text : List Char) : Option (Bool × List Char) :=
  let finish (negative : Bool) (unsigned : List Char) : Option (Bool × List Char) :=
    (dropLeadingZeros unsigned).map fun digits ↦
      (negative, dropUnderscores (dropEmptyFraction digits))
  match trimOf isNumeralPadding text with
  | '+' :: '-' :: _ => none
  | '+' :: rest => finish false rest
  | '-' :: rest => finish true rest
  | rest => finish false rest

/-- Reads a whole number that need not be written plainly. -/
def readLoosely (text : String) : Except NumeralFault Int :=
  match plainWhole? text.toList with
  | some n => .ok n
  | none =>
    if startsTooLong text.toList then .error .tooLong
    else
      match cleanNumeral? text.toList with
      | none => .error .unreadable
      | some (negative, plain) =>
        match plainWhole? plain with
        | none => .error .unreadable
        | some n =>
          if !negative then .ok n
          else if plain.head? == some '-' then .error .unreadable
          else .ok (-n)

end Cardfile.Text
