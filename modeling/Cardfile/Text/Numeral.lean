import Cardfile.Text.Blank
import Cardfile.Text.Digit

/-!
# Whole numbers as text

`decimal` writes a whole number in plain decimal; `writeWhole?` writes only a short one, which has at
most `digitLimit` digits. `readWhole?` reads one in any decimal script, padded with blanks, with one
sign and single underscores between digits, and short as well.
-/

set_option autoImplicit false
set_option relaxedAutoImplicit false

namespace Cardfile.Text

/-- The longest numeral that is read, and the longest that `writeWhole?` writes. -/
def digitLimit : Nat := 4300

/-- The number written by a row of digits, most significant first. -/
def numberOfDigits (digits : List Nat) : Nat :=
  digits.foldl (fun number digit ↦ 10 * number + digit) 0

def withSign (negative : Bool) (magnitude : Nat) : Int :=
  if negative then -(magnitude : Int) else magnitude

def decimalDigits : Int → List Char
  | .ofNat n => Nat.toDigits 10 n
  | .negSucc n => '-' :: Nat.toDigits 10 (n + 1)

/-- Plain decimal, with a minus sign below zero. -/
def decimal (n : Int) : String :=
  String.ofList (decimalDigits n)

/-- Whole numbers of at most `digitLimit` decimal digits. -/
def IsShort (n : Int) : Prop :=
  (Nat.toDigits 10 n.natAbs).length ≤ digitLimit

instance (n : Int) : Decidable (IsShort n) :=
  inferInstanceAs (Decidable (_ ≤ _))

/-- Plain decimal, if the number is short. -/
def writeWhole? (n : Int) : Option String :=
  if IsShort n then some (decimal n) else none

/-- The digit values of a non-empty row of digits, single underscores between them allowed. -/
def groupedDigits? (digitValue? : Char → Option Nat) : List Char → Option (List Nat)
  | [] => none
  | [c] => (digitValue? c).map ([·])
  | c :: '_' :: rest => do
    let value ← digitValue? c
    return value :: (← groupedDigits? digitValue? rest)
  | c :: rest => do
    let value ← digitValue? c
    return value :: (← groupedDigits? digitValue? rest)

/-- Splits off one leading sign; the flag says whether it is a minus. -/
def takeSign : List Char → Bool × List Char
  | '-' :: rest => (true, rest)
  | '+' :: rest => (false, rest)
  | rest => (false, rest)

/-- The blanks that may pad a numeral: all but the information separators. -/
def isNumeralPadding (c : Char) : Bool :=
  isBlank c && !(28 ≤ c.toNat && c.toNat ≤ 31)

/-- Reads a whole number in any decimal script. -/
def readWhole? (text : String) : Option Int := do
  let (negative, rest) := takeSign (trimOf isNumeralPadding text.toList)
  let digits ← groupedDigits? digitValue? rest
  if digits.length ≤ digitLimit then some (withSign negative (numberOfDigits digits)) else none

/-- The value of an ASCII digit. -/
def asciiDigitValue? (c : Char) : Option Nat :=
  if c.isDigit then some (c.toNat - 48) else none

end Cardfile.Text
