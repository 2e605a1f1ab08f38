import Cardfile.Text.Numeral

/-!
# Failures

What can stop an operation on a session half way.
-/

set_option autoImplicit false
set_option relaxedAutoImplicit false

namespace Cardfile

inductive Failure where
  /-- A position that no element has was read. -/
  | noSuchPosition
  /-- A move to a card number that the stack does not have was ordered. -/
  | noSuchCard (target : Int)
  /-- A card number was written with more digits than are read. -/
  | numeralTooLong (digits : Nat)
  /-- A number has more digits than are written. -/
  | numberTooLong
  deriving DecidableEq, Repr

def Failure.message : Failure → String
  | .noSuchPosition => "list index out of range"
  | .noSuchCard target => "Card index out of range: " ++ Text.decimal target
  | .numeralTooLong digits =>
    "Exceeds the limit (4300 digits) for integer string conversion: value has " ++
      Text.decimal digits ++ " digits; use sys.set_int_max_str_digits() to increase the limit"
  | .numberTooLong =>
    "Exceeds the limit (4300 digits) for integer string conversion; " ++
      "use sys.set_int_max_str_digits() to increase the limit"

end Cardfile
