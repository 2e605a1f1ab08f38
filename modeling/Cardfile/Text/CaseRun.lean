/-!
# Runs of characters that change case alike
-/

set_option autoImplicit false
set_option relaxedAutoImplicit false

namespace Cardfile.Text

/-- The characters `first`, `first + step`, … up to `last`, each turning into the one `shift`
places further. -/
structure CaseRun where
  first : Nat
  last : Nat
  step : Nat
  shift : Int

namespace CaseRun

def covers (run : CaseRun) (code : Nat) : Bool :=
  run.first ≤ code && code ≤ run.last && (code - run.first) % run.step == 0

def target (run : CaseRun) (code : Nat) : Char :=
  Char.ofNat (code + run.shift).toNat

end CaseRun

end Cardfile.Text
