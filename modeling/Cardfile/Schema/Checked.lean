/-!
# Checked values

A value read against a schema is either valid or comes with every problem found in it, each at
the path where it lies. Combining two readings keeps the problems of both, in order.
-/

set_option autoImplicit false
set_option relaxedAutoImplicit false

namespace Cardfile.Schema

/-- What is wrong with a value. -/
inductive Flaw where
  | missing
  | notText
  | textTooLong
  | notWhole
  | unreadableWhole
  | oversizedWhole
  | fractional
  | notFinite
  | notFlag
  | unreadableFlag
  | notList
  | notRecord
  | notRequestBody
  | belowMinimum
  | aboveMaximum
  | notAbove
  | brokenJson
  deriving DecidableEq, Repr

/-- The word by which a flaw is reported. -/
def Flaw.code : Flaw → String
  | .missing => "missing"
  | .notText => "string_type"
  | .textTooLong => "string_too_long"
  | .notWhole => "int_type"
  | .unreadableWhole => "int_parsing"
  | .oversizedWhole => "int_parsing_size"
  | .fractional => "int_from_float"
  | .notFinite => "finite_number"
  | .notFlag => "bool_type"
  | .unreadableFlag => "bool_parsing"
  | .notList => "list_type"
  | .notRecord => "model_type"
  | .notRequestBody => "model_attributes_type"
  | .belowMinimum => "greater_than_equal"
  | .aboveMaximum => "less_than_equal"
  | .notAbove => "greater_than"
  | .brokenJson => "json_invalid"

/-- One step of the path from a value to a part of it. -/
inductive PathStep where
  | key (name : String)
  | index (position : Nat)
  deriving DecidableEq, Repr

structure Problem where
  flaw : Flaw
  path : List PathStep
  deriving DecidableEq, Repr

inductive Checked (α : Type) where
  | valid (value : α)
  | invalid (problems : List Problem)

namespace Checked

variable {α β : Type}

instance : Applicative Checked where
  pure := .valid
  seq builder argument :=
    match builder, argument () with
    | .valid build, .valid value => .valid (build value)
    | .valid _, .invalid problems => .invalid problems
    | .invalid problems, .valid _ => .invalid problems
    | .invalid earlier, .invalid later => .invalid (earlier ++ later)

/-- A value refused for one flaw of its own. -/
def flawed (flaw : Flaw) : Checked α :=
  .invalid [⟨flaw, []⟩]

/-- The same reading as a part that lies one step below. -/
def under (step : PathStep) : Checked α → Checked α
  | .valid value => .valid value
  | .invalid problems => .invalid (problems.map fun problem ↦ ⟨problem.flaw, step :: problem.path⟩)

/-- A further condition on a valid value. -/
def andThen (checked : Checked α) (next : α → Checked β) : Checked β :=
  match checked with
  | .valid value => next value
  | .invalid problems => .invalid problems

def value? : Checked α → Option α
  | .valid value => some value
  | .invalid _ => none

end Checked

end Cardfile.Schema
