import Cardfile.Proofs.Command.Destinations
import Cardfile.Proofs.Command.Quoting

/-!
# Lines that go to a card

The plainest lines that go to a card are `go card 3` and `go card "name"`. A line of the first kind
spells the number however its digits are written, as long as they are not too many
(`SpellsWhole.spellsDestination`). A line of the second kind spells any name without a quote, with
the blanks and line ends that are in it (`spellsDestination_name`).
-/

set_option autoImplicit false
set_option relaxedAutoImplicit false

namespace Cardfile.Command

open Text

variable {n : Int} {goal name : String} {text : List Char}

/-- The line that goes to the card with a number or with a quoted name. -/
def goCardLine (goal : String) : String :=
  "go card " ++ goal

/-- A text that writes a whole number: digits of any script, no more of them than are read, and
perhaps a minus sign before them. -/
inductive SpellsWhole : Int → List Char → Prop
  | intro {negative : Bool} {digits : List Char} (hdigits : AreDigits digits)
      (hshort : digits.length ≤ digitLimit) :
    SpellsWhole (withSign negative (Nat.ofDigits 10 (digits.filterMap digitValue?).reverse))
      (signOf negative ++ digits)

theorem SpellsWhole.endsSolid (h : SpellsWhole n text) (front : List Char) :
    EndsSolid (front ++ text) := by
  cases h with
  | intro hdigits hshort =>
    intro c hc
    rw [← List.append_assoc, List.getLast?_append_of_ne_nil _ hdigits.1] at hc
    exact isBlank_of_isAnyDigit (hdigits.2 c (List.mem_of_getLast? hc))

theorem toList_goCardLine (goal : String) : (goCardLine goal).toList =
    "go".toList ++ [' '] ++ ([] ++ ("card".toList ++ [' '] ++ goal.toList)) := by
  simp [goCardLine]

theorem strip_goCardLine (hends : EndsSolid (goCardLine goal).toList) :
    strip (goCardLine goal) = goCardLine goal := by
  have hgo : takeWord? "go".toList (goCardLine goal).toList =
      some (' ' :: ("card".toList ++ [' '] ++ goal.toList)) :=
    takeWord?_of_toList (by decide) (by simp [goCardLine])
  exact strip_of_keyword (by decide) (Option.isSome_of_eq_some hgo) hends

theorem SpellsWhole.spellsDestination (h : SpellsWhole n goal.toList) :
    SpellsDestination (.number n) (strip (goCardLine goal)).toList := by
  have hends : EndsSolid (goCardLine goal).toList := by
    rw [goCardLine, String.toList_append]
    exact h.endsSolid _
  rw [strip_goCardLine hends, toList_goCardLine]
  generalize goal.toList = text at h
  cases h with
  | intro hdigits hshort =>
    exact .number (.intro rfl isGap_space (Or.inl rfl) rfl isGap_space hdigits) hshort

theorem spellsDestination_name (hname : '"' ∉ name.toList) :
    SpellsDestination (.name name) (strip (goCardLine (inQuotes name))).toList := by
  have hgoal : SpellsGoal (.name name)
      ("card".toList ++ [' '] ++ ('"' :: (name.toList ++ ['"']))) := by
    have hread := @SpellsGoal.name "card".toList [' '] name.toList rfl isGap_space hname
    rwa [String.ofList_toList] at hread
  rw [strip_goCardLine (endsSolid_append_inQuotes _ _), toList_goCardLine, toList_inQuotes]
  exact .name (.intro rfl isGap_space (Or.inl rfl) hgoal)

end Cardfile.Command
