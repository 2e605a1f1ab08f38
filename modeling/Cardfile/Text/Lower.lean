import Cardfile.Text.LowerTable

/-!
# Lower case

`lower` turns each character of a text into its lower case form. Only the capital sigma has two of
them: the final one, at the end of a word of more than one letter, and the common one.
-/

set_option autoImplicit false
set_option relaxedAutoImplicit false

namespace Cardfile.Text

def isWithin (ranges : List (Nat × Nat)) (c : Char) : Bool :=
  ranges.any fun range ↦ range.1 ≤ c.toNat && c.toNat ≤ range.2

/-- Whether the nearest character of a text that is not passed over has a case. -/
def meetsCased (text : List Char) : Bool :=
  ((text.dropWhile (isWithin uncountedRanges)).head?).any (isWithin casedRanges)

/-- The lower case form of a character that does not depend on its place. -/
def lowerChar (c : Char) : List Char :=
  if c.toNat < 128 then [c.toLower]
  else if c = 'İ' then ['i', '\u0307']
  else
    match loweringRuns.find? (·.covers c.toNat) with
    | some run => [run.target c.toNat]
    | none => [c]

/-- The lower case form of a text that follows the characters `before`, nearest first. -/
def lowerAfter (before : List Char) : List Char → List Char
  | [] => []
  | c :: rest =>
    (if c = 'Σ' ∧ meetsCased before ∧ !meetsCased rest then ['ς'] else lowerChar c) ++
      lowerAfter (c :: before) rest

def lower (text : List Char) : List Char :=
  lowerAfter [] text

end Cardfile.Text
