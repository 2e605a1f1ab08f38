import Cardfile.Text.FoldTable

/-!
# Full case folding and caseless names

Two names are the same when their folded forms agree. Folding works character by character, so it
is a homomorphism of texts; it normalises nothing but case.
-/

set_option autoImplicit false
set_option relaxedAutoImplicit false

namespace Cardfile.Text

/-- The case folding of one character. -/
def foldChar (c : Char) : List Char :=
  if c.toNat < 128 then
    [if 65 ≤ c.toNat && c.toNat ≤ 90 then Char.ofNat (c.toNat + 32) else c]
  else
    match expansions.lookup c.toNat with
    | some codes => codes.map Char.ofNat
    | none =>
      match shifts.find? (·.covers c.toNat) with
      | some run => [run.target c.toNat]
      | none => [c]

def fold (text : List Char) : List Char :=
  text.flatMap foldChar

def caseFold (text : String) : String :=
  String.ofList (fold text.toList)

/-- Equal up to letter case. Blanks count. -/
def sameName (a b : String) : Bool :=
  caseFold a == caseFold b

/-- `needle` is a contiguous part of a text. -/
def occursIn (needle : List Char) : List Char → Bool
  | [] => needle.isEmpty
  | c :: rest => needle.isPrefixOf (c :: rest) || occursIn needle rest

theorem fold_append (a b : List Char) : fold (a ++ b) = fold a ++ fold b := by
  simp [fold]

theorem occursIn_iff (needle text : List Char) :
    occursIn needle text = true ↔ needle <:+: text := by
  induction text with
  | nil => simp [occursIn]
  | cons c rest ih => simp [occursIn, ih, List.infix_cons_iff]

theorem sameName_iff {a b : String} : sameName a b = true ↔ caseFold a = caseFold b := by
  simp [sameName]

end Cardfile.Text
