import Cardfile.Text.Numeral

/-!
# Tables and comma-separated text

A cell is quoted only if it holds a comma, a double quote or a line feed; quotes inside are
doubled. Every line, the header included, ends in a line feed.
-/

set_option autoImplicit false
set_option relaxedAutoImplicit false

namespace Cardfile

inductive Cell where
  | number (value : Int)
  | text (value : String)
  deriving DecidableEq, Repr

structure Table where
  columns : List String
  rows : List (List Cell)
  deriving DecidableEq, Repr

namespace Cell

def plain : Cell → List Char
  | number value => Text.decimalDigits value
  | text value => value.toList

end Cell

namespace Csv

def needsQuotes (cell : List Char) : Bool :=
  cell.any fun c ↦ c == ',' || c == '"' || c == '\n'

def doubleQuote (c : Char) : List Char :=
  if c = '"' then ['"', '"'] else [c]

def cell (content : List Char) : List Char :=
  if needsQuotes content then '"' :: content.flatMap doubleQuote ++ ['"'] else content

/-- The cells of a line with commas between them. -/
def cells : List (List Char) → List Char
  | [] => []
  | [last] => cell last
  | first :: rest => cell first ++ ',' :: cells rest

def line (contents : List (List Char)) : List Char :=
  cells contents ++ ['\n']

end Csv

namespace Table

/-- The header and the rows as plain texts. -/
def lines (table : Table) : List (List (List Char)) :=
  table.columns.map String.toList :: table.rows.map fun row ↦ row.map Cell.plain

def toCsv (table : Table) : String :=
  String.ofList (table.lines.flatMap Csv.line)

end Table

end Cardfile
