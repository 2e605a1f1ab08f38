import Cardfile.MessageBox
import Cardfile.Report

/-!
# The command line

Without arguments a message box is held on standard input. `report TEMPLATE` prints a report on the
starter stack as comma-separated values.
-/

set_option autoImplicit false
set_option relaxedAutoImplicit false

namespace Cardfile.Main

def present (displays : List Display) : IO Unit := do
  let output ← IO.getStdout
  for display in displays do
    output.putStr display.text
  output.flush

/-- A line as it was typed, without its end. -/
def withoutLineEnd (line : String) : String :=
  if line.endsWith "\n" then String.ofList line.toList.dropLast else line

partial def converse (box : MessageBox) : IO UInt32 := do
  present [.prompt]
  let line ← (← IO.getStdin).getLine
  if line.isEmpty then
    present [.endOfInput]
    return 0
  if MessageBox.isFarewell line then
    return 0
  match box.enter (withoutLineEnd line) with
  | (.ok shown, after) =>
    present shown
    converse after
  | (.error failure, _) =>
    IO.eprintln failure.message
    return 1

def printReport (template : String) : IO UInt32 := do
  match Stack.starter.report template with
  | .ok table =>
    IO.print table.toCsv
    return 0
  | .error error =>
    IO.eprintln error.message
    return 1

end Cardfile.Main

open Cardfile in
def main (arguments : List String) : IO UInt32 := do
  match arguments with
  | [] =>
    let box := MessageBox.start {} none
    Main.present box.welcome
    Main.converse box
  | ["report", template] => Main.printReport template
  | _ =>
    IO.eprintln "usage: cardfile [report TEMPLATE]"
    return 2
