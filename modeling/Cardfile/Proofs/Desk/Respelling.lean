import Cardfile.Proofs.Command.LetterCase
import Cardfile.Proofs.Desk.Alike
import Cardfile.Proofs.Desk.Change

/-!
# Lines that are spelled differently

Blanks at the ends of a line make no difference to what it does (`Desk.alikeOutcomes_repadded`). The
case of its letters makes none to what it is understood as, up to the names and expressions in it;
and as names match whatever their letter case, a line that beeps, goes or gets does the same in any
letter case (`Desk.alikeButResult_execute`). Only `result` may differ, which quotes the name of a
card that is not found. `Desk.execute_respelled` says both of any two such lines and every desk.
-/

set_option autoImplicit false
set_option relaxedAutoImplicit false

namespace Cardfile

open Text Command

/-! ### Names in lower case -/

theorem Card.findField?_lowered (card : Card) (name : String) :
    card.findField? (Text.lowered name) = card.findField? name := by
  simp only [findField?, sameName_lowered]

theorem Stack.cardPlaceByName?_lowered (stack : Stack) (name : String) :
    stack.cardPlaceByName? (Text.lowered name) = stack.cardPlaceByName? name := by
  simp only [cardPlaceByName?, sameName_lowered]

namespace Desk

theorem resolve_lowered (desk : Desk) (destination : Destination) :
    desk.resolve destination.lowered = desk.resolve destination := by
  cases destination with
  | number n => rfl
  | name title =>
    unfold resolve
    simp only [Destination.lowered, Stack.cardPlaceByName?_lowered]
  | toward direction => rfl

theorem get_lowered (desk : Desk) (name : String) :
    desk.get (Text.lowered name) = desk.get name := by
  simp only [get, Card.findField?_lowered]

/-! ### Commands in lower case -/

/-- A goal in lower case leads to the same place. If it leads nowhere, the message may differ. -/
theorem alikeButResult_go_lowered (desk : Desk) (line second : String) (going? : Option Going) :
    (desk.go line going?).2.AlikeButResult (desk.go second (going?.map Going.lowered)).2 := by
  have hsame := (Alike.refl desk).toAlikeButResult
  cases going? with
  | none => exact hsame
  | some going =>
    show (desk.go line (some going)).2.AlikeButResult (desk.go second (some going.lowered)).2
    unfold go
    dsimp only
    rw [going.destination_lowered]
    cases going.destination with
    | error failure => exact hsame
    | ok destination =>
      dsimp only [Except.map]
      rw [resolve_lowered]
      have hresolved := (Alike.refl (desk.resolve destination).2).toAlikeButResult
      cases (desk.resolve destination).1 with
      | none => exact { hresolved with }
      | some target => exact (Alike.refl _).toAlikeButResult

/-- The forms of commands that say at most what to go to or which field to get. -/
def casualForms : List String :=
  ["empty", "beep", "go", "get"]

theorem alikeButResult_perform_lowered (desk : Desk) (grammar : Grammar) (line second : String)
    {command : Command} (hform : command.form ∈ casualForms) :
    (desk.perform grammar line command).2.AlikeButResult
      (desk.perform grammar second command.lowered).2 := by
  cases command with
  | nothing => exact (Alike.refl _).toAlikeButResult
  | beep => exact (Alike.refl _).toAlikeButResult
  | go going? => exact desk.alikeButResult_go_lowered line second going?
  | get name =>
    show (desk.get name).2.AlikeButResult (desk.get (Text.lowered name)).2
    rw [get_lowered]
    exact (Alike.refl _).toAlikeButResult
  | put | answer | find | message => simp [casualForms, form] at hform

/-- Lines that are understood as the same command up to letter case do the same, but for
`result`. -/
theorem alikeButResult_execute {line second : String} (desk : Desk)
    (hsame : Text.lowered (strip second) = Text.lowered (strip line))
    (hform : (ofLineWith rules (strip line).toList).form ∈ casualForms) :
    (desk.execute line).2.AlikeButResult (desk.execute second).2 := by
  have hcommands := ofLineWith_alike hsame
  have hsecondForm : (ofLineWith rules (strip second).toList).form ∈ casualForms := by
    rw [← form_lowered, hcommands, form_lowered]
    exact hform
  rw [execute_eq, execute_eq]
  -- Both lines do what their common command in lower case does where the first was received.
  have hfirst := (desk.receive line).alikeButResult_perform_lowered .standard (strip line)
    (strip second) hform
  have hsecond := (desk.receive line).alikeButResult_perform_lowered .standard (strip second)
    (strip second) hsecondForm
  rw [hcommands] at hsecond
  have hreceived := (Alike.receive desk line second).perform .standard (strip second)
    (ofLineWith rules (strip second).toList)
  exact (hfirst.trans hsecond.symm).trans hreceived.2.toAlikeButResult

/-! ### Two spellings of a line -/

/-- Two lines that are understood alike: the same rules recognise them without the blanks at their
ends, they spell the same destination, except for the case of a name, and if they beep, go or get,
or are empty, they do the same on any desk, except for `result`. -/
structure UnderstoodAlike (line second : String) : Prop where
  recognised : ∀ rule ∈ rules,
    (rule.recognise (strip second).toList).isSome = (rule.recognise (strip line).toList).isSome
  destination : (Destination.ofLine? (strip second)).map (Option.map Destination.lowered) =
    (Destination.ofLine? (strip line)).map (Option.map Destination.lowered)
  execute : ∀ rule ∈ rules, rule.form ∈ casualForms →
    (rule.recognise (strip line).toList).isSome = true →
      ∀ desk : Desk, (desk.execute line).2.AlikeButResult (desk.execute second).2

theorem understoodAlike_of_respelled {line second : String} (h : Respelled line second) :
    UnderstoodAlike line second where
  recognised rule hrule := isSome_recognise_eq hrule h.lowered_strip_eq
  destination := by
    rw [← Destination.ofLine?_lowered, h.lowered_strip_eq, Destination.ofLine?_lowered]
  execute rule hrule hform hsome desk := by
    obtain ⟨command, hcommand⟩ := Option.isSome_iff_exists.mp hsome
    obtain ⟨hsame, -⟩ := Command.recognised hrule hcommand
    have hline : ofLineWith rules (strip line).toList = command :=
      (ofLineWith_eq_iff hrule hsame.symm).mpr hcommand
    refine desk.alikeButResult_execute h.lowered_strip_eq ?_
    rw [hline, hsame]
    exact hform

/-- Lines that differ in blanks at their ends do the same. -/
theorem alikeOutcomes_repadded {line second : String} (h : Repadded line second) (desk : Desk) :
    AlikeOutcomes (desk.execute line) (desk.execute second) := by
  rw [execute_eq, execute_eq, h.strip_eq]
  exact (Alike.receive desk line second).perform ..

/-- Assumes: two lines that differ in blanks at their ends and in the case of letters `A` to `Z`.
They are understood alike, and if they differ in blanks alone, they have the same answer and the
same effect on any desk, whatever they say. -/
theorem execute_respelled {line second : String} (h : Respelled line second) :
    UnderstoodAlike line second ∧
      (Repadded line second →
        ∀ desk : Desk, AlikeOutcomes (desk.execute line) (desk.execute second)) :=
  ⟨understoodAlike_of_respelled h, fun hpadded desk ↦ alikeOutcomes_repadded hpadded desk⟩

/-- A line that goes to a card by its name, and one that is carried out as a message. -/
theorem execute_respelled_samples :
    Respelled "go card \"Notes\"" " GO Card \"nOTES\"\t" ∧
      UnderstoodAlike "go card \"Notes\"" " GO Card \"nOTES\"\t" ∧
      Repadded "Dance " "\n Dance" ∧
      ∀ desk : Desk, AlikeOutcomes (desk.execute "Dance ") (desk.execute "\n Dance") := by
  have hrespelled : Respelled "go card \"Notes\"" " GO Card \"nOTES\"\t" :=
    ⟨"go card \"Notes\"".toList, "GO Card \"nOTES\"".toList, ⟨[], [], by decide⟩,
      ⟨[' '], ['\t'], by decide⟩, by decide⟩
  have hpadded : Repadded "Dance " "\n Dance" :=
    ⟨"Dance".toList, ⟨[], [' '], by decide⟩, ⟨['\n', ' '], [], by decide⟩⟩
  exact ⟨hrespelled, (execute_respelled hrespelled).1, hpadded,
    (execute_respelled hpadded.respelled).2 hpadded⟩

end Desk

end Cardfile
