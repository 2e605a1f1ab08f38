import Cardfile.Proofs.Desk.Hearing
import Cardfile.Proofs.Desk.Logging
import Cardfile.Proofs.Session.Cursor

/-!
# Remembered lines

A desk remembers exactly the lines that it has heard, blank ones left out, whatever became of them
(`Desk.commandHistory_run`). Each of them was logged before anything that it brought about
(`Desk.exists_logged_execute`). Among the remembered lines stands the recall cursor, which a new
line takes behind the last of them and recall takes back and forth, one place at a time and no
further than there are lines (`Desk.keepsLines_run`).
-/

set_option autoImplicit false
set_option relaxedAutoImplicit false

namespace Cardfile

open Text

/-! ### Lines heard along a run -/

namespace Operation

/-- The line that an operation brings, if it brings one. -/
def line? : Operation → Option String
  | .execute line => some line
  | _ => none

/-- The lines that operations bring in their order, without the blank ones. -/
def spoken (operations : List Operation) : List String :=
  (operations.filterMap line?).filter fun line ↦ !(strip line).isEmpty

theorem spoken_cons (operation : Operation) (rest : List Operation) :
    spoken (operation :: rest) = spoken [operation] ++ spoken rest := by
  rw [spoken, spoken, spoken, ← List.filter_append, ← List.filterMap_append, List.singleton_append]

theorem spoken_execute (line : String) :
    spoken [.execute line] = if (strip line).isEmpty then [] else [line] := by
  cases hblank : (strip line).isEmpty <;> simp [spoken, line?, hblank]

theorem spoken_of_line?_eq_none {operation : Operation} (h : operation.line? = none) :
    spoken [operation] = [] := by
  rw [spoken, List.filterMap_cons_none h]
  rfl

theorem line?_eq_none {operation : Operation} (h : ∀ line, operation ≠ .execute line) :
    operation.line? = none := by
  unfold line?
  split
  · exact absurd rfl (h _)
  · rfl

end Operation

namespace Desk

variable {desk : Desk}

theorem receive_of_blank {raw : String} (hblank : (strip raw).isEmpty = true) :
    desk.receive raw = desk.log .command raw := by
  rw [receive, if_pos hblank]

theorem receive_of_not_blank {raw : String} (hblank : (strip raw).isEmpty = false) :
    desk.receive raw =
      (desk.log .command raw).mapSession fun session ↦ session.rememberCommand raw := by
  rw [receive, hblank, if_neg Bool.false_ne_true]

theorem commandHistory_execute (desk : Desk) (raw : String) :
    (desk.execute raw).2.session.commandHistory =
      desk.session.commandHistory ++ Operation.spoken [.execute raw] := by
  rw [execute_eq, (hearsNothing_perform ..).history, Operation.spoken_execute]
  cases hblank : (strip raw).isEmpty with
  | true =>
    rw [receive_of_blank hblank, if_pos rfl, List.append_nil]
    rfl
  | false =>
    rw [receive_of_not_blank hblank, if_neg Bool.false_ne_true]
    rfl

theorem historyIndex_execute (desk : Desk) (raw : String) :
    (desk.execute raw).2.session.historyIndex =
      if (strip raw).isEmpty then desk.session.historyIndex else none := by
  rw [execute_eq, (hearsNothing_perform ..).historyIndex]
  cases hblank : (strip raw).isEmpty with
  | true =>
    rw [receive_of_blank hblank, if_pos rfl]
    rfl
  | false =>
    rw [receive_of_not_blank hblank, if_neg Bool.false_ne_true]
    rfl

theorem commandHistory_historyPrevious (desk : Desk) :
    desk.historyPrevious.2.session.commandHistory = desk.session.commandHistory := by
  obtain ⟨index, hindex⟩ := desk.session.exists_historyPrevious_eq
  show desk.session.historyPrevious.2.commandHistory = desk.session.commandHistory
  rw [hindex]

theorem commandHistory_historyNext (desk : Desk) :
    desk.historyNext.2.session.commandHistory = desk.session.commandHistory := by
  obtain ⟨index, hindex⟩ := desk.session.exists_historyNext_eq
  show desk.session.historyNext.2.commandHistory = desk.session.commandHistory
  rw [hindex]

theorem commandHistory_operate (desk : Desk) (operation : Operation) :
    (desk.operate operation).session.commandHistory =
      desk.session.commandHistory ++ Operation.spoken [operation] := by
  by_cases hline : ∃ line, operation = .execute line
  · obtain ⟨line, rfl⟩ := hline
    rw [operate, commandHistory_execute]
  rw [not_exists] at hline
  rw [Operation.spoken_of_line?_eq_none (Operation.line?_eq_none hline), List.append_nil]
  by_cases hprevious : operation = .historyPrevious
  · rw [hprevious, operate, commandHistory_historyPrevious]
  by_cases hnext : operation = .historyNext
  · rw [hnext, operate, commandHistory_historyNext]
  · exact (hearsNothing_operate hline hprevious hnext desk).history

theorem commandHistory_run (desk : Desk) (operations : List Operation) :
    (desk.run operations).session.commandHistory =
      desk.session.commandHistory ++ Operation.spoken operations := by
  induction operations generalizing desk with
  | nil => exact (List.append_nil _).symm
  | cons operation rest ih =>
    rw [run, List.foldl_cons, ← run, ih, commandHistory_operate,
      Operation.spoken_cons operation rest, List.append_assoc]

/-! ### Lines in the log -/

/-- The events of a line begin with the line itself, and no other line is among them. -/
theorem exists_logs_execute (desk : Desk) (raw : String) :
    ∃ later, (∀ event ∈ later, event.kind ≠ .command) ∧
      desk.session.Logs (⟨.command, raw⟩ :: later) (desk.execute raw).2.session := by
  have hreceived : desk.Remains none False [⟨.command, raw⟩] (desk.receive raw) :=
    desk.remains_receive raw
  obtain ⟨later, hlater, hlogs⟩ := (hearsNothing_perform (desk.receive raw) .standard (strip raw)
    (Command.ofLineWith Grammar.standard.commands (strip raw).toList)).logs
  rw [execute_eq]
  exact ⟨later, hlater, hreceived.logs.trans hlogs⟩

/-- Right after a line the log still holds all its events. -/
theorem exists_logged_execute (hfits : desk.session.Fits desk.stack) (raw : String) :
    ∃ later, (∀ event ∈ later, event.kind ≠ .command) ∧
      desk.logged (.execute raw) = ⟨.command, raw⟩ :: later ∧
      desk.session.Logs (⟨.command, raw⟩ :: later) (desk.execute raw).2.session := by
  have hepisode : desk.Episode (.execute raw) (desk.logged (.execute raw)) (desk.execute raw).2 :=
    episode_logged hfits (.execute raw)
  have hlength : desk.session.messageLog.length ≤ Session.messageLogLimit := by
    rw [hfits.length_messageLog]
    exact Nat.min_le_left ..
  obtain ⟨later, hlater, hlogs⟩ := desk.exists_logs_execute raw
  have hsame := hepisode.logs.unique hlogs hlength (hepisode.length_le.trans (by decide))
  exact ⟨later, hlater, hsame.symm, hlogs⟩

/-! ### Recall -/

/-- A line is answered and the cursor is moved to a place, and nothing else happens. -/
structure Recalls (desk : Desk) (line : String) (place : Nat)
    (outcome : Except Failure (Option String) × Desk) : Prop where
  answer : outcome.1 = .ok (some line)
  cursor : outcome.2.session.cursor = place
  rest : ∃ index, outcome.2 = { desk with session := { desk.session with historyIndex := index } }

theorem recalls_recallAt {place : Nat} (hplace : place < desk.session.commandHistory.length) :
    desk.Recalls desk.session.commandHistory[place] place
      ((desk.session.recallAt place).1,
        { desk with session := (desk.session.recallAt place).2 }) := by
  rw [Session.recallAt_natCast hplace]
  exact ⟨rfl, rfl, _, rfl⟩

/-- A desk that remembers some lines, with what hearing a line makes of them and where recall takes
the cursor. As the places are natural numbers, none comes before the first. -/
structure KeepsLines (desk : Desk) (lines : List String) : Prop where
  history : desk.session.commandHistory = lines
  cursor : desk.session.historyIndex = none ∧ desk.session.cursor = lines.length ∨
    desk.session.historyIndex = some (desk.session.cursor : Int) ∧
      desk.session.cursor < lines.length
  hears : ∀ raw, (strip raw).isEmpty = false →
    (desk.execute raw).2.session.commandHistory = lines ++ [raw] ∧
      (desk.execute raw).2.session.cursor = lines.length + 1
  hears_blank : ∀ raw, (strip raw).isEmpty = true →
    (desk.execute raw).2.session.commandHistory = lines ∧
      (desk.execute raw).2.session.cursor = desk.session.cursor
  logs : ∀ raw, ∃ later, (∀ event ∈ later, event.kind ≠ .command) ∧
    desk.logged (.execute raw) = ⟨.command, raw⟩ :: later ∧
    desk.session.Logs (⟨.command, raw⟩ :: later) (desk.execute raw).2.session
  previous_of_nil : lines = [] → desk.historyPrevious = (.ok none, desk)
  previous : lines ≠ [] → ∃ line, lines[desk.session.cursor - 1]? = some line ∧
    desk.Recalls line (desk.session.cursor - 1) desk.historyPrevious
  next_of_new : desk.session.cursor = lines.length → desk.historyNext = (.ok none, desk)
  next_of_last : desk.session.cursor + 1 = lines.length →
    desk.Recalls "" (desk.session.cursor + 1) desk.historyNext
  next : desk.session.cursor + 1 < lines.length →
    ∃ line, lines[desk.session.cursor + 1]? = some line ∧
      desk.Recalls line (desk.session.cursor + 1) desk.historyNext

theorem keepsLines (hfits : desk.session.Fits desk.stack) :
    desk.KeepsLines desk.session.commandHistory where
  history := rfl
  cursor := hfits.historyIndex_cases
  hears raw hraw := by
    have hhistory : (desk.execute raw).2.session.commandHistory =
        desk.session.commandHistory ++ [raw] := by
      rw [commandHistory_execute, Operation.spoken_execute, hraw, if_neg Bool.false_ne_true]
    refine ⟨hhistory, ?_⟩
    rw [Session.cursor, historyIndex_execute, hraw, if_neg Bool.false_ne_true, hhistory,
      Option.map_none, Option.getD_none, List.length_append, List.length_singleton]
  hears_blank raw hraw := by
    have hhistory : (desk.execute raw).2.session.commandHistory = desk.session.commandHistory := by
      rw [commandHistory_execute, Operation.spoken_execute, if_pos hraw, List.append_nil]
    refine ⟨hhistory, ?_⟩
    rw [Session.cursor, historyIndex_execute, if_pos hraw, hhistory, Session.cursor]
  logs := exists_logged_execute hfits
  previous_of_nil hnil := by rw [historyPrevious, Session.historyPrevious_of_nil hnil]
  previous hne := by
    have hpos : 0 < desk.session.commandHistory.length := List.length_pos_iff.mpr hne
    have hplace : desk.session.cursor - 1 < desk.session.commandHistory.length := by
      have hle := hfits.cursor_le
      omega
    rw [historyPrevious, hfits.historyPrevious_eq hne]
    exact ⟨_, List.getElem?_eq_getElem hplace, recalls_recallAt hplace⟩
  next_of_new hnew := by rw [historyNext, hfits.historyNext_of_new hnew]
  next_of_last hlast := by
    rw [historyNext, hfits.historyNext_of_last hlast]
    exact ⟨rfl, hlast.symm, none, rfl⟩
  next hplace := by
    rw [historyNext, hfits.historyNext_eq hplace]
    exact ⟨_, List.getElem?_eq_getElem hplace, recalls_recallAt hplace⟩

/-- Assumes: a fresh desk, and any operations after it. The desk keeps the lines that were executed,
blank ones left out, those included that failed. -/
theorem keepsLines_run {base : Stack} {start : Desk} (hopen : open? base = some start)
    (operations : List Operation) :
    (start.run operations).KeepsLines (Operation.spoken operations) := by
  have hhistory : (start.run operations).session.commandHistory = Operation.spoken operations := by
    rw [commandHistory_run]
    obtain ⟨first, rest, -, rfl⟩ := open?_eq_some_iff.mp hopen
    rfl
  rw [← hhistory]
  exact keepsLines (reached_run hopen operations).session

/-- A failed line, a blank one and one more line, with recall in between. -/
def recallingLines : List Operation :=
  [.execute "go nowhere", .execute " \t", .openField "Body", .historyPrevious, .execute " beep ",
    .historyPrevious, .historyPrevious]

theorem keepsLines_run_recallingLines :
    open? Stack.starter = some starter ∧
      (starter.run recallingLines).KeepsLines ["go nowhere", " beep "] ∧
      (starter.run recallingLines).Recalls " beep " 1
        (starter.run recallingLines).historyNext := by
  have hspoken : Operation.spoken recallingLines = ["go nowhere", " beep "] := by decide +kernel
  have hcursor : (starter.run recallingLines).session.cursor = 0 := by decide +kernel
  have hkeeps := keepsLines_run open?_starter recallingLines
  rw [hspoken] at hkeeps
  obtain ⟨line, hline, hrecalls⟩ := hkeeps.next (by rw [hcursor]; decide)
  rw [hcursor] at hline hrecalls
  obtain rfl : " beep " = line := Option.some.inj hline
  exact ⟨open?_starter, hkeeps, hrecalls⟩

end Desk

end Cardfile
