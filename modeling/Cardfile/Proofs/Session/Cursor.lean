import Cardfile.Proofs.Session.Fit

/-!
# The recall cursor

The cursor of a session stands at a remembered line, or behind them all, where a new line is typed
(`Session.cursor`). A step back takes it to the line before, and stays at the first one
(`Session.Fits.historyPrevious_eq`). A step forward takes it to the line after
(`Session.Fits.historyNext_eq`) and from the last one to a new line, which is empty
(`Session.Fits.historyNext_of_last`); from there it goes no further. So both steps always answer.
-/

set_option autoImplicit false
set_option relaxedAutoImplicit false

namespace Cardfile.Session

/-- The place of the cursor among the remembered lines, which for a new line is behind them all. -/
def cursor (session : Session) : Nat :=
  (session.historyIndex.map Int.toNat).getD session.commandHistory.length

variable {session : Session} {stack : Stack} {place : Nat}

theorem recallAt_natCast (h : place < session.commandHistory.length) :
    session.recallAt place =
      (.ok (some session.commandHistory[place]), { session with historyIndex := some place }) := by
  have helement : elementAt? session.commandHistory place = some session.commandHistory[place] := by
    rw [elementAt?, placeOf?_natCast h, Option.bind_some, List.getElem?_eq_getElem h]
  rw [recallAt, helement]

theorem historyPrevious_of_nil (hnil : session.commandHistory = []) :
    session.historyPrevious = (.ok none, session) := by
  rw [historyPrevious, hnil]
  rfl

namespace Fits

/-- The cursor stands at a line that is there, or the line is new. -/
theorem historyIndex_cases (hfits : session.Fits stack) :
    session.historyIndex = none ∧ session.cursor = session.commandHistory.length ∨
      session.historyIndex = some (session.cursor : Int) ∧
        session.cursor < session.commandHistory.length := by
  cases hindex : session.historyIndex with
  | none => exact Or.inl ⟨rfl, by rw [cursor, hindex]; rfl⟩
  | some position =>
    obtain ⟨hnonneg, hlt⟩ := hfits.historyIndex_valid position hindex
    obtain ⟨place, rfl⟩ := Int.eq_ofNat_of_zero_le hnonneg
    have hcursor : session.cursor = place := by
      rw [cursor, hindex]
      rfl
    refine Or.inr ⟨by rw [hcursor], ?_⟩
    omega

theorem cursor_le (hfits : session.Fits stack) :
    session.cursor ≤ session.commandHistory.length := by
  rcases hfits.historyIndex_cases with ⟨-, hcursor⟩ | ⟨-, hcursor⟩ <;> omega

/-- The line is new exactly if the cursor is behind all remembered lines. -/
theorem historyIndex_eq_none_iff (hfits : session.Fits stack) :
    session.historyIndex = none ↔ session.cursor = session.commandHistory.length := by
  rcases hfits.historyIndex_cases with ⟨hindex, hcursor⟩ | ⟨hindex, hcursor⟩
  · exact iff_of_true hindex hcursor
  · exact iff_of_false (hindex ▸ Option.some_ne_none _) (by omega)

theorem historyPrevious_eq (hfits : session.Fits stack) (hne : session.commandHistory ≠ []) :
    session.historyPrevious = session.recallAt (session.cursor - 1 : Nat) := by
  have hpos : 0 < session.commandHistory.length := List.length_pos_iff.mpr hne
  rw [Session.historyPrevious, List.isEmpty_eq_false_iff.mpr hne, if_neg Bool.false_ne_true]
  rcases hfits.historyIndex_cases with ⟨hindex, hcursor⟩ | ⟨hindex, hcursor⟩
  · rw [hindex, hcursor, Int.natCast_sub hpos, Int.natCast_one]
  · have hplace : (if (0 : Int) < session.cursor then (session.cursor : Int) - 1
        else session.cursor) = (session.cursor - 1 : Nat) := by
      split_ifs <;> omega
    rw [hindex]
    dsimp only
    rw [hplace]

theorem historyNext_eq (hfits : session.Fits stack)
    (hlt : session.cursor + 1 < session.commandHistory.length) :
    session.historyNext = session.recallAt (session.cursor + 1 : Nat) := by
  rcases hfits.historyIndex_cases with ⟨-, hcursor⟩ | ⟨hindex, -⟩
  · omega
  · rw [Session.historyNext, hindex]
    dsimp only
    rw [if_neg (by omega), Int.natCast_add, Int.natCast_one]

theorem historyNext_of_last (hfits : session.Fits stack)
    (hlast : session.cursor + 1 = session.commandHistory.length) :
    session.historyNext = (.ok (some ""), { session with historyIndex := none }) := by
  rcases hfits.historyIndex_cases with ⟨-, hcursor⟩ | ⟨hindex, -⟩
  · omega
  · rw [Session.historyNext, hindex]
    dsimp only
    rw [if_pos (by omega)]

theorem historyNext_of_new (hfits : session.Fits stack)
    (hnew : session.cursor = session.commandHistory.length) :
    session.historyNext = (.ok none, session) := by
  rw [Session.historyNext, hfits.historyIndex_eq_none_iff.mpr hnew]

/-- The cursor of a session that fits a stack can always be stepped back, if only to where it is. -/
theorem exists_historyPrevious_eq_ok (hfits : session.Fits stack) :
    ∃ line, session.historyPrevious.1 = .ok line := by
  by_cases hnil : session.commandHistory = []
  · exact ⟨none, by rw [historyPrevious_of_nil hnil]⟩
  · have hpos : 0 < session.commandHistory.length := List.length_pos_iff.mpr hnil
    have hle := hfits.cursor_le
    rw [hfits.historyPrevious_eq hnil, recallAt_natCast (by omega)]
    exact ⟨_, rfl⟩

theorem exists_historyNext_eq_ok (hfits : session.Fits stack) :
    ∃ line, session.historyNext.1 = .ok line := by
  rcases Nat.lt_trichotomy (session.cursor + 1) session.commandHistory.length with
    hlt | hlast | hbehind
  · rw [hfits.historyNext_eq hlt, recallAt_natCast hlt]
    exact ⟨_, rfl⟩
  · exact ⟨_, by rw [hfits.historyNext_of_last hlast]⟩
  · have hle := hfits.cursor_le
    exact ⟨none, by rw [hfits.historyNext_of_new (by omega)]⟩

end Fits

end Cardfile.Session
