import Cardfile.Proofs.Desk.Episode
import Cardfile.Proofs.Session.LatestEvents

/-!
# What operations log

No operation of a desk logs more than five events (`Desk.logsAtMost_operate`), far fewer than the
log holds. The most is logged by a line that finds a text on another card while a field is open: the
line, the query, the field and both cards. So whoever asks for the events of an operation right
after it gets all of them (`Desk.episode_logged`), and what a run logs altogether, forgotten or not,
is what its operations log one after another (`Desk.history`, `Desk.logs_history`). Of this history
the session recalls the tail (`Desk.recalls_run`).
-/

set_option autoImplicit false
set_option relaxedAutoImplicit false

namespace Cardfile.Desk

/-- One desk comes from another by logging a number of events at most. -/
def LogsAtMost (most : Nat) (before after : Desk) : Prop :=
  ∃ events, events.length ≤ most ∧ before.session.Logs events after.session

variable {desk before after : Desk}

/-- Where no event is logged, the log stays as it was. -/
theorem LogsAtMost.eq_of_zero (h : LogsAtMost 0 before after) :
    after.session.messageLog = before.session.messageLog ∧
      after.session.eventsLogged = before.session.eventsLogged := by
  obtain ⟨events, hevents, hlogs⟩ := h
  obtain rfl := List.length_eq_zero_iff.mp (Nat.le_zero.mp hevents)
  exact hlogs.eq_of_nil

theorem Remains.logsAtMost_zero (h : desk.Remains none False [] after) : LogsAtMost 0 desk after :=
  ⟨[], Nat.le_refl 0, h.logs⟩

theorem logsAtMost_selectTool (desk : Desk) (name : String) :
    LogsAtMost 0 desk (desk.selectTool name).2 :=
  (desk.remains_selectTool name).logsAtMost_zero

theorem logsAtMost_historyPrevious (desk : Desk) : LogsAtMost 0 desk desk.historyPrevious.2 :=
  desk.remains_historyPrevious.logsAtMost_zero

theorem logsAtMost_historyNext (desk : Desk) : LogsAtMost 0 desk desk.historyNext.2 :=
  desk.remains_historyNext.logsAtMost_zero

theorem logsAtMost_renameCard_of_failed {name : String} {failure : Failure}
    (h : desk.renameCard name = (.error failure, after)) : LogsAtMost 0 desk after := by
  refine ⟨[], Nat.le_refl 0, ?_⟩
  rw [session_renameCard_of_failed h]
  exact .refl

theorem logsAtMost_restore (desk : Desk) (settings : Settings) (store : Store) :
    LogsAtMost 0 desk (desk.restore settings store).2.1 := by
  refine ⟨[], Nat.le_refl 0, ?_⟩
  rw [restore_eq]
  cases (store.loadSnapshot settings desk.stack.name).1 with
  | none => exact .refl
  | some snapshot => exact Session.Logs.refl.quiet rfl rfl

theorem logsAtMost_operate (desk : Desk) (operation : Operation) :
    LogsAtMost 5 desk (desk.operate operation) := by
  obtain ⟨events, hepisode⟩ := desk.exists_episode_operate operation
  exact ⟨events, hepisode.length_le, hepisode.logs⟩

/-! ### Histories -/

/-- The events that an operation logs. -/
def logged (desk : Desk) (operation : Operation) : List Event :=
  (desk.operate operation).session.eventsSince desk.session.eventsLogged

/-- All events that operations log one after another. -/
def history (desk : Desk) : List Operation → List Event
  | [] => []
  | operation :: rest => desk.logged operation ++ (desk.operate operation).history rest

theorem history_append (desk : Desk) (first second : List Operation) :
    desk.history (first ++ second) = desk.history first ++ (desk.run first).history second := by
  induction first generalizing desk with
  | nil => simp [history, run]
  | cons operation rest ih => simp [history, run, ih]

theorem history_concat (desk : Desk) (operations : List Operation) (operation : Operation) :
    desk.history (operations ++ [operation]) =
      desk.history operations ++ (desk.run operations).logged operation := by
  simp [history_append, history]

/-- Assumes: a desk whose session fits its stack. The log still holds all events of an operation
right after it. -/
theorem episode_logged (hfits : desk.session.Fits desk.stack) (operation : Operation) :
    desk.Episode operation (desk.logged operation) (desk.operate operation) := by
  obtain ⟨events, hepisode⟩ := desk.exists_episode_operate operation
  have hlength : desk.session.messageLog.length ≤ Session.messageLogLimit := by
    rw [hfits.length_messageLog]
    exact Nat.min_le_left ..
  have hfew : events.length ≤ Session.messageLogLimit :=
    hepisode.length_le.trans (by decide)
  have hlogged : desk.logged operation = events := hepisode.logs.eventsSince_eq hlength hfew
  rwa [hlogged]

/-- Assumes: a fresh desk. Its history is what has been logged since, in order. -/
theorem logs_history {base : Stack} {start : Desk} (hopen : open? base = some start)
    (operations : List Operation) :
    start.session.Logs (start.history operations) (start.run operations).session := by
  induction operations using List.reverseRecOn with
  | nil => exact .refl
  | append_singleton operations operation ih =>
    have hepisode := episode_logged (reached_run hopen operations).session operation
    rw [history_concat, run_concat]
    exact ih.trans hepisode.logs

/-- Assumes: a fresh desk. All along a run its session recalls the history. -/
theorem recalls_run {base : Stack} {start : Desk} (hopen : open? base = some start)
    (operations : List Operation) :
    (start.run operations).session.Recalls (start.history operations) := by
  have hlogs := logs_history hopen operations
  obtain ⟨first, rest, -, rfl⟩ := open?_eq_some_iff.mp hopen
  exact hlogs.recalls rfl rfl

end Cardfile.Desk
