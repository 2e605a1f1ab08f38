import Cardfile.Session
import Mathlib.Data.List.Basic

/-!
# What a session has logged

The log of a session forgets all but its latest entries. `Session.Logs` relates two states of a
session to the events that were logged between them, forgotten or not. The log holds the latest of
them (`Session.Logs.messageLog_eq`), and as long as they are no more than the log can hold they are
exactly the events since the earlier count (`Session.Logs.eventsSince_eq`).
-/

set_option autoImplicit false
set_option relaxedAutoImplicit false

namespace Cardfile.Session

/-! ### The last elements of a list -/

section LastOf

variable {α : Type} {count more : Nat} {elements first second : List α}

theorem length_lastOf (count : Nat) (elements : List α) :
    (lastOf count elements).length = min count elements.length := by
  rw [lastOf, List.length_drop]
  omega

theorem lastOf_eq_self (h : elements.length ≤ count) : lastOf count elements = elements := by
  rw [lastOf, Nat.sub_eq_zero_of_le h, List.drop_zero]

theorem lastOf_length_append (first second : List α) :
    lastOf second.length (first ++ second) = second := by
  rw [lastOf, List.length_append, Nat.add_sub_cancel, List.drop_left]

/-- The last elements of a list are not changed by forgetting earlier ones. -/
theorem lastOf_lastOf_append (h : count ≤ more + second.length) :
    lastOf count (lastOf more first ++ second) = lastOf count (first ++ second) := by
  have hshort : first.length - more ≤ first.length := Nat.sub_le ..
  have hdrop : lastOf more first ++ second = (first ++ second).drop (first.length - more) :=
    (List.drop_append_of_le_length hshort).symm
  rw [hdrop, lastOf, lastOf, List.drop_drop, List.length_drop, List.length_append]
  congr 1
  omega

theorem lastOf_lastOf (h : count ≤ more) :
    lastOf count (lastOf more elements) = lastOf count elements := by
  have happend : lastOf count (lastOf more elements ++ []) = lastOf count (elements ++ []) :=
    lastOf_lastOf_append (Nat.le_add_right_of_le h)
  rwa [List.append_nil, List.append_nil] at happend

end LastOf

/-! ### Logging several events -/

/-- The session with events logged one after another. -/
def logAll (session : Session) (events : List Event) : Session :=
  { session with
    messageLog := lastOf messageLogLimit (session.messageLog ++ events)
    eventsLogged := session.eventsLogged + events.length }

theorem logAll_nil {session : Session} (h : session.messageLog.length ≤ messageLogLimit) :
    session.logAll [] = session := by
  rw [logAll, List.append_nil, lastOf_eq_self h]
  rfl

theorem logAll_logAll (session : Session) (events later : List Event) :
    (session.logAll events).logAll later = session.logAll (events ++ later) := by
  simp only [logAll, lastOf_lastOf_append (Nat.le_add_right ..), List.append_assoc,
    List.length_append, Nat.add_assoc]

theorem length_messageLog_logAll_le (session : Session) (events : List Event) :
    (session.logAll events).messageLog.length ≤ messageLogLimit := by
  rw [logAll, length_lastOf]
  exact Nat.min_le_left ..

/-! ### Logged events -/

/-- The second state of a session comes from the first by logging the events in order, whatever
else has changed. -/
inductive Logs (before : Session) : List Event → Session → Prop
  | refl : Logs before [] before
  | quiet {events : List Event} {middle after : Session} (h : Logs before events middle)
      (hlog : after.messageLog = middle.messageLog)
      (hcount : after.eventsLogged = middle.eventsLogged) :
    Logs before events after
  | log {events : List Event} {middle : Session} (h : Logs before events middle)
      (kind : EventKind) (detail : String) :
    Logs before (events ++ [⟨kind, detail⟩]) (middle.log kind detail)

namespace Logs

variable {before middle after : Session} {events later other : List Event}

theorem trans (h : before.Logs events middle) (hlater : middle.Logs later after) :
    before.Logs (events ++ later) after := by
  induction hlater with
  | refl => rwa [List.append_nil]
  | quiet _ hlog hcount ih => exact ih.quiet hlog hcount
  | log _ kind detail ih =>
    rw [← List.append_assoc]
    exact ih.log kind detail

theorem eq_of_nil (h : before.Logs [] after) :
    after.messageLog = before.messageLog ∧ after.eventsLogged = before.eventsLogged := by
  generalize hnil : [] = events at h
  induction h with
  | refl => exact ⟨rfl, rfl⟩
  | quiet _ hlog hcount ih =>
    obtain ⟨hmiddleLog, hmiddleCount⟩ := ih hnil
    exact ⟨hlog.trans hmiddleLog, hcount.trans hmiddleCount⟩
  | log => exact absurd hnil (List.append_ne_nil_of_right_ne_nil _ (List.cons_ne_nil _ _)).symm

theorem eventsLogged_eq (h : before.Logs events after) :
    after.eventsLogged = before.eventsLogged + events.length := by
  induction h with
  | refl => rfl
  | quiet _ _ hcount ih => rw [hcount, ih]
  | log _ kind detail ih =>
    rw [Session.log, ih, List.length_append, List.length_singleton, Nat.add_assoc]

/-- The log is as if nothing that it can hold had been forgotten. -/
theorem messageLog_eq (h : before.Logs events after)
    (hbefore : before.messageLog.length ≤ messageLogLimit) :
    after.messageLog = lastOf messageLogLimit (before.messageLog ++ events) := by
  induction h with
  | refl => rw [List.append_nil, lastOf_eq_self hbefore]
  | quiet _ hlog _ ih => rw [hlog, ih]
  | log _ kind detail ih =>
    rw [Session.log, ih, lastOf_lastOf_append (Nat.le_add_right ..), List.append_assoc]

/-- Assumes: no more events than the log can hold. All of them can be told apart from the earlier
ones. -/
theorem eventsSince_eq (h : before.Logs events after)
    (hbefore : before.messageLog.length ≤ messageLogLimit)
    (hfew : events.length ≤ messageLogLimit) : after.eventsSince before.eventsLogged = events := by
  have hlog := h.messageLog_eq hbefore
  have hlength : events.length ≤ after.messageLog.length := by
    rw [hlog, length_lastOf, List.length_append]
    omega
  have hcount : (min ((after.eventsLogged : Int) - before.eventsLogged)
      (after.messageLog.length : Int)).toNat = events.length := by
    rw [h.eventsLogged_eq]
    omega
  rw [eventsSince, recentMessages, hcount, hlog, lastOf_lastOf hfew, lastOf_length_append]

/-- So few events are determined by the two states. -/
theorem unique (h : before.Logs events after) (hother : before.Logs other after)
    (hbefore : before.messageLog.length ≤ messageLogLimit)
    (hfew : events.length ≤ messageLogLimit) : other = events := by
  have hsame : other.length = events.length :=
    Nat.add_left_cancel (hother.eventsLogged_eq.symm.trans h.eventsLogged_eq)
  rw [← h.eventsSince_eq hbefore hfew, ← hother.eventsSince_eq hbefore (hsame ▸ hfew)]

end Logs

end Cardfile.Session
