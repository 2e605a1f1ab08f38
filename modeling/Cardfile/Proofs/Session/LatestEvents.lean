import Cardfile.Proofs.Session.History
import Mathlib.Data.List.Induction

/-!
# The log as the tail of a history

The log of a session is bounded, but nothing that it still holds is out of order, missing or held
twice: with the count of all events it stands for the tail of the whole history
(`Session.Recalls`). Whoever asks for the latest events, or for those since an earlier count, gets
the tail of the history of the length asked for, as far as the log reaches back. A count of events
stays a valid mark after the log has forgotten events before it
(`Session.Logs.recalls`).
-/

set_option autoImplicit false
set_option relaxedAutoImplicit false

namespace Cardfile.Session

/-! ### Tails -/

section Tail

variable {α : Type} {count : Int} {elements tail other : List α}

/-- The last elements of a list in their order, `count` of them. There may be fewer in the list, and
a count below one asks for none. -/
structure IsTail (count : Int) (elements tail : List α) : Prop where
  suffix : tail <:+ elements
  length_eq : (tail.length : Int) = max 0 (min count elements.length)

theorem isTail_lastOf (count : Int) (elements : List α) :
    IsTail count elements (lastOf count.toNat elements) where
  suffix := List.drop_suffix ..
  length_eq := by
    rw [length_lastOf]
    omega

theorem IsTail.unique (h : IsTail count elements tail) (hother : IsTail count elements other) :
    tail = other := by
  have hlength : tail.length = other.length := by
    have hboth := h.length_eq.trans hother.length_eq.symm
    omega
  exact (List.suffix_of_suffix_length_le h.suffix hother.suffix
    (Nat.le_of_eq hlength)).eq_of_length hlength

theorem IsTail.eq_nil (h : IsTail count elements tail) (hcount : count ≤ 0) : tail = [] := by
  have hlength := h.length_eq
  rw [← List.length_eq_zero_iff]
  omega

/-- Where the list ends with as many elements, they are its tail. -/
theorem IsTail.eq_of_append {earlier later : List α} (h : IsTail count (earlier ++ later) tail)
    (hcount : count = later.length) : tail = later := by
  refine h.unique ⟨List.suffix_append .., ?_⟩
  rw [hcount, List.length_append]
  omega

/-- The tail of a tail is a tail of the whole list. -/
theorem lastOf_lastOf_eq (count more : Nat) (elements : List α) :
    lastOf count (lastOf more elements) = lastOf (min count more) elements := by
  rcases Nat.le_total count more with hle | hle
  · rw [lastOf_lastOf hle, Nat.min_eq_left hle]
  · rw [Nat.min_eq_right hle]
    refine lastOf_eq_self ?_
    rw [length_lastOf]
    omega

end Tail

/-! ### What a session recalls of its history -/

/-- The log of a session is the tail of a history, and so is what it answers when it is asked for
the latest events or for those since a mark. -/
structure Recalls (session : Session) (history : List Event) : Prop where
  count : session.eventsLogged = history.length
  log : IsTail messageLogLimit history session.messageLog
  latest : ∀ count : Int, IsTail (min count messageLogLimit) history (session.recentMessages count)
  latest_nil : ∀ count : Int, count ≤ 0 → session.recentMessages count = []
  since : ∀ mark : Int,
    IsTail (min (history.length - mark) messageLogLimit) history (session.eventsSince mark)
  since_nil : ∀ mark : Int, history.length ≤ mark → session.eventsSince mark = []
  since_mark : ∀ earlier later, history = earlier ++ later → later.length ≤ messageLogLimit →
    session.eventsSince earlier.length = later

variable {before session : Session} {history : List Event}

/-- Whatever else has changed in between, a session that began with an empty log recalls all that it
has logged. -/
theorem Logs.recalls (h : before.Logs history session) (hempty : before.messageLog = [])
    (hzero : before.eventsLogged = 0) : session.Recalls history := by
  have hcount : session.eventsLogged = history.length := by
    rw [h.eventsLogged_eq, hzero, Nat.zero_add]
  have hlog : session.messageLog = lastOf messageLogLimit history := by
    rw [h.messageLog_eq (by simp [hempty]), hempty, List.nil_append]
  have hlatest (count : Int) :
      IsTail (min count messageLogLimit) history (session.recentMessages count) := by
    have htail := isTail_lastOf (min count messageLogLimit) history
    have hboth : (min count (messageLogLimit : Int)).toNat = min count.toNat messageLogLimit := by
      omega
    rw [recentMessages, hlog, lastOf_lastOf_eq, ← hboth]
    exact htail
  -- The log is asked for no more than it holds, which makes no difference to what it answers.
  have hsince (mark : Int) : IsTail (min (history.length - mark) messageLogLimit) history
      (session.eventsSince mark) := by
    refine ⟨(hlatest _).suffix, ?_⟩
    rw [eventsSince, (hlatest _).length_eq, hcount, hlog, length_lastOf]
    omega
  exact {
    count := hcount
    log := hlog ▸ isTail_lastOf (messageLogLimit : Int) history
    latest := hlatest
    latest_nil := fun count hnone ↦ (hlatest count).eq_nil (by omega)
    since := hsince
    since_nil := fun mark hnone ↦ (hsince mark).eq_nil (by omega)
    since_mark := by
      rintro earlier later rfl hfew
      refine (hsince earlier.length).eq_of_append ?_
      rw [List.length_append]
      omega }

/-! ### Logging one event after another -/

/-- The session after its log was called for each event. -/
def logEach (session : Session) (events : List Event) : Session :=
  events.foldl (fun session event ↦ session.log event.kind event.detail) session

theorem logs_logEach (session : Session) (events : List Event) :
    session.Logs events (session.logEach events) := by
  induction events using List.reverseRecOn with
  | nil => exact .refl
  | append_singleton events event ih =>
    rw [logEach, List.foldl_concat]
    exact ih.log event.kind event.detail

/-- Whatever is logged one after another in a new session, the session recalls it. -/
theorem recalls_logEach (history : List Event) :
    (({} : Session).logEach history).Recalls history :=
  (logs_logEach {} history).recalls rfl rfl

end Cardfile.Session
