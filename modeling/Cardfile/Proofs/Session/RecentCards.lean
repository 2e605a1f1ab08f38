import Cardfile.Session
import Mathlib.Data.List.Induction
import Mathlib.Data.List.Infix

/-!
# Recent cards and the pile that they are the top of

A session keeps only the newest of the cards that were left. Here it is compared with a pile that
never forgets: both are called in the same way, the newest card on top (`RecentCall`). Whatever the
calls, the recent cards are the top of the pile (`Session.keepsTop_callAll`), and as long as the
pile has never been higher than the session can keep, they are all of it. A card that falls out at
the bottom does not come back when others are popped, so the recent cards can run out before the
pile does; but a card that is popped is always the one that the pile pops.
-/

set_option autoImplicit false
set_option relaxedAutoImplicit false

namespace Cardfile

/-- A card is left, or the card left last is asked for. -/
inductive RecentCall where
  | push (cardId : Int)
  | pop
  deriving DecidableEq, Repr

namespace RecentCall

variable {pile recents : List Int}

/-- The card that a pile pops, if it is a pop and the pile is not empty, and the pile afterwards. -/
def onPile (pile : List Int) : RecentCall → Option Int × List Int
  | .push cardId => (none, cardId :: pile)
  | .pop => (pile.head?, pile.tail)

/-- The pile that an empty one has become after some calls. -/
def pileAfter (calls : List RecentCall) : List Int :=
  calls.foldl (fun pile call ↦ (call.onPile pile).2) []

/-- The pile has never been higher than a session can keep. -/
def NeverExceeds (calls : List RecentCall) : Prop :=
  ∀ earlier, earlier <+: calls → (pileAfter earlier).length ≤ Session.recentCardsLimit

theorem pileAfter_concat (calls : List RecentCall) (call : RecentCall) :
    pileAfter (calls ++ [call]) = (call.onPile (pileAfter calls)).2 := by
  rw [pileAfter, List.foldl_append, List.foldl_cons, List.foldl_nil, ← pileAfter]

theorem NeverExceeds.of_concat {calls : List RecentCall} {call : RecentCall}
    (h : NeverExceeds (calls ++ [call])) : NeverExceeds calls :=
  fun earlier hearlier ↦ h earlier (hearlier.trans (List.prefix_append calls [call]))

end RecentCall

namespace Session

open RecentCall

variable {session : Session} {calls : List RecentCall} {pile : List Int}

/-- What a session answers to a call, nothing to a push, and the session afterwards. -/
def call (session : Session) : RecentCall → Option Int × Session
  | .push cardId => (none, session.pushRecent cardId)
  | .pop => session.popRecent

def callAll (session : Session) (calls : List RecentCall) : Session :=
  calls.foldl (fun session call ↦ (session.call call).2) session

theorem callAll_concat (session : Session) (calls : List RecentCall) (call : RecentCall) :
    session.callAll (calls ++ [call]) = ((session.callAll calls).call call).2 := by
  rw [callAll, List.foldl_append, List.foldl_cons, List.foldl_nil, ← callAll]

theorem popRecent_fst (session : Session) : session.popRecent.1 = session.recentCards.head? := by
  unfold popRecent
  split <;> next hrecents => rw [hrecents]; rfl

theorem recentCards_popRecent (session : Session) :
    session.popRecent.2.recentCards = session.recentCards.tail := by
  unfold popRecent
  split <;> next hrecents => simp [hrecents]

/-! ### One call -/

theorem recentCards_call_isPrefix (h : session.recentCards <+: pile) (call : RecentCall) :
    (session.call call).2.recentCards <+: (call.onPile pile).2 := by
  cases call with
  | push cardId =>
    have hpushed : cardId :: session.recentCards <+: cardId :: pile :=
      List.cons_prefix_cons.mpr ⟨rfl, h⟩
    exact (List.take_prefix recentCardsLimit _).trans hpushed
  | pop =>
    show session.popRecent.2.recentCards <+: pile.tail
    rw [recentCards_popRecent, ← List.drop_one, ← List.drop_one]
    exact h.drop 1

theorem length_recentCards_call_le (h : session.recentCards.length ≤ recentCardsLimit)
    (call : RecentCall) : (session.call call).2.recentCards.length ≤ recentCardsLimit := by
  cases call with
  | push cardId => exact List.length_take_le ..
  | pop =>
    show session.popRecent.2.recentCards.length ≤ recentCardsLimit
    rw [recentCards_popRecent, List.length_tail]
    omega

/-- Nothing falls out as long as the pile is not too high. -/
theorem recentCards_call_eq (h : session.recentCards = pile) {call : RecentCall}
    (hfew : (call.onPile pile).2.length ≤ recentCardsLimit) :
    (session.call call).2.recentCards = (call.onPile pile).2 := by
  cases call with
  | push cardId =>
    show (cardId :: session.recentCards).take recentCardsLimit = cardId :: pile
    rw [h]
    exact List.take_of_length_le hfew
  | pop =>
    show session.popRecent.2.recentCards = pile.tail
    rw [recentCards_popRecent, h]

/-! ### Any calls -/

/-- The recent cards are the top of the pile that the calls make, as much of it as a session can
keep. -/
structure KeepsTop (session : Session) (calls : List RecentCall) : Prop where
  isPrefix : session.recentCards <+: pileAfter calls
  length_le : session.recentCards.length ≤ recentCardsLimit
  eq_of_neverExceeds : NeverExceeds calls → session.recentCards = pileAfter calls
  popped : ∀ cardId, (session.call .pop).1 = some cardId →
    (RecentCall.pop.onPile (pileAfter calls)).1 = some cardId

theorem popped_of_isPrefix (h : session.recentCards <+: pile) {cardId : Int}
    (hpopped : (session.call .pop).1 = some cardId) :
    (RecentCall.pop.onPile pile).1 = some cardId := by
  obtain ⟨below, rfl⟩ := h
  have hhead : session.recentCards.head? = some cardId := session.popRecent_fst ▸ hpopped
  show (session.recentCards ++ below).head? = some cardId
  rw [List.head?_append, hhead, Option.some_or]

theorem KeepsTop.call (h : session.KeepsTop calls) (call : RecentCall) :
    (session.call call).2.KeepsTop (calls ++ [call]) := by
  have htop : (session.call call).2.recentCards <+: pileAfter (calls ++ [call]) := by
    rw [pileAfter_concat]
    exact recentCards_call_isPrefix h.isPrefix call
  refine ⟨htop, length_recentCards_call_le h.length_le call, fun hnever ↦ ?_,
    fun cardId ↦ popped_of_isPrefix htop⟩
  have hfew : (pileAfter (calls ++ [call])).length ≤ recentCardsLimit :=
    hnever _ (List.prefix_refl _)
  rw [pileAfter_concat] at hfew ⊢
  exact recentCards_call_eq (h.eq_of_neverExceeds hnever.of_concat) hfew

/-- Whatever calls come to a fresh session, it keeps the top of the pile that they make. -/
theorem keepsTop_callAll (calls : List RecentCall) :
    (({} : Session).callAll calls).KeepsTop calls := by
  induction calls using List.reverseRecOn with
  | nil => exact ⟨List.nil_prefix, Nat.zero_le _, fun _ ↦ rfl, fun cardId ↦ id⟩
  | append_singleton calls call ih =>
    rw [callAll_concat]
    exact ih.call call

/-- One card more is pushed than can be kept, and as many are popped as were. The pile is left with
its first card, which the session has lost. -/
example :
    let pushes := (List.range (recentCardsLimit + 1)).map fun place : Nat ↦ RecentCall.push place
    let calls := pushes ++ List.replicate recentCardsLimit .pop
    pileAfter calls = [0] ∧ (({} : Session).callAll calls).recentCards = [] := by
  decide

end Session

end Cardfile
