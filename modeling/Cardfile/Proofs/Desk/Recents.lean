import Cardfile.Proofs.Desk.Logging
import Cardfile.Proofs.Desk.Navigation

/-!
# The recent card

On a stack whose cards have distinct ids, the card left last is never the one that the desk is on
(`Desk.LeftElsewhere`), as long as nothing is restored. Lines that move leave a card behind
(`Desk.leftElsewhere_passing`), and all others touch neither the current card nor the recent ones
(`Desk.leftElsewhere_execute`, `Desk.trail_operate`).

So the recent card can be gone to whenever there is one (`Desk.execute_recent`), and from there the
recent card is the one just left (`Desk.execute_recent_of_passing`): going to it twice leads back
(`Desk.goes_back_run`).
-/

set_option autoImplicit false
set_option relaxedAutoImplicit false

namespace Cardfile

open Text Command

/-! ### Cards with distinct ids -/

namespace Stack

variable {stack : Stack} {place other : Nat} {card second : Card} {id : Int}

/-- No two cards have the same id. -/
def DistinctIds (stack : Stack) : Prop :=
  (stack.cards.map (·.id)).Nodup

instance (stack : Stack) : Decidable stack.DistinctIds :=
  inferInstanceAs (Decidable (stack.cards.map (·.id)).Nodup)

theorem DistinctIds.congr {base : Stack} (h : base.DistinctIds)
    (hskeleton : stack.skeleton = base.skeleton) : stack.DistinctIds := by
  rw [DistinctIds, cardIds_eq hskeleton]
  exact h

theorem DistinctIds.place_unique (h : stack.DistinctIds) (hcard : stack.cards[place]? = some card)
    (hother : stack.cards[other]? = some second) (hid : card.id = second.id) : place = other := by
  obtain ⟨hlt, -⟩ := List.getElem?_eq_some_iff.mp hcard
  refine (List.getElem?_inj (by rwa [List.length_map]) h).mp ?_
  rw [List.getElem?_map, List.getElem?_map, hcard, hother, Option.map_some, Option.map_some, hid]

/-- The place looked up by an id is that of the card with the id. -/
theorem DistinctIds.cardPlace?_eq (h : stack.DistinctIds)
    (hcard : stack.cards[place]? = some card) : stack.cardPlace? card.id = some place := by
  have hfirst : IsFirst (fun other ↦ (other.id == card.id) = true) stack.cards place := by
    refine ⟨⟨card, hcard, beq_self_eq_true card.id⟩, fun earlier hearlier other hother hid ↦ ?_⟩
    exact hearlier.ne (h.place_unique hother hcard (beq_iff_eq.mp hid))
  rw [cardPlace?, findIdx?_eq_some_iff_isFirst]
  exact hfirst

end Stack

/-- The current card and the recent ones. -/
def Session.trail (session : Session) : Int × List Int :=
  (session.currentCardIndex, session.recentCards)

namespace Desk

variable {desk before after : Desk} {raw : String} {target : Nat} {old new : Card}

theorem exists_place (hfits : desk.session.Fits desk.stack) :
    ∃ place : Nat, desk.session.currentCardIndex = place :=
  Int.eq_ofNat_of_zero_le hfits.index_nonneg

/-! ### The card left last -/

/-- The card left last, if there is one, is not the current one. -/
def LeftElsewhere (desk : Desk) : Prop :=
  desk.session.recentCards.head? ≠ desk.currentCard?.map (·.id)

theorem LeftElsewhere.congr (h : before.LeftElsewhere)
    (hskeleton : after.stack.skeleton = before.stack.skeleton)
    (hindex : after.session.currentCardIndex = before.session.currentCardIndex)
    (hrecents : after.session.recentCards = before.session.recentCards) : after.LeftElsewhere := by
  rw [LeftElsewhere, currentCard?, Stack.cardAt?_map, hindex, hrecents,
    Stack.cardIds_eq hskeleton, ← Stack.cardAt?_map]
  exact h

theorem leftElsewhere_open? {base : Stack} (hopen : open? base = some desk) :
    desk.LeftElsewhere := by
  obtain ⟨card, hcard⟩ := exists_currentCard? (reached_open? hopen).session
  rw [LeftElsewhere, hcard]
  obtain ⟨first, rest, -, rfl⟩ := open?_eq_some_iff.mp hopen
  exact (Option.some_ne_none card.id).symm

theorem leftElsewhere_passing (hfits : desk.session.Fits desk.stack)
    (hids : desk.stack.DistinctIds) (hmove : (target : Int) ≠ desk.session.currentCardIndex)
    (hold : desk.currentCard? = some old) (hnew : desk.stack.cardAt? target = some new)
    (raw : String) (noted : List Event) (recents : List Int) (vars : Variables) :
    (desk.passing raw noted recents old new target vars).LeftElsewhere := by
  have hcurrent : (desk.passing raw noted recents old new target vars).currentCard? = some new :=
    hnew
  rw [LeftElsewhere, hcurrent]
  show some old.id ≠ some new.id
  intro hsame
  obtain ⟨place, hplace⟩ := exists_place hfits
  rw [currentCard?, hplace, Stack.cardAt?_natCast] at hold
  rw [Stack.cardAt?_natCast] at hnew
  exact hmove (by rw [hplace, hids.place_unique hold hnew (Option.some.inj hsame)])

/-- The card left last is looked up at another place than the desk is at. -/
theorem LeftElsewhere.resolve_recent_ne (h : desk.LeftElsewhere)
    (hfits : desk.session.Fits desk.stack)
    (hplace : (desk.resolve (.toward .recent)).1 = some target) :
    (target : Int) ≠ desk.session.currentCardIndex := by
  intro hhere
  rw [resolve_recent hfits] at hplace
  obtain ⟨id, hid, hfound⟩ := Option.bind_eq_some_iff.mp hplace
  obtain ⟨hlt, hcard, -⟩ := List.findIdx?_eq_some_iff_getElem.mp hfound
  refine h ?_
  rw [hid, currentCard?, ← hhere, Stack.cardAt?_natCast, List.getElem?_eq_getElem hlt,
    Option.map_some, beq_iff_eq.mp hcard]

theorem leftElsewhere_of_goes (hfits : desk.session.Fits desk.stack)
    (hids : desk.stack.DistinctIds) (h : desk.LeftElsewhere) {outcome : Outcome}
    (hgoes : desk.Goes raw outcome) : outcome.2.LeftElsewhere := by
  cases hgoes with
  | moves _ _ hmove hold hnew =>
    exact leftElsewhere_passing hfits hids hmove hold hnew raw [] _ {}
  | @stays destination target hspelled hplace hhere =>
    by_cases hrecent : destination = .toward .recent
    · rw [hrecent] at hplace
      exact absurd hhere (h.resolve_recent_ne hfits hplace)
    · rw [recentsAfter_of_ne hrecent]
      exact h
  | fails => exact h
  | unknown => exact h

theorem leftElsewhere_of_searches (hfits : desk.session.Fits desk.stack)
    (hids : desk.stack.DistinctIds) (h : desk.LeftElsewhere) {query : String} {outcome : Outcome}
    (hsearches : desk.Searches raw query outcome) : outcome.2.LeftElsewhere := by
  cases hsearches with
  | moves _ hmove hold hnew =>
    exact leftElsewhere_passing hfits hids hmove hold hnew raw _ _ _
  | stays => exact h
  | fails => exact h

/-! ### Operations -/

theorem leftElsewhere_execute (hfits : desk.session.Fits desk.stack)
    (hids : desk.stack.DistinctIds) (h : desk.LeftElsewhere) (raw : String) :
    (desk.execute raw).2.LeftElsewhere := by
  have hstill (after : Desk) (hskeleton : after.stack.skeleton = desk.stack.skeleton)
      (hstance : after.session.stance = desk.session.stance) : after.LeftElsewhere := by
    obtain ⟨hindex, hrecents, -⟩ := Session.of_stance_eq hstance
    exact h.congr hskeleton hindex hrecents
  by_cases hgo : (go? (strip raw).toList).isSome = true
  · by_cases hshort : ∀ negative digits, SpellsCardNumber negative digits (strip raw).toList →
        digits.length ≤ digitLimit
    · exact leftElsewhere_of_goes hfits hids h (goes_execute hfits hgo hshort)
    · push Not at hshort
      obtain ⟨negative, digits, hspells, hlong⟩ := hshort
      rw [execute_of_spellsCardNumber desk hspells hlong]
      exact hstill _ (congrArg Stack.skeleton (desk.stack_receive raw)) (desk.stance_receive raw)
  by_cases hfind : (find? (strip raw).toList).isSome = true
  · obtain ⟨expression, query, hsaid, hvalue⟩ := exists_query hfits hfind
    exact leftElsewhere_of_searches hfits hids h (searches_execute hfits hsaid hvalue)
  · have hskeleton := desk.skeleton_operate (.execute raw)
    rw [operate] at hskeleton
    exact hstill _ hskeleton (stance_execute (Option.not_isSome_iff_eq_none.mp hgo)
      (Option.not_isSome_iff_eq_none.mp hfind) desk)

theorem trail_leaveField (desk : Desk) : desk.leaveField.session.trail = desk.session.trail := by
  unfold leaveField
  split_ifs <;> rfl

theorem trail_setUserLevel (desk : Desk) (level : Int) :
    (desk.setUserLevel level).2.session.trail = desk.session.trail := by
  unfold setUserLevel
  split <;> rfl

/-- Only lines and restores touch the current card and the recent ones. -/
theorem trail_operate {operation : Operation} (hline : ∀ line, operation ≠ .execute line)
    (hrestore : ∀ settings store, operation ≠ .restore settings store) (desk : Desk) :
    (desk.operate operation).session.trail = desk.session.trail := by
  cases operation with
  | execute line => exact absurd rfl (hline line)
  | restore settings store => exact absurd rfl (hrestore settings store)
  | save settings store => rfl
  | openField name =>
    rw [operate, openField]
    split
    · rfl
    · exact desk.trail_leaveField
  | editFieldText text =>
    rw [operate, editFieldText]
    split
    · rfl
    · split
      · dsimp only
        split <;> rfl
      · rfl
  | closeField =>
    rw [operate, closeField]
    split
    · exact desk.trail_leaveField
    · rfl
  | editScript buttonId script =>
    rw [operate, editScript]
    split <;> rfl
  | renameCard name =>
    rw [operate, renameCard]
    split
    · dsimp only
      split <;> rfl
    · rfl
  | setUserLevel level => exact desk.trail_setUserLevel level
  | setProperty name value =>
    rw [operate, setProperty]
    split
    · split
      · exact desk.trail_setUserLevel _
      · rfl
    · split <;> rfl
  | selectTool name =>
    rw [operate, selectTool]
    split <;> rfl
  | historyPrevious =>
    obtain ⟨index, hindex⟩ := desk.session.exists_historyPrevious_eq
    show desk.session.historyPrevious.2.trail = desk.session.trail
    rw [hindex]
    rfl
  | historyNext =>
    obtain ⟨index, hindex⟩ := desk.session.exists_historyNext_eq
    show desk.session.historyNext.2.trail = desk.session.trail
    rw [hindex]
    rfl

theorem leftElsewhere_operate {operation : Operation} (hfits : desk.session.Fits desk.stack)
    (hids : desk.stack.DistinctIds) (h : desk.LeftElsewhere)
    (hrestore : ∀ settings store, operation ≠ .restore settings store) :
    (desk.operate operation).LeftElsewhere := by
  by_cases hline : ∃ line, operation = .execute line
  · obtain ⟨line, rfl⟩ := hline
    exact leftElsewhere_execute hfits hids h line
  · rw [not_exists] at hline
    have htrail := trail_operate hline hrestore desk
    exact h.congr (desk.skeleton_operate operation) (congrArg Prod.fst htrail)
      (congrArg Prod.snd htrail)

theorem leftElsewhere_run {base : Stack} (hopen : open? base = some desk)
    (hids : base.DistinctIds) {operations : List Operation}
    (hrestore : ∀ settings store, .restore settings store ∉ operations) :
    (desk.run operations).LeftElsewhere := by
  induction operations using List.reverseRecOn with
  | nil => exact leftElsewhere_open? hopen
  | append_singleton operations operation ih =>
    have hreached := reached_run hopen operations
    rw [run_concat]
    refine leftElsewhere_operate hreached.session (hids.congr hreached.stack.skeleton)
      (ih fun settings store hmem ↦ hrestore settings store (List.mem_append_left _ hmem)) ?_
    rintro settings store rfl
    exact hrestore settings store List.mem_concat_self

/-! ### Going back -/

/-- A line that says to go to the recent card. -/
def SaysRecent (raw : String) : Prop :=
  Destination.ofLine? (strip raw) = .ok (some (.toward .recent))

instance (raw : String) : Decidable (SaysRecent raw) :=
  inferInstanceAs (Decidable (_ = _))

/-- The recent card is on the stack, elsewhere than the desk, and a line that says so goes to it. -/
theorem execute_recent (hfits : desk.session.Fits desk.stack) (hids : desk.stack.DistinctIds)
    (h : desk.LeftElsewhere) {id : Int} {rest : List Int}
    (hrecents : desk.session.recentCards = id :: rest) :
    ∃ (place : Nat) (old new : Card), desk.stack.cards[place]? = some new ∧ new.id = id ∧
      (place : Int) ≠ desk.session.currentCardIndex ∧ desk.currentCard? = some old ∧
      ∀ raw, SaysRecent raw → desk.execute raw =
        (.ok "→ went to recent card", desk.passing raw [] rest old new place {}) := by
  obtain ⟨old, hold⟩ := exists_currentCard? hfits
  have hknown := hfits.recentCards_known id (hrecents ▸ List.mem_cons_self)
  obtain ⟨new, hmem, rfl⟩ := List.mem_map.mp hknown
  obtain ⟨place, hnew⟩ := List.getElem?_of_mem hmem
  have hplace : (desk.resolve (.toward .recent)).1 = some place := by
    rw [resolve_recent hfits, hrecents, List.head?_cons, Option.bind_some,
      hids.cardPlace?_eq hnew]
  have hmove := h.resolve_recent_ne hfits hplace
  refine ⟨place, old, new, hnew, rfl, hmove, hold, fun raw hsaid ↦ ?_⟩
  have hanswer : Destination.arrivalMessage (.toward .recent) = "→ went to recent card" := by
    decide +kernel
  have hgoes : desk.Goes raw (.ok (Destination.arrivalMessage (.toward .recent)),
      desk.passing raw [] desk.session.recentCards.tail old new place {}) :=
    .moves hsaid hplace hmove hold ((desk.stack.cardAt?_natCast place).trans hnew)
  rw [hanswer, hrecents] at hgoes
  exact (goes_execute_of_spelled hfits hsaid).unique hgoes

/-- From the card that a line went to, the recent card is the one that the line left. -/
theorem execute_recent_of_passing (hfits : desk.session.Fits desk.stack)
    (hids : desk.stack.DistinctIds) {place : Nat} {recents : List Int}
    (hmove : (place : Int) ≠ desk.session.currentCardIndex) (hold : desk.currentCard? = some old)
    (hnew : desk.stack.cards[place]? = some new)
    (hlength : recents.length + 1 ≤ Session.recentCardsLimit)
    (hpassed : (desk.passing raw [] recents old new place {}).session.Fits desk.stack)
    {second : String} (hsaid : SaysRecent second) :
    ∃ last, (desk.passing raw [] recents old new place {}).execute second =
        (.ok "→ went to recent card", last) ∧
      last.session.currentCardIndex = desk.session.currentCardIndex ∧
      last.session.recentCards = new.id :: recents := by
  have hkept (id : Int) : (id :: recents).take Session.recentCardsLimit = id :: recents :=
    List.take_of_length_le hlength
  have hcurrent : (desk.passing raw [] recents old new place {}).currentCard? = some new :=
    (desk.stack.cardAt?_natCast place).trans hnew
  have hleft : (desk.passing raw [] recents old new place {}).LeftElsewhere :=
    leftElsewhere_passing hfits hids hmove hold hcurrent raw [] recents {}
  obtain ⟨back, left, returned, hreturned, hid, -, hleaving, hgoes⟩ :=
    execute_recent hpassed hids hleft (hkept old.id)
  obtain rfl : new = left := Option.some.inj (hcurrent.symm.trans hleaving)
  obtain ⟨here, hhere⟩ := exists_place hfits
  rw [currentCard?, hhere, Stack.cardAt?_natCast] at hold
  have hback : (back : Int) = desk.session.currentCardIndex := by
    rw [hhere, hids.place_unique hreturned hold hid]
  exact ⟨_, hgoes second hsaid, hback, hkept new.id⟩

/-- Assumes: a fresh desk on a stack whose cards have distinct ids, any operations after it but
restores, and a recent card. The recent card is on the stack, elsewhere than the desk is. A line
that says to go to the recent card goes there, and another such line goes back to where the desk
was, with the same recent cards. -/
theorem goes_back_run {base : Stack} {start : Desk} (hopen : open? base = some start)
    (hids : base.DistinctIds) {operations : List Operation}
    (hrestore : ∀ settings store, .restore settings store ∉ operations) {id : Int}
    {rest : List Int} (hrecents : (start.run operations).session.recentCards = id :: rest) :
    ∃ (place : Nat) (card : Card), (start.run operations).stack.cards[place]? = some card ∧
      card.id = id ∧ (place : Int) ≠ (start.run operations).session.currentCardIndex ∧
      ∀ raw second, SaysRecent raw → SaysRecent second →
        ∃ once twice, (start.run operations).execute raw = (.ok "→ went to recent card", once) ∧
          once.session.currentCardIndex = place ∧
          once.execute second = (.ok "→ went to recent card", twice) ∧
          twice.session.currentCardIndex = (start.run operations).session.currentCardIndex ∧
          twice.session.recentCards = (start.run operations).session.recentCards := by
  have hreached := reached_run hopen operations
  have hfits := hreached.session
  have hdistinct : (start.run operations).stack.DistinctIds := hids.congr hreached.stack.skeleton
  have hleft : (start.run operations).LeftElsewhere := leftElsewhere_run hopen hids hrestore
  generalize start.run operations = desk at hfits hdistinct hleft hrecents ⊢
  have hlength : rest.length + 1 ≤ Session.recentCardsLimit :=
    (congrArg List.length hrecents).symm.trans_le hfits.length_recentCards
  obtain ⟨place, old, new, hnew, hid, hmove, hold, hgoes⟩ :=
    execute_recent hfits hdistinct hleft hrecents
  refine ⟨place, new, hnew, hid, hmove, fun raw second hraw hsecond ↦ ?_⟩
  have hpassed := fits_operate hfits (.execute raw)
  rw [operate, hgoes raw hraw] at hpassed
  obtain ⟨last, hreturns, hback, hkept⟩ :=
    execute_recent_of_passing hfits hdistinct hmove hold hnew hlength hpassed hsecond
  exact ⟨_, last, hgoes raw hraw, rfl, hreturns, hback, by rw [hkept, hid, hrecents]⟩

theorem goes_back_run_lastCard :
    open? Stack.starter = some starter ∧ Stack.starter.DistinctIds ∧
      (∀ settings store, .restore settings store ∉ [Operation.execute "go last"]) ∧
      (starter.run [.execute "go last"]).session.recentCards = [101] ∧
      SaysRecent "go recent" ∧ SaysRecent "GO to Recent card" ∧
      ∃ once twice, (starter.run [.execute "go last"]).execute "go recent" =
          (.ok "→ went to recent card", once) ∧
        once.execute "GO to Recent card" = (.ok "→ went to recent card", twice) ∧
        twice.session.currentCardIndex = 2 ∧ twice.session.recentCards = [101] := by
  have hids : Stack.starter.DistinctIds := by decide
  have hrestore (settings : Settings) (store : Store) :
      .restore settings store ∉ [Operation.execute "go last"] := by
    simp
  have hrecents : (starter.run [.execute "go last"]).session.recentCards = [101] := by
    decide +kernel
  have hindex : (starter.run [.execute "go last"]).session.currentCardIndex = 2 := by
    decide +kernel
  have hsaid : SaysRecent "go recent" := by decide +kernel
  have hsecond : SaysRecent "GO to Recent card" := by decide +kernel
  obtain ⟨_, _, -, -, -, hgoes⟩ := goes_back_run open?_starter hids hrestore hrecents
  obtain ⟨once, twice, hthere, -, hback, hreturned, hkept⟩ := hgoes _ _ hsaid hsecond
  exact ⟨open?_starter, hids, hrestore, hrecents, hsaid, hsecond, once, twice, hthere, hback,
    hreturned.trans hindex, hkept.trans hrecents⟩

end Desk

end Cardfile
