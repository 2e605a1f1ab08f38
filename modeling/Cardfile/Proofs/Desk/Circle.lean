import Cardfile.Proofs.Desk.Navigation

/-!
# Round the stack

The next card and the previous one lead round the stack, so lines that go there are steps on a
circle: where they lead depends only on how many of them go on and how many go back
(`Desk.GoesRound`). On a stack of several cards every step is a move, and the cards left behind are
remembered as far as there is room. On a stack of one card no step changes anything that a card is
drawn from.

`Desk.strides_execute` says what one line comes to (`Desk.Strides`), `Desk.goesRound_runLines` what
lines in any order come to, by induction on the lines, and `Desk.goesRound_run` says so of every
desk that operations lead to.
-/

set_option autoImplicit false
set_option relaxedAutoImplicit false

namespace Cardfile

open Text Command

/-- How many cards further round the stack a direction leads, if it leads round. -/
def Direction.offset? : Direction → Option Int
  | .next => some 1
  | .previous => some (-1)
  | .first | .last | .recent => none

namespace Desk

variable {desk : Desk} {raw : String} {direction : Direction} {offset : Int}

/-! ### One card on or back -/

theorem placeAround_eq (hfits : desk.session.Fits desk.stack) (offset : Int) :
    (desk.placeAround offset : Int) =
      (desk.session.currentCardIndex + offset) % desk.stack.cards.length := by
  have hpos := cards_length_pos hfits
  exact Int.toNat_of_nonneg (Int.emod_nonneg _ (by omega))

/-- One card on or back from a card leads to another one, unless there is no other. -/
theorem placeAround_ne (hfits : desk.session.Fits desk.stack) {offset : Int}
    (hoffset : offset.natAbs = 1) (hmany : 1 < desk.stack.cards.length) :
    (desk.placeAround offset : Int) ≠ desk.session.currentCardIndex := by
  rw [placeAround_eq hfits]
  intro hsame
  have hdvd : (desk.stack.cards.length : Int) ∣
      desk.session.currentCardIndex + offset - desk.session.currentCardIndex :=
    Int.dvd_self_sub_of_emod_eq hsame
  rw [add_sub_cancel_left, ← Int.natAbs_dvd_natAbs, hoffset, Int.natAbs_natCast,
    Nat.dvd_one] at hdvd
  omega

theorem placeAround_eq_of_one (hfits : desk.session.Fits desk.stack)
    (hone : desk.stack.cards.length = 1) (offset : Int) :
    (desk.placeAround offset : Int) = desk.session.currentCardIndex := by
  have hnonneg := hfits.index_nonneg
  have hlt := hfits.index_lt
  rw [placeAround_eq hfits, hone, Nat.cast_one, Int.emod_one]
  omega

/-- What going round the stack by some cards comes to, one on or one back. On a stack of several
cards it is a move, and the card left is the latest of the recent ones. -/
structure Strides (before after : Desk) (offset : Int) : Prop where
  stack : after.stack = before.stack
  index : after.session.currentCardIndex =
    (before.session.currentCardIndex + offset) % before.stack.cards.length
  moves : 1 < before.stack.cards.length → ∃ old, before.currentCard? = some old ∧
    after.session.currentCardIndex ≠ before.session.currentCardIndex ∧
    after.session.recentCards =
      (old.id :: before.session.recentCards).take Session.recentCardsLimit
  stays : before.stack.cards.length = 1 →
    before.Unmoved after ∧ after.session.vars = before.session.vars

theorem natAbs_of_offset? (h : direction.offset? = some offset) : offset.natAbs = 1 := by
  cases direction with
  | next | previous =>
    obtain rfl := Option.some.inj h
    rfl
  | first | last | recent => cases h

theorem resolve_of_offset? (hfits : desk.session.Fits desk.stack)
    (h : direction.offset? = some offset) :
    (desk.resolve (.toward direction)).1 = some (desk.placeAround offset) := by
  rw [resolve, cards_isEmpty_eq_false hfits, if_neg Bool.false_ne_true]
  cases direction with
  | next | previous =>
    obtain rfl := Option.some.inj h
    rfl
  | first | last | recent => cases h

theorem recentsAfter_of_offset? (h : direction.offset? = some offset) :
    desk.recentsAfter (.toward direction) = desk.session.recentCards := by
  apply recentsAfter_of_ne
  rintro ⟨⟩
  cases h

theorem strides_execute (hfits : desk.session.Fits desk.stack)
    (h : direction.offset? = some offset)
    (hspells : SpellsDestination (.toward direction) (strip raw).toList) :
    desk.Strides (desk.execute raw).2 offset := by
  have harrives := execute_arrives hfits hspells (resolve_of_offset? hfits h)
  rw [recentsAfter_of_offset? h] at harrives
  rcases harrives with ⟨hhere, hstays⟩ | ⟨helsewhere, old, new, hold, hmoves⟩
  · rw [hstays]
    constructor
    · rfl
    · rw [← placeAround_eq hfits, hhere]
      rfl
    · intro hmany
      exact absurd hhere (placeAround_ne hfits (natAbs_of_offset? h) hmany)
    · intro hone
      exact ⟨unmoved_staying desk raw [] rfl, rfl⟩
  · rw [hmoves]
    constructor
    · rfl
    · exact placeAround_eq hfits offset
    · intro hmany
      exact ⟨old, hold, helsewhere, rfl⟩
    · intro hone
      exact absurd (placeAround_eq_of_one hfits hone offset) helsewhere

/-! ### Runs of lines -/

/-- The desk after lines, one after another. -/
def runLines (desk : Desk) (lines : List String) : Desk :=
  desk.run (lines.map .execute)

theorem runLines_concat (desk : Desk) (lines : List String) (raw : String) :
    desk.runLines (lines ++ [raw]) = ((desk.runLines lines).execute raw).2 := by
  rw [runLines, List.map_append, List.map_singleton, run_concat]
  rfl

/-! ### Walks round the stack -/

/-- Lines of which `ahead` say to go to the next card and `back` to the previous one, in any
order. -/
inductive Walks : Nat → Nat → List String → Prop
  | nil : Walks 0 0 []
  | next {ahead back : Nat} {lines : List String} {raw : String} (h : Walks ahead back lines)
      (hspells : SpellsDestination (.toward .next) (strip raw).toList) :
    Walks (ahead + 1) back (lines ++ [raw])
  | previous {ahead back : Nat} {lines : List String} {raw : String} (h : Walks ahead back lines)
      (hspells : SpellsDestination (.toward .previous) (strip raw).toList) :
    Walks ahead (back + 1) (lines ++ [raw])

/-- Each of some lines moves the desk to another card; they leave the cards with the given ids, the
latest first. -/
inductive LeavesBehind (desk : Desk) : List Int → List String → Prop
  | nil : LeavesBehind desk [] []
  | concat {left : List Int} {lines : List String} {raw : String} {old : Card}
      (h : LeavesBehind desk left lines) (hold : (desk.runLines lines).currentCard? = some old)
      (hmove : (desk.runLines (lines ++ [raw])).session.currentCardIndex ≠
        (desk.runLines lines).session.currentCardIndex) :
    LeavesBehind desk (old.id :: left) (lines ++ [raw])

/-- What a walk round the stack comes to. -/
structure GoesRound (desk : Desk) (ahead back : Nat) (lines : List String) : Prop where
  stack : (desk.runLines lines).stack = desk.stack
  index : (desk.runLines lines).session.currentCardIndex =
    (desk.session.currentCardIndex + ahead - back) % desk.stack.cards.length
  moves : 1 < desk.stack.cards.length → ∃ left, desk.LeavesBehind left lines ∧
    (desk.runLines lines).session.recentCards =
      (left ++ desk.session.recentCards).take Session.recentCardsLimit
  stays : desk.stack.cards.length = 1 → desk.Unmoved (desk.runLines lines) ∧
    (desk.runLines lines).session.vars = desk.session.vars

variable {ahead back : Nat} {lines : List String}

theorem goesRound_nil (hfits : desk.session.Fits desk.stack) : desk.GoesRound 0 0 [] where
  stack := rfl
  index := by
    rw [Nat.cast_zero, add_zero, sub_zero, Int.emod_eq_of_lt hfits.index_nonneg hfits.index_lt]
    rfl
  moves hmany := ⟨[], .nil, (List.take_of_length_le hfits.length_recentCards).symm⟩
  stays hone := ⟨.refl desk, rfl⟩

/-- A walk goes on by one card, on or back. -/
theorem GoesRound.concat (h : desk.GoesRound ahead back lines)
    (hstep : (desk.runLines lines).Strides (desk.runLines (lines ++ [raw])) offset)
    {further behind : Nat} (hsum : (ahead : Int) - back + offset = further - behind) :
    desk.GoesRound further behind (lines ++ [raw]) where
  stack := hstep.stack.trans h.stack
  index := by
    rw [hstep.index, h.stack, h.index, Int.emod_add_emod]
    congr 1
    omega
  moves hmany := by
    obtain ⟨left, hleft, hrecents⟩ := h.moves hmany
    obtain ⟨old, hold, hmove, hpushed⟩ := hstep.moves (by rwa [h.stack])
    refine ⟨old.id :: left, hleft.concat hold hmove, ?_⟩
    -- What is cut off before a card is remembered would be cut off after it.
    rw [hpushed, hrecents, List.cons_append, Session.recentCardsLimit, List.take_succ_cons,
      List.take_succ_cons, List.take_take]
    rfl
  stays hone := by
    obtain ⟨hunmoved, hvars⟩ := h.stays hone
    obtain ⟨hstill, hkept⟩ := hstep.stays (by rwa [h.stack])
    exact ⟨hunmoved.trans hstill, hkept.trans hvars⟩

theorem goesRound_runLines (hfits : desk.session.Fits desk.stack) (h : Walks ahead back lines) :
    desk.GoesRound ahead back lines := by
  have hstep {lines : List String} {raw : String} {direction : Direction} {offset : Int}
      (hoffset : direction.offset? = some offset)
      (hspells : SpellsDestination (.toward direction) (strip raw).toList) :
      (desk.runLines lines).Strides (desk.runLines (lines ++ [raw])) offset := by
    rw [runLines_concat]
    exact strides_execute (fits_run hfits _) hoffset hspells
  induction h with
  | nil => exact goesRound_nil hfits
  | next h hspells ih => exact ih.concat (hstep rfl hspells) (by omega)
  | previous h hspells ih => exact ih.concat (hstep rfl hspells) (by omega)

/-- Assumes: a fresh desk, any operations after it, and then lines that say to go to the next card
or to the previous one, in any order. They go round the stack, forward as often as they say `next`
and back as often as they say `previous`. -/
theorem goesRound_run {base : Stack} {start : Desk} (hopen : open? base = some start)
    (operations : List Operation) (hwalks : Walks ahead back lines) :
    (start.run operations).GoesRound ahead back lines :=
  goesRound_runLines (reached_run hopen operations).session hwalks

theorem goesRound_run_wrappedAround :
    open? Stack.starter = some starter ∧
      Walks 2 1 ["go prev", "GO to Next card", "go next"] ∧
      (starter.run [.openField "body"]).GoesRound 2 1
        ["go prev", "GO to Next card", "go next"] ∧
      ((starter.run [.openField "body"]).runLines
        ["go prev", "GO to Next card", "go next"]).session.currentCardIndex = 1 := by
  have hspells {direction : Direction} {raw : String}
      (h : Destination.ofLine? (strip raw) = .ok (some (.toward direction))) :
      SpellsDestination (.toward direction) (strip raw).toList :=
    ofLine?_strip_eq_some_iff.mp h
  have hwalks : Walks 2 1 ["go prev", "GO to Next card", "go next"] :=
    .next (.next (.previous .nil (hspells (by decide +kernel))) (hspells (by decide +kernel)))
      (hspells (by decide +kernel))
  have hround := goesRound_run open?_starter [.openField "body"] hwalks
  have hindex : (starter.run [.openField "body"]).session.currentCardIndex = 0 := by
    decide +kernel
  refine ⟨open?_starter, hwalks, hround, ?_⟩
  rw [hround.index, hindex]
  decide +kernel

end Desk

end Cardfile
