import Cardfile.Desk.View
import Cardfile.Proofs.Command.CardLines
import Cardfile.Proofs.Desk.Navigation
import Cardfile.Proofs.Report.Listing

/-!
# The numbers of cards

Cards are numbered from one in three ways of their own: a line that goes to a card looks for its
place, the summaries count the cards, and the report of card names numbers its rows. They agree
(`Desk.goesToNumber_run`): a line reaches a card exactly if there is a summary with its number, the
desk then shows the card of the summary, and the report has the one row with the number, that of the
same card.
-/

set_option autoImplicit false
set_option relaxedAutoImplicit false

namespace Cardfile

open Text Command

/-- Of elements numbered by their places, a test for one number lets one through. -/
theorem filter_mapIdx_eq {α β : Type} {number : Nat → α → β} {test : β → Bool} {place : Nat}
    (htest : ∀ other element, test (number other element) = true ↔ other = place)
    (elements : List α) :
    (elements.mapIdx number).filter test = (elements[place]?.map (number place)).toList := by
  induction elements generalizing number place with
  | nil => rfl
  | cons first rest ih =>
    rw [List.mapIdx_cons]
    cases place with
    | zero =>
      have hrest : (rest.mapIdx fun other ↦ number (other + 1)).filter test = [] := by
        rw [List.filter_eq_nil_iff]
        intro row hrow
        obtain ⟨other, hlt, rfl⟩ := List.mem_mapIdx.mp hrow
        rw [htest]
        exact Nat.succ_ne_zero other
      rw [List.filter_cons_of_pos ((htest 0 first).mpr rfl), hrest]
      rfl
    | succ place =>
      have hfirst : ¬ test (number 0 first) = true := by
        rw [htest]
        exact (Nat.succ_ne_zero place).symm
      have hshifted (other : Nat) (element : α) :
          test (number (other + 1) element) = true ↔ other = place := by
        rw [htest, Nat.succ_inj]
      rw [List.filter_cons_of_neg hfirst, ih hshifted, List.getElem?_cons_succ]

/-! ### Reports -/

/-- The rows that begin with a number. -/
def Table.rowsNumbered (table : Table) (number : Int) : List (List Cell) :=
  table.rows.filter fun row ↦ row.head? = some (.number number)

namespace Stack

variable {stack : Stack} {place : Nat} {card : Card}

theorem rowsNumbered_cardNames (hcard : stack.cards[place]? = some card) :
    stack.cardNames.rowsNumbered (place + 1) =
      [[.number (place + 1), .number card.id, .text card.name]] := by
  have htest (other : Nat) (card : Card) :
      decide ([Cell.number (other + 1), .number card.id, .text card.name].head? =
        some (.number (place + 1))) = true ↔ other = place := by
    rw [decide_eq_true_iff, List.head?_cons, Option.some_inj, Cell.number.injEq]
    omega
  unfold Table.rowsNumbered cardNames
  rw [filter_mapIdx_eq htest, hcard]
  rfl

end Stack

namespace Desk

variable {desk : Desk} {raw goal : String} {n : Int} {place : Nat} {card : Card}
  {summary : CardSummary}

/-! ### Summaries -/

theorem mem_cardSummaries : summary ∈ desk.cardSummaries ↔ ∃ place card,
    desk.stack.cards[place]? = some card ∧ summary = ⟨card.id, card.name, place + 1⟩ := by
  rw [cardSummaries, List.mem_mapIdx]
  constructor
  · rintro ⟨place, hlt, rfl⟩
    exact ⟨place, _, List.getElem?_eq_getElem hlt, rfl⟩
  · rintro ⟨place, card, hcard, rfl⟩
    obtain ⟨hlt, rfl⟩ := List.getElem?_eq_some_iff.mp hcard
    exact ⟨place, hlt, rfl⟩

/-- Cards are numbered from one. -/
theorem resolve_number_eq_some_iff (hfits : desk.session.Fits desk.stack) {target : Nat} :
    (desk.resolve (.number n)).1 = some target ↔
      n = target + 1 ∧ target < desk.stack.cards.length := by
  rw [resolve_number hfits]
  split_ifs with hrange
  · rw [Option.some_inj]
    omega
  · constructor
    · intro hnone
      cases hnone
    · intro htarget
      omega

/-- There is a summary with a number exactly if the number leads to a card. -/
theorem exists_summary_iff (hfits : desk.session.Fits desk.stack) :
    (∃ summary ∈ desk.cardSummaries, (summary.number : Int) = n) ↔
      ∃ target, (desk.resolve (.number n)).1 = some target := by
  constructor
  · rintro ⟨summary, hsummary, rfl⟩
    obtain ⟨place, card, hcard, rfl⟩ := mem_cardSummaries.mp hsummary
    obtain ⟨hlt, -⟩ := List.getElem?_eq_some_iff.mp hcard
    exact ⟨place, (resolve_number_eq_some_iff hfits).mpr ⟨Nat.cast_succ place, hlt⟩⟩
  · rintro ⟨target, hplace⟩
    obtain ⟨rfl, hlt⟩ := (resolve_number_eq_some_iff hfits).mp hplace
    have hcard := List.getElem?_eq_getElem hlt
    exact ⟨_, mem_cardSummaries.mpr ⟨target, _, hcard, rfl⟩, Nat.cast_succ target⟩

/-- The desk shows the card of a summary, and the report of card names, if it may be printed, has
that card in the one row with the number of the summary. -/
structure Shows (desk : Desk) (summary : CardSummary) : Prop where
  view : ∃ view, desk.view? = some view ∧ view.currentCard.id = summary.id ∧
    view.currentCard.name = summary.name
  report : desk.stack.ListsTemplate "Card Names" →
    ∃ table, desk.stack.report "Card Names" = .ok table ∧
      table.rowsNumbered summary.number =
        [[.number summary.number, .number summary.id, .text summary.name]]

theorem shows_of_currentCardIndex (hcard : desk.stack.cards[place]? = some card)
    (hindex : desk.session.currentCardIndex = place) :
    desk.Shows ⟨card.id, card.name, place + 1⟩ where
  view := by
    have hcurrent : desk.currentCard? = some card := by
      rw [currentCard?, hindex, Stack.cardAt?_natCast, hcard]
    rw [view?, hcurrent, Option.map_some]
    exact ⟨_, rfl, rfl, rfl⟩
  report hlisted := by
    have hkey : Layout.cardNames.template = Stack.templateKey "Card Names" := by
      decide +kernel
    exact ⟨_, Stack.report_eq_ok_iff.mpr ⟨hlisted, _, hkey, rfl⟩,
      Stack.rowsNumbered_cardNames hcard⟩

/-! ### Going to a number -/

/-- What a line that goes to a card by its number comes to. -/
structure GoesToNumber (before : Desk) (n : Int) (outcome : Outcome) : Prop where
  answers : outcome.1 = .ok ("→ went to card " ++ decimal n) ↔
    ∃ summary ∈ before.cardSummaries, (summary.number : Int) = n
  shows : ∀ summary ∈ before.cardSummaries, (summary.number : Int) = n →
    outcome.2.stack = before.stack ∧ outcome.2.Shows summary
  fails : (∀ summary ∈ before.cardSummaries, (summary.number : Int) ≠ n) →
    outcome.1 = .ok ("Can't go to card " ++ decimal n) ∧
      outcome.2.session.vars.result = "Can't go to card " ++ decimal n ∧
      before.Unmoved outcome.2

theorem goesToNumber_execute (hfits : desk.session.Fits desk.stack)
    (hspells : SpellsDestination (.number n) (strip raw).toList) :
    desk.GoesToNumber n (desk.execute raw) where
  answers := (execute_eq_arrivalMessage_iff hfits hspells).trans (exists_summary_iff hfits).symm
  shows summary hsummary hnumber := by
    obtain ⟨place, card, hcard, rfl⟩ := mem_cardSummaries.mp hsummary
    obtain ⟨hlt, -⟩ := List.getElem?_eq_some_iff.mp hcard
    have hplace : (desk.resolve (.number n)).1 = some place :=
      (resolve_number_eq_some_iff hfits).mpr ⟨hnumber.symm, hlt⟩
    obtain ⟨-, hstack, hindex⟩ := execute_of_resolve_eq_some hfits hspells hplace
    refine ⟨hstack, shows_of_currentCardIndex ?_ hindex⟩
    rw [hstack]
    exact hcard
  fails hnone := by
    have hplace : (desk.resolve (.number n)).1 = none := by
      rw [Option.eq_none_iff_forall_ne_some]
      intro target htarget
      obtain ⟨summary, hsummary, hnumber⟩ := (exists_summary_iff hfits).mpr ⟨target, htarget⟩
      exact hnone summary hsummary hnumber
    exact execute_of_resolve_eq_none hfits hspells hplace

/-- Assumes: a fresh desk, any operations after it, and a whole number written in digits of any
script, no more of them than are read. The line that goes to the card with the number, the summaries
and the report of card names mean the same card by it. -/
theorem goesToNumber_run {base : Stack} {start : Desk} (hopen : open? base = some start)
    (operations : List Operation) (hspells : SpellsWhole n goal.toList) :
    (start.run operations).GoesToNumber n ((start.run operations).execute (goCardLine goal)) :=
  goesToNumber_execute (reached_run hopen operations).session hspells.spellsDestination

/-- A number in Arabic-Indic digits with a leading zero, and a zero with a sign. -/
theorem goesToNumber_run_leadingZero :
    open? Stack.starter = some starter ∧
      SpellsWhole 2 "٠٢".toList ∧ SpellsWhole 0 "-0".toList ∧
      ((starter.run [.renameCard "Index"]).execute (goCardLine "٠٢")).1 =
        .ok ("→ went to card " ++ decimal 2) ∧
      ((starter.run [.renameCard "Index"]).execute (goCardLine "-0")).1 =
        .ok ("Can't go to card " ++ decimal 0) := by
  have htwo : SpellsWhole 2 "٠٢".toList := by
    have hvalue : withSign false (Nat.ofDigits 10 ("٠٢".toList.filterMap digitValue?).reverse) =
        2 := by
      decide +kernel
    rw [← hvalue]
    have hdigits : ∀ c ∈ "٠٢".toList, isAnyDigit c = true := List.all_eq_true.mp (by decide +kernel)
    exact @SpellsWhole.intro false "٠٢".toList ⟨by decide, hdigits⟩ (by decide)
  have hzero : SpellsWhole 0 "-0".toList := by
    have hdigits : ∀ c ∈ ['0'], isAnyDigit c = true := List.all_eq_true.mp (by decide +kernel)
    exact @SpellsWhole.intro true ['0'] ⟨by decide, hdigits⟩ (by decide)
  have hreached := goesToNumber_run open?_starter [.renameCard "Index"] htwo
  have hmissed := goesToNumber_run open?_starter [.renameCard "Index"] hzero
  refine ⟨open?_starter, htwo, hzero, hreached.answers.mpr ?_, (hmissed.fails ?_).1⟩
  · decide +kernel
  · decide +kernel

end Desk

end Cardfile
