import Cardfile.Proofs.Command.Destinations
import Cardfile.Proofs.Command.Rules
import Cardfile.Proofs.Desk.Run
import Cardfile.Service.Action

/-!
# Lines that fail

A desk whose session fits its stack always has a current card (`Desk.exists_currentCard?`), and
every destination that it resolves is the place of a card (`Desk.resolve_lt`), so it can be moved to
(`Desk.exists_moveTo_eq_ok`). So a command can fail only before it does anything: by a card number
with too many digits to be read (`Desk.perform_of_long`, `Desk.exists_perform_eq_ok`).
`Desk.execute_eq_error_iff` says which lines those are and what they leave behind.
-/

set_option autoImplicit false
set_option relaxedAutoImplicit false

namespace Cardfile

open Text Command

namespace Desk

variable {desk : Desk}

/-! ### Current cards and destinations -/

theorem exists_currentCard? (hfits : desk.session.Fits desk.stack) :
    ∃ card, desk.currentCard? = some card := by
  obtain ⟨card, hcard, -⟩ := hfits.pointed
  exact ⟨card, hcard⟩

theorem exists_currentPlace? {card : Card} (hcard : desk.currentCard? = some card) :
    ∃ place, desk.currentPlace? = some place := by
  obtain ⟨place, hplace, -⟩ := Option.bind_eq_some_iff.mp hcard
  exact ⟨place, hplace⟩

theorem getElem?_of_currentPlace? {place : Nat} {card : Card}
    (hplace : desk.currentPlace? = some place) (hcard : desk.currentCard? = some card) :
    desk.stack.cards[place]? = some card := by
  have hat : desk.currentPlace?.bind (fun place ↦ desk.stack.cards[place]?) = some card := hcard
  rwa [hplace, Option.bind_some] at hat

theorem findIdx?_lt {α : Type} {p : α → Bool} {elements : List α} {place : Nat}
    (h : elements.findIdx? p = some place) : place < elements.length :=
  (List.findIdx?_eq_some_iff_findIdx_eq.mp h).1

theorem placeAround_lt (hne : 0 < desk.stack.cards.length) (offset : Int) :
    desk.placeAround offset < desk.stack.cards.length := by
  have hnonneg := Int.emod_nonneg (desk.session.currentCardIndex + offset)
    (b := desk.stack.cards.length) (by omega)
  have hlt := Int.emod_lt_of_pos (desk.session.currentCardIndex + offset)
    (b := desk.stack.cards.length) (by omega)
  unfold placeAround
  omega

@[simp] theorem stack_resolve (desk : Desk) (destination : Destination) :
    (desk.resolve destination).2.stack = desk.stack := by
  unfold resolve
  split_ifs
  · rfl
  · cases destination with
    | number n => rfl
    | name name => rfl
    | toward direction => cases direction <;> rfl

/-- A destination leads to a card of the stack, if it leads anywhere. -/
theorem resolve_lt {destination : Destination} {place : Nat}
    (h : (desk.resolve destination).1 = some place) : place < desk.stack.cards.length := by
  unfold resolve at h
  split_ifs at h with hempty
  have hne : 0 < desk.stack.cards.length := by
    rw [List.isEmpty_iff] at hempty
    exact List.length_pos_iff.mpr hempty
  cases destination with
  | number n =>
    dsimp only at h
    split_ifs at h with hrange
    obtain rfl := Option.some.inj h
    omega
  | name name => exact findIdx?_lt h
  | toward direction =>
    cases direction with
    | next =>
      obtain rfl := Option.some.inj h
      exact placeAround_lt hne 1
    | previous =>
      obtain rfl := Option.some.inj h
      exact placeAround_lt hne (-1)
    | first =>
      obtain rfl := Option.some.inj h
      exact hne
    | last =>
      obtain rfl := Option.some.inj h
      omega
    | recent =>
      obtain ⟨id, -, hplace⟩ := Option.bind_eq_some_iff.mp h
      exact findIdx?_lt hplace

theorem exists_moveTo_eq_ok (hfits : desk.session.Fits desk.stack) {place : Nat}
    (hplace : place < desk.stack.cards.length) :
    ∃ moved, (desk.moveTo place).1 = .ok moved := by
  obtain ⟨old, hold⟩ := exists_currentCard? hfits
  obtain ⟨new, hnew⟩ := Stack.exists_cardAt? (Int.natCast_nonneg place)
    (Int.ofNat_lt.mpr hplace)
  unfold moveTo
  rw [if_neg (by omega), hold, hnew]
  split_ifs
  · exact ⟨false, rfl⟩
  · exact ⟨true, rfl⟩

/-! ### Commands -/

theorem exists_evaluateWith_eq_ok {card : Card} (hcard : desk.currentCard? = some card)
    (table : List (Rule Expression)) (text : String) :
    ∃ value, desk.evaluateWith table text = .ok value := by
  unfold evaluateWith Expression.value
  rw [hcard]
  cases Expression.ofTextWith table (trim text.toList) with
  | literal text => exact ⟨text, rfl⟩
  | field name => exact ⟨card.fieldText name, rfl⟩
  | cardName => exact ⟨card.name, rfl⟩
  | cardCount => exact ⟨_, rfl⟩
  | result => exact ⟨_, rfl⟩
  | it => exact ⟨_, rfl⟩

theorem withValue_of_ok {grammar : Grammar} {expression value : String} {next : String → Outcome}
    (hvalue : desk.evaluateWith grammar.expressions expression = .ok value) :
    desk.withValue grammar expression next = next value := by
  rw [withValue, hvalue]

theorem exists_withValue_eq_ok (hfits : desk.session.Fits desk.stack) (grammar : Grammar)
    (expression : String) {next : String → Outcome}
    (hnext : ∀ value, ∃ answer, (next value).1 = .ok answer) :
    ∃ answer, (desk.withValue grammar expression next).1 = .ok answer := by
  obtain ⟨card, hcard⟩ := exists_currentCard? hfits
  obtain ⟨value, hvalue⟩ := exists_evaluateWith_eq_ok hcard grammar.expressions expression
  rw [withValue_of_ok hvalue]
  exact hnext value

theorem exists_go_eq_ok (hfits : desk.session.Fits desk.stack) (line : String)
    {going : Going} {destination : Destination} (hgoing : going.destination = .ok destination) :
    ∃ answer, (desk.go line (some going)).1 = .ok answer := by
  unfold go
  dsimp only
  rw [hgoing]
  dsimp only
  have hresolved : (desk.resolve destination).2.session.Fits (desk.resolve destination).2.stack :=
    (desk.changes_resolve destination).keeps (motive := fun desk ↦ desk.session.Fits desk.stack)
      (fun _ _ hchange h ↦ hchange.fits h) hfits
  cases htarget : (desk.resolve destination).1 with
  | none => exact ⟨_, rfl⟩
  | some place =>
    obtain ⟨moved, hmoved⟩ := exists_moveTo_eq_ok hresolved
      (by rw [stack_resolve]; exact resolve_lt htarget)
    dsimp only
    rw [hmoved]
    exact ⟨_, rfl⟩

theorem exists_writeField_eq_ok (hfits : desk.session.Fits desk.stack) (name value : String) :
    ∃ answer, (desk.writeField name value).1 = .ok answer := by
  obtain ⟨card, hcard⟩ := exists_currentCard? hfits
  obtain ⟨place, hplace⟩ := exists_currentPlace? hcard
  unfold writeField
  rw [hcard, hplace]
  dsimp only
  split
  · exact ⟨_, rfl⟩
  · exact ⟨_, rfl⟩

theorem exists_get_eq_ok (hfits : desk.session.Fits desk.stack) (name : String) :
    ∃ answer, (desk.get name).1 = .ok answer := by
  obtain ⟨card, hcard⟩ := exists_currentCard? hfits
  unfold get
  rw [hcard]
  dsimp only
  split
  · exact ⟨_, rfl⟩
  · exact ⟨_, rfl⟩

/-- A search tells whether the query is found. -/
theorem findText_fst (hfits : desk.session.Fits desk.stack) (query : String) :
    (desk.findText query).1 = .ok
      (if (desk.stack.searchFields? query).isSome then "found \"" ++ query ++ "\""
        else "Couldn't find \"" ++ query ++ "\"") := by
  have hlogged : (desk.log .find query).session.Fits (desk.log .find query).stack :=
    hfits.log .find query
  unfold findText
  dsimp only
  rw [stack_log]
  cases hsearch : desk.stack.searchFields? query with
  | none => rfl
  | some place =>
    obtain ⟨moved, hmoved⟩ := exists_moveTo_eq_ok hlogged (findIdx?_lt hsearch)
    rcases hmove : (desk.log .find query).moveTo place with ⟨failure | moved, arrived⟩
    · rw [hmove] at hmoved
      cases hmoved
    · dsimp only
      rw [hmove]
      rfl

/-- A card number of more digits than are read stops a command before it does anything. -/
theorem perform_of_long (desk : Desk) (grammar : Grammar) (line : String) (negative : Bool)
    {digits : List Nat} (hlong : digitLimit < digits.length) :
    desk.perform grammar line (.go (some (.number negative digits))) =
      (.error (.numeralTooLong digits.length), desk) := by
  have hdestination : (Going.number negative digits).destination =
      .error (.numeralTooLong digits.length) := by
    rw [Going.destination, if_neg (by omega)]
  unfold perform go
  dsimp only
  rw [hdestination]

/-- Every other command succeeds. -/
theorem exists_perform_eq_ok (hfits : desk.session.Fits desk.stack) (grammar : Grammar)
    (line : String) {command : Command}
    (hshort : ∀ negative digits, command = .go (some (.number negative digits)) →
      digits.length ≤ digitLimit) :
    ∃ answer, (desk.perform grammar line command).1 = .ok answer := by
  cases command with
  | nothing => exact ⟨"", rfl⟩
  | beep => exact ⟨_, rfl⟩
  | go going? =>
    cases going? with
    | none => exact ⟨_, rfl⟩
    | some going =>
      cases going with
      | number negative digits =>
        have hdestination : (Going.number negative digits).destination =
            .ok (.number (withSign negative (numberOfDigits digits))) := by
          rw [Going.destination, if_pos (hshort negative digits rfl)]
        exact exists_go_eq_ok hfits line hdestination
      | name title =>
        have hdestination : (Going.name title).destination = .ok (.name title) := rfl
        exact exists_go_eq_ok hfits line hdestination
      | toward direction =>
        have hdestination : (Going.toward direction).destination = .ok (.toward direction) := rfl
        exact exists_go_eq_ok hfits line hdestination
  | put expression name =>
    show ∃ answer, (desk.put grammar expression name).1 = .ok answer
    unfold put
    split_ifs with hcant
    · exact ⟨_, rfl⟩
    · exact exists_withValue_eq_ok hfits grammar expression fun value ↦
        exists_writeField_eq_ok hfits name value
  | get name => exact exists_get_eq_ok hfits name
  | answer expression =>
    exact exists_withValue_eq_ok hfits grammar expression fun value ↦ ⟨_, rfl⟩
  | find expression =>
    exact exists_withValue_eq_ok hfits grammar expression fun value ↦
      ⟨_, findText_fst hfits value⟩
  | message => exact ⟨_, rfl⟩

/-! ### Lines -/

/-- What recognises no empty text recognises no blank line. -/
theorem isEmpty_strip_eq_false {α : Type} {recognise : List Char → Option α} {raw : String}
    (hnil : recognise [] = none) (h : (recognise (strip raw).toList).isSome = true) :
    (strip raw).isEmpty = false := by
  rw [Bool.eq_false_iff]
  intro hempty
  rw [String.isEmpty_iff.mp hempty] at h
  exact Option.not_isSome_iff_eq_none.mpr hnil h

theorem fits_receive (hfits : desk.session.Fits desk.stack) (raw : String) :
    (desk.receive raw).session.Fits (desk.receive raw).stack :=
  (desk.changes_receive raw).keeps (motive := fun desk ↦ desk.session.Fits desk.stack)
    (fun _ _ hchange h ↦ hchange.fits h) hfits

/-- A line that spells a card number with too many digits fails, and all that it leaves behind is
that it was received. -/
theorem execute_of_spellsCardNumber (desk : Desk) {raw : String} {negative : Bool}
    {digits : List Char} (hspells : SpellsCardNumber negative digits (strip raw).toList)
    (hlong : digitLimit < digits.length) :
    desk.execute raw = (.error (.numeralTooLong digits.length), desk.receive raw) := by
  obtain ⟨hgo, hgoing⟩ := hspells.ofLine?_eq
  have hdigits := length_filterMap_digitValue? hspells.areDigits
  have hcommand : Command.ofLineWith Grammar.standard.commands (strip raw).toList =
      .go (some (.number negative (digits.filterMap digitValue?))) := by
    rw [← hgoing]
    exact ofLineWith_of_go hgo
  show (desk.receive raw).perform .standard (strip raw)
    (Command.ofLineWith Grammar.standard.commands (strip raw).toList) = _
  rw [hcommand, perform_of_long _ _ _ _ (by rw [hdigits]; exact hlong), hdigits]

theorem receive_of_spellsCardNumber (desk : Desk) {raw : String} {negative : Bool}
    {digits : List Char} (hspells : SpellsCardNumber negative digits (strip raw).toList) :
    desk.receive raw = {
      stack := desk.stack
      session := { desk.session.log .command raw with
        commandHistory := desk.session.commandHistory ++ [raw]
        historyIndex := none } } := by
  rw [receive, isEmpty_strip_eq_false rfl hspells.ofLine?_eq.1]
  rfl

/-- Every other line is answered. -/
theorem exists_execute_eq_ok (hfits : desk.session.Fits desk.stack) {raw : String}
    (hshort : ∀ negative digits, SpellsCardNumber negative digits (strip raw).toList →
      digits.length ≤ digitLimit) :
    ∃ answer, (desk.execute raw).1 = .ok answer := by
  rw [execute_eq]
  refine exists_perform_eq_ok (fits_receive hfits raw) .standard (strip raw)
    fun negative values hcommand ↦ ?_
  obtain ⟨digits, hspells, rfl⟩ := exists_spellsCardNumber (getLast?_strip_ne raw)
    (eq_ofLine?_of_ofLineWith hcommand).symm
  exact (List.length_filterMap_le ..).trans (hshort negative digits hspells)

theorem length_strip_le (text : String) : (strip text).length ≤ text.length := by
  rw [← String.length_toList, ← String.length_toList, strip, String.toList_ofList]
  exact (trimOf_isPrefix isBlank text.toList).length_le.trans
    (List.dropWhile_suffix isBlank).length_le

/-- No line of at most as many characters as a numeral may have digits fails. -/
theorem exists_execute_eq_ok_of_length_le (hfits : desk.session.Fits desk.stack) {raw : String}
    (hlength : raw.length ≤ digitLimit) : ∃ answer, (desk.execute raw).1 = .ok answer := by
  refine exists_execute_eq_ok hfits fun negative digits hspells ↦ ?_
  have hstrip := length_strip_le raw
  have hdigits := hspells.length_le
  rw [String.length_toList] at hdigits
  omega

/-- Assumes: a fresh desk, and any operations after it. A line fails exactly if it spells a card
number with too many digits. All that it leaves behind is then that it was logged and remembered,
and that the recall cursor is gone. Every other line is answered, and with it every line that is
short enough to be the body of a request. -/
theorem execute_eq_error_iff {base : Stack} {start : Desk} (hopen : open? base = some start)
    (operations : List Operation) (raw : String) :
    (∀ failure after, (start.run operations).execute raw = (.error failure, after) ↔
      ∃ negative digits, SpellsCardNumber negative digits (strip raw).toList ∧
        digitLimit < digits.length ∧ failure = .numeralTooLong digits.length ∧
        after = {
          stack := (start.run operations).stack
          session := { (start.run operations).session.log .command raw with
            commandHistory := (start.run operations).session.commandHistory ++ [raw]
            historyIndex := none } }) ∧
      ((∀ negative digits, SpellsCardNumber negative digits (strip raw).toList →
          digits.length ≤ digitLimit) →
        ∃ answer, ((start.run operations).execute raw).1 = .ok answer) ∧
      (raw.length ≤ Service.lineLimit →
        ∃ answer, ((start.run operations).execute raw).1 = .ok answer) := by
  have hfits := (reached_run hopen operations).session
  generalize start.run operations = desk at hfits ⊢
  refine ⟨fun failure after ↦ ⟨fun hexecute ↦ ?_, ?_⟩, exists_execute_eq_ok hfits, fun hlength ↦
    exists_execute_eq_ok_of_length_le hfits (hlength.trans (by decide))⟩
  · by_cases hshort : ∀ negative digits, SpellsCardNumber negative digits (strip raw).toList →
        digits.length ≤ digitLimit
    · obtain ⟨answer, hanswer⟩ := exists_execute_eq_ok hfits hshort
      rw [hexecute] at hanswer
      cases hanswer
    · push Not at hshort
      obtain ⟨negative, digits, hspells, hlong⟩ := hshort
      rw [execute_of_spellsCardNumber desk hspells hlong] at hexecute
      cases hexecute
      exact ⟨negative, digits, hspells, hlong, rfl, receive_of_spellsCardNumber desk hspells⟩
  · rintro ⟨negative, digits, hspells, hlong, rfl, rfl⟩
    rw [execute_of_spellsCardNumber desk hspells hlong, receive_of_spellsCardNumber desk hspells]

/-- One digit more than are read. -/
def longDigits : List Char :=
  List.replicate (digitLimit + 1) '7'

def longLine : String :=
  String.ofList ("go card ".toList ++ longDigits)

theorem execute_eq_error_iff_longLine :
    open? Stack.starter = some starter ∧
      SpellsCardNumber false longDigits (strip longLine).toList ∧
      ((starter.run Operation.samples).execute longLine).1 =
        .error (.numeralTooLong (digitLimit + 1)) ∧
      ∃ answer, ((starter.run Operation.samples).execute "go card 7").1 = .ok answer := by
  have hline : longLine.toList = "go card ".toList ++ longDigits := String.toList_ofList
  have hstrip : (strip longLine).toList = "go card ".toList ++ longDigits := by
    rw [strip, String.toList_ofList, hline]
    refine trim_eq_self (fun c hfirst ↦ ?_) fun c hlast ↦ ?_
    · obtain rfl : 'g' = c := Option.some.inj hfirst
      decide
    · rw [List.getLast?_append, longDigits, List.getLast?_replicate,
        if_neg (by decide)] at hlast
      obtain rfl : '7' = c := Option.some.inj hlast
      decide
  have hdigits : AreDigits longDigits := by
    refine ⟨List.cons_ne_nil _ _, fun c hc ↦ ?_⟩
    rw [List.eq_of_mem_replicate hc]
    decide
  have hspells : SpellsCardNumber false longDigits (strip longLine).toList :=
    hstrip ▸ spellsCardNumber_go_card hdigits
  have hlength : longDigits.length = digitLimit + 1 := List.length_replicate
  obtain ⟨hlong, -, -⟩ := execute_eq_error_iff open?_starter Operation.samples longLine
  obtain ⟨-, -, hshort⟩ := execute_eq_error_iff open?_starter Operation.samples "go card 7"
  have hfails := (hlong _ _).mpr
    ⟨false, longDigits, hspells, by rw [hlength]; exact Nat.lt_succ_self _, rfl, rfl⟩
  refine ⟨open?_starter, hspells, ?_, hshort (by decide)⟩
  rw [hfails, hlength]

end Desk

end Cardfile
