import Cardfile.Proofs.Desk.Writing

/-!
# Lines that move

Two kinds of lines move to another card: those that say where to go and those that search for a
text. What they do to the whole desk depends on where they lead (`Desk.Goes`, `Desk.Searches`). A
line that leads to another card closes the field that is open, remembers the card left behind and
starts on the new card with empty variables (`Desk.passing`). A line that leads to the card the desk
is on, or nowhere, leaves all that alone (`Desk.Unmoved`). Where a line leads is told by the
destination that it spells (`Desk.execute_of_resolve_eq_some`, `Desk.execute_of_resolve_eq_none`).

Going to the recent card uses it up (`Desk.recentsAfter`) and fails only if there is none
(`Desk.recentsAfter_of_resolve_eq_none`). `Desk.goes_searches_run` says all this of every desk that
operations lead to.
-/

set_option autoImplicit false
set_option relaxedAutoImplicit false

namespace Cardfile

open Text Command

theorem Command.exists_of_isSome_find? {line : List Char} (h : (find? line).isSome = true) :
    ∃ expression, find? line = some (.find expression) := by
  obtain ⟨command, hfind⟩ := Option.isSome_iff_exists.mp h
  obtain ⟨rest, -, hargument⟩ := Option.bind_eq_some_iff.mp hfind
  obtain ⟨expression, -, hcommand⟩ := Option.bind_eq_some_iff.mp hargument
  cases hcommand
  exact ⟨_, hfind⟩

/-- The session that hears a line: the line is logged and remembered, and the events that it brings
about are logged after it. -/
def Session.hear (session : Session) (raw : String) (events : List Event) : Session :=
  (session.logAll (⟨.command, raw⟩ :: events)).rememberCommand raw

/-! ### Answers -/

/-- Texts that begin differently are different. -/
theorem append_ne_append_of_head? {front other : String} (hfront : front.toList ≠ [])
    (hother : other.toList ≠ []) (hfirst : front.toList.head? ≠ other.toList.head?)
    (rest last : String) : front ++ rest ≠ other ++ last := by
  intro hsame
  have hlist := congrArg String.toList hsame
  rw [String.toList_append, String.toList_append] at hlist
  have hheads := congrArg List.head? hlist
  rw [List.head?_append_of_ne_nil _ hfront, List.head?_append_of_ne_nil _ hother] at hheads
  exact hfirst hheads

/-- The answer tells whether a destination was reached. -/
theorem Destination.arrivalMessage_ne_failureMessage (destination : Destination) :
    destination.arrivalMessage ≠ destination.failureMessage := by
  cases destination with
  | number n =>
    show "→ went to card " ++ decimal n ≠ "Can't go to card " ++ decimal n
    exact append_ne_append_of_head? (by decide) (by decide) (by decide) _ _
  | name name =>
    show "→ went to card \"" ++ name ++ "\"" ≠ "Can't find card \"" ++ name ++ "\""
    rw [String.append_assoc, String.append_assoc]
    exact append_ne_append_of_head? (by decide) (by decide) (by decide) _ _
  | toward direction => cases direction <;> decide

/-- The answer tells whether a text was found. -/
theorem found_ne_missed (query : String) :
    "found \"" ++ query ++ "\"" ≠ "Couldn't find \"" ++ query ++ "\"" := by
  rw [String.append_assoc, String.append_assoc]
  exact append_ne_append_of_head? (by decide) (by decide) (by decide) _ _

namespace Desk

variable {desk before after last : Desk} {raw query : String} {destination : Destination}
  {target : Nat} {old new : Card}

/-! ### Arriving -/

theorem leaveField_eq (hlength : desk.session.messageLog.length ≤ Session.messageLogLimit) :
    desk.leaveField = { desk with
      session := { desk.session.logAll desk.closing with editingFieldId := none } } := by
  unfold leaveField closing
  split_ifs with hediting
  · rfl
  · have hnone : desk.session.editingFieldId = none := by simpa using hediting
    rw [Session.logAll_nil hlength, ← hnone]

/-- What a move from one card to another logs. -/
def crossing (desk : Desk) (old new : Card) : List Event :=
  desk.closing ++ [⟨.closeCard, old.name⟩, ⟨.openCard, new.name⟩]

theorem arrive_eq (hlength : desk.session.messageLog.length ≤ Session.messageLogLimit)
    (old new : Card) (target : Int) :
    desk.arrive old new target = { desk with
      session := { desk.session.logAll (desk.crossing old new) with
        currentCardIndex := target
        currentFieldName := new.firstFieldName?
        recentCards := (old.id :: desk.session.recentCards).take Session.recentCardsLimit
        vars := {}
        editingFieldId := none } } := by
  have hlogs : ((desk.session.logAll desk.closing).logAll [⟨.closeCard, old.name⟩]).logAll
      [⟨.openCard, new.name⟩] = desk.session.logAll (desk.crossing old new) := by
    rw [Session.logAll_logAll, Session.logAll_logAll]
    rfl
  rw [← hlogs]
  simp only [arrive, leaveField_eq hlength, log, mapSession, Session.log, Session.logAll,
    Session.pushRecent, Session.clearVariables, List.length_singleton]

/-- The desk after a line that takes it from one card to another. The line notes some events before
the move, finds some recent cards and leaves some variables. -/
def passing (desk : Desk) (raw : String) (noted : List Event) (recents : List Int) (old new : Card)
    (target : Nat) (vars : Variables) : Desk :=
  { desk with
    session := { desk.session.hear raw (noted ++ desk.crossing old new) with
      currentCardIndex := target
      currentFieldName := new.firstFieldName?
      recentCards := (old.id :: recents).take Session.recentCardsLimit
      vars := vars
      editingFieldId := none } }

/-- The desk that has heard a line without moving. -/
def staying (desk : Desk) (raw : String) (noted : List Event) (recents : List Int)
    (vars : Variables) : Desk :=
  { desk with
    session := { desk.session.hear raw noted with recentCards := recents, vars := vars } }

theorem logAll_staying (desk : Desk) (raw : String) (noted events : List Event)
    (recents : List Int) (vars : Variables) :
    (desk.staying raw noted recents vars).session.logAll events =
      (desk.staying raw (noted ++ events) recents vars).session :=
  congrArg (fun session : Session ↦
      { session.rememberCommand raw with recentCards := recents, vars := vars })
    (desk.session.logAll_logAll (⟨.command, raw⟩ :: noted) events)

theorem log_staying (desk : Desk) (raw : String) (noted : List Event) (recents : List Int)
    (vars : Variables) (kind : EventKind) (detail : String) :
    (desk.staying raw noted recents vars).log kind detail =
      desk.staying raw (noted ++ [⟨kind, detail⟩]) recents vars :=
  congrArg (Desk.mk desk.stack) (desk.logAll_staying raw noted [⟨kind, detail⟩] recents vars)

theorem arrive_staying (desk : Desk) (raw : String) (noted : List Event) (recents : List Int)
    (old new : Card) (target : Nat) (vars : Variables) :
    (desk.staying raw noted recents vars).arrive old new target =
      desk.passing raw noted recents old new target {} := by
  rw [arrive_eq (desk.session.length_messageLog_logAll_le _), logAll_staying]
  rfl

theorem moveTo_of_here (htarget : target < desk.stack.cards.length)
    (hhere : (target : Int) = desk.session.currentCardIndex) :
    desk.moveTo target = (.ok false, desk) := by
  unfold moveTo
  rw [if_neg (by omega), if_pos hhere]

theorem moveTo_of_elsewhere (htarget : target < desk.stack.cards.length)
    (hmove : (target : Int) ≠ desk.session.currentCardIndex)
    (hold : desk.currentCard? = some old) (hnew : desk.stack.cardAt? target = some new) :
    desk.moveTo target = (.ok true, desk.arrive old new target) := by
  unfold moveTo
  rw [if_neg (by omega), if_neg hmove, hold, hnew]

/-- A place of the stack is where the desk is, or the desk can be moved there. -/
theorem moveTo_staying (hfits : desk.session.Fits desk.stack)
    (htarget : target < desk.stack.cards.length) (raw : String) (noted : List Event)
    (recents : List Int) (vars : Variables) :
    ((target : Int) = desk.session.currentCardIndex ∧
      (desk.staying raw noted recents vars).moveTo target =
        (.ok false, desk.staying raw noted recents vars)) ∨
    ((target : Int) ≠ desk.session.currentCardIndex ∧ ∃ old new,
      desk.currentCard? = some old ∧ desk.stack.cardAt? target = some new ∧
        (desk.staying raw noted recents vars).moveTo target =
          (.ok true, desk.passing raw noted recents old new target {})) := by
  by_cases hhere : (target : Int) = desk.session.currentCardIndex
  · exact Or.inl ⟨hhere, moveTo_of_here htarget hhere⟩
  · obtain ⟨old, hold⟩ := exists_currentCard? hfits
    obtain ⟨new, hnew⟩ := Stack.exists_cardAt? (Int.natCast_nonneg target)
      (Int.ofNat_lt.mpr htarget)
    refine Or.inr ⟨hhere, old, new, hold, hnew, ?_⟩
    rw [← arrive_staying desk raw noted recents old new target vars]
    exact moveTo_of_elsewhere htarget hhere hold hnew

/-! ### Staying -/

/-- The desk is on the same card of the same stack, with the same recent cards, the same field
pointer, the same open field and the same `it`. -/
structure Unmoved (before after : Desk) : Prop where
  stack : after.stack = before.stack
  currentCardIndex : after.session.currentCardIndex = before.session.currentCardIndex
  recentCards : after.session.recentCards = before.session.recentCards
  currentFieldName : after.session.currentFieldName = before.session.currentFieldName
  editingFieldId : after.session.editingFieldId = before.session.editingFieldId
  it : after.session.vars.it = before.session.vars.it

theorem Unmoved.refl (desk : Desk) : desk.Unmoved desk :=
  ⟨rfl, rfl, rfl, rfl, rfl, rfl⟩

theorem Unmoved.trans (h : before.Unmoved after) (hlast : after.Unmoved last) :
    before.Unmoved last where
  stack := hlast.stack.trans h.stack
  currentCardIndex := hlast.currentCardIndex.trans h.currentCardIndex
  recentCards := hlast.recentCards.trans h.recentCards
  currentFieldName := hlast.currentFieldName.trans h.currentFieldName
  editingFieldId := hlast.editingFieldId.trans h.editingFieldId
  it := hlast.it.trans h.it

theorem unmoved_staying (desk : Desk) (raw : String) (noted : List Event) {vars : Variables}
    (hit : vars.it = desk.session.vars.it) :
    desk.Unmoved (desk.staying raw noted desk.session.recentCards vars) :=
  ⟨rfl, rfl, rfl, rfl, rfl, hit⟩

/-! ### Hearing a line -/

theorem receive_eq (hline : (strip raw).isEmpty = false) (desk : Desk) :
    desk.receive raw = desk.staying raw [] desk.session.recentCards desk.session.vars := by
  rw [receive, hline]
  rfl

/-! ### Lines that say where to go -/

/-- The recent cards once the place of a destination has been looked up. -/
def recentsAfter (desk : Desk) : Destination → List Int
  | .toward .recent => desk.session.recentCards.tail
  | _ => desk.session.recentCards

theorem recentsAfter_of_ne (h : destination ≠ .toward .recent) :
    desk.recentsAfter destination = desk.session.recentCards := by
  unfold recentsAfter
  split
  · exact absurd rfl h
  · rfl

/-- What a line that says where to go comes to. -/
inductive Goes (desk : Desk) (raw : String) : Outcome → Prop
  | moves {destination : Destination} {target : Nat} {old new : Card}
      (hspelled : Destination.ofLine? (strip raw) = .ok (some destination))
      (hplace : (desk.resolve destination).1 = some target)
      (hmove : (target : Int) ≠ desk.session.currentCardIndex)
      (hold : desk.currentCard? = some old) (hnew : desk.stack.cardAt? target = some new) :
    Goes desk raw (.ok destination.arrivalMessage,
      desk.passing raw [] (desk.recentsAfter destination) old new target {})
  | stays {destination : Destination} {target : Nat}
      (hspelled : Destination.ofLine? (strip raw) = .ok (some destination))
      (hplace : (desk.resolve destination).1 = some target)
      (hhere : (target : Int) = desk.session.currentCardIndex) :
    Goes desk raw (.ok destination.arrivalMessage,
      desk.staying raw [] (desk.recentsAfter destination) desk.session.vars)
  | fails {destination : Destination}
      (hspelled : Destination.ofLine? (strip raw) = .ok (some destination))
      (hplace : (desk.resolve destination).1 = none) :
    Goes desk raw (.ok destination.failureMessage,
      desk.staying raw [] desk.session.recentCards
        { desk.session.vars with result := destination.failureMessage })
  | unknown (hspelled : Destination.ofLine? (strip raw) = .ok none) :
    Goes desk raw (.ok ("Unknown navigation: " ++ strip raw),
      desk.staying raw [] desk.session.recentCards desk.session.vars)

/-- A line comes to one thing only. -/
theorem Goes.unique {outcome other : Outcome} (h : desk.Goes raw outcome)
    (hother : desk.Goes raw other) : outcome = other := by
  cases h <;> cases hother <;> simp_all

theorem cards_length_pos (hfits : desk.session.Fits desk.stack) : 0 < desk.stack.cards.length := by
  have hnonneg := hfits.index_nonneg
  have hlt := hfits.index_lt
  omega

theorem cards_isEmpty_eq_false (hfits : desk.session.Fits desk.stack) :
    desk.stack.cards.isEmpty = false :=
  List.isEmpty_eq_false_iff.mpr (List.length_pos_iff.mp (cards_length_pos hfits))

theorem resolve_recent (hfits : desk.session.Fits desk.stack) :
    (desk.resolve (.toward .recent)).1 =
      desk.session.recentCards.head?.bind desk.stack.cardPlace? := by
  rw [resolve, cards_isEmpty_eq_false hfits, if_neg Bool.false_ne_true]
  show desk.session.popRecent.1.bind desk.stack.cardPlace? = _
  unfold Session.popRecent
  cases desk.session.recentCards <;> rfl

theorem resolve_number (hfits : desk.session.Fits desk.stack) (n : Int) :
    (desk.resolve (.number n)).1 =
      if 1 ≤ n ∧ n ≤ desk.stack.cards.length then some (n - 1).toNat else none := by
  rw [resolve, cards_isEmpty_eq_false hfits, if_neg Bool.false_ne_true]

theorem resolve_name (hfits : desk.session.Fits desk.stack) (name : String) :
    (desk.resolve (.name name)).1 = desk.stack.cardPlaceByName? name := by
  rw [resolve, cards_isEmpty_eq_false hfits, if_neg Bool.false_ne_true]

/-- A destination is looked up on the stack and in the recent cards alone, and it is only the recent
cards that this changes. -/
theorem resolve_staying (hfits : desk.session.Fits desk.stack) (raw : String) (noted : List Event)
    (vars : Variables) (destination : Destination) :
    (desk.staying raw noted desk.session.recentCards vars).resolve destination =
      ((desk.resolve destination).1,
        desk.staying raw noted (desk.recentsAfter destination) vars) := by
  have hcards := cards_isEmpty_eq_false hfits
  have hheard :
      (desk.staying raw noted desk.session.recentCards vars).stack.cards.isEmpty = false :=
    hcards
  unfold resolve
  rw [hcards, hheard, if_neg Bool.false_ne_true, if_neg Bool.false_ne_true]
  cases destination with
  | number n => rfl
  | name name => rfl
  | toward direction =>
    cases direction with
    | next | previous | first | last => rfl
    | recent =>
      simp only [resolveDirection, Session.popRecent, recentsAfter, staying]
      cases desk.session.recentCards with
      | nil => rfl
      | cons id rest => rfl

/-- All recent cards are on the stack, so none of them is used up in vain. -/
theorem recentsAfter_of_resolve_eq_none (hfits : desk.session.Fits desk.stack)
    (hplace : (desk.resolve destination).1 = none) :
    desk.recentsAfter destination = desk.session.recentCards := by
  unfold recentsAfter
  split
  · rw [resolve_recent hfits] at hplace
    cases hrecent : desk.session.recentCards with
    | nil => rfl
    | cons id rest =>
      have hknown := hfits.recentCards_known id (hrecent ▸ List.mem_cons_self)
      obtain ⟨card, hcard, hid⟩ := List.mem_map.mp hknown
      rw [hrecent, List.head?_cons, Option.bind_some, Stack.cardPlace?,
        List.findIdx?_eq_none_iff] at hplace
      exact absurd hid (by simpa using hplace card hcard)
  · rfl

theorem execute_of_isSome_go? (hgo : (go? (strip raw).toList).isSome = true) (desk : Desk) :
    desk.execute raw = (desk.staying raw [] desk.session.recentCards desk.session.vars).go
      (strip raw) (Going.ofLine? (strip raw).toList) := by
  have hsaid : Command.said raw = .go (Going.ofLine? (strip raw).toList) :=
    ofLineWith_of_go (by rwa [go?, Option.isSome_map] at hgo)
  rw [execute_of_said hsaid, receive_eq (isEmpty_strip_eq_false rfl hgo)]
  rfl

/-- As long as a card number has no more digits than are read, a line that is read has a
destination. -/
theorem exists_destination {going : Going}
    (hshort : ∀ negative digits, SpellsCardNumber negative digits (strip raw).toList →
      digits.length ≤ digitLimit)
    (hgoing : Going.ofLine? (strip raw).toList = some going) :
    ∃ destination, going.destination = .ok destination := by
  cases going with
  | number negative values =>
    obtain ⟨digits, hspells, rfl⟩ := exists_spellsCardNumber (getLast?_strip_ne raw) hgoing
    exact ⟨_, if_pos ((List.length_filterMap_le ..).trans (hshort negative digits hspells))⟩
  | name title => exact ⟨_, rfl⟩
  | toward direction => exact ⟨_, rfl⟩

theorem goes_execute_of_spelled (hfits : desk.session.Fits desk.stack)
    (hspelled : Destination.ofLine? (strip raw) = .ok (some destination)) :
    desk.Goes raw (desk.execute raw) := by
  obtain ⟨going, hgoing, hdestination⟩ := Destination.ofLine?_eq_some_iff_going.mp hspelled
  rw [execute_of_isSome_go? (isSome_go?_of_ofLine? hgoing), hgoing]
  unfold go
  dsimp only
  rw [hdestination]
  dsimp only
  rw [resolve_staying hfits]
  cases hplace : (desk.resolve destination).1 with
  | none =>
    rw [recentsAfter_of_resolve_eq_none hfits hplace]
    exact .fails hspelled hplace
  | some target =>
    dsimp only
    rcases moveTo_staying hfits (resolve_lt hplace) raw [] (desk.recentsAfter destination)
      desk.session.vars with ⟨hhere, hmoved⟩ | ⟨hmove, old, new, hold, hnew, hmoved⟩
    · rw [hmoved]
      exact .stays hspelled hplace hhere
    · rw [hmoved]
      exact .moves hspelled hplace hmove hold hnew

theorem goes_execute (hfits : desk.session.Fits desk.stack)
    (hgo : (go? (strip raw).toList).isSome = true)
    (hshort : ∀ negative digits, SpellsCardNumber negative digits (strip raw).toList →
      digits.length ≤ digitLimit) : desk.Goes raw (desk.execute raw) := by
  cases hgoing : Going.ofLine? (strip raw).toList with
  | none =>
    rw [execute_of_isSome_go? hgo, hgoing]
    exact .unknown (by rw [Destination.ofLine?, hgoing])
  | some going =>
    obtain ⟨destination, hdestination⟩ := exists_destination hshort hgoing
    exact goes_execute_of_spelled hfits
      (Destination.ofLine?_eq_some_iff_going.mpr ⟨going, hgoing, hdestination⟩)

/-! ### Where a line leads -/

/-- A stripped line has no line end after what it spells. -/
theorem ofLine?_strip_eq_some_iff : Destination.ofLine? (strip raw) = .ok (some destination) ↔
    SpellsDestination destination (strip raw).toList := by
  rw [Destination.ofLine?_eq_some_iff]
  constructor
  · rintro (hspells | ⟨text, hline, -⟩)
    · exact hspells
    · exact absurd (by rw [hline, List.getLast?_concat]) (getLast?_strip_ne raw)
  · exact Or.inl

/-- A line that spells a destination goes there, and comes to nothing else. -/
theorem execute_eq_of_goes (hfits : desk.session.Fits desk.stack)
    (hspells : SpellsDestination destination (strip raw).toList) {outcome : Outcome}
    (h : desk.Goes raw outcome) : desk.execute raw = outcome :=
  (goes_execute_of_spelled hfits (ofLine?_strip_eq_some_iff.mpr hspells)).unique h

/-- A destination that is somewhere is where the desk is, or the desk moves there. -/
theorem execute_arrives (hfits : desk.session.Fits desk.stack)
    (hspells : SpellsDestination destination (strip raw).toList)
    (hplace : (desk.resolve destination).1 = some target) :
    ((target : Int) = desk.session.currentCardIndex ∧
      desk.execute raw = (.ok destination.arrivalMessage,
        desk.staying raw [] (desk.recentsAfter destination) desk.session.vars)) ∨
    ((target : Int) ≠ desk.session.currentCardIndex ∧ ∃ old new,
      desk.currentCard? = some old ∧ desk.execute raw = (.ok destination.arrivalMessage,
        desk.passing raw [] (desk.recentsAfter destination) old new target {})) := by
  have hspelled := ofLine?_strip_eq_some_iff.mpr hspells
  by_cases hhere : (target : Int) = desk.session.currentCardIndex
  · exact Or.inl ⟨hhere, execute_eq_of_goes hfits hspells (.stays hspelled hplace hhere)⟩
  · obtain ⟨old, hold⟩ := exists_currentCard? hfits
    obtain ⟨new, hnew⟩ := Stack.exists_cardAt? (Int.natCast_nonneg target)
      (Int.ofNat_lt.mpr (resolve_lt hplace))
    exact Or.inr ⟨hhere, old, new, hold,
      execute_eq_of_goes hfits hspells (.moves hspelled hplace hhere hold hnew)⟩

theorem execute_of_resolve_eq_some (hfits : desk.session.Fits desk.stack)
    (hspells : SpellsDestination destination (strip raw).toList)
    (hplace : (desk.resolve destination).1 = some target) :
    (desk.execute raw).1 = .ok destination.arrivalMessage ∧
      (desk.execute raw).2.stack = desk.stack ∧
      (desk.execute raw).2.session.currentCardIndex = target := by
  rcases execute_arrives hfits hspells hplace with ⟨hhere, hstays⟩ | ⟨-, old, new, -, hmoves⟩
  · rw [hstays]
    exact ⟨rfl, rfl, hhere.symm⟩
  · rw [hmoves]
    exact ⟨rfl, rfl, rfl⟩

theorem execute_of_resolve_eq_none (hfits : desk.session.Fits desk.stack)
    (hspells : SpellsDestination destination (strip raw).toList)
    (hplace : (desk.resolve destination).1 = none) :
    (desk.execute raw).1 = .ok destination.failureMessage ∧
      (desk.execute raw).2.session.vars.result = destination.failureMessage ∧
      desk.Unmoved (desk.execute raw).2 := by
  rw [execute_eq_of_goes hfits hspells (.fails (ofLine?_strip_eq_some_iff.mpr hspells) hplace)]
  exact ⟨rfl, rfl, unmoved_staying desk raw [] rfl⟩

/-- A line answers that it arrived exactly if the destination is somewhere. -/
theorem execute_eq_arrivalMessage_iff (hfits : desk.session.Fits desk.stack)
    (hspells : SpellsDestination destination (strip raw).toList) :
    (desk.execute raw).1 = .ok destination.arrivalMessage ↔
      ∃ target, (desk.resolve destination).1 = some target := by
  constructor
  · intro harrives
    by_contra hnowhere
    have hplace : (desk.resolve destination).1 = none :=
      Option.eq_none_iff_forall_ne_some.mpr (not_exists.mp hnowhere)
    obtain ⟨hfails, -⟩ := execute_of_resolve_eq_none hfits hspells hplace
    exact destination.arrivalMessage_ne_failureMessage (Except.ok.inj (harrives.symm.trans hfails))
  · rintro ⟨target, hplace⟩
    exact (execute_of_resolve_eq_some hfits hspells hplace).1

/-! ### Lines that search -/

/-- What a line that searches for a text comes to. -/
inductive Searches (desk : Desk) (raw query : String) : Outcome → Prop
  | moves {target : Nat} {old new : Card}
      (hfound : desk.stack.searchFields? query = some target)
      (hmove : (target : Int) ≠ desk.session.currentCardIndex)
      (hold : desk.currentCard? = some old) (hnew : desk.stack.cardAt? target = some new) :
    Searches desk raw query (.ok ("found \"" ++ query ++ "\""),
      desk.passing raw [⟨.find, query⟩] desk.session.recentCards old new target ⟨query, ""⟩)
  | stays {target : Nat} (hfound : desk.stack.searchFields? query = some target)
      (hhere : (target : Int) = desk.session.currentCardIndex) :
    Searches desk raw query (.ok ("found \"" ++ query ++ "\""),
      desk.staying raw [⟨.find, query⟩] desk.session.recentCards ⟨query, ""⟩)
  | fails (hfound : desk.stack.searchFields? query = none) :
    Searches desk raw query (.ok ("Couldn't find \"" ++ query ++ "\""),
      desk.staying raw [⟨.find, query⟩] desk.session.recentCards
        { desk.session.vars with result := "not found" })

theorem exists_query (hfits : desk.session.Fits desk.stack)
    (h : (find? (strip raw).toList).isSome = true) :
    ∃ expression query, find? (strip raw).toList = some (.find expression) ∧
      desk.evaluate expression = .ok query := by
  obtain ⟨expression, hfind⟩ := exists_of_isSome_find? h
  obtain ⟨card, hcard⟩ := exists_currentCard? hfits
  obtain ⟨query, hvalue⟩ := exists_evaluateWith_eq_ok hcard Expression.rules expression
  exact ⟨expression, query, hfind, hvalue⟩

theorem execute_of_find {expression : String}
    (hfind : find? (strip raw).toList = some (.find expression))
    (hvalue : desk.evaluate expression = .ok query) :
    desk.execute raw =
      (desk.staying raw [] desk.session.recentCards desk.session.vars).findText query := by
  have hsaid : Command.said raw = .find expression := (said_eq_iff find_mem_rules rfl).mpr hfind
  have hheard : (desk.receive raw).evaluateWith Expression.rules expression = .ok query :=
    (desk.evaluateWith_receive raw _ _).trans hvalue
  have hline := isEmpty_strip_eq_false rfl (Option.isSome_of_eq_some hfind)
  rw [execute_of_said hsaid, ← receive_eq hline]
  exact withValue_of_ok hheard

theorem searches_execute (hfits : desk.session.Fits desk.stack) {expression : String}
    (hfind : find? (strip raw).toList = some (.find expression))
    (hvalue : desk.evaluate expression = .ok query) :
    desk.Searches raw query (desk.execute raw) := by
  have hsearch : (desk.staying raw [⟨.find, query⟩] desk.session.recentCards
      desk.session.vars).stack.searchFields? query = desk.stack.searchFields? query :=
    rfl
  rw [execute_of_find hfind hvalue]
  unfold findText
  rw [log_staying, List.nil_append]
  dsimp only
  rw [hsearch]
  cases hfound : desk.stack.searchFields? query with
  | none => exact .fails hfound
  | some target =>
    dsimp only
    rcases moveTo_staying hfits (findIdx?_lt hfound) raw [⟨.find, query⟩] desk.session.recentCards
      desk.session.vars with ⟨hhere, hmoved⟩ | ⟨hmove, old, new, hold, hnew, hmoved⟩
    · rw [hmoved]
      exact .stays hfound hhere
    · rw [hmoved]
      exact .moves hfound hmove hold hnew

theorem Searches.of_some {outcome : Outcome} (h : desk.Searches raw query outcome)
    (hfound : desk.stack.searchFields? query = some target) :
    outcome.1 = .ok ("found \"" ++ query ++ "\"") ∧ outcome.2.stack = desk.stack ∧
      outcome.2.session.currentCardIndex = target ∧ outcome.2.session.vars = ⟨query, ""⟩ := by
  cases h with
  | moves hplace hmove hold hnew =>
    obtain rfl := Option.some.inj (hplace.symm.trans hfound)
    exact ⟨rfl, rfl, rfl, rfl⟩
  | stays hplace hhere =>
    obtain rfl := Option.some.inj (hplace.symm.trans hfound)
    exact ⟨rfl, rfl, hhere.symm, rfl⟩
  | fails hmissed => cases hmissed.symm.trans hfound

theorem Searches.of_none {outcome : Outcome} (h : desk.Searches raw query outcome)
    (hmissed : desk.stack.searchFields? query = none) :
    outcome.1 = .ok ("Couldn't find \"" ++ query ++ "\"") ∧
      outcome.2.session.vars.result = "not found" ∧ desk.Unmoved outcome.2 := by
  cases h with
  | moves hfound hmove hold hnew => cases hfound.symm.trans hmissed
  | stays hfound hhere => cases hfound.symm.trans hmissed
  | fails hmissed => exact ⟨rfl, rfl, unmoved_staying desk raw [⟨.find, query⟩] rfl⟩

/-- Assumes: a fresh desk, and any operations after it. Every line that begins with `go` goes
somewhere, unless it has a card number with more digits than are read, and every line that begins
with `find` searches for the value of what it spells. -/
theorem goes_searches_run {base : Stack} {start : Desk} (hopen : open? base = some start)
    (operations : List Operation) (raw : String) :
    ((go? (strip raw).toList).isSome = true →
        (∀ negative digits, SpellsCardNumber negative digits (strip raw).toList →
          digits.length ≤ digitLimit) →
        (start.run operations).Goes raw ((start.run operations).execute raw)) ∧
      ((find? (strip raw).toList).isSome = true → ∃ expression query,
        find? (strip raw).toList = some (.find expression) ∧
          (start.run operations).evaluate expression = .ok query ∧
          (start.run operations).Searches raw query ((start.run operations).execute raw)) := by
  have hfits := (reached_run hopen operations).session
  generalize start.run operations = desk at hfits ⊢
  refine ⟨goes_execute hfits, fun hsome ↦ ?_⟩
  obtain ⟨expression, query, hfind, hvalue⟩ := exists_query hfits hsome
  exact ⟨expression, query, hfind, hvalue, searches_execute hfits hfind hvalue⟩

/-- Two lines heard while a field is open: one goes to another card, the other finds its text on the
card that the desk is on. -/
theorem goes_searches_run_openBody :
    open? Stack.starter = some starter ∧
      (∀ negative digits, SpellsCardNumber negative digits (strip "go card \"notes\"").toList →
        digits.length ≤ digitLimit) ∧
      (starter.run [.openField "body"]).Goes "go card \"notes\""
        ((starter.run [.openField "body"]).execute "go card \"notes\"") ∧
      ∃ expression query, find? (strip "find welcome").toList = some (.find expression) ∧
        (starter.run [.openField "body"]).evaluate expression = .ok query ∧
        (starter.run [.openField "body"]).Searches "find welcome" query
          ((starter.run [.openField "body"]).execute "find welcome") := by
  have hshort (negative : Bool) (digits : List Char)
      (hspells : SpellsCardNumber negative digits (strip "go card \"notes\"").toList) :
      digits.length ≤ digitLimit :=
    hspells.length_le.trans (by decide +kernel)
  obtain ⟨hgoes, -⟩ := goes_searches_run open?_starter [.openField "body"] "go card \"notes\""
  obtain ⟨-, hsearches⟩ := goes_searches_run open?_starter [.openField "body"] "find welcome"
  exact ⟨open?_starter, hshort, hgoes (by decide +kernel) hshort, hsearches (by decide +kernel)⟩

end Desk

end Cardfile
