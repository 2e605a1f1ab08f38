import Cardfile.Proofs.Command.CardLines
import Cardfile.Proofs.Desk.Literals
import Cardfile.Proofs.Desk.Navigation

/-!
# Lines that lead to the first match

Going to a card by its name and searching for a text have the same form: the line leads to the first
card with a property, or there is no such card, the answer says so and the desk stays as it is
(`Desk.LeadsToFirst`). For a name the property is to have that name whatever the letter case
(`Desk.goesToName_run`), for a text it is to have a field with the text in it whatever the letter
case (`Desk.findsText_run`).

A name may be empty, padded or on several lines, but has no quote in it. A text may have quotes in
it, but no line end.
-/

set_option autoImplicit false
set_option relaxedAutoImplicit false

namespace Cardfile

open Text Command

namespace Desk

variable {desk before : Desk} {outcome : Outcome} {holds : Card → Prop} {place? : Option Nat}
  {found missed result name query : String}

/-- An outcome leads to the first card with a property and answers that it was found. Without such a
card, it answers that it was missed, leaves a result and moves nothing. -/
structure LeadsToFirst (before : Desk) (holds : Card → Prop) (found missed result : String)
    (outcome : Outcome) : Prop where
  answers : outcome.1 = .ok found ↔ ∃ card ∈ before.stack.cards, holds card
  stack : outcome.2.stack = before.stack
  reaches : ∀ (place : Nat) (card : Card), before.stack.cards[place]? = some card → holds card →
    ∃ first ≤ place, IsFirst holds before.stack.cards first ∧
      outcome.2.session.currentCardIndex = first
  fails : (∀ card ∈ before.stack.cards, ¬ holds card) →
    outcome.1 = .ok missed ∧ outcome.2.session.vars.result = result ∧ before.Unmoved outcome.2

/-- Where the card is the first one with the property, it is the one reached. -/
theorem LeadsToFirst.index_eq (h : before.LeadsToFirst holds found missed result outcome)
    {place : Nat} (hfirst : IsFirst holds before.stack.cards place) :
    outcome.2.session.currentCardIndex = place := by
  obtain ⟨card, hcard, hholds⟩ := hfirst.found
  obtain ⟨first, -, hreached, hindex⟩ := h.reaches place card hcard hholds
  rw [hindex, hreached.unique hfirst]

/-- A line leads to the first match if it goes where a search from the front leads. -/
theorem leadsToFirst_of_search (hne : found ≠ missed)
    (hsearch : ∀ place, place? = some place ↔ IsFirst holds before.stack.cards place)
    (hfound : ∀ place, place? = some place → outcome.1 = .ok found ∧
      outcome.2.stack = before.stack ∧ outcome.2.session.currentCardIndex = place)
    (hmissed : place? = none → outcome.1 = .ok missed ∧
      outcome.2.session.vars.result = result ∧ before.Unmoved outcome.2) :
    before.LeadsToFirst holds found missed result outcome := by
  have hnowhere (hnone : ∀ card ∈ before.stack.cards, ¬ holds card) : place? = none := by
    rw [Option.eq_none_iff_forall_ne_some]
    intro place hplace
    obtain ⟨card, hcard, hholds⟩ := ((hsearch place).mp hplace).found
    exact hnone card (List.mem_of_getElem? hcard) hholds
  have hreaches (place : Nat) (card : Card) (hcard : before.stack.cards[place]? = some card)
      (hholds : holds card) :
      ∃ first ≤ place, IsFirst holds before.stack.cards first ∧ place? = some first := by
    obtain ⟨first, hle, hfirst⟩ := exists_isFirst_le hcard hholds
    exact ⟨first, hle, hfirst, (hsearch first).mpr hfirst⟩
  constructor
  · constructor
    · intro hreached
      by_contra hnone
      obtain ⟨hanswer, -⟩ := hmissed (hnowhere fun card hcard hholds ↦ hnone ⟨card, hcard, hholds⟩)
      exact hne (Except.ok.inj (hreached.symm.trans hanswer))
    · rintro ⟨card, hcard, hholds⟩
      obtain ⟨place, hplaced⟩ := List.getElem?_of_mem hcard
      obtain ⟨first, -, -, hplace⟩ := hreaches place card hplaced hholds
      exact (hfound first hplace).1
  · cases hplace : place? with
    | none => exact (hmissed hplace).2.2.stack
    | some first => exact (hfound first hplace).2.1
  · intro place card hcard hholds
    obtain ⟨first, hle, hfirst, hplace⟩ := hreaches place card hcard hholds
    exact ⟨first, hle, hfirst, (hfound first hplace).2.2⟩
  · intro hnone
    exact hmissed (hnowhere hnone)

/-! ### Names -/

/-- What a line that goes to a card by its name comes to. The card is the first one with the name
whatever the letter case, so a card is reached under its name unless one before it has it too. -/
structure GoesToName (before : Desk) (name : String) (outcome : Outcome) : Prop where
  leads : before.LeadsToFirst (fun card ↦ caseFold card.name = caseFold name)
    ("→ went to card \"" ++ name ++ "\"") ("Can't find card \"" ++ name ++ "\"")
    ("Can't find card \"" ++ name ++ "\"") outcome
  alone : ∀ (place : Nat) (card : Card), before.stack.cards[place]? = some card →
    caseFold name = caseFold card.name →
    (∀ earlier < place, ∀ other, before.stack.cards[earlier]? = some other →
      caseFold other.name ≠ caseFold card.name) →
    outcome.2.session.currentCardIndex = place

theorem goesToName_execute (hfits : desk.session.Fits desk.stack) (hname : '"' ∉ name.toList) :
    desk.GoesToName name (desk.execute (goCardLine (inQuotes name))) := by
  have hspells := spellsDestination_name hname
  have hleads : desk.LeadsToFirst (fun card ↦ caseFold card.name = caseFold name)
      (Destination.name name).arrivalMessage (Destination.name name).failureMessage
      (Destination.name name).failureMessage (desk.execute (goCardLine (inQuotes name))) := by
    apply leadsToFirst_of_search (Destination.arrivalMessage_ne_failureMessage _)
    · intro place
      exact Stack.cardPlaceByName?_eq_some_iff
    · intro place hplace
      exact execute_of_resolve_eq_some hfits hspells ((resolve_name hfits name).trans hplace)
    · intro hnone
      exact execute_of_resolve_eq_none hfits hspells ((resolve_name hfits name).trans hnone)
  refine ⟨hleads, fun place card hcard hsame hearlier ↦ ?_⟩
  apply hleads.index_eq
  refine ⟨⟨card, hcard, hsame.symm⟩, fun earlier hlt other hother ↦ ?_⟩
  rw [hsame]
  exact hearlier earlier hlt other hother

/-- Assumes: a fresh desk, any operations after it, and a name without a quote. The line with the
name in quotes goes to the first card that has it. -/
theorem goesToName_run {base : Stack} {start : Desk} (hopen : open? base = some start)
    (operations : List Operation) (hname : '"' ∉ name.toList) :
    (start.run operations).GoesToName name
      ((start.run operations).execute (goCardLine (inQuotes name))) :=
  goesToName_execute (reached_run hopen operations).session hname

/-- Two cards are renamed to names that differ in letter case only, one of them with a letter that
folds to two. -/
theorem goesToName_run_renamed : ∃ desk,
    starter.run [.renameCard " Straße\n", .execute "go next", .renameCard " strasse\n"] = desk ∧
      '"' ∉ " STRASSE\n".toList ∧
      desk.GoesToName " STRASSE\n" (desk.execute (goCardLine (inQuotes " STRASSE\n"))) ∧
      (desk.execute (goCardLine (inQuotes " STRASSE\n"))).2.session.currentCardIndex = 0 := by
  have hquote : '"' ∉ " STRASSE\n".toList := by decide +kernel
  have hgoes := goesToName_run open?_starter
    [.renameCard " Straße\n", .execute "go next", .renameCard " strasse\n"] hquote
  refine ⟨_, rfl, hquote, hgoes, ?_⟩
  refine hgoes.alone 0 _ rfl ?_ fun earlier hearlier ↦ absurd hearlier (Nat.not_lt_zero earlier)
  decide +kernel

/-! ### Texts -/

/-- What a line that searches for a text comes to. The card is the first one that holds the text
whatever the letter case, so nothing that stands on a card is missed. -/
structure FindsText (before : Desk) (query : String) (outcome : Outcome) : Prop where
  leads : before.LeadsToFirst (Card.Holds · query) ("found \"" ++ query ++ "\"")
    ("Couldn't find \"" ++ query ++ "\"") "not found" outcome
  leaves : (∃ card ∈ before.stack.cards, card.Holds query) → outcome.2.session.vars = ⟨query, ""⟩
  pieces : ∀ (place : Nat) (card : Card), before.stack.cards[place]? = some card →
    ∀ field ∈ card.fields, ∀ piece : String, piece.toList <:+: field.text.toList →
      caseFold query = caseFold piece →
      outcome.1 = .ok ("found \"" ++ query ++ "\"") ∧
        outcome.2.session.currentCardIndex ≤ place

theorem findsText_of_searches {raw : String} (h : desk.Searches raw query outcome) :
    desk.FindsText query outcome := by
  have hleads : desk.LeadsToFirst (Card.Holds · query) ("found \"" ++ query ++ "\"")
      ("Couldn't find \"" ++ query ++ "\"") "not found" outcome := by
    apply leadsToFirst_of_search (found_ne_missed query)
    · intro place
      exact Stack.searchFields?_eq_some_iff
    · intro place hplace
      obtain ⟨hanswer, hstack, hindex, -⟩ := h.of_some hplace
      exact ⟨hanswer, hstack, hindex⟩
    · exact h.of_none
  constructor
  · exact hleads
  · rintro ⟨card, hcard, hholds⟩
    obtain ⟨place, hplaced⟩ := List.getElem?_of_mem hcard
    obtain ⟨first, -, hfirst, -⟩ := hleads.reaches place card hplaced hholds
    obtain ⟨-, -, -, hvars⟩ := h.of_some (Stack.searchFields?_eq_some_iff.mpr hfirst)
    exact hvars
  · intro place card hcard field hfield piece hpiece hsame
    have hholds : card.Holds query := Card.holds_of_infix hfield hpiece hsame
    refine ⟨hleads.answers.mpr ⟨card, List.mem_of_getElem? hcard, hholds⟩, ?_⟩
    obtain ⟨first, hle, -, hindex⟩ := hleads.reaches place card hcard hholds
    rw [hindex]
    exact Int.ofNat_le.mpr hle

theorem findsText_execute (hfits : desk.session.Fits desk.stack) (hquery : '\n' ∉ query.toList) :
    desk.FindsText query (desk.execute (findLine query)) := by
  have hfind : find? (strip (findLine query)).toList = some (.find (inQuotes query)) := by
    rw [strip_findLine, find?_findLine, if_neg hquery]
  exact findsText_of_searches
    (searches_execute hfits hfind (desk.evaluateWith_inQuotes query))

/-- Assumes: a fresh desk, any operations after it, and a text on a single line. The line with the
text in quotes finds the first card that holds it. -/
theorem findsText_run {base : Stack} {start : Desk} (hopen : open? base = some start)
    (operations : List Operation) (hquery : '\n' ∉ query.toList) :
    (start.run operations).FindsText query ((start.run operations).execute (findLine query)) :=
  findsText_execute (reached_run hopen operations).session hquery

/-- A text with a quote in it is found on the first card from the second one. -/
theorem findsText_run_quote : ∃ desk,
    starter.run [.execute "put \"the \"Straße\" \" into field \"body\"", .execute "go next"] =
        desk ∧
      '\n' ∉ "\"STRASSE".toList ∧
      desk.FindsText "\"STRASSE" (desk.execute (findLine "\"STRASSE")) ∧
      (desk.execute (findLine "\"STRASSE")).1 = .ok ("found \"" ++ "\"STRASSE" ++ "\"") := by
  have hline : '\n' ∉ "\"STRASSE".toList := by decide +kernel
  have hfinds := findsText_run open?_starter
    [.execute "put \"the \"Straße\" \" into field \"body\"", .execute "go next"] hline
  refine ⟨_, rfl, hline, hfinds, hfinds.leads.answers.mpr ?_⟩
  simp only [Card.holds_iff]
  decide +kernel

end Desk

end Cardfile
