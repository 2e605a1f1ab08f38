import Cardfile.Stack.Lookup
import Mathlib.Data.List.Infix
import Mathlib.Data.Nat.Find
import Mathlib.Tactic.ByContra

/-!
# What a search gives

Fields and cards are searched from the front, so what a search gives is the first match (`IsFirst`),
and a match is never missed: where there is one, the first one is there or earlier
(`exists_isFirst_le`).

Texts are searched whatever the letter case. Folding works character by character, so what folds to
a part of a text is found in it (`Card.holds_of_infix`).
-/

set_option autoImplicit false
set_option relaxedAutoImplicit false

namespace Cardfile

open Text

/-! ### First matches -/

section FirstMatch

variable {α : Type} {holds : α → Prop} {test : α → Bool} {elements : List α} {element : α}
  {place : Nat}

/-- The place of the first element that has a property. -/
@[mk_iff]
structure IsFirst (holds : α → Prop) (elements : List α) (place : Nat) : Prop where
  found : ∃ element, elements[place]? = some element ∧ holds element
  first : ∀ earlier < place, ∀ element, elements[earlier]? = some element → ¬ holds element

theorem findIdx?_eq_some_iff_isFirst :
    elements.findIdx? test = some place ↔ IsFirst (test · = true) elements place := by
  rw [List.findIdx?_eq_some_iff_getElem]
  constructor
  · rintro ⟨hlt, hfound, hfirst⟩
    refine ⟨⟨_, List.getElem?_eq_getElem hlt, hfound⟩, fun earlier hearlier element helement ↦ ?_⟩
    obtain ⟨-, rfl⟩ := List.getElem?_eq_some_iff.mp helement
    exact hfirst earlier hearlier
  · rintro ⟨⟨element, helement, hfound⟩, hfirst⟩
    obtain ⟨hlt, rfl⟩ := List.getElem?_eq_some_iff.mp helement
    exact ⟨hlt, hfound, fun earlier hearlier ↦
      hfirst earlier hearlier _ (List.getElem?_eq_getElem (hearlier.trans hlt))⟩

/-- An element that has the property comes no earlier than the first one. -/
theorem IsFirst.le (h : IsFirst holds elements place) {other : Nat}
    (helement : elements[other]? = some element) (hholds : holds element) : place ≤ other := by
  by_contra hlater
  exact h.first other (Nat.lt_of_not_le hlater) element helement hholds

theorem IsFirst.unique {other : Nat} (h : IsFirst holds elements place)
    (hother : IsFirst holds elements other) : place = other := by
  obtain ⟨element, helement, hholds⟩ := h.found
  obtain ⟨second, hsecond, hmatch⟩ := hother.found
  exact Nat.le_antisymm (h.le hsecond hmatch) (hother.le helement hholds)

/-- Where an element has the property, it is the first one or there is one before it. -/
theorem exists_isFirst_le (helement : elements[place]? = some element) (hholds : holds element) :
    ∃ first ≤ place, IsFirst holds elements first := by
  classical
  have hexists : ∃ place element, elements[place]? = some element ∧ holds element :=
    ⟨place, element, helement, hholds⟩
  refine ⟨Nat.find hexists, Nat.find_min' hexists ⟨element, helement, hholds⟩, ?_, ?_⟩
  · exact Nat.find_spec hexists
  · intro earlier hearlier element helement hholds
    exact Nat.find_min hexists hearlier ⟨element, helement, hholds⟩

end FirstMatch

/-! ### Cards by place and by name -/

theorem Stack.cardAt?_natCast (stack : Stack) (place : Nat) :
    stack.cardAt? place = stack.cards[place]? := by
  rw [cardAt?, elementAt?]
  by_cases hlt : place < stack.cards.length
  · rw [placeOf?_natCast hlt, Option.bind_some]
  · have hnone : placeOf? stack.cards.length (place : Int) = none := by
      simp [placeOf?, hlt]
    rw [hnone, List.getElem?_eq_none (Nat.le_of_not_lt hlt), Option.bind_none]

theorem Card.fieldPlace?_eq_some_iff {card : Card} {name : String} {place : Nat} :
    card.fieldPlace? name = some place ↔
      (∃ field, card.fields[place]? = some field ∧ sameName field.name name = true) ∧
        ∀ earlier < place, ∀ field, card.fields[earlier]? = some field →
          sameName field.name name = false := by
  simp only [fieldPlace?, findIdx?_eq_some_iff_isFirst, isFirst_iff, Bool.not_eq_true]

theorem Stack.cardPlaceByName?_eq_some_iff {stack : Stack} {name : String} {place : Nat} :
    stack.cardPlaceByName? name = some place ↔
      IsFirst (fun card ↦ caseFold card.name = caseFold name) stack.cards place := by
  simp only [cardPlaceByName?, findIdx?_eq_some_iff_isFirst, sameName_iff]

/-! ### Searches for a text -/

variable {card : Card} {query piece : String}

/-- A field of the card has a text with the query in it, whatever the letter case. -/
def Card.Holds (card : Card) (query : String) : Prop :=
  ∃ field ∈ card.fields, (caseFold query).toList <:+: (caseFold field.text).toList

theorem Card.holds_iff : card.Holds query ↔ (card.fields.any fun field ↦
    occursIn (fold query.toList) (fold field.text.toList)) = true := by
  simp [Holds, caseFold, occursIn_iff]

theorem Stack.searchFields?_eq_some_iff {stack : Stack} {place : Nat} :
    stack.searchFields? query = some place ↔ IsFirst (Card.Holds · query) stack.cards place := by
  simp only [searchFields?, findIdx?_eq_some_iff_isFirst, Card.holds_iff]

/-- A part of a text folds to a part of the folded text. -/
theorem Text.fold_infix {part text : List Char} (h : part <:+: text) :
    fold part <:+: fold text := by
  obtain ⟨front, rest, rfl⟩ := h
  rw [fold_append, fold_append]
  exact List.infix_append _ _ _

theorem Card.holds_of_infix {field : TextField} (hfield : field ∈ card.fields)
    (hpiece : piece.toList <:+: field.text.toList) (hsame : caseFold query = caseFold piece) :
    card.Holds query := by
  refine ⟨field, hfield, ?_⟩
  rw [hsame, caseFold, caseFold, String.toList_ofList, String.toList_ofList]
  exact fold_infix hpiece

end Cardfile
