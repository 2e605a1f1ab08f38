import Cardfile.Proofs.Desk.Failing
import Cardfile.Proofs.Snapshot.Codec

/-!
# Desks that can be stored

Operations lead from the starter desk only to desks whose ids and positions are short numbers. If
the size of the script text is short, too (`Desk.Storable`), and the font is a text, the snapshot of
such a desk can be written (`Desk.Storable.isWritable`). The size stays short as long as it is set
to short numbers only.
-/

set_option autoImplicit false
set_option relaxedAutoImplicit false

namespace Cardfile

open Text

/-! ### The size of the script text -/

theorem Stack.scriptTextSize_of_setProperty? {stack adjusted : Stack} {name : String}
    {value : PropertyValue} (h : stack.setProperty? name value = .ok (some adjusted)) :
    adjusted.scriptTextSize = stack.scriptTextSize ∨
      value.whole? = some adjusted.scriptTextSize := by
  obtain ⟨property, -, hsets⟩ := setProperty?_eq_ok_some_iff.mp h
  cases hsets with
  | scriptTextSize size hwhole hsize => exact Or.inr hwhole
  | userLevel | scriptTextFont | cantModify => exact Or.inl rfl

theorem Stack.scriptTextSize_merge (stack : Stack) (snapshot : Snapshot) :
    (stack.merge snapshot).scriptTextSize = stack.scriptTextSize ∨
      (stack.merge snapshot).scriptTextSize = snapshot.scriptTextSize := by
  rw [merge_eq]
  show (if 0 < snapshot.scriptTextSize then _ else _) = _ ∨ _
  by_cases hsize : 0 < snapshot.scriptTextSize
  · exact Or.inr (if_pos hsize)
  · exact Or.inl (if_neg hsize)

theorem Stack.scriptTextFont_merge (stack : Stack) (snapshot : Snapshot) :
    (stack.merge snapshot).scriptTextFont = stack.scriptTextFont ∨
      (stack.merge snapshot).scriptTextFont = snapshot.scriptTextFont := by
  rw [merge_eq]
  show (if snapshot.scriptTextFont.isAllBlank then _ else _) = _ ∨ _
  by_cases hfont : snapshot.scriptTextFont.isAllBlank
  · exact Or.inl (if_pos hfont)
  · exact Or.inr (if_neg hfont)

namespace Desk

theorem scriptTextSize_setUserLevel (desk : Desk) (level : Int) :
    (desk.setUserLevel level).2.stack.scriptTextSize = desk.stack.scriptTextSize := by
  unfold setUserLevel Stack.setUserLevel?
  split_ifs <;> rfl

theorem scriptTextSize_setProperty (desk : Desk) (name : String) (value : PropertyValue) :
    (desk.setProperty name value).2.stack.scriptTextSize = desk.stack.scriptTextSize ∨
      value.whole? = some (desk.setProperty name value).2.stack.scriptTextSize := by
  unfold setProperty
  split_ifs with hlevel
  · cases value.whole? with
    | none => exact Or.inl rfl
    | some level => exact Or.inl (desk.scriptTextSize_setUserLevel level)
  · rcases hstack : desk.stack.setProperty? name value with failure | _ | stack
    · exact Or.inl rfl
    · exact Or.inl rfl
    · exact Stack.scriptTextSize_of_setProperty? hstack

/-! ### Desks that operations lead to -/

/-- A desk that operations lead to from the starter one, with a short size. -/
structure Storable (desk : Desk) : Prop where
  reached : desk.Reached Stack.starter
  scriptTextSize : IsShort desk.stack.scriptTextSize

theorem storable_starter : starter.Storable :=
  ⟨reached_open? open?_starter, by decide⟩

namespace Storable

variable {desk after : Desk}

theorem changes (h : desk.Storable) (hchanges : Changes desk after) : after.Storable := by
  refine hchanges.keeps (motive := Storable) (fun before next hchange hbefore ↦ ?_) h
  obtain ⟨-, -, hsize, -⟩ := hchange.properties_eq
  exact ⟨hbefore.reached.change hchange, hsize ▸ hbefore.scriptTextSize⟩

theorem setUserLevel (h : desk.Storable) (level : Int) : (desk.setUserLevel level).2.Storable where
  reached := h.reached.step (desk.step_setUserLevel level)
  scriptTextSize := by
    rw [scriptTextSize_setUserLevel]
    exact h.scriptTextSize

theorem setProperty (h : desk.Storable) (name : String) {value : PropertyValue}
    (hvalue : ∀ n, value.whole? = some n → IsShort n) :
    (desk.setProperty name value).2.Storable where
  reached := h.reached.step (desk.step_setProperty name value)
  scriptTextSize := by
    rcases desk.scriptTextSize_setProperty name value with hsame | hset
    · rw [hsame]
      exact h.scriptTextSize
    · exact hvalue _ hset

theorem merge (h : desk.Storable) {snapshot : Snapshot} (hsnapshot : snapshot.IsWritable) :
    (desk.merge snapshot).Storable where
  reached := h.reached.merge snapshot
  scriptTextSize := by
    have hsize := desk.stack.scriptTextSize_merge snapshot
    show IsShort (desk.stack.merge snapshot).scriptTextSize
    rcases hsize with hsame | hsaved
    · rw [hsame]
      exact h.scriptTextSize
    · rw [hsaved]
      exact hsnapshot.scriptTextSize

theorem isShort_cardId (h : desk.Storable) {card : Card} (hcard : card ∈ desk.stack.cards) :
    IsShort card.id := by
  have hids : ∀ id ∈ Stack.starter.cards.map (·.id), IsShort id := by decide
  apply hids
  rw [← Stack.cardIds_eq h.reached.stack.skeleton]
  exact List.mem_map_of_mem hcard

/-- The current card can be renamed, since the event can be written. -/
theorem renameCard_eq_ok (h : desk.Storable) (name : String) :
    (desk.renameCard name).1 = .ok () := by
  obtain ⟨card, hcard⟩ := exists_currentCard? h.reached.session
  obtain ⟨place, hplace⟩ := exists_currentPlace? hcard
  rw [renameCard_eq hplace hcard, if_pos (h.isShort_cardId (Stack.mem_of_cardAt? hcard))]

theorem isWritable (h : desk.Storable)
    (hfont : ∃ font, desk.stack.scriptTextFont = .plain font) : desk.snapshot.IsWritable where
  scriptTextFont := hfont
  userLevel := by
    have hbound : IsShort 5 := by decide
    show IsShort desk.stack.userLevel
    rcases h.reached.stack.userLevel with hsame | hlevel
    · rw [hsame]
      exact hbound
    · obtain ⟨hminimum, hmaximum⟩ := isUserLevel_iff.mp hlevel
      exact isShort_of_natAbs_le hbound (by omega)
  scriptTextSize := h.scriptTextSize
  currentCardIndex := by
    have hbound : IsShort 3 := by decide
    have hlength : desk.stack.cards.length = 3 :=
      Stack.length_cards_eq h.reached.stack.skeleton
    have hnonneg := h.reached.session.index_nonneg
    have hlt := h.reached.session.index_lt
    show IsShort desk.session.currentCardIndex
    exact isShort_of_natAbs_le hbound (by omega)
  cardIds := by
    intro saved hsaved
    obtain ⟨card, hcard, rfl⟩ := List.mem_map.mp hsaved
    exact h.isShort_cardId hcard
  fieldIds := by
    have hids : ∀ ids ∈ Stack.starter.cards.map (fun card ↦ card.fields.map (·.id)),
        ∀ id ∈ ids, IsShort id := by
      decide
    intro saved hsaved field hfield
    obtain ⟨card, hcard, rfl⟩ := List.mem_map.mp hsaved
    obtain ⟨original, horiginal, rfl⟩ := List.mem_map.mp hfield
    refine hids (card.fields.map (·.id)) ?_ _ (List.mem_map_of_mem horiginal)
    rw [← Stack.cardFieldIds_eq h.reached.stack.skeleton]
    exact List.mem_map_of_mem hcard

end Storable

end Desk

end Cardfile
