import Cardfile.Proofs.Desk.Logging
import Cardfile.Proofs.Desk.Permission
import Mathlib.Data.List.Nodup

/-!
# Where the open field is

A field is opened on the current card, and moving to another card closes it, so the open field is on
the current card (`Desk.OpenFieldHere`) until a restore stands the desk at another one. On a stack
whose fields have pairwise distinct ids this is the only way to lose it
(`Desk.openFieldHere_iff_no_restore_elsewhere`), and while the open field is on the current card no
edit finds it gone (`Desk.openFieldHere_iff_editFieldText`).
-/

set_option autoImplicit false
set_option relaxedAutoImplicit false

namespace Cardfile

/-! ### The fields of a stack -/

namespace Stack

variable {stack other : Stack}

/-- All fields, card by card. -/
def fields (stack : Stack) : List TextField :=
  stack.cards.flatMap (·.fields)

def fieldIds (stack : Stack) : List Int :=
  stack.fields.map (·.id)

theorem map_fields_skeleton (stack : Stack) :
    stack.skeleton.fields = stack.fields.map TextField.skeleton := by
  simp [fields, skeleton, Card.skeleton, List.flatMap_map, List.map_flatMap]

theorem fieldSkeletons_eq (h : stack.skeleton = other.skeleton) :
    stack.fields.map TextField.skeleton = other.fields.map TextField.skeleton := by
  rw [← map_fields_skeleton, h, map_fields_skeleton]

theorem mem_fields {card : Card} {field : TextField} (hcard : card ∈ stack.cards)
    (hfield : field ∈ card.fields) : field ∈ stack.fields :=
  List.mem_flatMap.mpr ⟨card, hcard, hfield⟩

/-- The card at a position that counts from the first one. -/
theorem exists_getElem?_of_cardAt? {position : Int} {card : Card} (hnonneg : 0 ≤ position)
    (hcard : stack.cardAt? position = some card) :
    ∃ place : Nat, position = place ∧ stack.cards[place]? = some card := by
  obtain ⟨place, hplace, hget⟩ := Option.bind_eq_some_iff.mp hcard
  unfold placeOf? at hplace
  split_ifs at hplace with hlt
  refine ⟨place, ?_, hget⟩
  have htoNat : position.toNat = place := Option.some.inj hplace
  omega

/-- Assumes: fields with pairwise distinct ids. No two cards have a field with one id. -/
theorem position_eq_of_fieldIds (hdistinct : stack.fieldIds.Nodup) {first second : Int}
    (hfirst : 0 ≤ first) (hsecond : 0 ≤ second) {card other : Card}
    (hcard : stack.cardAt? first = some card) (hother : stack.cardAt? second = some other)
    {id : Int} (hid : id ∈ card.fields.map (·.id)) (hotherId : id ∈ other.fields.map (·.id)) :
    first = second := by
  obtain ⟨place, rfl, hget⟩ := exists_getElem?_of_cardAt? hfirst hcard
  obtain ⟨otherPlace, rfl, hotherGet⟩ := exists_getElem?_of_cardAt? hsecond hother
  have hrows : (stack.cards.flatMap fun card ↦ card.fields.map (·.id)).Nodup := by
    simpa [fieldIds, fields, List.map_flatMap] using hdistinct
  have hapart (i j : Nat) (left right : Card) (hleft : stack.cards[i]? = some left)
      (hright : stack.cards[j]? = some right) (hlt : i < j) :
      List.Disjoint (left.fields.map (·.id)) (right.fields.map (·.id)) := by
    obtain ⟨hi, rfl⟩ := List.getElem?_eq_some_iff.mp hleft
    obtain ⟨hj, rfl⟩ := List.getElem?_eq_some_iff.mp hright
    exact List.pairwise_iff_getElem.mp (List.nodup_flatMap.mp hrows).2 i j hi hj hlt
  rcases Nat.lt_trichotomy place otherPlace with hlt | rfl | hlt
  · exact absurd hotherId (hapart _ _ _ _ hget hotherGet hlt hid)
  · rfl
  · exact absurd hid (hapart _ _ _ _ hotherGet hget hlt hotherId)

end Stack

/-! ### The open field and edits -/

namespace Desk

variable {desk after : Desk} {card : Card}

/-- The open field, if there is one, is a field of the current card. -/
def OpenFieldHere (desk : Desk) : Prop :=
  ∀ id, desk.session.editingFieldId = some id →
    ∃ card, desk.currentCard? = some card ∧ id ∈ card.fields.map (·.id)

theorem openFieldHere_of_closed (hclosed : desk.session.editingFieldId = none) :
    desk.OpenFieldHere := by
  intro id hid
  simp [hclosed] at hid

theorem OpenFieldHere.congr (h : desk.OpenFieldHere)
    (hskeleton : after.stack.skeleton = desk.stack.skeleton)
    (hediting : after.session.editingFieldId = desk.session.editingFieldId)
    (hindex : after.session.currentCardIndex = desk.session.currentCardIndex) :
    after.OpenFieldHere := by
  intro id hid
  obtain ⟨card, hcard, hmem⟩ := h id (hediting ▸ hid)
  obtain ⟨found, hfound, hsame⟩ := Stack.exists_cardAt?_eq hskeleton.symm hcard
  refine ⟨found, ?_, ?_⟩
  · rw [currentCard?, hindex]
    exact hfound
  · rwa [Card.fieldIds_eq hsame]

theorem editFieldText_of_closed (hclosed : desk.session.editingFieldId = none) (text : String) :
    desk.editFieldText text = (.error .noOpenField, desk) := by
  rw [editFieldText, hclosed]

theorem editFieldText_of_gone (hcard : desk.currentCard? = some card) {id : Int}
    (hediting : desk.session.editingFieldId = some id) (hgone : id ∉ card.fields.map (·.id))
    (text : String) : desk.editFieldText text = (.error .openFieldGone, desk) := by
  obtain ⟨place, hplace⟩ := exists_currentPlace? hcard
  have hnone : (card.fields.findIdx? fun field ↦ field.id == id) = none := by
    rw [List.findIdx?_eq_none_iff]
    intro field hfield
    simpa using fun hid : field.id = id ↦ hgone (List.mem_map.mpr ⟨field, hfield, hid⟩)
  unfold editFieldText
  rw [hediting, hplace, hcard]
  dsimp only
  rw [hnone]

/-- The field with the open id on the current card is the one that is written. -/
theorem exists_editFieldText_eq_ok (hcard : desk.currentCard? = some card) {id : Int}
    (hediting : desk.session.editingFieldId = some id) (hmem : id ∈ card.fields.map (·.id))
    (text : String) :
    ∃ place fieldPlace, ∃ field : TextField, desk.currentPlace? = some place ∧
      card.fields[fieldPlace]? = some field ∧ field.id = id ∧
      desk.editFieldText text = (.ok (),
        { desk with stack := desk.stack.writtenAt (place, fieldPlace) text }.log
          .setField field.name) := by
  obtain ⟨place, hplace⟩ := exists_currentPlace? hcard
  have hfound : (card.fields.findIdx? fun field ↦ field.id == id).isSome := by
    obtain ⟨field, hfield, hid⟩ := List.mem_map.mp hmem
    rw [List.findIdx?_isSome, List.any_eq_true]
    exact ⟨field, hfield, by simpa using hid⟩
  obtain ⟨fieldPlace, hfieldPlace⟩ := Option.isSome_iff_exists.mp hfound
  obtain ⟨hlt, hid, -⟩ := List.findIdx?_eq_some_iff_getElem.mp hfieldPlace
  have hget : card.fields[fieldPlace]? = some card.fields[fieldPlace] :=
    List.getElem?_eq_getElem hlt
  refine ⟨place, fieldPlace, card.fields[fieldPlace], hplace, hget, by simpa using hid, ?_⟩
  unfold editFieldText
  rw [hediting, hplace, hcard]
  dsimp only
  rw [List.find?_eq_bind_findIdx?_getElem?, hfieldPlace, Option.bind_some, hget]
  rfl

/-- Assumes: a desk with a current card. An edit is refused exactly if no field is open, or the open
one is not on the current card, and what it says differs. -/
theorem editFieldText_eq_error_iff (hcard : desk.currentCard? = some card) (text : String)
    (refusal : Refusal) :
    (desk.editFieldText text).1 = .error refusal ↔
      desk.session.editingFieldId = none ∧ refusal = .noOpenField ∨
        ¬ desk.OpenFieldHere ∧ refusal = .openFieldGone := by
  cases hediting : desk.session.editingFieldId with
  | none =>
    have hhere : desk.OpenFieldHere := openFieldHere_of_closed hediting
    simp [editFieldText_of_closed hediting, hhere, eq_comm]
  | some id =>
    by_cases hmem : id ∈ card.fields.map (·.id)
    · have hhere : desk.OpenFieldHere := by
        intro other hother
        obtain rfl : id = other := Option.some.inj (hediting.symm.trans hother)
        exact ⟨card, hcard, hmem⟩
      obtain ⟨place, fieldPlace, field, -, -, -, hok⟩ :=
        exists_editFieldText_eq_ok hcard hediting hmem text
      simp [hok, hhere]
    · have hgone : ¬ desk.OpenFieldHere := by
        intro hhere
        obtain ⟨found, hfound, hfoundMem⟩ := hhere id hediting
        obtain rfl : found = card := Option.some.inj (hfound.symm.trans hcard)
        exact hmem hfoundMem
      simp [editFieldText_of_gone hcard hediting hmem, hgone, eq_comm]

theorem openFieldHere_iff_editFieldText (hcard : desk.currentCard? = some card) :
    desk.OpenFieldHere ↔ ∀ text, (desk.editFieldText text).1 ≠ .error .openFieldGone := by
  constructor
  · intro hhere text hrefused
    rcases (editFieldText_eq_error_iff hcard text _).mp hrefused with ⟨-, hcause⟩ | ⟨hgone, -⟩
    · cases hcause
    · exact hgone hhere
  · intro hnever
    by_contra hgone
    exact hnever "" ((editFieldText_eq_error_iff hcard "" _).mpr (Or.inr ⟨hgone, rfl⟩))

/-! ### Operations that keep the open field on the current card -/

/-- A restore that stands a desk with an open field at another card. -/
def RestoresElsewhere (desk : Desk) (operation : Operation) : Prop :=
  (∃ settings store, operation = .restore settings store) ∧
    desk.session.editingFieldId.isSome ∧
    (desk.operate operation).session.currentCardIndex ≠ desk.session.currentCardIndex

theorem OpenFieldHere.operate (h : desk.OpenFieldHere) {operation : Operation}
    (hrestore : ¬ desk.RestoresElsewhere operation) : (desk.operate operation).OpenFieldHere := by
  obtain ⟨events, hepisode⟩ := desk.exists_episode_operate operation
  have hskeleton := desk.skeleton_operate operation
  unfold RestoresElsewhere at hrestore
  generalize desk.operate operation = after at hepisode hskeleton hrestore ⊢
  cases hepisode with
  | browses hbrowses =>
    cases hbrowses with
    | remains hremains => exact h.congr hskeleton hremains.editing hremains.index
    | moves hmoves => exact openFieldHere_of_closed hmoves.editing
  | opens hopenable hopens =>
    obtain ⟨card, hcard, hfield⟩ := currentCard?_of_openable hopenable
    intro id hid
    rw [hopens.editing] at hid
    obtain rfl := Option.some.inj hid
    refine ⟨card, ?_, List.mem_map_of_mem (List.mem_of_find?_eq_some hfield)⟩
    rw [currentCard?, hopens.stack, hopens.index]
    exact hcard
  | closes => exact openFieldHere_of_closed desk.editingFieldId_leaveField
  | merges settings store snapshot =>
    by_cases hediting : desk.session.editingFieldId.isSome
    · have hindex : (desk.merge snapshot).session.currentCardIndex =
          desk.session.currentCardIndex := by
        by_contra hne
        exact hrestore ⟨⟨settings, store, rfl⟩, hediting, hne⟩
      exact h.congr hskeleton rfl hindex
    · have hclosed : desk.session.editingFieldId = none := by simpa using hediting
      exact openFieldHere_of_closed hclosed

/-- Assumes: a stack whose fields have pairwise distinct ids. The open field is on one card only, so
a restore that stands the desk at another one loses it. -/
theorem not_openFieldHere_of_restoresElsewhere {base : Stack} (hreached : desk.Reached base)
    (hdistinct : base.fieldIds.Nodup) (hhere : desk.OpenFieldHere) {operation : Operation}
    (hrestore : desk.RestoresElsewhere operation) : ¬ (desk.operate operation).OpenFieldHere := by
  obtain ⟨⟨settings, store, rfl⟩, hediting, hindex⟩ := hrestore
  intro hafter
  have hreachedAfter := hreached.step (desk.step_operate (.restore settings store))
  have hkept : (desk.operate (.restore settings store)).session.editingFieldId =
      desk.session.editingFieldId := by
    show (desk.restore settings store).2.1.session.editingFieldId = _
    rw [restore_eq]
    cases (store.loadSnapshot settings desk.stack.name).1 <;> rfl
  obtain ⟨id, hid⟩ := Option.isSome_iff_exists.mp hediting
  obtain ⟨card, hcard, hmem⟩ := hhere id hid
  obtain ⟨other, hother, hotherMem⟩ := hafter id (hkept.trans hid)
  -- Both cards are compared on the stack on which the desk was opened.
  obtain ⟨first, hfirst, hfirstSame⟩ := Stack.exists_cardAt?_eq hreached.stack.skeleton hcard
  obtain ⟨second, hsecond, hsecondSame⟩ :=
    Stack.exists_cardAt?_eq hreachedAfter.stack.skeleton hother
  rw [← Card.fieldIds_eq hfirstSame] at hmem
  rw [← Card.fieldIds_eq hsecondSame] at hotherMem
  exact hindex (Stack.position_eq_of_fieldIds hdistinct hreachedAfter.session.index_nonneg
    hreached.session.index_nonneg hsecond hfirst hotherMem hmem)

theorem openFieldHere_run {base : Stack} {start : Desk} (hopen : open? base = some start)
    {operations : List Operation}
    (hrestore : ∀ before operation, before ++ [operation] <+: operations →
      ¬ (start.run before).RestoresElsewhere operation) : (start.run operations).OpenFieldHere := by
  induction operations using List.reverseRecOn with
  | nil =>
    obtain ⟨first, rest, -, rfl⟩ := open?_eq_some_iff.mp hopen
    exact openFieldHere_of_closed rfl
  | append_singleton operations operation ih =>
    have hhere := ih fun before earlier hinitial ↦
      hrestore before earlier (hinitial.trans (List.prefix_append ..))
    rw [run_concat]
    exact hhere.operate (hrestore operations operation (List.prefix_refl _))

/-- Assumes: a fresh desk on a stack whose fields have pairwise distinct ids. All along a run the
open field is on the current card, and no edit finds it gone, exactly if no restore of the run
stands a desk with an open field at another card. -/
theorem openFieldHere_iff_no_restore_elsewhere {base : Stack} {start : Desk}
    (hopen : open? base = some start) (hdistinct : base.fieldIds.Nodup)
    (operations : List Operation) :
    (∀ before, before <+: operations → (start.run before).OpenFieldHere ∧
        ∀ text, ((start.run before).editFieldText text).1 ≠ .error .openFieldGone) ↔
      ∀ before operation, before ++ [operation] <+: operations →
        ¬ (start.run before).RestoresElsewhere operation := by
  constructor
  · intro hhere before operation hinitial hrestores
    have hbefore := (hhere before ((List.prefix_append ..).trans hinitial)).1
    have hafter := (hhere _ hinitial).1
    rw [run_concat] at hafter
    exact not_openFieldHere_of_restoresElsewhere (reached_run hopen before) hdistinct hbefore
      hrestores hafter
  · intro hrestore before hinitial
    have hhere : (start.run before).OpenFieldHere := openFieldHere_run hopen
      fun earlier operation hearlier ↦ hrestore earlier operation (hearlier.trans hinitial)
    obtain ⟨card, hcard⟩ := exists_currentCard? (reached_run hopen before).session
    exact ⟨hhere, (openFieldHere_iff_editFieldText hcard).mp hhere⟩

/-- A field is opened on the first card, and then a snapshot of the second card is restored. -/
def openedThenRestored : List Operation :=
  [.openField "Body",
    .restore {} { data := [("cardstack:snapshot:Home", "\x7b\"current_card_index\":1\x7d")] }]

theorem not_openFieldHere_openedThenRestored :
    open? Stack.starter = some starter ∧ Stack.starter.fieldIds.Nodup ∧
      ¬ ∀ before, before <+: openedThenRestored → (starter.run before).OpenFieldHere ∧
        ∀ text, ((starter.run before).editFieldText text).1 ≠ .error .openFieldGone := by
  have hdistinct : Stack.starter.fieldIds.Nodup := by decide
  refine ⟨open?_starter, hdistinct, fun hhere ↦ ?_⟩
  have hnever := (openFieldHere_iff_no_restore_elsewhere open?_starter hdistinct _).mp hhere
    [.openField "Body"] _ (List.prefix_refl openedThenRestored)
  exact hnever ⟨⟨_, _, rfl⟩, by decide +kernel, by decide +kernel⟩

/-- The open field is one of the first card, the desk stands at the second, and an edit finds the
field gone. -/
theorem openFieldGone_openedThenRestored :
    Stack.starter.fieldIds.Nodup ∧
      (starter.run openedThenRestored).session.editingFieldId = some 1002 ∧
      (starter.run openedThenRestored).currentCard?.map (fun card ↦ card.fields.map (·.id)) =
        some [1003, 1004] ∧
      (starter.run openedThenRestored).editFieldText "Milk" =
        (.error .openFieldGone, starter.run openedThenRestored) := by
  decide +kernel

end Desk

end Cardfile
