import Cardfile.Proofs.Desk.Run
import Cardfile.Proofs.Stack.Search

/-!
# What a merge writes

A merge goes through the saved cards and their saved fields in order, and each of them overwrites
what its id leads to: of the cards with the id the first, of the fields with the id on that card the
last. So every part of the stack ends up as the last saved row for it says, or stays as it was where
there is none (`LastWrites`).

Rows are written to the place where their key is found, which writing does not move. Read at one
place, a list of rows therefore changes as if only the rows for that place were written
(`getElem?_foldl_writeRow`), and writing the same rows again changes nothing
(`foldl_writeRow_foldl_writeRow`). Both are used twice, for the cards of a stack and for the fields
of a card. `Desk.overwritten_merge` says all that a merge does, whatever ids are repeated or
unknown.
-/

set_option autoImplicit false
set_option relaxedAutoImplicit false

namespace Cardfile

open Text

/-! ### Rows written at one place -/

section Rows

variable {Row Saved : Type} {place? : List Row → Int → Option Nat} {key : Saved → Int}
  {write : Row → Saved → Row}

theorem getElem?_writeRow (rows : List Row) (saved : Saved) (place : Nat) :
    (writeRow place? key write rows saved)[place]? =
      if place? rows (key saved) = some place then rows[place]?.map fun row ↦ write row saved
      else rows[place]? := by
  unfold writeRow
  cases hplace : place? rows (key saved) with
  | none => simp
  | some other =>
    rw [List.getElem?_modify]
    by_cases hsame : other = place <;> simp [hsame]

/-- Rows keep their keys where writing does. -/
theorem map_writeRow {α : Type} {read : Row → α}
    (hwrite : ∀ row saved, read (write row saved) = read row) (rows : List Row) (saved : Saved) :
    (writeRow place? key write rows saved).map read = rows.map read := by
  unfold writeRow
  split
  · exact map_modify_of_eq (fun row ↦ hwrite row saved) rows _
  · rfl

section Foldl

variable (hplace : ∀ rows saved, place? (writeRow place? key write rows saved) = place? rows)
include hplace

theorem place?_foldl_writeRow (saved : List Saved) (rows : List Row) :
    place? (saved.foldl (writeRow place? key write) rows) = place? rows := by
  induction saved generalizing rows with
  | nil => rfl
  | cons first rest ih => rw [List.foldl_cons, ih, hplace]

/-- Only the rows that lead to a place are written there. -/
theorem getElem?_foldl_writeRow (saved : List Saved) (rows : List Row) (place : Nat) :
    (saved.foldl (writeRow place? key write) rows)[place]? = rows[place]?.map fun row ↦
      (saved.filter fun one ↦ place? rows (key one) = some place).foldl write row := by
  induction saved generalizing rows with
  | nil => simp
  | cons first rest ih =>
    rw [List.foldl_cons, ih, hplace, getElem?_writeRow]
    by_cases hfirst : place? rows (key first) = some place
    · simp [hfirst, Function.comp_def]
    · simp [hfirst]

/-- Assumes: writing the same to a row again changes nothing. Then neither does writing the same to
rows again. -/
theorem foldl_writeRow_foldl_writeRow
    (hagain : ∀ saved row, List.foldl write (List.foldl write row saved) saved =
      List.foldl write row saved) (saved : List Saved) (rows : List Row) :
    saved.foldl (writeRow place? key write) (saved.foldl (writeRow place? key write) rows) =
      saved.foldl (writeRow place? key write) rows := by
  refine List.ext_getElem? fun place ↦ ?_
  rw [getElem?_foldl_writeRow hplace, place?_foldl_writeRow hplace,
    getElem?_foldl_writeRow hplace, Option.map_map]
  congr 1
  funext row
  exact hagain _ row

end Foldl

end Rows

/-! ### The last row for a value -/

/-- What comes of a value when rows are written over it in order: the last row that is meant for it
decides, and without one it stays. -/
inductive LastWrites {Row Value : Type} (meant : Row → Prop) (read : Row → Value) (old : Value)
    (rows : List Row) : Value → Prop
  | kept (hnone : ∀ row ∈ rows, ¬ meant row) : LastWrites meant read old rows old
  | written (earlier : List Row) (row : Row) (later : List Row)
      (hrows : rows = earlier ++ row :: later) (hmeant : meant row)
      (hlast : ∀ other ∈ later, ¬ meant other) :
    LastWrites meant read old rows (read row)

section LastWrites

variable {Row Value : Type} {meant : Row → Prop} {test : Row → Bool} {read : Row → Value}
  {rows : List Row}

theorem lastWrites_getLast? (htest : ∀ row, test row = true ↔ meant row) (old : Value) :
    LastWrites meant read old rows (((rows.filter test).getLast?.map read).getD old) := by
  rw [List.getLast?_filter]
  cases hlast : rows.reverse.find? test with
  | none =>
    refine .kept fun row hrow hmeant ↦ ?_
    exact List.find?_eq_none.mp hlast row (List.mem_reverse.mpr hrow) ((htest row).mpr hmeant)
  | some row =>
    obtain ⟨hrow, later, earlier, hsplit, hlater⟩ := List.find?_eq_some_iff_append.mp hlast
    refine .written earlier.reverse row later.reverse ?_ ((htest row).mp hrow) ?_
    · simpa using congrArg List.reverse hsplit
    · intro other hother hmeant
      have hnot := hlater other (List.mem_reverse.mp hother)
      simp [(htest other).mpr hmeant] at hnot

/-- The last element that has a property, by its place. -/
structure IsLast (holds : Row → Prop) (elements : List Row) (place : Nat) : Prop where
  found : ∃ element, elements[place]? = some element ∧ holds element
  last : ∀ later, place < later → ∀ element, elements[later]? = some element → ¬ holds element

/-- The last element is the first one from behind. -/
theorem isLast_iff_isFirst_reverse {place : Nat} (hlt : place < rows.length) :
    IsLast meant rows place ↔ IsFirst meant rows.reverse (rows.length - 1 - place) := by
  have hmirror (other : Nat) (hother : other < rows.length) :
      rows.reverse[rows.length - 1 - other]? = rows[other]? :=
    List.getElem?_reverse' (by omega)
  constructor
  · intro h
    refine ⟨?_, fun earlier hearlier element helement ↦ ?_⟩
    · rw [hmirror place hlt]
      exact h.found
    · refine h.last (rows.length - 1 - earlier) (by omega) element ?_
      rw [← List.getElem?_reverse (by omega)]
      exact helement
  · intro h
    refine ⟨?_, fun later hlater element helement ↦ ?_⟩
    · rw [← hmirror place hlt]
      exact h.found
    · obtain ⟨hlength, -⟩ := List.getElem?_eq_some_iff.mp helement
      refine h.first (rows.length - 1 - later) (by omega) element ?_
      rw [hmirror later hlength]
      exact helement

end LastWrites

/-! ### Fields -/

theorem TextField.foldl_merge (field : TextField) (saved : List FieldSnapshot) :
    saved.foldl merge field =
      { field with text := (saved.getLast?.map (·.text)).getD field.text } := by
  induction saved using List.reverseRecOn with
  | nil => rfl
  | append_singleton saved last ih =>
    rw [List.foldl_concat, ih, List.getLast?_concat]
    rfl

namespace Card

variable {card : Card}

theorem lastFieldPlace?_eq_some_iff {id : Int} {place : Nat} :
    card.lastFieldPlace? id = some place ↔ IsLast (·.id = id) card.fields place := by
  rw [lastFieldPlace?, Option.map_eq_some_iff]
  simp only [findIdx?_eq_some_iff_isFirst, beq_iff_eq]
  constructor
  · rintro ⟨behind, hfirst, rfl⟩
    obtain ⟨field, hfield, -⟩ := hfirst.found
    obtain ⟨hlt, -⟩ := List.getElem?_eq_some_iff.mp hfield
    rw [List.length_reverse] at hlt
    rw [isLast_iff_isFirst_reverse (by omega)]
    have hbehind : card.fields.length - 1 - (card.fields.length - 1 - behind) = behind := by omega
    rwa [hbehind]
  · intro hlast
    obtain ⟨field, hfield, -⟩ := hlast.found
    obtain ⟨hlt, -⟩ := List.getElem?_eq_some_iff.mp hfield
    exact ⟨_, (isLast_iff_isFirst_reverse hlt).mp hlast, by omega⟩

/-- Fields are found by their ids, which writing leaves alone. -/
theorem lastFieldPlace?_writeField (fields : List TextField) (saved : FieldSnapshot) :
    { card with fields := card.writeField fields saved }.lastFieldPlace? =
      { card with fields := fields }.lastFieldPlace? := by
  have hid (field : TextField) (saved : FieldSnapshot) : (field.merge saved).id = field.id := rfl
  have hids : (card.writeField fields saved).map (·.id) = fields.map (·.id) :=
    map_writeRow hid fields saved
  have hlength := congrArg List.length hids
  rw [List.length_map, List.length_map] at hlength
  funext id
  have hfind (fields : List TextField) :
      fields.reverse.findIdx? (fun field ↦ field.id == id) =
        (fields.map (·.id)).reverse.findIdx? (· == id) := by
    rw [← List.map_reverse, List.findIdx?_map]
    rfl
  simp only [lastFieldPlace?, hfind, hids, hlength]

theorem getElem?_foldl_writeField {place : Nat} {field : TextField}
    (hfield : card.fields[place]? = some field) (saved : List FieldSnapshot) :
    (saved.foldl card.writeField card.fields)[place]? = some { field with
      text := ((saved.filter fun one ↦
        card.lastFieldPlace? one.id = some place).getLast?.map (·.text)).getD field.text } := by
  unfold writeField
  rw [getElem?_foldl_writeRow fun fields one ↦ card.lastFieldPlace?_writeField fields one, hfield,
    Option.map_some, TextField.foldl_merge]

theorem foldl_writeField_foldl_writeField (saved : List FieldSnapshot) (fields : List TextField) :
    saved.foldl card.writeField (saved.foldl card.writeField fields) =
      saved.foldl card.writeField fields := by
  unfold writeField
  refine foldl_writeRow_foldl_writeRow (fun fields one ↦ card.lastFieldPlace?_writeField fields one)
    (fun saved field ↦ ?_) saved fields
  simp only [TextField.foldl_merge]
  cases saved.getLast? <;> rfl

/-! ### Cards -/

/-- Cards saved one after another for a card write their fields as a single one with all of them
would. -/
theorem foldl_merge (card : Card) (saved : List CardSnapshot) :
    saved.foldl merge card = { card with
      name := (saved.getLast?.map (·.name)).getD card.name
      fields := (saved.flatMap (·.fields)).foldl card.writeField card.fields } := by
  induction saved using List.reverseRecOn with
  | nil => rfl
  | append_singleton saved last ih =>
    rw [List.foldl_concat, ih, List.getLast?_concat, List.flatMap_append, List.foldl_append, merge,
      foldl_mergeField_eq, List.flatMap_singleton]
    rfl

theorem foldl_merge_foldl_merge (card : Card) (saved : List CardSnapshot) :
    saved.foldl merge (saved.foldl merge card) = saved.foldl merge card := by
  have hfields := card.foldl_writeField_foldl_writeField (saved.flatMap (·.fields)) card.fields
  have hname : (saved.getLast?.map (·.name)).getD ((saved.getLast?.map (·.name)).getD card.name) =
      (saved.getLast?.map (·.name)).getD card.name := by
    cases saved.getLast? <;> rfl
  rw [foldl_merge (saved.foldl merge card), foldl_merge card]
  dsimp only
  rw [hname]
  exact congrArg (fun fields ↦ { card with
    name := (saved.getLast?.map CardSnapshot.name).getD card.name, fields := fields }) hfields

end Card

/-! ### Stacks -/

namespace Stack

variable {stack : Stack}

theorem cardPlace?_eq_some_iff {id : Int} {place : Nat} :
    stack.cardPlace? id = some place ↔ IsFirst (·.id = id) stack.cards place := by
  simp only [cardPlace?, findIdx?_eq_some_iff_isFirst, beq_iff_eq]

theorem cardPlace?_writeCard (cards : List Card) (saved : CardSnapshot) :
    { stack with cards := stack.writeCard cards saved }.cardPlace? =
      { stack with cards := cards }.cardPlace? := by
  have hids : (stack.writeCard cards saved).map (·.id) = cards.map (·.id) :=
    map_writeRow Card.merge_id cards saved
  have hfind (cards : List Card) (id : Int) :
      cards.findIdx? (fun card ↦ card.id == id) = (cards.map (·.id)).findIdx? (· == id) := by
    rw [List.findIdx?_map]
    rfl
  funext id
  simp only [cardPlace?, hfind, hids]

theorem merge_eq_foldl_writeCard (stack : Stack) (snapshot : Snapshot) :
    stack.merge snapshot = { stack.mergeProperties snapshot with
      cards := snapshot.cards.foldl stack.writeCard stack.cards } := by
  rw [merge, foldl_mergeCard_eq]
  rfl

theorem getElem?_cards_merge {place : Nat} {card : Card} (hcard : stack.cards[place]? = some card)
    (snapshot : Snapshot) :
    (stack.merge snapshot).cards[place]? = some ((snapshot.cards.filter fun saved ↦
      stack.cardPlace? saved.id = some place).foldl Card.merge card) := by
  rw [merge_eq_foldl_writeCard]
  dsimp only
  unfold writeCard
  rw [getElem?_foldl_writeRow fun cards one ↦ stack.cardPlace?_writeCard cards one, hcard,
    Option.map_some]

theorem mergeProperties_merge (stack : Stack) (snapshot : Snapshot) :
    (stack.merge snapshot).mergeProperties snapshot = stack.merge snapshot := by
  rw [merge_eq_foldl_writeCard, mergeProperties, mergeProperties]
  congr 1 <;> split_ifs <;> rfl

/-- Merging a snapshot again changes nothing. -/
theorem merge_merge (stack : Stack) (snapshot : Snapshot) :
    (stack.merge snapshot).merge snapshot = stack.merge snapshot := by
  have hcards : snapshot.cards.foldl stack.writeCard
      (snapshot.cards.foldl stack.writeCard stack.cards) =
      snapshot.cards.foldl stack.writeCard stack.cards :=
    foldl_writeRow_foldl_writeRow (fun cards one ↦ stack.cardPlace?_writeCard cards one)
      (fun saved card ↦ card.foldl_merge_foldl_merge saved) snapshot.cards stack.cards
  rw [merge_eq_foldl_writeCard (stack.merge snapshot), mergeProperties_merge]
  rw [merge_eq_foldl_writeCard stack]
  exact congrArg (fun cards ↦ { stack.mergeProperties snapshot with cards := cards }) hcards

end Stack

/-! ### Saved fields as rows -/

/-- The saved fields of all saved cards in order, each with the id of its card. -/
def Snapshot.fieldRows (snapshot : Snapshot) : List (Int × FieldSnapshot) :=
  snapshot.cards.flatMap fun card ↦ card.fields.map fun field ↦ (card.id, field)

theorem Snapshot.filter_fieldRows (snapshot : Snapshot) (ofCard : Int → Bool)
    (ofField : FieldSnapshot → Bool) :
    (snapshot.fieldRows.filter fun row ↦ ofCard row.1 && ofField row.2).map (·.2) =
      ((snapshot.cards.filter fun card ↦ ofCard card.id).flatMap (·.fields)).filter ofField := by
  unfold fieldRows
  induction snapshot.cards with
  | nil => rfl
  | cons card rest ih =>
    have hfirst : ((card.fields.map fun field ↦ (card.id, field)).filter fun row ↦
        ofCard row.1 && ofField row.2).map (·.2) =
        if ofCard card.id then card.fields.filter ofField else [] := by
      rw [List.filter_map, List.map_map]
      cases hcard : ofCard card.id <;> simp [Function.comp_def, hcard]
    rw [List.flatMap_cons, List.filter_append, List.map_append, ih, hfirst, List.filter_cons]
    cases ofCard card.id <;> simp

/-! ### The whole merge -/

/-- What the pointer to a field becomes on a card when a name is restored: the name of the first
field that has it whatever the letter case. No name and the empty one are those of no field; then
the pointer goes to the first field, if the card has any. -/
inductive Card.Repoints (card : Card) (saved? : Option String) : Option String → Prop
  | named (name : String) (place : Nat) (field : TextField) (hsaved : saved? = some name)
      (hname : name ≠ "")
      (hfirst : IsFirst (fun field ↦ caseFold field.name = caseFold name) card.fields place)
      (hfield : card.fields[place]? = some field) :
    Repoints card saved? (some field.name)
  | first (hnone : ∀ name, saved? = some name → name ≠ "" →
      ∀ field ∈ card.fields, caseFold field.name ≠ caseFold name) :
    Repoints card saved? (card.fields.head?.map (·.name))

theorem Card.repoints_restoredFieldName? (card : Card) (saved? : Option String) :
    card.Repoints saved? (card.restoredFieldName? saved?) := by
  unfold restoredFieldName?
  cases hnamed : saved?.bind fun name ↦ if name.isEmpty then none else card.findField? name with
  | none =>
    refine .first fun name hsaved hname field hfield hsame ↦ ?_
    have hnone : card.findField? name = none := by
      simpa [hsaved, hname] using hnamed
    exact List.find?_eq_none.mp hnone field hfield (sameName_iff.mpr hsame)
  | some field =>
    obtain ⟨name, hsaved, hfound⟩ := Option.bind_eq_some_iff.mp hnamed
    split_ifs at hfound with hempty
    obtain ⟨place, hplace, hfield⟩ := Option.bind_eq_some_iff.mp
      (List.find?_eq_bind_findIdx?_getElem?.symm.trans hfound)
    refine .named name place field hsaved (by simpa using hempty) ?_ hfield
    simpa only [sameName_iff] using findIdx?_eq_some_iff_isFirst.mp hplace

namespace Desk

variable {desk : Desk} {card : Card}

/-- All that merging a snapshot does to a desk. A saved card is meant for the first card with its
id, a saved field on it for the last field there with its id. -/
structure Overwritten (before : Desk) (snapshot : Snapshot) (after : Desk) : Prop where
  fieldTexts : ∀ (place fieldPlace : Nat) (card : Card) (field : TextField),
    before.stack.cards[place]? = some card → card.fields[fieldPlace]? = some field →
    ∃ written found, after.stack.cards[place]? = some written ∧
      written.fields[fieldPlace]? = some found ∧
      LastWrites (fun row : Int × FieldSnapshot ↦ IsFirst (·.id = row.1) before.stack.cards place ∧
        IsLast (·.id = row.2.id) card.fields fieldPlace) (·.2.text) field.text snapshot.fieldRows
        found.text
  cardNames : ∀ (place : Nat) (card : Card), before.stack.cards[place]? = some card →
    ∃ written, after.stack.cards[place]? = some written ∧
      LastWrites (fun saved : CardSnapshot ↦ IsFirst (·.id = saved.id) before.stack.cards place)
        (·.name) card.name snapshot.cards written.name
  userLevel : after.stack.userLevel = if 1 ≤ snapshot.userLevel ∧ snapshot.userLevel ≤ 5 then
    snapshot.userLevel else before.stack.userLevel
  scriptTextFont : after.stack.scriptTextFont =
    if snapshot.scriptTextFont.isAllBlank = false then snapshot.scriptTextFont
    else before.stack.scriptTextFont
  scriptTextSize : after.stack.scriptTextSize = if 0 < snapshot.scriptTextSize then
    snapshot.scriptTextSize else before.stack.scriptTextSize
  currentCardIndex : after.session.currentCardIndex =
    if 0 ≤ snapshot.currentCardIndex ∧ snapshot.currentCardIndex < before.stack.cards.length then
      snapshot.currentCardIndex
    else before.session.currentCardIndex
  currentFieldName : ∃ card, after.currentCard? = some card ∧
    card.Repoints snapshot.currentFieldName after.session.currentFieldName
  stack : after.stack.unsaved = before.stack.unsaved
  session : after.session = { before.session with
    currentCardIndex := after.session.currentCardIndex
    currentFieldName := after.session.currentFieldName }

theorem lastWrites_fieldText (stack : Stack) (snapshot : Snapshot) {place fieldPlace : Nat}
    {card : Card} {field : TextField} (hcard : stack.cards[place]? = some card)
    (hfield : card.fields[fieldPlace]? = some field) :
    ∃ written found, (stack.merge snapshot).cards[place]? = some written ∧
      written.fields[fieldPlace]? = some found ∧
      LastWrites (fun row : Int × FieldSnapshot ↦ IsFirst (·.id = row.1) stack.cards place ∧
        IsLast (·.id = row.2.id) card.fields fieldPlace) (·.2.text) field.text snapshot.fieldRows
        found.text := by
  have hrows := snapshot.filter_fieldRows (fun id ↦ stack.cardPlace? id = some place)
    fun one ↦ card.lastFieldPlace? one.id = some fieldPlace
  have hwritten := stack.getElem?_cards_merge hcard snapshot
  rw [Card.foldl_merge] at hwritten
  refine ⟨_, _, hwritten, Card.getElem?_foldl_writeField hfield _, ?_⟩
  dsimp only
  rw [← hrows, List.getLast?_map, Option.map_map]
  refine lastWrites_getLast? (fun row ↦ ?_) field.text
  simp [Stack.cardPlace?_eq_some_iff, Card.lastFieldPlace?_eq_some_iff]

theorem lastWrites_cardName (stack : Stack) (snapshot : Snapshot) {place : Nat} {card : Card}
    (hcard : stack.cards[place]? = some card) :
    ∃ written, (stack.merge snapshot).cards[place]? = some written ∧
      LastWrites (fun saved : CardSnapshot ↦ IsFirst (·.id = saved.id) stack.cards place)
        (·.name) card.name snapshot.cards written.name := by
  have hwritten := stack.getElem?_cards_merge hcard snapshot
  rw [Card.foldl_merge] at hwritten
  refine ⟨_, hwritten, lastWrites_getLast? (fun saved ↦ ?_) card.name⟩
  simp [Stack.cardPlace?_eq_some_iff]

/-- Merging stands the session at a card that is there. -/
theorem exists_currentCard?_merge (hcard : desk.currentCard? = some card) (snapshot : Snapshot) :
    ∃ restored, (desk.merge snapshot).currentCard? = some restored := by
  have hskeleton := desk.stack.skeleton_merge snapshot
  show ∃ restored, (desk.stack.merge snapshot).cardAt? (if 0 ≤ snapshot.currentCardIndex ∧
    snapshot.currentCardIndex < (desk.stack.merge snapshot).cards.length then
      snapshot.currentCardIndex else desk.session.currentCardIndex) = some restored
  split_ifs with hsaved
  · exact Stack.exists_cardAt? hsaved.1 hsaved.2
  · obtain ⟨restored, hrestored, -⟩ := Stack.exists_cardAt?_eq hskeleton.symm hcard
    exact ⟨restored, hrestored⟩

theorem merge_merge (desk : Desk) (snapshot : Snapshot) :
    (desk.merge snapshot).merge snapshot = desk.merge snapshot := by
  have hstack := desk.stack.merge_merge snapshot
  unfold merge Session.merge
  dsimp only
  rw [hstack]
  split_ifs <;> rfl

/-- Assumes: a desk with a current card. Merging a snapshot overwrites exactly what the snapshot
says, and merging it again changes nothing. -/
theorem overwritten_merge (hcard : desk.currentCard? = some card) (snapshot : Snapshot) :
    desk.Overwritten snapshot (desk.merge snapshot) ∧
      (desk.merge snapshot).merge snapshot = desk.merge snapshot := by
  refine ⟨?_, desk.merge_merge snapshot⟩
  have hstack : (desk.merge snapshot).stack = desk.stack.merge snapshot := rfl
  have hlength : (desk.stack.merge snapshot).cards.length = desk.stack.cards.length :=
    Stack.length_cards_eq (desk.stack.skeleton_merge snapshot)
  have hproperties := desk.stack.merge_eq snapshot
  obtain ⟨restored, hrestored⟩ := exists_currentCard?_merge hcard snapshot
  exact {
    fieldTexts := fun _ _ _ _ ↦ lastWrites_fieldText desk.stack snapshot
    cardNames := fun _ _ ↦ lastWrites_cardName desk.stack snapshot
    userLevel := by
      rw [hstack, hproperties]
      simp only [Stack.mergeProperties, isUserLevel_iff]
    scriptTextFont := by
      rw [hstack, hproperties]
      cases hblank : snapshot.scriptTextFont.isAllBlank <;> simp [Stack.mergeProperties, hblank]
    scriptTextSize := by
      rw [hstack, hproperties]
      rfl
    currentCardIndex := by
      rw [← hlength]
      rfl
    currentFieldName := by
      have hpointer : (desk.merge snapshot).session.currentFieldName =
          (desk.merge snapshot).currentCard?.bind fun card ↦
            card.restoredFieldName? snapshot.currentFieldName := rfl
      refine ⟨restored, hrestored, ?_⟩
      rw [hpointer, hrestored, Option.bind_some]
      exact restored.repoints_restoredFieldName? _
    stack := desk.stack.unsaved_merge snapshot
    session := rfl }

/-- A desk whose two cards have one id, as have the two fields of the first. -/
def twins : Desk where
  stack := {
    name := "Twins"
    cards := [
      { id := 1
        backgroundId := 1
        fields := [{ id := 7, name := "A" }, { id := 7, name := "a" }] },
      { id := 1
        backgroundId := 1
        fields := [{ id := 7, name := "B" }] }] }

/-- A snapshot with one id on two cards and unknown ids beside it, none of whose other parts suits
the desk. -/
def twinSnapshot : Snapshot where
  userLevel := 6
  scriptTextFont := " "
  scriptTextSize := 0
  currentCardIndex := 2
  currentFieldName := some ""
  cards := [⟨1, "first", [⟨7, "x"⟩, ⟨8, "y"⟩]⟩, ⟨2, "unknown", [⟨7, "z"⟩]⟩, ⟨1, "second", []⟩]

theorem overwritten_merge_twins : ∃ card, twins.currentCard? = some card ∧
    twins.Overwritten twinSnapshot (twins.merge twinSnapshot) ∧
    (twins.merge twinSnapshot).merge twinSnapshot = twins.merge twinSnapshot ∧
    (twins.merge twinSnapshot).stack.cards.map (fun card ↦ (card.name, card.fields.map (·.text))) =
      [("second", ["", "x"]), ("", [""])] := by
  have hcard : twins.currentCard? = twins.stack.cards.head? := rfl
  obtain ⟨hoverwritten, hagain⟩ := overwritten_merge hcard twinSnapshot
  exact ⟨_, hcard, hoverwritten, hagain, by decide⟩

end Desk

end Cardfile
