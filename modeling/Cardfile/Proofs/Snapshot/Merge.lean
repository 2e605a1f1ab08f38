import Cardfile.Proofs.Stack.Skeleton
import Mathlib.Data.List.Nodup

/-!
# Merging a snapshot

Merging a snapshot leaves alone what a snapshot does not keep (`Stack.unsaved_merge`), the skeleton
among it. It writes saved cards, and for each of them saved fields, to the places where their
ids are found (`writeRow`). Rows with pairwise distinct keys are found where they stand, so writing
a row for each of them in order pairs the rows with what is written (`foldl_writeRow`). A card
merged with the snapshot of a card of the same skeleton therefore becomes that card, but for the
scripts of its buttons (`Card.merge_snapshot`), and so does each card of a stack
(`Stack.merge_snapshots`).
-/

set_option autoImplicit false
set_option relaxedAutoImplicit false

namespace Cardfile

/-! ### What a merge leaves alone -/

/-- A card without what a snapshot keeps of it. -/
def Card.unsaved (card : Card) : Card :=
  { card with name := "", fields := card.fields.map TextField.skeleton }

/-- A stack without what a snapshot keeps of it. -/
def Stack.unsaved (stack : Stack) : Stack :=
  { stack with
    userLevel := 0
    scriptTextFont := ""
    scriptTextSize := 0
    cards := stack.cards.map Card.unsaved }

namespace Card

theorem unsaved_mergeField (card : Card) (saved : FieldSnapshot) :
    (card.mergeField saved).unsaved = card.unsaved := by
  have hfield (field : TextField) :
      TextField.skeleton { field with text := saved.text } = field.skeleton := rfl
  unfold mergeField
  split
  · simp only [unsaved, writeText, map_modify_of_eq hfield]
  · rfl

theorem unsaved_merge (card : Card) (saved : CardSnapshot) :
    (card.merge saved).unsaved = card.unsaved := by
  have hfields : ∀ (fields : List FieldSnapshot) (written : Card),
      (fields.foldl mergeField written).unsaved = written.unsaved := by
    intro fields
    induction fields with
    | nil => exact fun written ↦ rfl
    | cons field rest ih =>
      intro written
      exact (ih _).trans (unsaved_mergeField written field)
  exact hfields saved.fields _

theorem skeleton_unsaved (card : Card) : card.unsaved.skeleton = card.skeleton := by
  have hfield (field : TextField) : field.skeleton.skeleton = field.skeleton := rfl
  simp [skeleton, unsaved, hfield]

theorem skeleton_merge (card : Card) (saved : CardSnapshot) :
    (card.merge saved).skeleton = card.skeleton := by
  rw [← skeleton_unsaved, unsaved_merge, skeleton_unsaved]

end Card

namespace Stack

theorem unsaved_mergeCard (stack : Stack) (saved : CardSnapshot) :
    (stack.mergeCard saved).unsaved = stack.unsaved := by
  have hcard (card : Card) : (card.merge saved).unsaved = card.unsaved := card.unsaved_merge saved
  unfold mergeCard
  split
  · simp only [unsaved, modifyCard, map_modify_of_eq hcard]
  · rfl

theorem unsaved_foldl_mergeCard (saved : List CardSnapshot) (stack : Stack) :
    (saved.foldl mergeCard stack).unsaved = stack.unsaved := by
  induction saved generalizing stack with
  | nil => rfl
  | cons card rest ih => exact (ih _).trans (unsaved_mergeCard stack card)

theorem unsaved_merge (stack : Stack) (snapshot : Snapshot) :
    (stack.merge snapshot).unsaved = stack.unsaved :=
  unsaved_foldl_mergeCard snapshot.cards (stack.mergeProperties snapshot)

theorem skeleton_unsaved (stack : Stack) : stack.unsaved.skeleton = stack.skeleton := by
  simp [skeleton, unsaved, Card.skeleton_unsaved]

theorem skeleton_merge (stack : Stack) (snapshot : Snapshot) :
    (stack.merge snapshot).skeleton = stack.skeleton := by
  rw [← skeleton_unsaved, unsaved_merge, skeleton_unsaved]

end Stack

/-! ### Rows with keys -/

section Rows

variable {Row Saved Rest : Type}

/-- The rows with one of them changed as saved, if its key is found. -/
def writeRow (place? : List Row → Int → Option Nat) (key : Saved → Int) (write : Row → Saved → Row)
    (rows : List Row) (saved : Saved) : List Row :=
  match place? rows (key saved) with
  | some place => rows.modify place fun row ↦ write row saved
  | none => rows

theorem modify_append_cons (front back : List Row) (row : Row) (change : Row → Row) :
    (front ++ row :: back).modify front.length change = front ++ change row :: back := by
  induction front with
  | nil => rfl
  | cons first rest ih => simp [ih]

variable {place? : List Row → Int → Option Nat} {rowKey : Row → Int} {key : Saved → Int}
  {write : Row → Saved → Row}

/-- Assumes: a search that finds a row among rows with distinct keys, and writing that keeps the
key of a row. Rows with pairwise distinct keys, written in order under the same keys, are paired
with what is written. The rows before them stay. -/
theorem foldl_writeRow
    (hplace : ∀ front row back, ((front ++ row :: back).map rowKey).Nodup →
      place? (front ++ row :: back) (rowKey row) = some front.length)
    (hwrite : ∀ row saved, rowKey (write row saved) = rowKey row) {rows : List Row}
    {saved : List Saved} (hkeys : saved.map key = rows.map rowKey) (written : List Row)
    (hnodup : ((written ++ rows).map rowKey).Nodup) :
    saved.foldl (writeRow place? key write) (written ++ rows) =
      written ++ (rows.zip saved).map fun pair ↦ write pair.1 pair.2 := by
  induction rows generalizing saved written with
  | nil =>
    obtain rfl : saved = [] := by simpa using hkeys
    rfl
  | cons row rest ih =>
    -- The row is found where it stands, and then it is one of those before the rest.
    obtain ⟨first, later, rfl, hkey, hlater⟩ := List.map_eq_cons_iff.mp hkeys
    have hfirst : writeRow place? key write (written ++ row :: rest) first =
        written ++ write row first :: rest := by
      rw [writeRow, hkey, hplace written row rest hnodup]
      exact modify_append_cons written rest row fun row ↦ write row first
    have hnodup' : ((written ++ [write row first] ++ rest).map rowKey).Nodup := by
      simpa [hwrite] using hnodup
    rw [List.foldl_cons, hfirst, List.append_cons, ih hlater _ hnodup']
    simp

/-- Rows written as the snapshots of other rows with the same distinct keys. -/
theorem foldl_writeRow_map
    (hplace : ∀ front row back, ((front ++ row :: back).map rowKey).Nodup →
      place? (front ++ row :: back) (rowKey row) = some front.length)
    (hwrite : ∀ row saved, rowKey (write row saved) = rowKey row) {save : Row → Saved}
    (hsave : ∀ row, key (save row) = rowKey row) {rows others : List Row}
    (hkeys : rows.map rowKey = others.map rowKey) (hnodup : (rows.map rowKey).Nodup) :
    (others.map save).foldl (writeRow place? key write) rows =
      (rows.zip others).map fun pair ↦ write pair.1 (save pair.2) := by
  have hsaved : (others.map save).map key = rows.map rowKey := by
    rw [hkeys, List.map_map]
    exact List.map_congr_left fun row _ ↦ hsave row
  have hwritten := foldl_writeRow hplace hwrite hsaved [] hnodup
  rw [List.nil_append, List.nil_append, List.zip_map_right, List.map_map] at hwritten
  exact hwritten

theorem eq_of_mem_zip {read : Row → Rest} {rows others : List Row}
    (h : rows.map read = others.map read) {pair : Row × Row} (hpair : pair ∈ rows.zip others) :
    read pair.1 = read pair.2 := by
  obtain ⟨place, hplace, rfl⟩ := List.mem_iff_getElem.mp hpair
  have hlength := List.length_zip ▸ hplace
  have hread := congrArg (·[place]?) h
  rw [List.getElem_zip]
  simpa [Nat.lt_of_lt_of_le hlength (Nat.min_le_left ..),
    Nat.lt_of_lt_of_le hlength (Nat.min_le_right ..)] using hread

end Rows

/-- The first row with a key is the only one among rows with distinct keys. -/
theorem findIdx?_eq_length {Row : Type} {rowKey : Row → Int} {front back : List Row} {row : Row}
    (hnodup : ((front ++ row :: back).map rowKey).Nodup) :
    (front ++ row :: back).findIdx? (fun other ↦ rowKey other == rowKey row) =
      some front.length := by
  have hfront : front.findIdx? (fun other ↦ rowKey other == rowKey row) = none := by
    rw [List.findIdx?_eq_none_iff]
    intro other hother
    rw [List.map_append, List.nodup_append] at hnodup
    have hne : rowKey other ≠ rowKey row :=
      hnodup.2.2 _ (List.mem_map_of_mem hother) _ (by simp)
    simpa using hne
  simp [List.findIdx?_append, hfront, List.findIdx?_cons]

/-! ### Merging a card -/

def TextField.merge (field : TextField) (saved : FieldSnapshot) : TextField :=
  { field with text := saved.text }

theorem TextField.merge_snapshot {field other : TextField} (h : field.skeleton = other.skeleton) :
    field.merge other.snapshot = other := by
  obtain ⟨id, name, text, textFont, textSize, lockText⟩ := field
  obtain ⟨id', name', text', textFont', textSize', lockText'⟩ := other
  simp only [TextField.skeleton, TextField.mk.injEq] at h
  simp [TextField.merge, TextField.snapshot, h]

namespace Card

theorem lastFieldPlace?_eq_length {card : Card} {front back : List TextField} {field : TextField}
    (hfields : card.fields = front ++ field :: back) (hnodup : (card.fields.map (·.id)).Nodup) :
    card.lastFieldPlace? field.id = some front.length := by
  have hreverse : card.fields.reverse = back.reverse ++ field :: front.reverse := by
    simp [hfields]
  have hnodup' : ((back.reverse ++ field :: front.reverse).map (·.id)).Nodup := by
    rw [← hreverse, List.map_reverse]
    exact List.nodup_reverse.mpr hnodup
  rw [lastFieldPlace?, hreverse, findIdx?_eq_length hnodup', hfields]
  simp

/-- The fields of a card with one of them written as saved. -/
def writeField (card : Card) : List TextField → FieldSnapshot → List TextField :=
  writeRow (fun fields ↦ { card with fields := fields }.lastFieldPlace?) (·.id) TextField.merge

theorem foldl_mergeField_eq (card : Card) (saved : List FieldSnapshot) :
    saved.foldl mergeField card = { card with fields := saved.foldl card.writeField card.fields } :=
  List.foldl_hom (fun fields ↦ { card with fields := fields }) fun fields field ↦ by
    rw [mergeField, writeField, writeRow]
    cases { card with fields := fields }.lastFieldPlace? field.id <;> rfl

theorem foldl_writeField (card : Card) {fields others : List TextField}
    (hids : fields.map (·.id) = others.map (·.id)) (hnodup : (fields.map (·.id)).Nodup) :
    (others.map TextField.snapshot).foldl card.writeField fields =
      (fields.zip others).map fun pair ↦ pair.1.merge pair.2.snapshot := by
  have hplace : ∀ front field back, ((front ++ field :: back).map (·.id)).Nodup →
      { card with fields := front ++ field :: back }.lastFieldPlace? field.id =
        some front.length :=
    fun _ _ _ hnodup ↦ lastFieldPlace?_eq_length rfl hnodup
  unfold writeField
  refine foldl_writeRow_map ?_ ?_ ?_ hids hnodup
  · exact hplace
  · exact fun _ _ ↦ rfl
  · exact fun _ ↦ rfl

theorem merge_id (card : Card) (saved : CardSnapshot) : (card.merge saved).id = card.id :=
  congrArg (·.id) (card.skeleton_merge saved)

/-- Assumes: a card with the skeleton of another one, whose fields have pairwise distinct ids.
Merged with the snapshot of the other one it becomes that one, but for its button scripts. -/
theorem merge_snapshot {card other : Card} (hskeleton : card.skeleton = other.skeleton)
    (hnodup : (card.fields.map (·.id)).Nodup) :
    card.merge other.snapshot = { other with buttons := card.buttons } := by
  have hids := fieldIds_eq hskeleton
  have hfields : card.fields.map TextField.skeleton = other.fields.map TextField.skeleton :=
    congrArg Card.fields hskeleton
  have hlength : other.fields.length ≤ card.fields.length := by
    simpa using Nat.le_of_eq (congrArg List.length hfields.symm)
  have hwritten : (other.fields.map TextField.snapshot).foldl
      (writeField { card with name := other.name }) card.fields = other.fields := by
    rw [foldl_writeField _ hids hnodup]
    calc (card.fields.zip other.fields).map (fun pair ↦ pair.1.merge pair.2.snapshot)
        = (card.fields.zip other.fields).map Prod.snd :=
          List.map_congr_left fun pair hpair ↦
            TextField.merge_snapshot (eq_of_mem_zip hfields hpair)
      _ = other.fields := List.map_snd_zip hlength
  rw [merge, foldl_mergeField_eq]
  obtain ⟨id, name, backgroundId, rect, fields, buttons⟩ := card
  obtain ⟨id', name', backgroundId', rect', fields', buttons'⟩ := other
  simp only [skeleton, Card.mk.injEq] at hskeleton
  obtain ⟨rfl, -, rfl, rfl, -, -⟩ := hskeleton
  simpa [snapshot] using hwritten

end Card

/-! ### Merging a stack -/

namespace Stack

/-- The cards of a stack with one of them merged as saved. -/
def writeCard (stack : Stack) : List Card → CardSnapshot → List Card :=
  writeRow (fun cards ↦ { stack with cards := cards }.cardPlace?) (·.id) Card.merge

theorem foldl_mergeCard_eq (stack : Stack) (saved : List CardSnapshot) :
    saved.foldl mergeCard stack = { stack with cards := saved.foldl stack.writeCard stack.cards } :=
  List.foldl_hom (fun cards ↦ { stack with cards := cards }) fun cards card ↦ by
    rw [mergeCard, writeCard, writeRow]
    cases { stack with cards := cards }.cardPlace? card.id <;> rfl

/-- Merging changes the cards and the saved properties alone. -/
theorem merge_eq (stack : Stack) (snapshot : Snapshot) :
    stack.merge snapshot =
      { stack.mergeProperties snapshot with cards := (stack.merge snapshot).cards } := by
  rw [merge, foldl_mergeCard_eq]

/-- Assumes: a stack with the skeleton of another one, whose cards have pairwise distinct ids, as
have the fields of each card. Each card merged with the snapshot of the other stack's one becomes
that one, but for its button scripts. -/
theorem merge_snapshots {stack other : Stack} (hskeleton : stack.skeleton = other.skeleton)
    (hcards : (stack.cards.map (·.id)).Nodup)
    (hfields : ∀ card ∈ stack.cards, (card.fields.map (·.id)).Nodup) {snapshot : Snapshot}
    (hsaved : snapshot.cards = other.cards.map Card.snapshot) :
    stack.merge snapshot = { stack.mergeProperties snapshot with
      cards := (stack.cards.zip other.cards).map fun pair ↦
        { pair.2 with buttons := pair.1.buttons } } := by
  have hskeletons : stack.cards.map Card.skeleton = other.cards.map Card.skeleton :=
    congrArg Stack.cards hskeleton
  have hplace : ∀ front card back, ((front ++ card :: back).map (·.id)).Nodup →
      { stack.mergeProperties snapshot with cards := front ++ card :: back }.cardPlace? card.id =
        some front.length :=
    fun _ _ _ hnodup ↦ findIdx?_eq_length hnodup
  have hwritten : (other.cards.map Card.snapshot).foldl
      (writeCard (stack.mergeProperties snapshot)) stack.cards =
      (stack.cards.zip other.cards).map fun pair ↦ { pair.2 with buttons := pair.1.buttons } :=
    calc (other.cards.map Card.snapshot).foldl
          (writeCard (stack.mergeProperties snapshot)) stack.cards
        = (stack.cards.zip other.cards).map fun pair ↦ pair.1.merge pair.2.snapshot := by
          unfold writeCard
          refine foldl_writeRow_map ?_ Card.merge_id (fun _ ↦ rfl) (cardIds_eq hskeleton) hcards
          exact hplace
      _ = (stack.cards.zip other.cards).map fun pair ↦ { pair.2 with buttons := pair.1.buttons } :=
          List.map_congr_left fun pair hpair ↦ Card.merge_snapshot (eq_of_mem_zip hskeletons hpair)
            (hfields pair.1 (List.of_mem_zip hpair).1)
  rw [merge, foldl_mergeCard_eq, hsaved]
  exact congrArg (fun cards ↦ { stack.mergeProperties snapshot with cards := cards }) hwritten

end Stack

end Cardfile
