import Cardfile.Proofs.Desk.Run

/-!
# Restoring what was saved

A snapshot keeps the level, font and size of a stack, the names of its cards and the texts of its
fields (`Stack.SavedAlike`), and leaves out the rest (`Stack.unsaved`). The snapshot of a desk that
operations led to from a fresh one, merged into another fresh desk on the same stack, restores
exactly what it keeps (`Desk.isRestored_run`): every part that a merge might skip suits the stack,
or is still the one that the fresh desk has (`Desk.merge_snapshot`).
-/

set_option autoImplicit false
set_option relaxedAutoImplicit false

namespace Cardfile

/-! ### What a snapshot keeps and what it leaves out -/

/-- Two stacks that agree on all that a snapshot keeps of a stack. -/
structure Stack.SavedAlike (stack other : Stack) : Prop where
  userLevel : stack.userLevel = other.userLevel
  scriptTextFont : stack.scriptTextFont = other.scriptTextFont
  scriptTextSize : stack.scriptTextSize = other.scriptTextSize
  cardNames : stack.cards.map (·.name) = other.cards.map (·.name)
  fieldTexts : stack.cards.map (fun card ↦ card.fields.map (·.text)) =
    other.cards.map fun card ↦ card.fields.map (·.text)

theorem Desk.savedAlike_of_snapshot_eq {desk other : Desk} (h : desk.snapshot = other.snapshot) :
    desk.stack.SavedAlike other.stack where
  userLevel := congrArg Snapshot.userLevel h
  scriptTextFont := congrArg Snapshot.scriptTextFont h
  scriptTextSize := congrArg Snapshot.scriptTextSize h
  cardNames := by
    simpa [snapshot, Card.snapshot, Function.comp_def] using
      congrArg (fun saved : Snapshot ↦ saved.cards.map (·.name)) h
  fieldTexts := by
    simpa [snapshot, Card.snapshot, TextField.snapshot, Function.comp_def] using
      congrArg (fun saved : Snapshot ↦ saved.cards.map fun card ↦ card.fields.map (·.text)) h

/-- A stack with what a snapshot keeps of another one. -/
def Stack.overlaid (stack other : Stack) : Stack :=
  { stack with
    userLevel := other.userLevel
    scriptTextFont := other.scriptTextFont
    scriptTextSize := other.scriptTextSize
    cards := (stack.cards.zip other.cards).map fun pair ↦
      { pair.2 with buttons := pair.1.buttons } }

namespace Stack

variable {stack other : Stack}

theorem map_cards_overlaid {α : Type} {read : Card → α}
    (hskeleton : stack.skeleton = other.skeleton)
    (hread : ∀ card buttons, read { card with buttons := buttons } = read card) :
    (stack.overlaid other).cards.map read = other.cards.map read := by
  have hlength : other.cards.length ≤ stack.cards.length :=
    Nat.le_of_eq (length_cards_eq hskeleton.symm)
  calc (stack.overlaid other).cards.map read
      = (stack.cards.zip other.cards).map (fun pair ↦ read pair.2) := by
        rw [overlaid, List.map_map]
        exact List.map_congr_left fun pair _ ↦ hread pair.2 pair.1.buttons
    _ = ((stack.cards.zip other.cards).map Prod.snd).map read := (List.map_map ..).symm
    _ = other.cards.map read := by rw [List.map_snd_zip hlength]

theorem savedAlike_overlaid (hskeleton : stack.skeleton = other.skeleton) :
    (stack.overlaid other).SavedAlike other where
  userLevel := rfl
  scriptTextFont := rfl
  scriptTextSize := rfl
  cardNames := map_cards_overlaid hskeleton fun _ _ ↦ rfl
  fieldTexts := map_cards_overlaid hskeleton fun _ _ ↦ rfl

/-- The cards at one position hold the same fields. -/
theorem cardAt?_overlaid (hskeleton : stack.skeleton = other.skeleton) {position : Int}
    {card : Card} (hcard : other.cardAt? position = some card) :
    ∃ found, (stack.overlaid other).cardAt? position = some found ∧ found.fields = card.fields := by
  have hfields := (stack.overlaid other).cardAt?_map Card.fields position
  rw [map_cards_overlaid hskeleton fun _ _ ↦ rfl, ← cardAt?_map, hcard] at hfields
  exact Option.map_eq_some_iff.mp hfields

theorem unsaved_overlaid (hskeleton : stack.skeleton = other.skeleton) :
    (stack.overlaid other).unsaved = stack.unsaved := by
  have hskeletons : stack.cards.map Card.skeleton = other.cards.map Card.skeleton :=
    congrArg Stack.cards hskeleton
  have hcard : ∀ card found : Card, card.skeleton = found.skeleton →
      { found with buttons := card.buttons }.unsaved = card.unsaved := by
    intro card found h
    obtain ⟨id, name, backgroundId, rect, fields, buttons⟩ := card
    obtain ⟨id', name', backgroundId', rect', fields', buttons'⟩ := found
    simp only [Card.skeleton, Card.mk.injEq] at h
    obtain ⟨rfl, -, rfl, rfl, hfields, -⟩ := h
    simp [Card.unsaved, hfields]
  have hlength : stack.cards.length ≤ other.cards.length :=
    Nat.le_of_eq (length_cards_eq hskeleton)
  have hcards : (stack.overlaid other).cards.map Card.unsaved = stack.cards.map Card.unsaved :=
    calc (stack.overlaid other).cards.map Card.unsaved
        = (stack.cards.zip other.cards).map (fun pair ↦ pair.1.unsaved) := by
          rw [overlaid, List.map_map]
          exact List.map_congr_left fun pair hpair ↦ hcard _ _ (eq_of_mem_zip hskeletons hpair)
      _ = ((stack.cards.zip other.cards).map Prod.fst).map Card.unsaved := by
          rw [List.map_map]
          rfl
      _ = stack.cards.map Card.unsaved := by rw [List.map_fst_zip hlength]
  rw [unsaved, hcards]
  rfl

end Stack

/-! ### The current field -/

namespace Card

/-- The field of a card that a pointer stands for. -/
def standing? (card : Card) (pointer : Option String) : Option TextField :=
  (pointer.bind fun name ↦ if name.isEmpty then none else card.findField? name) <|>
    card.fields.head?

theorem restoredFieldName?_eq {card : Card} {name : String} (hname : name ≠ "")
    (hpointed : card.PointedAt (some name)) : card.restoredFieldName? (some name) = some name := by
  obtain ⟨field, hfield, rfl⟩ := hpointed.2 name rfl
  simp [restoredFieldName?, hname, hfield]

theorem restoredFieldName?_congr {card other : Card} (h : card.fields = other.fields)
    (pointer : Option String) :
    card.restoredFieldName? pointer = other.restoredFieldName? pointer := by
  simp only [restoredFieldName?, findField?, firstFieldName?, h]

theorem standing?_congr {card other : Card} (h : card.fields = other.fields)
    (pointer : Option String) : card.standing? pointer = other.standing? pointer := by
  simp only [standing?, findField?, h]

theorem standing?_firstFieldName? (card : Card) :
    card.standing? card.firstFieldName? = card.fields.head? := by
  cases hfields : card.fields with
  | nil => simp [standing?, firstFieldName?, hfields]
  | cons first rest =>
    have hfirst : card.findField? first.name = some first := by
      simp [findField?, hfields, Text.sameName]
    by_cases hname : first.name = ""
    · simp [standing?, firstFieldName?, hfields, hname]
    · simp [standing?, firstFieldName?, hfields, hname, hfirst]

/-- An empty name is not restored, but it stands for the first field as no name does. -/
theorem standing?_restoredFieldName? {card : Card} {pointer : Option String}
    (hpointed : card.PointedAt pointer) :
    card.standing? (card.restoredFieldName? pointer) = card.standing? pointer := by
  cases pointer with
  | none => exact card.standing?_firstFieldName?
  | some name =>
    by_cases hname : name = ""
    · subst hname
      exact card.standing?_firstFieldName?
    · rw [restoredFieldName?_eq hname hpointed]

end Card

theorem Desk.currentField?_eq {desk : Desk} {card : Card} (hcard : desk.currentCard? = some card) :
    desk.currentField? = card.standing? desk.session.currentFieldName := by
  rw [currentField?, hcard]
  rfl

/-! ### Restoring a desk -/

theorem Stack.DescendsFrom.mergeProperties_eq {stack base : Stack} (h : stack.DescendsFrom base)
    {snapshot : Snapshot} (hlevel : snapshot.userLevel = stack.userLevel)
    (hfont : snapshot.scriptTextFont = stack.scriptTextFont)
    (hsize : snapshot.scriptTextSize = stack.scriptTextSize) :
    base.mergeProperties snapshot = { base with
      userLevel := stack.userLevel
      scriptTextFont := stack.scriptTextFont
      scriptTextSize := stack.scriptTextSize } := by
  -- A part that a merge skips is still the one of the base.
  have hlevel' : (if isUserLevel stack.userLevel then stack.userLevel else base.userLevel) =
      stack.userLevel := by
    rcases h.userLevel with hsame | hsuits
    · rw [← hsame, ite_self]
    · rw [if_pos hsuits]
  have hfont' : (if stack.scriptTextFont.isAllBlank then base.scriptTextFont
      else stack.scriptTextFont) = stack.scriptTextFont := by
    rcases h.scriptTextFont with hsame | hsuits
    · rw [← hsame, ite_self]
    · rw [hsuits]
      rfl
  have hsize' : (if 0 < stack.scriptTextSize then stack.scriptTextSize
      else base.scriptTextSize) = stack.scriptTextSize := by
    rcases h.scriptTextSize with hsame | hsuits
    · rw [← hsame, ite_self]
    · rw [if_pos hsuits]
  rw [Stack.mergeProperties, hlevel, hfont, hsize, hlevel', hfont', hsize']

theorem Session.merge_eq (session : Session) {stack : Stack} (snapshot : Snapshot) {card : Card}
    (hnonneg : 0 ≤ snapshot.currentCardIndex)
    (hlt : snapshot.currentCardIndex < stack.cards.length)
    (hcard : stack.cardAt? snapshot.currentCardIndex = some card) :
    session.merge stack snapshot = { session with
      currentCardIndex := snapshot.currentCardIndex
      currentFieldName := card.restoredFieldName? snapshot.currentFieldName } := by
  simp only [merge, hnonneg, hlt, and_self, if_true, hcard, Option.bind_some]

namespace Desk

variable {base : Stack}

/-- Assumes: a fresh desk on a stack whose cards have pairwise distinct ids, as have the fields of
each card, and a desk that operations led to from it. The snapshot of that desk, merged into the
fresh one, overlays its stack, and the session stands where that desk's does. -/
theorem Reached.merge_snapshot {fresh desk : Desk} (hreached : desk.Reached base)
    (hopen : open? base = some fresh) (hcards : (base.cards.map (·.id)).Nodup)
    (hfields : ∀ card ∈ base.cards, (card.fields.map (·.id)).Nodup) {card : Card}
    (hcard : desk.currentCard? = some card) :
    fresh.merge desk.snapshot = ⟨base.overlaid desk.stack, {
      currentCardIndex := desk.session.currentCardIndex
      currentFieldName := card.restoredFieldName? desk.session.currentFieldName }⟩ := by
  obtain ⟨first, rest, -, rfl⟩ := open?_eq_some_iff.mp hopen
  have hskeleton := hreached.stack.skeleton.symm
  have hstack : base.merge desk.snapshot = base.overlaid desk.stack := by
    rw [Stack.merge_snapshots hskeleton hcards hfields rfl,
      hreached.stack.mergeProperties_eq rfl rfl rfl]
    rfl
  have hlength : (base.overlaid desk.stack).cards.length = desk.stack.cards.length := by
    simp [Stack.overlaid, Stack.length_cards_eq hskeleton]
  obtain ⟨restored, hrestored, hsame⟩ := Stack.cardAt?_overlaid hskeleton hcard
  have hsession := Session.merge_eq { currentFieldName := first.firstFieldName? } desk.snapshot
    hreached.session.index_nonneg (hlength ▸ hreached.session.index_lt) hrestored
  rw [Card.restoredFieldName?_congr hsame] at hsession
  rw [Desk.merge, hstack, hsession]
  rfl

/-- Assumes in addition: no field of the stack has an empty name. Then the session stands at the
field with the same name, too, so the restored desk has the same snapshot. -/
theorem Reached.snapshot_merge {fresh desk : Desk} (hreached : desk.Reached base)
    (hopen : open? base = some fresh) (hcards : (base.cards.map (·.id)).Nodup)
    (hfields : ∀ card ∈ base.cards, (card.fields.map (·.id)).Nodup)
    (hnames : ∀ card ∈ base.cards, ∀ name ∈ card.fields.map (·.name), name ≠ "") :
    (fresh.merge desk.snapshot).snapshot = desk.snapshot := by
  obtain ⟨card, hcard, hpointed⟩ := hreached.session.pointed
  have hskeleton := hreached.stack.skeleton.symm
  have hpointer : card.restoredFieldName? desk.session.currentFieldName =
      desk.session.currentFieldName := by
    cases hname : desk.session.currentFieldName with
    | none =>
      have hempty := hpointed.1.mp hname
      simp [Card.restoredFieldName?, Card.firstFieldName?, hempty]
    | some name =>
      rw [hname] at hpointed
      refine Card.restoredFieldName?_eq ?_ hpointed
      obtain ⟨field, hfield, rfl⟩ := hpointed.2 name rfl
      obtain ⟨original, horiginal, hsame⟩ :=
        Stack.exists_cardAt?_eq hreached.stack.skeleton hcard
      refine hnames original (Stack.mem_of_cardAt? horiginal) _ ?_
      rw [Card.fieldNames_eq hsame]
      exact List.mem_map_of_mem (List.mem_of_find?_eq_some hfield)
  have hsaved : (base.overlaid desk.stack).cards.map Card.snapshot =
      desk.stack.cards.map Card.snapshot :=
    Stack.map_cards_overlaid hskeleton fun _ _ ↦ rfl
  rw [hreached.merge_snapshot hopen hcards hfields hcard, hpointer]
  simp only [snapshot, hsaved]
  rfl

/-- A desk that agrees with another one on all that a snapshot keeps, stands at the same card and
field, and is as fresh as a given one in everything else. -/
structure IsRestored (restored reached fresh : Desk) : Prop where
  saved : restored.stack.SavedAlike reached.stack
  unsaved : restored.stack.unsaved = fresh.stack.unsaved
  currentCardIndex : restored.session.currentCardIndex = reached.session.currentCardIndex
  currentField : restored.currentField? = reached.currentField?
  session : restored.session = {
    currentCardIndex := reached.session.currentCardIndex
    currentFieldName := restored.session.currentFieldName }

theorem Reached.isRestored {fresh desk : Desk} (hreached : desk.Reached base)
    (hopen : open? base = some fresh) (hcards : (base.cards.map (·.id)).Nodup)
    (hfields : ∀ card ∈ base.cards, (card.fields.map (·.id)).Nodup) :
    (fresh.merge desk.snapshot).IsRestored desk fresh := by
  obtain ⟨card, hcard, hpointed⟩ := hreached.session.pointed
  have hskeleton := hreached.stack.skeleton.symm
  have hstack : fresh.stack = base := by
    obtain ⟨first, rest, -, rfl⟩ := open?_eq_some_iff.mp hopen
    rfl
  rw [hreached.merge_snapshot hopen hcards hfields hcard]
  refine ⟨Stack.savedAlike_overlaid hskeleton, ?_, rfl, ?_, rfl⟩
  · rw [hstack]
    exact Stack.unsaved_overlaid hskeleton
  · obtain ⟨restored, hrestored, hsame⟩ := Stack.cardAt?_overlaid hskeleton hcard
    rw [currentField?_eq hcard, ← Card.standing?_restoredFieldName? hpointed,
      ← Card.standing?_congr hsame]
    exact currentField?_eq hrestored

/-- Assumes: a stack whose cards have pairwise distinct ids, as have the fields of each card. What
a snapshot keeps of a desk that any operations led to is restored exactly in a fresh desk on the
same stack, and nothing else is changed there. -/
theorem isRestored_run {fresh : Desk} (hopen : open? base = some fresh)
    (hcards : (base.cards.map (·.id)).Nodup)
    (hfields : ∀ card ∈ base.cards, (card.fields.map (·.id)).Nodup) (operations : List Operation) :
    (fresh.merge (fresh.run operations).snapshot).IsRestored (fresh.run operations) fresh :=
  (reached_run hopen operations).isRestored hopen hcards hfields

theorem isRestored_run_starter :
    open? Stack.starter = some starter ∧ (Stack.starter.cards.map (·.id)).Nodup ∧
      (∀ card ∈ Stack.starter.cards, (card.fields.map (·.id)).Nodup) ∧
      (starter.merge (starter.run Operation.samples).snapshot).IsRestored
        (starter.run Operation.samples) starter :=
  ⟨open?_starter, by decide, by decide, isRestored_run open?_starter (by decide) (by decide) _⟩

end Desk

end Cardfile
