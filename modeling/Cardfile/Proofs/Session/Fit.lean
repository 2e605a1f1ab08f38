import Cardfile.Proofs.Stack.Skeleton

/-!
# Sessions that fit a stack

A session fits a stack (`Session.Fits`) when it stands at one of its cards, remembers only cards of
it, names the field that its name leads to, and keeps its log, its recent cards and its recall
cursor within their bounds. The fit depends on the skeleton of the stack alone
(`Session.Fits.congr`), and every elementary change of a session keeps it.
-/

set_option autoImplicit false
set_option relaxedAutoImplicit false

namespace Cardfile

/-! ### The field pointer of a card -/

namespace Card

/-- A pointer is absent exactly on a card without fields, and any other leads to a field with
exactly that name. -/
def PointedAt (card : Card) (pointer : Option String) : Prop :=
  (pointer = none ↔ card.fields = []) ∧
    ∀ name, pointer = some name → ∃ field, card.findField? name = some field ∧ field.name = name

theorem find?_names (card : Card) (name : String) :
    (card.fields.map (·.name)).find? (fun other ↦ Text.sameName other name) =
      (card.findField? name).map (·.name) := by
  rw [List.find?_map]
  rfl

theorem pointedAt_iff_names {card : Card} {pointer : Option String} :
    card.PointedAt pointer ↔ (pointer = none ↔ card.fields.map (·.name) = []) ∧
      ∀ name, pointer = some name →
        (card.fields.map (·.name)).find? (fun other ↦ Text.sameName other name) = some name := by
  simp only [PointedAt, find?_names, List.map_eq_nil_iff, Option.map_eq_some_iff]

theorem fieldNames_skeleton (card : Card) :
    card.skeleton.fields.map (·.name) = card.fields.map (·.name) := by
  rw [skeleton, List.map_map]
  rfl

theorem fieldNames_eq {card other : Card} (h : card.skeleton = other.skeleton) :
    card.fields.map (·.name) = other.fields.map (·.name) := by
  rw [← fieldNames_skeleton, h, fieldNames_skeleton]

theorem PointedAt.congr {card other : Card} {pointer : Option String}
    (h : card.skeleton = other.skeleton) (hpointed : card.PointedAt pointer) :
    other.PointedAt pointer := by
  rw [pointedAt_iff_names] at hpointed ⊢
  rwa [← fieldNames_eq h]

/-- The first match of a name is also the first match of its own name. -/
theorem findField?_name {card : Card} {name : String} {field : TextField}
    (h : card.findField? name = some field) : card.findField? field.name = some field := by
  have hsame : Text.caseFold field.name = Text.caseFold name :=
    Text.sameName_iff.mp (by simpa using List.find?_some h)
  simpa only [findField?, Text.sameName, hsame] using h

theorem pointedAt_of_findField? {card : Card} {name : String} {field : TextField}
    (h : card.findField? name = some field) : card.PointedAt (some field.name) := by
  refine ⟨?_, ?_⟩
  · have hmem : field ∈ card.fields := List.mem_of_find?_eq_some h
    simpa using List.ne_nil_of_mem hmem
  · rintro _ ⟨⟩
    exact ⟨field, findField?_name h, rfl⟩

theorem pointedAt_firstFieldName? (card : Card) : card.PointedAt card.firstFieldName? := by
  cases hfields : card.fields with
  | nil => simp [PointedAt, firstFieldName?, hfields]
  | cons first rest =>
    have hfirst : card.findField? first.name = some first := by
      simp [findField?, hfields, Text.sameName]
    simpa [firstFieldName?, hfields] using pointedAt_of_findField? hfirst

theorem pointedAt_restoredFieldName? (card : Card) (saved : Option String) :
    card.PointedAt (card.restoredFieldName? saved) := by
  unfold restoredFieldName?
  cases hnamed : saved.bind fun name ↦ if name.isEmpty then none else card.findField? name with
  | none => simpa using card.pointedAt_firstFieldName?
  | some field =>
    obtain ⟨name, -, hname⟩ := Option.bind_eq_some_iff.mp hnamed
    split_ifs at hname
    simpa using pointedAt_of_findField? hname

end Card

namespace Session

/-! ### Recall -/

theorem recallAt_snd (session : Session) (position : Int) :
    (session.recallAt position).2 = { session with historyIndex := some position } := by
  unfold recallAt
  cases elementAt? session.commandHistory position <;> rfl

/-- Recalling a line moves the cursor and nothing else. -/
theorem exists_historyPrevious_eq (session : Session) :
    ∃ index, session.historyPrevious.2 = { session with historyIndex := index } := by
  unfold historyPrevious
  split_ifs with hempty
  · exact ⟨session.historyIndex, rfl⟩
  · cases session.historyIndex with
    | none => exact ⟨_, session.recallAt_snd _⟩
    | some position => exact ⟨_, session.recallAt_snd _⟩

theorem exists_historyNext_eq (session : Session) :
    ∃ index, session.historyNext.2 = { session with historyIndex := index } := by
  unfold historyNext
  cases session.historyIndex with
  | none => exact ⟨session.historyIndex, rfl⟩
  | some position =>
    dsimp only
    split_ifs with hlast
    · exact ⟨none, rfl⟩
    · exact ⟨_, session.recallAt_snd _⟩

/-! ### The fit -/

/-- What holds of a session on a stack as long as only operations of a desk change it. -/
structure Fits (session : Session) (stack : Stack) : Prop where
  index_nonneg : 0 ≤ session.currentCardIndex
  index_lt : session.currentCardIndex < stack.cards.length
  length_recentCards : session.recentCards.length ≤ recentCardsLimit
  recentCards_known : ∀ id ∈ session.recentCards, id ∈ stack.cards.map (·.id)
  length_messageLog : session.messageLog.length = min messageLogLimit session.eventsLogged
  historyIndex_valid : ∀ position, session.historyIndex = some position →
    0 ≤ position ∧ position < session.commandHistory.length
  pointed : ∃ card, stack.cardAt? session.currentCardIndex = some card ∧
    card.PointedAt session.currentFieldName

namespace Fits

variable {session : Session} {stack : Stack}

theorem congr {other : Stack} (h : stack.skeleton = other.skeleton) (hfits : session.Fits stack) :
    session.Fits other where
  index_nonneg := hfits.index_nonneg
  index_lt := Stack.length_cards_eq h ▸ hfits.index_lt
  length_recentCards := hfits.length_recentCards
  recentCards_known := Stack.cardIds_eq h ▸ hfits.recentCards_known
  length_messageLog := hfits.length_messageLog
  historyIndex_valid := hfits.historyIndex_valid
  pointed := by
    obtain ⟨card, hcard, hpointed⟩ := hfits.pointed
    obtain ⟨found, hfound, hskeleton⟩ := Stack.exists_cardAt?_eq h hcard
    exact ⟨found, hfound, hpointed.congr hskeleton.symm⟩

theorem log (hfits : session.Fits stack) (kind : EventKind) (detail : String) :
    (session.log kind detail).Fits stack := by
  refine { hfits with length_messageLog := ?_ }
  have hlength := hfits.length_messageLog
  simp only [Session.log, lastOf, List.length_drop, List.length_append, List.length_singleton]
  omega

theorem setVars (hfits : session.Fits stack) (vars : Variables) :
    { session with vars := vars }.Fits stack :=
  { hfits with }

theorem selectTool (hfits : session.Fits stack) (tool : Tool) :
    { session with selectedTool := tool }.Fits stack :=
  { hfits with }

theorem setEditing (hfits : session.Fits stack) (id? : Option Int) :
    { session with editingFieldId := id? }.Fits stack :=
  { hfits with }

theorem rememberCommand (hfits : session.Fits stack) (line : String) :
    (session.rememberCommand line).Fits stack :=
  { hfits with historyIndex_valid := by simp [Session.rememberCommand] }

/-- The cursor may be set to any remembered line. -/
theorem setHistoryIndex (hfits : session.Fits stack) {position : Int} (hnonneg : 0 ≤ position)
    (hlt : position < session.commandHistory.length) :
    { session with historyIndex := some position }.Fits stack :=
  { hfits with
    historyIndex_valid := by
      rintro _ ⟨⟩
      exact ⟨hnonneg, hlt⟩ }

theorem historyPrevious (hfits : session.Fits stack) : session.historyPrevious.2.Fits stack := by
  unfold Session.historyPrevious
  split_ifs with hempty
  · exact hfits
  · have hlength : 0 < session.commandHistory.length := by
      rw [List.isEmpty_iff] at hempty
      exact List.length_pos_iff.mpr hempty
    cases hindex : session.historyIndex with
    | none =>
      simp only [recallAt_snd]
      exact hfits.setHistoryIndex (by omega) (by omega)
    | some position =>
      obtain ⟨hnonneg, hlt⟩ := hfits.historyIndex_valid position hindex
      simp only [recallAt_snd]
      split_ifs with hpositive
      · exact hfits.setHistoryIndex (by omega) (by omega)
      · exact hfits.setHistoryIndex hnonneg hlt

theorem historyNext (hfits : session.Fits stack) : session.historyNext.2.Fits stack := by
  unfold Session.historyNext
  cases hindex : session.historyIndex with
  | none => exact hfits
  | some position =>
    obtain ⟨hnonneg, hlt⟩ := hfits.historyIndex_valid position hindex
    dsimp only
    split_ifs with hlast
    · exact { hfits with historyIndex_valid := by simp }
    · rw [recallAt_snd]
      exact hfits.setHistoryIndex (by omega) (by omega)

theorem popRecent (hfits : session.Fits stack) : session.popRecent.2.Fits stack := by
  unfold Session.popRecent
  cases hrecent : session.recentCards with
  | nil => exact hfits
  | cons id rest =>
    have hlength := hfits.length_recentCards
    have hknown := hfits.recentCards_known
    rw [hrecent] at hlength hknown
    exact { hfits with
      length_recentCards := Nat.le_of_succ_le hlength
      recentCards_known := fun other hother ↦ hknown other (List.mem_cons_of_mem _ hother) }

theorem pushRecent (hfits : session.Fits stack) {card : Card} (hcard : card ∈ stack.cards) :
    (session.pushRecent card.id).Fits stack := by
  refine { hfits with length_recentCards := ?_, recentCards_known := ?_ }
  · exact List.length_take_le ..
  · intro id hid
    rcases List.mem_cons.mp (List.mem_of_mem_take hid) with rfl | hold
    · exact List.mem_map_of_mem hcard
    · exact hfits.recentCards_known id hold

theorem standAt (hfits : session.Fits stack) {position : Int} {card : Card}
    {pointer : Option String} (hnonneg : 0 ≤ position) (hlt : position < stack.cards.length)
    (hcard : stack.cardAt? position = some card) (hpointed : card.PointedAt pointer) :
    { session with currentCardIndex := position, currentFieldName := pointer }.Fits stack :=
  { hfits with index_nonneg := hnonneg, index_lt := hlt, pointed := ⟨card, hcard, hpointed⟩ }

theorem merge (hfits : session.Fits stack) (snapshot : Snapshot) :
    (session.merge stack snapshot).Fits stack := by
  have hposition : ∀ position : Int, 0 ≤ position → position < stack.cards.length →
      { session with
        currentCardIndex := position
        currentFieldName := (stack.cardAt? position).bind fun card ↦
          card.restoredFieldName? snapshot.currentFieldName }.Fits stack := by
    intro position hnonneg hlt
    obtain ⟨card, hcard⟩ := Stack.exists_cardAt? hnonneg hlt
    rw [hcard]
    exact hfits.standAt hnonneg hlt hcard (card.pointedAt_restoredFieldName? _)
  unfold Session.merge
  dsimp only
  split_ifs with hsaved
  · exact hposition _ hsaved.1 hsaved.2
  · exact hposition _ hfits.index_nonneg hfits.index_lt

end Fits

end Session

end Cardfile
