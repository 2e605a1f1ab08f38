import Cardfile.Proofs.Desk.LastOpening

/-!
# What direct edits write

The field that is open is remembered by its id alone and looked up again by every edit. On a stack
whose fields have pairwise distinct ids the lookup finds the field that was opened last, however the
desk has moved since (`Desk.skeleton_eq_of_lastOpening`), and that one was not locked when it was
opened. No operation locks a field, so no edit writes a locked one
(`Desk.writesOpened_of_editFieldText`).

Hence the texts of locked fields are written by commands that put and by restores only
(`Desk.lockedTexts_run`, `Desk.writesOpened_run`).
-/

set_option autoImplicit false
set_option relaxedAutoImplicit false

namespace Cardfile

/-! ### Locked texts -/

/-- The text of a field that is locked. -/
def TextField.lockedText? (field : TextField) : Option String :=
  if field.lockText then some field.text else none

/-- What the locked fields of a card hold, with nothing in the places of the others. -/
def Card.lockedTexts (card : Card) : List (Option String) :=
  card.fields.map TextField.lockedText?

namespace Stack

variable {stack adjusted : Stack}

def lockedTexts (stack : Stack) : List (List (Option String)) :=
  stack.cards.map Card.lockedTexts

/-- Writing a field that is not locked leaves the locked texts alone. -/
theorem lockedTexts_writtenAt {place fieldPlace : Nat} {card : Card} {field : TextField}
    (hcard : stack.cards[place]? = some card) (hfield : card.fields[fieldPlace]? = some field)
    (hunlocked : field.lockText = false) (text : String) :
    (stack.writtenAt (place, fieldPlace) text).lockedTexts = stack.lockedTexts := by
  refine map_modify_of_getElem? fun other hother ↦ ?_
  obtain rfl : card = other := Option.some.inj (hcard.symm.trans hother)
  refine map_modify_of_getElem? fun other hother ↦ ?_
  obtain rfl : field = other := Option.some.inj (hfield.symm.trans hother)
  simp [TextField.lockedText?, hunlocked]

theorem lockedTexts_modifyCard {change : Card → Card}
    (h : ∀ card, (change card).fields = card.fields) (stack : Stack) (place : Nat) :
    (stack.modifyCard place change).lockedTexts = stack.lockedTexts :=
  map_modify_of_eq (fun card ↦ by rw [Card.lockedTexts, h, Card.lockedTexts]) stack.cards place

theorem Adjusted.lockedTexts_eq (h : stack.Adjusted adjusted) :
    adjusted.lockedTexts = stack.lockedTexts := by
  cases h <;> rfl

end Stack

/-- Operations that may write the text of a field whether it is locked or not. -/
def Operation.PutsOrRestores : Operation → Prop
  | .execute line => ∃ expression name, Command.said line = .put expression name
  | .restore _ _ => True
  | _ => False

namespace Desk

variable {base : Stack} {start desk after : Desk} {operation : Operation}
  {operations : List Operation} {events : List Event} {field found : TextField}

/-! ### The field that an edit writes -/

theorem lockText_of_openable {name : String} (h : desk.openable name = .ok field) :
    field.lockText = false := by
  unfold openable at h
  split at h
  · cases h
  · split at h
    · cases h
    · split_ifs at h with hlocked hcant
      obtain rfl := Except.ok.inj h
      simpa using hlocked

/-- Assumes: a fresh desk on a stack whose fields have pairwise distinct ids. A field with the id of
the one that was opened last is that field, whatever its text is by now. -/
theorem skeleton_eq_of_lastOpening (hopen : open? base = some start)
    (hdistinct : base.fieldIds.Nodup) (opening : start.LastOpening operations)
    (hfound : found ∈ (start.run operations).stack.fields) (hid : found.id = opening.field.id) :
    found.skeleton = opening.field.skeleton := by
  have hbase {field : TextField} {operations : List Operation}
      (hfield : field ∈ (start.run operations).stack.fields) :
      field.skeleton ∈ base.fields.map TextField.skeleton := by
    rw [← Stack.fieldSkeletons_eq (reached_run hopen operations).stack.skeleton]
    exact List.mem_map_of_mem hfield
  obtain ⟨card, hcard, hfield⟩ := currentCard?_of_openable opening.opens.1
  have hopened : opening.field ∈ (start.run opening.before).stack.fields :=
    Stack.mem_fields (Stack.mem_of_cardAt? hcard) (List.mem_of_find?_eq_some hfield)
  have hids : ((base.fields.map TextField.skeleton).map (·.id)).Nodup := by
    simpa [Stack.fieldIds, TextField.skeleton, Function.comp_def] using hdistinct
  exact List.inj_on_of_nodup_map hids (hbase hfound) (hbase hopened) hid

/-- What an edit wrote: the text of one field of the current card, and nothing else in the stack.
The field is the one that was opened last, and it is not locked. -/
def WritesOpened (start : Desk) (operations : List Operation) (text : String) (after : Desk) :
    Prop :=
  ∃ opening : start.LastOpening operations, ∃ place fieldPlace card found,
    (start.run operations).currentPlace? = some place ∧
      (start.run operations).stack.cards[place]? = some card ∧
      card.fields[fieldPlace]? = some found ∧ found.skeleton = opening.field.skeleton ∧
      found.lockText = false ∧
      after.stack = (start.run operations).stack.writtenAt (place, fieldPlace) text

theorem WritesOpened.lockedTexts_eq {text : String} (h : start.WritesOpened operations text after) :
    after.stack.lockedTexts = (start.run operations).stack.lockedTexts := by
  obtain ⟨-, place, fieldPlace, card, found, -, hcard, hfound, -, hunlocked, hstack⟩ := h
  rw [hstack]
  exact Stack.lockedTexts_writtenAt hcard hfound hunlocked text

/-- Assumes: a fresh desk on a stack whose fields have pairwise distinct ids. What an edit writes,
if it succeeds, is the field that was opened last. -/
theorem writesOpened_of_editFieldText (hopen : open? base = some start)
    (hdistinct : base.fieldIds.Nodup) {text : String}
    (hedited : (start.run operations).editFieldText text = (.ok (), after)) :
    start.WritesOpened operations text after := by
  obtain ⟨card, hcard⟩ := exists_currentCard? (reached_run hopen operations).session
  cases hediting : (start.run operations).session.editingFieldId with
  | none => simp [editFieldText_of_closed hediting] at hedited
  | some id =>
    by_cases hmem : id ∈ card.fields.map (·.id)
    · obtain ⟨place, fieldPlace, found, hplace, hfound, hid, hok⟩ :=
        exists_editFieldText_eq_ok hcard hediting hmem text
      obtain ⟨opening, hopened⟩ := exists_lastOpening hopen hediting
      have hplaced := getElem?_of_currentPlace? hplace hcard
      have hfields : found ∈ (start.run operations).stack.fields :=
        Stack.mem_fields (Stack.mem_of_cardAt? hcard) (List.mem_of_getElem? hfound)
      have hskeleton := skeleton_eq_of_lastOpening hopen hdistinct opening hfields
        (hid.trans hopened.symm)
      have hlock : found.lockText = opening.field.lockText :=
        (congrArg TextField.lockText hskeleton :)
      have hunlocked : found.lockText = false :=
        hlock.trans (lockText_of_openable opening.opens.1)
      rw [hok] at hedited
      obtain rfl := (Prod.mk.inj hedited).2
      exact ⟨opening, place, fieldPlace, card, found, hplace, hplaced, hfound, hskeleton, hunlocked,
        rfl⟩
    · simp [editFieldText_of_gone hcard hediting hmem] at hedited

/-! ### Locked texts along runs -/

/-- What may not write the stack, and merges no snapshot, leaves it alone. -/
theorem Episode.stack_eq (h : desk.Episode operation events after)
    (hwrites : ¬ desk.MayWrite operation)
    (hrestore : ∀ settings store, operation ≠ .restore settings store) :
    after.stack = desk.stack := by
  cases h with
  | browses hbrowses =>
    cases hbrowses with
    | remains hremains => exact hremains.stack hwrites
    | moves hmoves => exact hmoves.stack
  | opens hopenable hopens => exact hopens.stack
  | closes => exact desk.stack_leaveField
  | merges settings store snapshot => exact absurd rfl (hrestore settings store)

theorem lockedTexts_editScript (desk : Desk) (buttonId : Int) (script : String) :
    (desk.editScript buttonId script).2.stack.lockedTexts = desk.stack.lockedTexts := by
  have hfields (place : Nat) (card : Card) : (card.writeScript place script).fields = card.fields :=
    rfl
  unfold editScript
  split
  · exact Stack.lockedTexts_modifyCard (hfields _) desk.stack _
  · rfl

theorem lockedTexts_renameCard (desk : Desk) (name : String) :
    (desk.renameCard name).2.stack.lockedTexts = desk.stack.lockedTexts := by
  have hfields (card : Card) : { card with name := name }.fields = card.fields := rfl
  have hrenamed (place : Nat) :
      (desk.withCardName place name).stack.lockedTexts = desk.stack.lockedTexts :=
    Stack.lockedTexts_modifyCard hfields desk.stack place
  unfold renameCard
  split
  · dsimp only
    split <;> exact hrenamed _
  · rfl

theorem lockedTexts_setUserLevel (desk : Desk) (level : Int) :
    (desk.setUserLevel level).2.stack.lockedTexts = desk.stack.lockedTexts := by
  unfold setUserLevel
  split
  · rfl
  · next stack hstack => exact (Stack.adjusted_of_setUserLevel? hstack).lockedTexts_eq

theorem lockedTexts_setProperty (desk : Desk) (name : String) (value : PropertyValue) :
    (desk.setProperty name value).2.stack.lockedTexts = desk.stack.lockedTexts := by
  unfold setProperty
  split_ifs with hlevel
  · split
    · exact desk.lockedTexts_setUserLevel _
    · rfl
  · split
    · rfl
    · rfl
    · next stack hstack => exact (Stack.adjusted_of_setProperty? hstack).lockedTexts_eq

/-- Assumes: an edit that succeeds leaves the locked texts alone. Then so does every operation that
does not put and does not restore. -/
theorem lockedTexts_operate
    (hedits : ∀ text after, desk.editFieldText text = (.ok (), after) →
      after.stack.lockedTexts = desk.stack.lockedTexts)
    (hquiet : ¬ operation.PutsOrRestores) :
    (desk.operate operation).stack.lockedTexts = desk.stack.lockedTexts := by
  have hsame (hwrites : ¬ desk.MayWrite operation) :
      (desk.operate operation).stack.lockedTexts = desk.stack.lockedTexts := by
    obtain ⟨events, hepisode⟩ := desk.exists_episode_operate operation
    have hrestore (settings : Settings) (store : Store) :
        operation ≠ .restore settings store := by
      rintro rfl
      exact hquiet trivial
    rw [hepisode.stack_eq hwrites hrestore]
  cases operation with
  | execute line => exact hsame fun hput ↦ hquiet hput.2
  | editFieldText text =>
    show (desk.editFieldText text).2.stack.lockedTexts = desk.stack.lockedTexts
    rcases desk.editFieldText_cases text with ⟨refusal, hrefused⟩ | ⟨place, name, -, hok⟩
    · rw [hrefused]
    · rw [hok]
      exact hedits text _ hok
  | editScript buttonId script => exact desk.lockedTexts_editScript buttonId script
  | renameCard name => exact desk.lockedTexts_renameCard name
  | setUserLevel level => exact desk.lockedTexts_setUserLevel level
  | setProperty name value =>
    have hoperate : desk.operate (.setProperty name value) = (desk.setProperty name value).2 := rfl
    rw [hoperate]
    exact desk.lockedTexts_setProperty name value
  | restore settings store => exact absurd trivial hquiet
  | openField | closeField | selectTool | historyPrevious | historyNext | save =>
    exact hsame not_false

theorem lockedTexts_run (hopen : open? base = some start) (hdistinct : base.fieldIds.Nodup)
    {later : List Operation} (hquiet : ∀ operation ∈ later, ¬ operation.PutsOrRestores) :
    (start.run (operations ++ later)).stack.lockedTexts =
      (start.run operations).stack.lockedTexts := by
  induction later using List.reverseRecOn with
  | nil => rw [List.append_nil]
  | append_singleton later operation ih =>
    have hlast := hquiet operation (List.mem_append_right _ (List.mem_singleton_self operation))
    have hkept : ((start.run (operations ++ later)).operate operation).stack.lockedTexts =
        (start.run (operations ++ later)).stack.lockedTexts :=
      lockedTexts_operate (fun text after hedited ↦
        (writesOpened_of_editFieldText hopen hdistinct hedited).lockedTexts_eq) hlast
    rw [← List.append_assoc, run_concat, hkept]
    exact ih fun earlier hearlier ↦ hquiet earlier (List.mem_append_left _ hearlier)

/-- Assumes: a fresh desk on a stack whose fields have pairwise distinct ids. After any operations,
an edit that succeeds writes the field that was opened last and nothing else. What locked fields
hold stays the same from there on, whatever follows, until a command puts a text or a snapshot is
restored. -/
theorem writesOpened_run (hopen : open? base = some start) (hdistinct : base.fieldIds.Nodup)
    (operations : List Operation) :
    (∀ text after, (start.run operations).editFieldText text = (.ok (), after) →
        start.WritesOpened operations text after) ∧
      ∀ later, (∀ operation ∈ later, ¬ operation.PutsOrRestores) →
        (start.run (operations ++ later)).stack.lockedTexts =
          (start.run operations).stack.lockedTexts :=
  ⟨fun _ _ ↦ writesOpened_of_editFieldText hopen hdistinct, fun _ ↦ lockedTexts_run hopen hdistinct⟩

/-- The last card of the starter stack has a locked field, and the field before it is opened. -/
def openedBesideLocked : List Operation :=
  [.execute "go last", .openField "Body"]

def editedBesideLocked : List Operation :=
  [.editFieldText "Milk", .execute "get field \"Footer\""]

theorem writesOpened_run_openedBesideLocked :
    open? Stack.starter = some starter ∧ Stack.starter.fieldIds.Nodup ∧
      (starter.run openedBesideLocked).stack.lockedTexts =
        [[none, none], [none, none], [none, none, some "Last card"]] ∧
      (∃ after, (starter.run openedBesideLocked).editFieldText "Milk" = (.ok (), after) ∧
        starter.WritesOpened openedBesideLocked "Milk" after) ∧
      (starter.run (openedBesideLocked ++ editedBesideLocked)).stack.lockedTexts =
        (starter.run openedBesideLocked).stack.lockedTexts := by
  have hdistinct : Stack.starter.fieldIds.Nodup := by decide
  obtain ⟨hwrites, hlocked⟩ := writesOpened_run open?_starter hdistinct openedBesideLocked
  have hedited : (starter.run openedBesideLocked).editFieldText "Milk" =
      (.ok (), ((starter.run openedBesideLocked).editFieldText "Milk").2) := by
    decide +kernel
  have hsaid : Command.said "get field \"Footer\"" = .get "Footer" := by decide +kernel
  have hquiet : ∀ operation ∈ editedBesideLocked, ¬ operation.PutsOrRestores := by
    simp [editedBesideLocked, Operation.PutsOrRestores, hsaid]
  exact ⟨open?_starter, hdistinct, by decide +kernel, ⟨_, hedited, hwrites _ _ hedited⟩,
    hlocked _ hquiet⟩

end Desk

end Cardfile
