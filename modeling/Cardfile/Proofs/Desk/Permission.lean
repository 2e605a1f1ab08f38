import Cardfile.Proofs.Desk.Episode

/-!
# Stacks that cannot be modified

On a desk whose stack cannot be modified no command writes a text and no field is opened, so a text
can change in one way only: by editing a field that was opened while the stack could be modified.
`Desk.keepsTexts_run` follows work on fields through a run, and `Desk.fieldWork_of_cantModify` says
what comes of it: the stack stays as it was but for the text of the field that was open at the
start, and if there was none every edit is refused.
-/

set_option autoImplicit false
set_option relaxedAutoImplicit false

namespace Cardfile

/-- Executing a line, and opening, editing or closing a field. -/
def Operation.isFieldWork : Operation → Bool
  | .execute _ | .openField _ | .editFieldText _ | .closeField => true
  | _ => false

namespace Stack

/-- The stack with a new text in a field, given by the place of its card and its place there. -/
def writtenAt (stack : Stack) (place : Nat × Nat) (text : String) : Stack :=
  stack.modifyCard place.1 fun card ↦ card.writeText place.2 text

theorem skeleton_writtenAt (stack : Stack) (place : Nat × Nat) (text : String) :
    (stack.writtenAt place text).skeleton = stack.skeleton :=
  stack.skeleton_modifyCard _ fun card ↦ card.skeleton_writeText place.2 text

theorem writtenAt_writtenAt (stack : Stack) (place : Nat × Nat) (first second : String) :
    (stack.writtenAt place first).writtenAt place second = stack.writtenAt place second := by
  unfold writtenAt modifyCard
  simp only [List.modify_modify_eq]
  congr 2
  funext card
  simp only [Function.comp_apply, Card.writeText, List.modify_modify_eq]
  rfl

end Stack

namespace Desk

variable {desk before after last : Desk}

/-! ### What stays in place -/

/-- The stack is the same, and either no field is open any more or the one that was, on the card
that was the current one. -/
structure Stays (before after : Desk) : Prop where
  stack : after.stack = before.stack
  editing : after.session.editingFieldId = none ∨
    after.session.editingFieldId = before.session.editingFieldId ∧
      after.session.currentCardIndex = before.session.currentCardIndex

theorem Stays.refl (desk : Desk) : desk.Stays desk :=
  ⟨rfl, Or.inr ⟨rfl, rfl⟩⟩

/-- A line stays where it is, or it moves to another card and so closes the field. The command that
writes a text is refused. -/
theorem stays_execute (hcant : desk.stack.cantModify = true) (raw : String) :
    desk.Stays (desk.execute raw).2 := by
  obtain ⟨events, hbrowses⟩ := desk.exists_browses_execute raw
  cases hbrowses with
  | remains h =>
    have hrefused : ¬ desk.MayPut (Command.said raw) := by simp [MayPut, hcant]
    exact ⟨h.stack hrefused, Or.inr ⟨h.editing, h.index⟩⟩
  | moves h => exact ⟨h.stack, Or.inl h.editing⟩

/-! ### Fields -/

/-- No field can be opened, and the attempt changes nothing. -/
theorem openField_of_cantModify (hcant : desk.stack.cantModify = true) (name : String) :
    ∃ refusal, desk.openField name = (.error refusal, desk) := by
  have hrefused : ∃ refusal, desk.openable name = .error refusal := by
    unfold openable
    split
    · exact ⟨_, rfl⟩
    · split
      · exact ⟨_, rfl⟩
      · rw [if_pos hcant]
        split_ifs <;> exact ⟨_, rfl⟩
  obtain ⟨refusal, hrefusal⟩ := hrefused
  refine ⟨refusal, ?_⟩
  rw [openField, hrefusal]

theorem stays_closeField (desk : Desk) : desk.Stays desk.closeField.2 := by
  unfold closeField
  split_ifs with hediting
  · exact ⟨desk.stack_leaveField, Or.inl desk.editingFieldId_leaveField⟩
  · exact .refl desk

/-- The place of the current card, and that of the open field on it. -/
def openPlace? (desk : Desk) : Option (Nat × Nat) := do
  let id ← desk.session.editingFieldId
  let place ← desk.currentPlace?
  let fieldPlace ← desk.currentCard?.bind fun card ↦ card.fields.findIdx? fun field ↦ field.id == id
  return (place, fieldPlace)

/-- Writing texts does not move the open field. -/
theorem openPlace?_congr (hskeleton : after.stack.skeleton = before.stack.skeleton)
    (hediting : after.session.editingFieldId = before.session.editingFieldId)
    (hindex : after.session.currentCardIndex = before.session.currentCardIndex) :
    after.openPlace? = before.openPlace? := by
  have hplace : after.currentPlace? = before.currentPlace? := by
    rw [currentPlace?, currentPlace?, Stack.length_cards_eq hskeleton, hindex]
  -- A field is found by the ids of the fields alone.
  have hfield (id : Int) (desk : Desk) :
      (desk.currentCard?.bind fun card ↦ card.fields.findIdx? fun field ↦ field.id == id) =
        (elementAt? (desk.stack.cards.map fun card ↦ card.fields.map (·.id))
          desk.session.currentCardIndex).bind fun ids ↦ ids.findIdx? (· == id) := by
    rw [← Stack.cardAt?_map, Option.bind_map]
    congr 1
    funext card
    rw [Function.comp_apply, List.findIdx?_map]
    rfl
  simp only [openPlace?, hediting, hplace, hfield, Stack.cardFieldIds_eq hskeleton, hindex]

/-! ### Work on fields -/

/-- What work on fields can do to a desk whose stack cannot be modified. -/
structure KeepsTexts (before after : Desk) : Prop where
  cantModify : after.stack.cantModify = before.stack.cantModify
  stack : after.stack = before.stack ∨ ∃ place text, before.openPlace? = some place ∧
    after.stack = before.stack.writtenAt place text
  editing : after.session.editingFieldId = none ∨
    after.session.editingFieldId = before.session.editingFieldId ∧
      after.session.currentCardIndex = before.session.currentCardIndex

namespace KeepsTexts

theorem refl (desk : Desk) : desk.KeepsTexts desk :=
  ⟨rfl, Or.inl rfl, Or.inr ⟨rfl, rfl⟩⟩

theorem of_stays (h : before.Stays after) : before.KeepsTexts after :=
  ⟨congrArg Stack.cantModify h.stack, Or.inl h.stack, h.editing⟩

theorem skeleton_eq (h : before.KeepsTexts after) :
    after.stack.skeleton = before.stack.skeleton := by
  rcases h.stack with hsame | ⟨place, text, -, hwritten⟩
  · rw [hsame]
  · rw [hwritten, Stack.skeleton_writtenAt]

/-- The field that is open is the one that was open before. -/
theorem openPlace?_eq (h : before.KeepsTexts after) {place : Nat × Nat}
    (hplace : after.openPlace? = some place) : before.openPlace? = some place := by
  rcases h.editing with hclosed | ⟨hediting, hindex⟩
  · rw [openPlace?, hclosed] at hplace
    cases hplace
  · rwa [openPlace?_congr h.skeleton_eq hediting hindex] at hplace

theorem trans (h : before.KeepsTexts after) (hlast : after.KeepsTexts last) :
    before.KeepsTexts last where
  cantModify := hlast.cantModify.trans h.cantModify
  stack := by
    rcases hlast.stack with hsame | ⟨place, text, hplace, hwritten⟩
    · rw [hsame]
      exact h.stack
    · refine Or.inr ⟨place, text, h.openPlace?_eq hplace, ?_⟩
      rcases h.stack with hbefore | ⟨first, firstText, hfirst, hbefore⟩
      · rw [hwritten, hbefore]
      · -- Both texts went into the same field.
        obtain rfl : first = place :=
          Option.some.inj (hfirst.symm.trans (h.openPlace?_eq hplace))
        rw [hwritten, hbefore, Stack.writtenAt_writtenAt]
  editing := by
    rcases hlast.editing with hclosed | ⟨hediting, hindex⟩
    · exact Or.inl hclosed
    · rw [hediting, hindex]
      exact h.editing

end KeepsTexts

/-- An edit is refused, or it writes the open field. -/
theorem editFieldText_cases (desk : Desk) (text : String) :
    (∃ refusal, desk.editFieldText text = (.error refusal, desk)) ∨
      ∃ place field, desk.openPlace? = some place ∧
        desk.editFieldText text =
          (.ok (), { desk with stack := desk.stack.writtenAt place text }.log .setField field) := by
  unfold editFieldText openPlace?
  cases desk.session.editingFieldId with
  | none => exact Or.inl ⟨_, rfl⟩
  | some id =>
    cases desk.currentPlace? with
    | none => exact Or.inl ⟨_, rfl⟩
    | some place =>
      cases desk.currentCard? with
      | none => exact Or.inl ⟨_, rfl⟩
      | some card =>
        dsimp only
        cases hfieldPlace : card.fields.findIdx? fun field ↦ field.id == id with
        | none => exact Or.inl ⟨_, rfl⟩
        | some fieldPlace =>
          cases card.fields.find? fun field ↦ field.id == id with
          | none => exact Or.inl ⟨_, rfl⟩
          | some field => exact Or.inr ⟨(place, fieldPlace), field.name, by simp [hfieldPlace], rfl⟩

theorem keepsTexts_operate (hcant : desk.stack.cantModify = true) {operation : Operation}
    (hwork : operation.isFieldWork = true) : desk.KeepsTexts (desk.operate operation) := by
  cases operation with
  | execute line => exact .of_stays (stays_execute hcant line)
  | openField name =>
    obtain ⟨refusal, hrefused⟩ := openField_of_cantModify hcant name
    show desk.KeepsTexts (desk.openField name).2
    rw [hrefused]
    exact .refl desk
  | editFieldText text =>
    show desk.KeepsTexts (desk.editFieldText text).2
    rcases desk.editFieldText_cases text with ⟨refusal, hrefused⟩ | ⟨place, field, hplace, hedited⟩
    · rw [hrefused]
      exact .refl desk
    · rw [hedited]
      exact ⟨rfl, Or.inr ⟨place, text, hplace, rfl⟩, Or.inr ⟨rfl, rfl⟩⟩
  | closeField => exact .of_stays desk.stays_closeField
  | _ => cases hwork

theorem keepsTexts_run (hcant : desk.stack.cantModify = true) {operations : List Operation}
    (hwork : ∀ operation ∈ operations, operation.isFieldWork = true) :
    desk.KeepsTexts (desk.run operations) := by
  induction operations generalizing desk with
  | nil => exact .refl desk
  | cons operation rest ih =>
    have hfirst := keepsTexts_operate hcant (hwork operation List.mem_cons_self)
    exact hfirst.trans (ih (hfirst.cantModify.trans hcant) fun later hlater ↦
      hwork later (List.mem_cons_of_mem operation hlater))

/-- Assumes: a desk whose stack cannot be modified, and operations that execute lines or open, edit
and close fields. After them the stack still cannot be modified; it is as it was but for the text of
the field that was open before, if one was; no field can be opened; and if no field was open before,
none can be edited. What is refused changes nothing. -/
theorem fieldWork_of_cantModify (hcant : desk.stack.cantModify = true) {later : List Operation}
    (hwork : ∀ operation ∈ later, operation.isFieldWork = true) :
    (desk.run later).stack.cantModify = true ∧
      ((desk.run later).stack = desk.stack ∨ ∃ place text, desk.openPlace? = some place ∧
        (desk.run later).stack = desk.stack.writtenAt place text) ∧
      (∀ name, ∃ refusal, (desk.run later).openField name = (.error refusal, desk.run later)) ∧
      (desk.openPlace? = none → ∀ text, ∃ refusal,
        (desk.run later).editFieldText text = (.error refusal, desk.run later)) := by
  have hkeeps := keepsTexts_run hcant hwork
  have hstill := hkeeps.cantModify.trans hcant
  refine ⟨hstill, hkeeps.stack, openField_of_cantModify hstill, fun hnone text ↦ ?_⟩
  rcases (desk.run later).editFieldText_cases text with hrefused | ⟨place, field, hplace, -⟩
  · exact hrefused
  · rw [hkeeps.openPlace?_eq hplace] at hnone
    cases hnone

/-- A field is opened, and then the stack is protected. -/
def openedThenProtected : Desk :=
  starter.run [.openField "Body", .setProperty "cantModify" (.text "true")]

def fieldWorkSamples : List Operation :=
  [.execute "put \"Milk\" into field \"Title\"", .openField "Title", .closeField,
    .editFieldText "Milk"]

/-- The field that is open may be written, and once it is closed none can be. -/
theorem fieldWork_of_cantModify_openedThenProtected :
    openedThenProtected.stack.cantModify = true ∧
      openedThenProtected.closeField.2.openPlace? = none ∧
      (∀ operation ∈ fieldWorkSamples, operation.isFieldWork = true) ∧
      (∃ place text, openedThenProtected.openPlace? = some place ∧
        (openedThenProtected.run (.editFieldText "Eggs" :: fieldWorkSamples)).stack =
          openedThenProtected.stack.writtenAt place text) ∧
      ∃ refusal, (openedThenProtected.closeField.2.run fieldWorkSamples).editFieldText "Eggs" =
        (.error refusal, openedThenProtected.closeField.2.run fieldWorkSamples) := by
  have hcant : openedThenProtected.stack.cantModify = true := by decide +kernel
  have hclosed : openedThenProtected.closeField.2.stack.cantModify = true := by decide +kernel
  have hnone : openedThenProtected.closeField.2.openPlace? = none := by decide +kernel
  have hwork : ∀ operation ∈ fieldWorkSamples, operation.isFieldWork = true := by
    simp [fieldWorkSamples, Operation.isFieldWork]
  have hedit : ∀ operation ∈ .editFieldText "Eggs" :: fieldWorkSamples,
      operation.isFieldWork = true :=
    List.forall_mem_cons.mpr ⟨rfl, hwork⟩
  obtain ⟨-, hsame | hwritten, -, -⟩ := fieldWork_of_cantModify hcant hedit
  · exact absurd hsame (by decide +kernel)
  · obtain ⟨-, -, -, hrefused⟩ := fieldWork_of_cantModify hclosed hwork
    exact ⟨hcant, hnone, hwork, hwritten, hrefused hnone "Eggs"⟩

/-- The open field can still be edited, so protecting the stack does not keep its text. -/
theorem edited_openedThenProtected :
    openedThenProtected.stack.cantModify = true ∧
      (openedThenProtected.editFieldText "changed").1.isOk = true ∧
      openedThenProtected.currentCard?.map (·.fieldText "Body") =
        some "Type commands into the message box, e.g. go next" ∧
      (openedThenProtected.editFieldText "changed").2.currentCard?.map (·.fieldText "Body") =
        some "changed" := by
  decide +kernel

end Desk

end Cardfile
