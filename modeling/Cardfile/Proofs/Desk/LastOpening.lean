import Cardfile.Proofs.Desk.Brackets

/-!
# The last opening of a field

While a field is open, the run that led there splits at its opening: since then no field has been
opened or closed (`Desk.LastOpening`, `Desk.exists_lastOpening`). As long as nothing is restored the
field pointer of the session stands at the opened field, or at the field that a command found last
since then (`Desk.currentFieldName_lastOpening`).

The event that closes the field takes its detail from the pointer. So it names the opened field as
long as no command has found another one (`Desk.exists_lastOpening_of_closeField_mem`).
-/

set_option autoImplicit false
set_option relaxedAutoImplicit false

namespace Cardfile.Desk

variable {base : Stack} {start desk after : Desk} {operation : Operation}
  {operations : List Operation} {events : List Event}

/-! ### Episodes while a field stays open -/

/-- Assumes: an open field, and an episode that opens and closes none. It stays on the card, or it
merges a snapshot. -/
theorem Episode.remains_of_unbroken (h : desk.Episode operation events after)
    (hopen : desk.session.editingFieldId.isSome) (hunbroken : brackets events = []) :
    (∃ settings store, operation = .restore settings store) ∨
      desk.Remains (desk.foundBy? operation) (desk.MayWrite operation) events after := by
  cases h with
  | browses hbrowses =>
    cases hbrowses with
    | remains hremains => exact Or.inr hremains
    | moves hmoves => simp [brackets_append, brackets_closing hopen] at hunbroken
  | opens hopenable hopens => simp [brackets_append, brackets_closing hopen] at hunbroken
  | closes => simp [brackets_closing hopen] at hunbroken
  | merges settings store snapshot => exact Or.inl ⟨settings, store, rfl⟩

theorem mem_closing {event : Event} : event ∈ desk.closing ↔
    desk.session.editingFieldId.isSome ∧
      event = ⟨.closeField, desk.session.currentFieldName.getD ""⟩ := by
  unfold closing
  split_ifs with hopen <;> simp [hopen]

/-- Whatever closes the open field names the field that the session points at. -/
theorem Episode.detail_of_closeField_mem (h : desk.Episode operation events after)
    {detail : String} (hmem : ⟨.closeField, detail⟩ ∈ events) :
    desk.session.editingFieldId.isSome ∧ detail = desk.session.currentFieldName.getD "" := by
  have hclosing : (⟨.closeField, detail⟩ : Event) ∈ desk.closing := by
    cases h with
    | browses hbrowses =>
      cases hbrowses with
      | remains hremains =>
        have hplain := hremains.plain _ hmem
        simp [EventKind.isPassage] at hplain
      | @moves noted old new _ hmoves =>
        have hnoted : (⟨.closeField, detail⟩ : Event) ∉ noted := by
          intro hmem
          have hplain := hmoves.plain _ hmem
          simp [EventKind.isPassage] at hplain
        simpa [hnoted] using hmem
    | opens hopenable hopens => simpa using hmem
    | closes => exact hmem
    | merges => simp at hmem
  simpa using mem_closing.mp hclosing

/-! ### The last opening -/

/-- A split of a run at the opening of a field after which no field has been opened or closed. -/
structure LastOpening (start : Desk) (operations : List Operation) where
  before : List Operation
  name : String
  field : TextField
  since : List Operation
  split : operations = before ++ .openField name :: since
  opened : ((start.run before).openField name).1 = .ok field
  logged : (start.run before).logged (.openField name) =
    (start.run before).closing ++ [⟨.openField, field.name⟩]
  unbroken : brackets ((start.run (before ++ [.openField name])).history since) = []

namespace LastOpening

/-- The desk right after the opening. -/
def openedDesk (opening : start.LastOpening operations) : Desk :=
  start.run (opening.before ++ [.openField opening.name])

theorem run_since (opening : start.LastOpening operations) :
    opening.openedDesk.run opening.since = start.run operations := by
  have hsplit : opening.before ++ [.openField opening.name] ++ opening.since = operations := by
    simpa using opening.split.symm
  rw [openedDesk, ← run_append, hsplit]

theorem opens (opening : start.LastOpening operations) :
    (start.run opening.before).openable opening.name = .ok opening.field ∧
      (start.run opening.before).Opens opening.field opening.openedDesk := by
  have hopened := opening.opened
  have hopenable : (start.run opening.before).openable opening.name = .ok opening.field := by
    cases hcase : (start.run opening.before).openable opening.name with
    | error refusal => simp [openField_of_refused hcase] at hopened
    | ok field =>
      rw [(openField_of_openable hcase).1] at hopened
      exact hopened
  refine ⟨hopenable, ?_⟩
  rw [openedDesk, run_concat]
  exact (openField_of_openable hopenable).2

/-- The opening stays the last one while no field is opened or closed. -/
def extend (opening : start.LastOpening operations)
    (hunbroken : brackets ((start.run operations).logged operation) = []) :
    start.LastOpening (operations ++ [operation]) where
  before := opening.before
  name := opening.name
  field := opening.field
  since := opening.since ++ [operation]
  split := by simp [opening.split]
  opened := opening.opened
  logged := opening.logged
  unbroken := by
    have hrun := opening.run_since
    rw [openedDesk] at hrun
    rw [history_concat, hrun, brackets_append, opening.unbroken, hunbroken, List.append_nil]

end LastOpening

/-- Assumes: a fresh desk. The field that is open after a run was opened by one of its operations,
and since then no field has been opened or closed. -/
theorem exists_lastOpening (hopen : open? base = some start) {id : Int}
    (hediting : (start.run operations).session.editingFieldId = some id) :
    ∃ opening : start.LastOpening operations, opening.field.id = id := by
  induction operations using List.reverseRecOn with
  | nil =>
    obtain ⟨first, rest, -, rfl⟩ := open?_eq_some_iff.mp hopen
    simp [run] at hediting
  | append_singleton operations operation ih =>
    have hepisode := episode_logged (reached_run hopen operations).session operation
    have hextend (hunbroken : brackets ((start.run operations).logged operation) = [])
        (hsame : (start.run operations).session.editingFieldId = some id) :
        ∃ opening : start.LastOpening (operations ++ [operation]), opening.field.id = id := by
      obtain ⟨opening, hid⟩ := ih hsame
      exact ⟨opening.extend hunbroken, hid⟩
    rw [run_concat] at hediting
    generalize hlogged : (start.run operations).logged operation = events at hepisode hextend
    generalize (start.run operations).operate operation = after at hepisode hediting
    cases hepisode with
    | browses hbrowses =>
      cases hbrowses with
      | remains hremains =>
        exact hextend (brackets_eq_nil hremains.plain) (hremains.editing ▸ hediting)
      | moves hmoves => simp [hmoves.editing] at hediting
    | @opens name field _ hopenable hopens =>
      rw [hopens.editing] at hediting
      exact ⟨⟨operations, name, field, [], rfl, (openField_of_openable hopenable).1, hlogged, rfl⟩,
        Option.some.inj hediting⟩
    | closes => simp [editingFieldId_leaveField] at hediting
    | merges settings store snapshot => exact hextend rfl hediting

/-! ### The field pointer -/

/-- The names of the fields that operations point at one after another without opening them. -/
def foundAlong (desk : Desk) : List Operation → List String
  | [] => []
  | operation :: rest =>
    (desk.foundBy? operation).toList ++ (desk.operate operation).foundAlong rest

theorem currentFieldName_run (hreached : desk.Reached base)
    (hopen : desk.session.editingFieldId.isSome)
    (hrestore : ∀ settings store, .restore settings store ∉ operations)
    (hunbroken : brackets (desk.history operations) = []) :
    (desk.run operations).session.currentFieldName =
      (desk.foundAlong operations).getLast?.or desk.session.currentFieldName := by
  induction operations generalizing desk with
  | nil => simp [run, foundAlong]
  | cons operation rest ih =>
    rw [history, brackets_append, List.append_eq_nil_iff] at hunbroken
    have hepisode := episode_logged hreached.session operation
    rcases hepisode.remains_of_unbroken hopen hunbroken.1 with ⟨settings, store, rfl⟩ | hremains
    · exact absurd List.mem_cons_self (hrestore settings store)
    · have hrest := ih (hreached.step (desk.step_operate operation)) (hremains.editing ▸ hopen)
        (fun settings store hmem ↦ hrestore settings store (List.mem_cons_of_mem _ hmem))
        hunbroken.2
      have hlast : (desk.foundBy? operation).toList.getLast? = desk.foundBy? operation := by
        cases desk.foundBy? operation <;> simp
      rw [foundAlong, List.getLast?_append, hlast, Option.or_assoc, ← hremains.pointer]
      exact hrest

namespace LastOpening

/-- The names of the fields found since the opening. -/
def found (opening : start.LastOpening operations) : List String :=
  opening.openedDesk.foundAlong opening.since

theorem currentFieldName_eq (hopen : open? base = some start)
    (hrestore : ∀ settings store, .restore settings store ∉ operations)
    (opening : start.LastOpening operations) :
    (start.run operations).session.currentFieldName =
      some (opening.found.getLastD opening.field.name) := by
  obtain ⟨-, hopens⟩ := opening.opens
  have hsince : ∀ settings store, .restore settings store ∉ opening.since := by
    intro settings store hmem
    have hrun :
        .restore settings store ∈ opening.before ++ .openField opening.name :: opening.since :=
      List.mem_append_right _ (List.mem_cons_of_mem _ hmem)
    rw [← opening.split] at hrun
    exact hrestore settings store hrun
  have hsome : opening.openedDesk.session.editingFieldId.isSome := by
    simp [hopens.editing]
  have hpointer := currentFieldName_run (reached_run hopen _) hsome hsince opening.unbroken
  rw [← opening.run_since, found, List.getLastD_eq_getLast?, ← Option.or_some, ← hopens.pointer]
  exact hpointer

end LastOpening

/-- Assumes: a fresh desk, and no restore up to an operation that closes a field. The detail of the
event is the name of the field that a command found last since the field was opened, or that of the
opened field if none was found. So it names the opened field exactly if the one found last, if any,
has the same name. -/
theorem exists_lastOpening_of_closeField_mem (hopen : open? base = some start)
    (hrestore : ∀ settings store, .restore settings store ∉ operations) {detail : String}
    (hmem : ⟨.closeField, detail⟩ ∈ (start.run operations).logged operation) :
    ∃ opening : start.LastOpening operations,
      detail = opening.found.getLastD opening.field.name ∧
        (detail = opening.field.name ↔
          ∀ last ∈ opening.found.getLast?, last = opening.field.name) := by
  have hepisode := episode_logged (reached_run hopen operations).session operation
  obtain ⟨hediting, hdetail⟩ := hepisode.detail_of_closeField_mem hmem
  obtain ⟨id, hid⟩ := Option.isSome_iff_exists.mp hediting
  obtain ⟨opening, -⟩ := exists_lastOpening hopen hid
  rw [opening.currentFieldName_eq hopen hrestore, Option.getD_some] at hdetail
  refine ⟨opening, hdetail, ?_⟩
  rw [hdetail, List.getLastD_eq_getLast?]
  cases opening.found.getLast? <;> simp

/-- A field is opened, and then another one is read. -/
def readWhileOpen : List Operation :=
  [.openField "Body", .execute "get field \"Title\""]

theorem exists_lastOpening_of_closeField_mem_moving :
    open? Stack.starter = some starter ∧
      (∀ settings store, .restore settings store ∉ readWhileOpen) ∧
      ⟨.closeField, "Title"⟩ ∈ (starter.run readWhileOpen).logged (.execute "go next") ∧
      ∃ opening : starter.LastOpening readWhileOpen,
        "Title" = opening.found.getLastD opening.field.name := by
  have hrestore (settings : Settings) (store : Store) :
      .restore settings store ∉ readWhileOpen := by
    simp [readWhileOpen]
  have hmem : ⟨.closeField, "Title"⟩ ∈
      (starter.run readWhileOpen).logged (.execute "go next") := by
    decide +kernel
  obtain ⟨opening, hdetail, -⟩ :=
    exists_lastOpening_of_closeField_mem open?_starter hrestore hmem
  exact ⟨open?_starter, hrestore, hmem, opening, hdetail⟩

/-- The closing names the field that was read and not the one that was opened. -/
theorem history_readWhileOpen :
    starter.history (readWhileOpen ++ [.closeField]) =
      [⟨.openField, "Body"⟩, ⟨.command, "get field \"Title\""⟩, ⟨.closeField, "Title"⟩] := by
  decide +kernel

end Cardfile.Desk
