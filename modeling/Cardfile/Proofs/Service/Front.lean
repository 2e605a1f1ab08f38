import Cardfile.Proofs.Service.Turn

/-!
# Services that differ in their stores

The front of a service (`Service.front`) is all of it but the store. Two services with one front do
the same as far as the store has no say: an action answers alike on both, and leaves them with one
front again and with stores that are related as before (`Service.answersAs_act`), if that is so of
commits, of the execution of lines and of the events that are read back.
-/

set_option autoImplicit false
set_option relaxedAutoImplicit false

namespace Cardfile.Service

/-- The service with an empty store that never fails. -/
def front (service : Service) : Service :=
  { service with store := {} }

variable {service other : Service} {desk : Desk} {related : Store → Store → Prop}

theorem front_broadcast (service : Service) (desk : Desk) (events : List Event) :
    (service.broadcast desk events).2.front = (service.front.broadcast desk events).2 := by
  unfold broadcast
  cases desk.update? events <;> rfl

/-- Neither the save nor the feed shows. -/
theorem front_commit (service : Service) (desk : Desk) (mark : Nat) :
    (service.commit desk mark).front = (service.front.commit desk mark).front := by
  unfold commit
  dsimp only
  rw [front_broadcast, front_broadcast]
  rfl

theorem front_setDesk (hfront : service.front = other.front) (desk : Desk) :
    (service.setDesk desk).front = (other.setDesk desk).front :=
  congrArg (fun front : Service ↦ front.setDesk desk) hfront

/-- Two answers with one response and one front, and with related stores. -/
structure AnswersAs (related : Store → Store → Prop) (answer shown : Response × Service) :
    Prop where
  response : answer.1 = shown.1
  front : answer.2.front = shown.2.front
  store : related answer.2.store shown.2.store

/-! ### Actions -/

theorem answersAs_committed (hfront : service.front = other.front) (response : Response)
    (after : Desk) (mark : Nat)
    (hcommit : related (service.commit after mark).store (other.commit after mark).store) :
    AnswersAs related (response, service.commit after mark)
      (response, other.commit after mark) where
  response := rfl
  front := by
    show (service.commit after mark).front = (other.commit after mark).front
    rw [front_commit, hfront, ← front_commit]
  store := hcommit

section Acting

variable (hfront : service.front = other.front) (hstore : related service.store other.store)
  (hcommit : ∀ after mark,
    related (service.commit after mark).store (other.commit after mark).store)

include hfront hstore

theorem answersAs_same (response : Response) :
    AnswersAs related (response, service) (response, other) :=
  ⟨rfl, hfront, hstore⟩

theorem answersAs_withName (name : WideText) {answer shown : String → Response × Service}
    (h : ∀ text, AnswersAs related (answer text) (shown text)) :
    AnswersAs related (service.withName name answer) (other.withName name shown) := by
  cases name with
  | plain text => exact h text
  | halved codes => exact answersAs_same hfront hstore _

theorem answersAs_setDesk (response : Response) (after : Desk) :
    AnswersAs related (response, service.setDesk after) (response, other.setDesk after) :=
  ⟨rfl, front_setDesk hfront after, hstore⟩

theorem answersAs_selectTool (desk : Desk) (name : String) :
    AnswersAs related (service.selectTool desk name) (other.selectTool desk name) := by
  unfold selectTool
  rcases desk.selectTool name with ⟨_ | _, after⟩
  · exact answersAs_same hfront hstore _
  · exact answersAs_setDesk hfront hstore _ after

include hcommit

theorem answersAs_edit {α : Type} (desk : Desk) (outcome : Except Refusal α × Desk) :
    AnswersAs related (service.edit desk outcome) (other.edit desk outcome) := by
  rcases outcome with ⟨refusal | result, after⟩
  · exact answersAs_same hfront hstore _
  · exact answersAs_committed hfront _ after _ (hcommit after _)

theorem answersAs_adjust (desk : Desk) (outcome : Bool × Desk) (refusal : Response) :
    AnswersAs related (service.adjust desk outcome refusal)
      (other.adjust desk outcome refusal) := by
  rcases outcome with ⟨_ | _, after⟩
  · exact answersAs_same hfront hstore _
  · exact answersAs_committed hfront _ after _ (hcommit after _)

theorem answersAs_setProperty (desk : Desk) (name : String) (value : PropertyValue) :
    AnswersAs related (service.setProperty desk name value)
      (other.setProperty desk name value) := by
  unfold setProperty
  rcases desk.setProperty name value with ⟨failure | accepted, after⟩
  · exact answersAs_same hfront hstore _
  · exact answersAs_adjust hfront hstore hcommit desk _ _

theorem answersAs_rename (desk : Desk) (name : String) :
    AnswersAs related (service.rename desk name) (other.rename desk name) := by
  unfold rename
  rcases desk.renameCard name with ⟨failure | _, after⟩
  · exact answersAs_setDesk hfront hstore _ after
  · exact answersAs_committed hfront _ after _ (hcommit after _)

theorem answersAs_editScript (desk : Desk) (buttonId : Int) (script : String) :
    AnswersAs related (service.editScript desk buttonId script)
      (other.editScript desk buttonId script) := by
  unfold editScript
  rcases desk.editScript buttonId script with ⟨refusal | _, after⟩
  · exact answersAs_same hfront hstore _
  · exact answersAs_committed hfront _ after _ (hcommit after _)

variable (related) in
theorem answersAs_act {action : Action}
    (hexecute : ∀ line, action = .execute line →
      AnswersAs related (service.execute desk line) (other.execute desk line))
    (hread : ∀ count, action = .readEvents count →
      AnswersAs related (service.readEvents desk count) (other.readEvents desk count)) :
    AnswersAs related (service.act desk action) (other.act desk action) := by
  cases action with
  | showView => exact answersAs_same hfront hstore _
  | listCards => exact answersAs_same hfront hstore _
  | execute line => exact hexecute line rfl
  | setUserLevel level => exact answersAs_adjust hfront hstore hcommit desk _ _
  | setProperty name value =>
    exact answersAs_withName hfront hstore name fun text ↦
      answersAs_setProperty hfront hstore hcommit desk text value
  | renameCard name => exact answersAs_rename hfront hstore hcommit desk name
  | openField name =>
    exact answersAs_withName hfront hstore name fun text ↦
      answersAs_edit hfront hstore hcommit desk _
  | editField text => exact answersAs_edit hfront hstore hcommit desk _
  | closeField => exact answersAs_edit hfront hstore hcommit desk _
  | editScript buttonId script =>
    exact answersAs_editScript hfront hstore hcommit desk buttonId script
  | selectTool name =>
    exact answersAs_withName hfront hstore name fun text ↦
      answersAs_selectTool hfront hstore desk text
  | previousLine => exact answersAs_setDesk hfront hstore _ _
  | nextLine => exact answersAs_setDesk hfront hstore _ _
  | readEvents count => exact hread count rfl

end Acting

end Cardfile.Service
