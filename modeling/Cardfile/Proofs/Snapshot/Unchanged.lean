import Cardfile.Desk.Edit
import Cardfile.Desk.Execution
import Cardfile.Proofs.Session.Fit

/-!
# What leaves the snapshot of a desk alone

A line whose execution fails has been logged and remembered, and may have used up a recent card, but
no snapshot keeps any of that (`Desk.failsQuietly_execute`). Neither does it keep the selected tool
or the recall cursor.
-/

set_option autoImplicit false
set_option relaxedAutoImplicit false

namespace Cardfile.Desk

/-- An outcome that leaves the snapshot of a desk alone if it is a failure. -/
def FailsQuietly (desk : Desk) (outcome : Outcome) : Prop :=
  ∀ failure, outcome.1 = .error failure → outcome.2.snapshot = desk.snapshot

theorem failsQuietly_ok {desk after : Desk} {answer : String} :
    desk.FailsQuietly (.ok answer, after) := by
  intro failure hfailure
  cases hfailure

theorem failsQuietly_of_snapshot_eq {desk : Desk} {outcome : Outcome}
    (h : outcome.2.snapshot = desk.snapshot) : desk.FailsQuietly outcome :=
  fun _ _ ↦ h

/-! ### Commands -/

theorem failsQuietly_withValue {desk : Desk} {grammar : Grammar} {expression : String}
    {next : String → Outcome} (h : ∀ value, desk.FailsQuietly (next value)) :
    desk.FailsQuietly (desk.withValue grammar expression next) := by
  unfold withValue
  cases desk.evaluateWith grammar.expressions expression with
  | ok value => exact h value
  | error failure => exact failsQuietly_of_snapshot_eq rfl

theorem moveTo_eq_of_error {desk after : Desk} {target : Int} {failure : Failure}
    (h : desk.moveTo target = (.error failure, after)) : after = desk := by
  unfold moveTo at h
  split_ifs at h with hrange hhere
  · cases h
    rfl
  · cases h
  · split at h
    · cases h
    · cases h
      rfl

theorem snapshot_resolve (desk : Desk) (destination : Destination) :
    (desk.resolve destination).2.snapshot = desk.snapshot := by
  unfold resolve
  split_ifs with hempty
  · rfl
  · cases destination with
    | number n => rfl
    | name name => rfl
    | toward direction =>
      cases direction with
      | recent =>
        show { desk with session := desk.session.popRecent.2 }.snapshot = desk.snapshot
        unfold Session.popRecent
        cases desk.session.recentCards <;> rfl
      | next | previous | first | last => rfl

theorem failsQuietly_go (desk : Desk) (line : String) (going? : Option Going) :
    desk.FailsQuietly (desk.go line going?) := by
  cases going? with
  | none => exact failsQuietly_ok
  | some going =>
    unfold go
    dsimp only
    cases going.destination with
    | error failure => exact failsQuietly_of_snapshot_eq rfl
    | ok destination =>
      have hresolved := desk.snapshot_resolve destination
      dsimp only
      cases (desk.resolve destination).1 with
      | none => exact failsQuietly_ok
      | some target =>
        dsimp only
        rcases hmove : (desk.resolve destination).2.moveTo target with ⟨failure | moved, arrived⟩
        · rw [moveTo_eq_of_error hmove]
          exact failsQuietly_of_snapshot_eq hresolved
        · exact failsQuietly_ok

theorem failsQuietly_writeField (desk : Desk) (name value : String) :
    desk.FailsQuietly (desk.writeField name value) := by
  unfold writeField
  split
  · split
    · exact failsQuietly_ok
    · exact failsQuietly_ok
  · exact failsQuietly_of_snapshot_eq rfl

theorem failsQuietly_put (desk : Desk) (grammar : Grammar) (expression name : String) :
    desk.FailsQuietly (desk.put grammar expression name) := by
  unfold put
  split_ifs with hcant
  · exact failsQuietly_ok
  · exact failsQuietly_withValue (desk.failsQuietly_writeField name)

theorem failsQuietly_get (desk : Desk) (name : String) :
    desk.FailsQuietly (desk.get name) := by
  unfold get
  split
  · exact failsQuietly_of_snapshot_eq rfl
  · split
    · exact failsQuietly_ok
    · exact failsQuietly_ok

theorem failsQuietly_findText (desk : Desk) (query : String) :
    desk.FailsQuietly (desk.findText query) := by
  unfold findText
  dsimp only
  split
  · exact failsQuietly_ok
  · split
    · next hmove =>
      rw [moveTo_eq_of_error hmove]
      exact failsQuietly_of_snapshot_eq rfl
    · exact failsQuietly_ok

theorem failsQuietly_perform (desk : Desk) (grammar : Grammar) (line : String)
    (command : Command) : desk.FailsQuietly (desk.perform grammar line command) := by
  cases command with
  | nothing => exact failsQuietly_ok
  | beep => exact failsQuietly_ok
  | go going? => exact desk.failsQuietly_go line going?
  | put expression name => exact desk.failsQuietly_put grammar expression name
  | get name => exact desk.failsQuietly_get name
  | answer expression => exact failsQuietly_withValue fun _ ↦ failsQuietly_ok
  | find expression => exact failsQuietly_withValue desk.failsQuietly_findText
  | message => exact failsQuietly_ok

/-! ### Lines, tools and recall -/

theorem snapshot_receive (desk : Desk) (raw : String) :
    (desk.receive raw).snapshot = desk.snapshot := by
  unfold receive
  dsimp only
  split_ifs <;> rfl

theorem failsQuietly_execute (desk : Desk) (line : String) :
    desk.FailsQuietly (desk.execute line) := by
  intro failure hfailure
  have hperform := (desk.receive line).failsQuietly_perform .standard (Text.strip line)
    (Command.ofLineWith Grammar.standard.commands (Text.strip line).toList) failure hfailure
  exact hperform.trans (desk.snapshot_receive line)

theorem snapshot_selectTool (desk : Desk) (name : String) :
    (desk.selectTool name).2.snapshot = desk.snapshot := by
  unfold selectTool
  cases Tool.ofName? (Text.caseFold (Text.strip name)) <;> rfl

theorem snapshot_historyPrevious (desk : Desk) :
    desk.historyPrevious.2.snapshot = desk.snapshot := by
  obtain ⟨index, hsession⟩ := desk.session.exists_historyPrevious_eq
  show { desk with session := desk.session.historyPrevious.2 }.snapshot = desk.snapshot
  rw [hsession]
  rfl

theorem snapshot_historyNext (desk : Desk) :
    desk.historyNext.2.snapshot = desk.snapshot := by
  obtain ⟨index, hsession⟩ := desk.session.exists_historyNext_eq
  show { desk with session := desk.session.historyNext.2 }.snapshot = desk.snapshot
  rw [hsession]
  rfl

end Cardfile.Desk
