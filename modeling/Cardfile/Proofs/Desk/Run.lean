import Cardfile.Proofs.Desk.Change
import Cardfile.Proofs.Schema.Checked
import Cardfile.Proofs.Snapshot.Merge
import Cardfile.Store.Persistence

/-!
# Runs of a desk

A run carries out any operations of a desk in any order, with any arguments, whether they succeed or
fail (`Desk.run`). A property of desks that every elementary change, every setting of a property and
every merge keeps holds along every run (`Desk.run_keeps`).

`Desk.isSound_run` is the invariant of all runs from a fresh desk: the stack keeps its skeleton and
its bounds, and the session fits the stack. `Desk.Reached` says in addition where the level, the
font and the size of the stack come from, for a stack that need not be within its bounds itself
(`Desk.reached_run`).
-/

set_option autoImplicit false
set_option relaxedAutoImplicit false

namespace Cardfile

open Schema

/-! ### Operations -/

/-- An operation of a desk with its arguments. Saving and restoring may meet any store. -/
inductive Operation where
  | execute (line : String)
  | openField (name : String)
  | editFieldText (text : String)
  | closeField
  | editScript (buttonId : Int) (script : String)
  | renameCard (name : String)
  | setUserLevel (level : Int)
  | setProperty (name : String) (value : PropertyValue)
  | selectTool (name : String)
  | historyPrevious
  | historyNext
  | save (settings : Settings) (store : Store)
  | restore (settings : Settings) (store : Store)

/-- Operations of many kinds. The unknown destination and the level nine are refused. -/
def Operation.samples : List Operation :=
  [.renameCard "Start", .editScript 2001 "beep", .execute "go last", .execute "go nowhere",
    .openField "body", .editFieldText "Milk", .closeField, .setUserLevel 9, .setUserLevel 2,
    .setProperty "scriptTextFont" (.text "Geneva"), .historyPrevious,
    .restore {} { data := [("cardstack:snapshot:Home", "\x7b\"current_card_index\":1\x7d")] },
    .execute "put it into field \"Title\"", .setProperty "cantModify" (.flag true)]

namespace Desk

/-- The desk after an operation, successful or not. Saving changes the store alone. -/
def operate (desk : Desk) : Operation → Desk
  | .execute line => (desk.execute line).2
  | .openField name => (desk.openField name).2
  | .editFieldText text => (desk.editFieldText text).2
  | .closeField => desk.closeField.2
  | .editScript buttonId script => (desk.editScript buttonId script).2
  | .renameCard name => (desk.renameCard name).2
  | .setUserLevel level => (desk.setUserLevel level).2
  | .setProperty name value => (desk.setProperty name value).2
  | .selectTool name => (desk.selectTool name).2
  | .historyPrevious => desk.historyPrevious.2
  | .historyNext => desk.historyNext.2
  | .save _ _ => desk
  | .restore settings store => (desk.restore settings store).2.1

def run (desk : Desk) (operations : List Operation) : Desk :=
  operations.foldl operate desk

theorem run_append (desk : Desk) (first second : List Operation) :
    desk.run (first ++ second) = (desk.run first).run second := by
  simp [run]

theorem run_concat (desk : Desk) (operations : List Operation) (operation : Operation) :
    desk.run (operations ++ [operation]) = (desk.run operations).operate operation := by
  simp [run]

/-! ### Induction along runs -/

/-- What an operation does beyond elementary changes: it adjusts the stack once and logs that, or it
merges a snapshot. -/
inductive Step (desk : Desk) : Desk → Prop
  | changes {after : Desk} (h : Changes desk after) : Step desk after
  | adjust (stack : Stack) (kind : EventKind) (detail : String)
      (hadjusted : desk.stack.Adjusted stack) :
    Step desk ({ desk with stack := stack }.log kind detail)
  | merge (snapshot : Snapshot) : Step desk (desk.merge snapshot)

theorem step_setUserLevel (desk : Desk) (level : Int) : Step desk (desk.setUserLevel level).2 := by
  unfold setUserLevel
  cases hstack : desk.stack.setUserLevel? level with
  | none => exact .changes .refl
  | some stack => exact .adjust stack _ _ (Stack.adjusted_of_setUserLevel? hstack)

theorem step_setProperty (desk : Desk) (name : String) (value : PropertyValue) :
    Step desk (desk.setProperty name value).2 := by
  unfold setProperty
  split_ifs with hlevel
  · cases value.whole? with
    | none => exact .changes .refl
    | some level => exact desk.step_setUserLevel level
  · rcases hstack : desk.stack.setProperty? name value with failure | _ | stack
    · exact .changes .refl
    · exact .changes .refl
    · exact .adjust stack _ _ (Stack.adjusted_of_setProperty? hstack)

/-- Restoring merges what is loaded, if anything is. -/
theorem restore_eq (desk : Desk) (settings : Settings) (store : Store) :
    desk.restore settings store =
      ((store.loadSnapshot settings desk.stack.name).1.isSome,
        (store.loadSnapshot settings desk.stack.name).1.elim desk desk.merge,
        (store.loadSnapshot settings desk.stack.name).2) := by
  unfold restore
  rcases store.loadSnapshot settings desk.stack.name with ⟨_ | snapshot, after⟩ <;> rfl

theorem step_restore (desk : Desk) (settings : Settings) (store : Store) :
    Step desk (desk.restore settings store).2.1 := by
  rw [restore_eq]
  cases (store.loadSnapshot settings desk.stack.name).1 with
  | none => exact .changes .refl
  | some snapshot => exact .merge snapshot

theorem step_operate (desk : Desk) (operation : Operation) :
    Step desk (desk.operate operation) := by
  cases operation with
  | execute line => exact .changes (desk.changes_execute line)
  | openField name => exact .changes (desk.changes_openField name)
  | editFieldText text => exact .changes (desk.changes_editFieldText text)
  | closeField => exact .changes desk.changes_closeField
  | editScript buttonId script => exact .changes (desk.changes_editScript buttonId script)
  | renameCard name => exact .changes (desk.changes_renameCard name)
  | setUserLevel level => exact desk.step_setUserLevel level
  | setProperty name value => exact desk.step_setProperty name value
  | selectTool name => exact .changes (desk.changes_selectTool name)
  | historyPrevious => exact .changes desk.changes_historyPrevious
  | historyNext => exact .changes desk.changes_historyNext
  | save settings store => exact .changes .refl
  | restore settings store => exact desk.step_restore settings store

section Induction

variable {motive : Desk → Prop}

theorem Step.keeps
    (hchange : ∀ before after, Change before after → motive before → motive after)
    (hadjust : ∀ desk stack, desk.stack.Adjusted stack → motive desk →
      motive { desk with stack := stack })
    (hmerge : ∀ desk snapshot, motive desk → motive (desk.merge snapshot))
    {before after : Desk} (h : Step before after) (hbefore : motive before) : motive after := by
  cases h with
  | changes h => exact h.keeps hchange hbefore
  | adjust stack kind detail hadjusted =>
    -- Logging the adjustment is an elementary change of its own.
    exact hchange _ _ (.log _ kind detail) (hadjust before stack hadjusted hbefore)
  | merge snapshot => exact hmerge before snapshot hbefore

theorem run_keeps
    (hchange : ∀ before after, Change before after → motive before → motive after)
    (hadjust : ∀ desk stack, desk.stack.Adjusted stack → motive desk →
      motive { desk with stack := stack })
    (hmerge : ∀ desk snapshot, motive desk → motive (desk.merge snapshot))
    (operations : List Operation) {desk : Desk} (hdesk : motive desk) :
    motive (desk.run operations) := by
  induction operations generalizing desk with
  | nil => exact hdesk
  | cons operation rest ih =>
    exact ih ((desk.step_operate operation).keeps hchange hadjust hmerge hdesk)

end Induction

/-- No operation changes the skeleton of the stack. -/
theorem skeleton_operate (desk : Desk) (operation : Operation) :
    (desk.operate operation).stack.skeleton = desk.stack.skeleton :=
  (desk.step_operate operation).keeps
    (motive := fun after ↦ after.stack.skeleton = desk.stack.skeleton)
    (fun _ _ hchange h ↦ hchange.skeleton_eq.trans h)
    (fun _ _ hadjusted h ↦ hadjusted.skeleton_eq.trans h)
    (fun before snapshot h ↦ (before.stack.skeleton_merge snapshot).trans h) rfl

end Desk

/-! ### Where the properties of a stack come from -/

/-- A stack with the skeleton of another, each of whose properties is that of the other or suits a
stack. -/
structure Stack.DescendsFrom (stack base : Stack) : Prop where
  skeleton : stack.skeleton = base.skeleton
  userLevel : stack.userLevel = base.userLevel ∨ isUserLevel stack.userLevel = true
  scriptTextFont :
    stack.scriptTextFont = base.scriptTextFont ∨ stack.scriptTextFont.isAllBlank = false
  scriptTextSize : stack.scriptTextSize = base.scriptTextSize ∨ 0 < stack.scriptTextSize

namespace Stack.DescendsFrom

variable {stack base : Stack}

theorem refl (base : Stack) : base.DescendsFrom base :=
  ⟨rfl, Or.inl rfl, Or.inl rfl, Or.inl rfl⟩

theorem adjust {adjusted : Stack} (h : stack.DescendsFrom base)
    (hadjusted : stack.Adjusted adjusted) : adjusted.DescendsFrom base := by
  have hskeleton := hadjusted.skeleton_eq.trans h.skeleton
  cases hadjusted with
  | userLevel level hlevel => exact { h with skeleton := hskeleton, userLevel := Or.inr hlevel }
  | scriptTextFont font hfont =>
    exact { h with skeleton := hskeleton, scriptTextFont := Or.inr hfont }
  | scriptTextSize size hsize =>
    exact { h with skeleton := hskeleton, scriptTextSize := Or.inr hsize }
  | cantModify flag => exact { h with skeleton := hskeleton }

theorem mergeProperties (h : stack.DescendsFrom base) (snapshot : Snapshot) :
    (stack.mergeProperties snapshot).DescendsFrom base where
  skeleton := h.skeleton
  userLevel := by
    unfold Stack.mergeProperties
    dsimp only
    split_ifs with hlevel
    · exact Or.inr hlevel
    · exact h.userLevel
  scriptTextFont := by
    unfold Stack.mergeProperties
    dsimp only
    split_ifs with hfont
    · exact h.scriptTextFont
    · exact Or.inr (Bool.eq_false_iff.mpr hfont)
  scriptTextSize := by
    unfold Stack.mergeProperties
    dsimp only
    split_ifs with hsize
    · exact Or.inr hsize
    · exact h.scriptTextSize

theorem merge (h : stack.DescendsFrom base) (snapshot : Snapshot) :
    (stack.merge snapshot).DescendsFrom base := by
  rw [merge_eq]
  exact { h.mergeProperties snapshot with
    skeleton := (merge_eq stack snapshot ▸ stack.skeleton_merge snapshot).trans h.skeleton }

end Stack.DescendsFrom

/-! ### The invariant -/

namespace Desk

/-- What holds of every desk that operations lead to from a fresh one on a stack. -/
structure Reached (desk : Desk) (base : Stack) : Prop where
  stack : desk.stack.DescendsFrom base
  session : desk.session.Fits desk.stack

variable {base : Stack}

theorem Reached.name_eq {desk : Desk} (h : desk.Reached base) : desk.stack.name = base.name :=
  (congrArg Stack.name h.stack.skeleton :)

theorem open?_eq_some_iff {desk : Desk} : open? base = some desk ↔
    ∃ first rest, base.cards = first :: rest ∧
      desk = ⟨base, { currentFieldName := first.firstFieldName? }⟩ := by
  unfold open?
  cases base.cards with
  | nil => simp
  | cons first rest => simp [eq_comm]

theorem reached_open? {desk : Desk} (hopen : open? base = some desk) : desk.Reached base := by
  obtain ⟨first, rest, hcards, rfl⟩ := open?_eq_some_iff.mp hopen
  have hfirst : base.cardAt? 0 = some first := by
    simp [Stack.cardAt?, elementAt?, placeOf?, hcards]
  exact {
    stack := .refl base
    session := {
      index_nonneg := Int.le_refl 0
      index_lt := by simp [hcards]
      length_recentCards := Nat.zero_le _
      recentCards_known := by simp
      length_messageLog := by simp
      historyIndex_valid := by simp
      pointed := ⟨first, hfirst, first.pointedAt_firstFieldName?⟩ } }

theorem Reached.change {before after : Desk} (h : before.Reached base)
    (hchange : Change before after) : after.Reached base where
  stack := by
    obtain ⟨hlevel, hfont, hsize, -⟩ := hchange.properties_eq
    exact ⟨hchange.skeleton_eq.trans h.stack.skeleton, hlevel ▸ h.stack.userLevel,
      hfont ▸ h.stack.scriptTextFont, hsize ▸ h.stack.scriptTextSize⟩
  session := hchange.fits h.session

theorem Reached.adjust {desk : Desk} {stack : Stack} (h : desk.Reached base)
    (hadjusted : desk.stack.Adjusted stack) : { desk with stack := stack }.Reached base where
  stack := h.stack.adjust hadjusted
  session := h.session.congr hadjusted.skeleton_eq.symm

theorem Reached.merge {desk : Desk} (h : desk.Reached base) (snapshot : Snapshot) :
    (desk.merge snapshot).Reached base where
  stack := h.stack.merge snapshot
  session := (h.session.congr (desk.stack.skeleton_merge snapshot).symm).merge snapshot

theorem Reached.step {before after : Desk} (h : before.Reached base) (hstep : Step before after) :
    after.Reached base :=
  hstep.keeps (motive := fun desk ↦ desk.Reached base) (fun _ _ hchange h ↦ h.change hchange)
    (fun _ _ hadjusted h ↦ h.adjust hadjusted) (fun _ snapshot h ↦ h.merge snapshot) h

/-- A session that fits its stack fits it after any operation. -/
theorem fits_operate {desk : Desk} (hfits : desk.session.Fits desk.stack) (operation : Operation) :
    (desk.operate operation).session.Fits (desk.operate operation).stack :=
  (Reached.step ⟨.refl desk.stack, hfits⟩ (desk.step_operate operation)).session

theorem Reached.run {desk : Desk} (h : desk.Reached base) (operations : List Operation) :
    (desk.run operations).Reached base :=
  run_keeps (motive := fun desk ↦ desk.Reached base) (fun _ _ hchange h ↦ h.change hchange)
    (fun _ _ hadjusted h ↦ h.adjust hadjusted) (fun _ snapshot h ↦ h.merge snapshot) operations h

/-- A session that fits its stack fits it after any operations. -/
theorem fits_run {desk : Desk} (hfits : desk.session.Fits desk.stack)
    (operations : List Operation) :
    (desk.run operations).session.Fits (desk.run operations).stack :=
  (Reached.run ⟨.refl desk.stack, hfits⟩ operations).session

theorem reached_run {desk : Desk} (hopen : open? base = some desk) (operations : List Operation) :
    (desk.run operations).Reached base :=
  (reached_open? hopen).run operations

end Desk

/-- The bounds that the schema of stacks sets. -/
def Stack.InBounds (stack : Stack) : Prop :=
  isUserLevel stack.userLevel = true ∧ 0 < stack.scriptTextSize

instance (stack : Stack) : Decidable stack.InBounds :=
  inferInstanceAs (Decidable (_ ∧ _))

theorem isUserLevel_iff {level : Int} : isUserLevel level = true ↔ 1 ≤ level ∧ level ≤ 5 := by
  rw [isUserLevel, Bool.and_eq_true, decide_eq_true_iff, decide_eq_true_iff]
  rfl

/-- Every stack that is read from a document is within its bounds. -/
theorem Stack.inBounds_of_ofJson {json : Json} {stack : Stack}
    (h : Stack.ofJson json = .valid stack) : stack.InBounds := by
  obtain ⟨members, -, h⟩ := record_eq_valid_iff.mp h
  simp only [Checked.seq_eq_valid_iff, Checked.map_eq_valid_iff] at h
  obtain ⟨_, cards, ⟨_, backgrounds, ⟨_, templates, ⟨_, size, ⟨_, font, ⟨_, level, ⟨_, flag,
    ⟨name, -, rfl⟩, -, rfl⟩, hlevel, rfl⟩, -, rfl⟩, hsize, rfl⟩, -, rfl⟩, -, rfl⟩, -, rfl⟩ := h
  constructor
  · rcases withDefault_eq_valid hlevel with rfl | ⟨_, -, hlevel⟩
    · rfl
    · obtain ⟨hlevel, hmaximum⟩ := atMost_eq_valid_iff.mp hlevel
      obtain ⟨-, hminimum⟩ := atLeast_eq_valid_iff.mp hlevel
      exact isUserLevel_iff.mpr ⟨hminimum, hmaximum⟩
  · rcases withDefault_eq_valid hsize with rfl | ⟨_, -, hsize⟩
    · exact Int.ofNat_succ_pos 8
    · exact (above_eq_valid_iff.mp hsize).2

/-- The invariant of a desk whose session began on the stack `start`. -/
structure Desk.IsSound (desk : Desk) (start : Stack) : Prop where
  skeleton : desk.stack.skeleton = start.skeleton
  userLevel : isUserLevel desk.stack.userLevel = true
  scriptTextSize : 0 < desk.stack.scriptTextSize
  session : desk.session.Fits desk.stack

/-- Assumes: a fresh desk on a stack within its bounds. Whatever operations follow, and whether they
succeed or fail, the desk is sound. -/
theorem Desk.isSound_run {start : Stack} {desk : Desk} (hopen : open? start = some desk)
    (hbounds : start.InBounds) (operations : List Operation) :
    (desk.run operations).IsSound start := by
  have hreached := reached_run hopen operations
  refine ⟨hreached.stack.skeleton, ?_, ?_, hreached.session⟩
  · rcases hreached.stack.userLevel with hsame | hlevel
    · exact hsame ▸ hbounds.1
    · exact hlevel
  · rcases hreached.stack.scriptTextSize with hsame | hsize
    · exact hsame ▸ hbounds.2
    · exact hsize

theorem Desk.isSound_run_starter :
    open? Stack.starter = some starter ∧ Stack.starter.InBounds ∧
      (starter.run Operation.samples).IsSound Stack.starter :=
  ⟨open?_starter, by decide, isSound_run open?_starter (by decide) _⟩

end Cardfile
