import Cardfile.Proofs.Desk.Refusal
import Mathlib.Data.List.DropRight

/-!
# Two ways to set a property

A property is set on a stack (`Stack.setProperty?`) or at a desk (`Desk.setProperty`), which goes a
way of its own for the user level and logs what was set. Both accept the same values under the same
names, fail for the same, and leave the same stack (`Desk.setsAlike_run`); the desk logs one event
for a value that is accepted and none otherwise.

Either way the properties stay within their bounds, and a font that was set has something in it and
no blanks at its ends (`WideText.IsTidy`). It stays so until a snapshot is restored, which may bring
any font that is not blank.
-/

set_option autoImplicit false
set_option relaxedAutoImplicit false

namespace Cardfile

open Text

/-! ### Texts without blanks at their ends -/

theorem Text.trimOf_trimOf {α : Type} (inClass : α → Bool) (text : List α) :
    trimOf inClass (trimOf inClass text) = trimOf inClass text := by
  have hdrop : (trimOf inClass text).dropWhile inClass = trimOf inClass text := by
    rw [List.dropWhile_eq_self_iff]
    intro hpos hfirst
    have hhead : (trimOf inClass text).head? = some (trimOf inClass text)[0] := by
      rw [List.head?_eq_getElem?, List.getElem?_eq_getElem hpos]
    rw [head?_trimOf hhead] at hfirst
    cases hfirst
  calc trimOf inClass (trimOf inClass text)
      = ((trimOf inClass text).dropWhile inClass).rdropWhile inClass := rfl
    _ = ((text.dropWhile inClass).rdropWhile inClass).rdropWhile inClass := by rw [hdrop]; rfl
    _ = trimOf inClass text := List.rdropWhile_idempotent inClass _

namespace WideText

/-- A text that is not all blank and has no blanks at its ends. -/
structure IsTidy (text : WideText) : Prop where
  notBlank : text.isAllBlank = false
  trimmed : text.strip = text

theorem strip_strip (text : WideText) : text.strip.strip = text.strip := by
  cases text with
  | plain text => simp [strip, Text.strip, trim, trimOf_trimOf]
  | halved codes => simp [strip, trimOf_trimOf]

theorem isTidy_strip {text : WideText} (h : text.strip.isEmpty = false) : text.strip.IsTidy :=
  ⟨isAllBlank_strip h, text.strip_strip⟩

end WideText

/-! ### Names of properties -/

/-- A property is named by its spellings, without blanks at the ends and whatever the letter
case. -/
theorem Property.ofName?_eq_some_iff {name : String} {property : Property} :
    ofName? name = some property ↔ caseFold (strip name) ∈ property.spellings := by
  constructor
  · intro hname
    simpa using List.find?_some hname
  · intro hspelled
    -- No two properties share a spelling, so the first one that has it is the only one.
    unfold ofName?
    generalize caseFold (strip name) = spelling at hspelled ⊢
    cases property <;> simp only [spellings, List.mem_cons, List.not_mem_nil, or_false] at hspelled
      <;> rcases hspelled with rfl | rfl <;> rfl

/-! ### Setting a property of a stack -/

namespace Stack

variable {stack adjusted : Stack} {name : String} {value : PropertyValue}

theorem Sets.inBounds {property : Property} (h : stack.Sets value property adjusted)
    (hbounds : stack.InBounds) : adjusted.InBounds := by
  cases h with
  | userLevel level hwhole hlevel => exact ⟨hlevel, hbounds.2⟩
  | scriptTextSize size hwhole hsize => exact ⟨hbounds.1, hsize⟩
  | scriptTextFont | cantModify => exact hbounds

/-- The user level is set to the number that the value is. -/
theorem Sets.whole?_eq (h : stack.Sets value .userLevel adjusted) :
    value.whole? = some adjusted.userLevel := by
  cases h with
  | userLevel level hwhole hlevel => exact hwhole

/-- The font is set to the value without the blanks at its ends. -/
theorem Sets.display?_eq (h : stack.Sets value .scriptTextFont adjusted) :
    value.display?.map WideText.strip = some adjusted.scriptTextFont := by
  cases h with
  | scriptTextFont shown hshown hfont => rw [hshown, Option.map_some]

theorem Sets.isTidy_scriptTextFont (h : stack.Sets value .scriptTextFont adjusted) :
    adjusted.scriptTextFont.IsTidy := by
  cases h with
  | scriptTextFont shown hshown hfont => exact WideText.isTidy_strip hfont

/-- No property makes a tidy font untidy. -/
theorem Sets.isTidy {property : Property} (h : stack.Sets value property adjusted)
    (htidy : stack.scriptTextFont.IsTidy) : adjusted.scriptTextFont.IsTidy := by
  cases h with
  | scriptTextFont shown hshown hfont => exact WideText.isTidy_strip hfont
  | userLevel | scriptTextSize | cantModify => exact htidy

/-- Only a number with too many digits makes it fail. -/
theorem exists_setProperty?_eq_ok (stack : Stack) (name : String)
    (hshort : ∀ n, value = .number n → IsShort n) :
    ∃ adjusted?, stack.setProperty? name value = .ok adjusted? := by
  have hshown : ∃ shown, value.display? = some shown := by
    cases value with
    | text text => exact ⟨text, rfl⟩
    | number n =>
      exact ⟨.plain (decimal n), by simp [PropertyValue.display?, writeWhole?, hshort n rfl]⟩
    | flag flag => exact ⟨_, rfl⟩
  obtain ⟨shown, hshown⟩ := hshown
  unfold setProperty?
  cases Property.ofName? name with
  | none => exact ⟨none, rfl⟩
  | some property =>
    cases property with
    | scriptTextFont => exact ⟨_, by rw [hshown]⟩
    | userLevel | scriptTextSize | cantModify => exact ⟨_, rfl⟩

end Stack

/-! ### Setting a property at a desk -/

namespace Desk

variable {desk : Desk} {name : String} {value : PropertyValue} {adjusted : Stack}

/-- The event that tells of a property being set, once the stack is `adjusted`. -/
def settingEvent (name : String) (adjusted : Stack) : Event :=
  if caseFold (strip name) ∈ Property.spellings .userLevel then
    ⟨.userLevelChanged, decimal adjusted.userLevel⟩
  else ⟨.setProperty, name⟩

theorem setProperty_of_some (h : desk.stack.setProperty? name value = .ok (some adjusted)) :
    desk.setProperty name value =
      (.ok true, { desk with stack := adjusted }.log (settingEvent name adjusted).kind
        (settingEvent name adjusted).detail) := by
  unfold setProperty settingEvent
  simp only [← Property.ofName?_eq_some_iff]
  split_ifs with hlevel
  · obtain ⟨property, hname, hsets⟩ := Stack.setProperty?_eq_ok_some_iff.mp h
    obtain rfl : property = .userLevel := Option.some.inj (hname.symm.trans hlevel)
    cases hsets with
    | userLevel level hwhole hrange => simp [hwhole, setUserLevel, Stack.setUserLevel?, hrange]
  · rw [h]

/-! ### The font -/

theorem scriptTextFont_setUserLevel (desk : Desk) (level : Int) :
    (desk.setUserLevel level).2.stack.scriptTextFont = desk.stack.scriptTextFont := by
  unfold setUserLevel Stack.setUserLevel?
  split_ifs <;> rfl

theorem isTidy_setProperty (htidy : desk.stack.scriptTextFont.IsTidy) (name : String)
    (value : PropertyValue) : (desk.setProperty name value).2.stack.scriptTextFont.IsTidy := by
  by_cases haccepts : (desk.setProperty name value).1 = .ok true
  · obtain ⟨adjusted, hset⟩ := setProperty_fst_eq_ok_true_iff.mp haccepts
    obtain ⟨property, -, hsets⟩ := Stack.setProperty?_eq_ok_some_iff.mp hset
    rw [setProperty_of_some hset]
    exact hsets.isTidy htidy
  · rwa [setProperty_snd_of_refused haccepts]

/-- A restore takes the font as the snapshot has it, with blanks at its ends or not; every other
operation keeps a tidy font tidy. -/
theorem isTidy_operate (htidy : desk.stack.scriptTextFont.IsTidy) {operation : Operation}
    (hrestore : ∀ settings store, operation ≠ .restore settings store) :
    (desk.operate operation).stack.scriptTextFont.IsTidy := by
  have hkept {after : Desk} (hchanges : Changes desk after) :
      after.stack.scriptTextFont.IsTidy := by
    rwa [hchanges.scriptTextFont_eq]
  cases operation with
  | execute line => exact hkept (desk.changes_execute line)
  | openField name => exact hkept (desk.changes_openField name)
  | editFieldText text => exact hkept (desk.changes_editFieldText text)
  | closeField => exact hkept desk.changes_closeField
  | editScript buttonId script => exact hkept (desk.changes_editScript buttonId script)
  | renameCard name => exact hkept (desk.changes_renameCard name)
  | setUserLevel level => exact (desk.scriptTextFont_setUserLevel level).symm ▸ htidy
  | setProperty name value =>
    have hoperate : desk.operate (.setProperty name value) = (desk.setProperty name value).2 := rfl
    rw [hoperate]
    exact isTidy_setProperty htidy name value
  | selectTool name => exact hkept (desk.changes_selectTool name)
  | historyPrevious => exact hkept desk.changes_historyPrevious
  | historyNext => exact hkept desk.changes_historyNext
  | save settings store => exact htidy
  | restore settings store => exact absurd rfl (hrestore settings store)

theorem isTidy_run (htidy : desk.stack.scriptTextFont.IsTidy) {operations : List Operation}
    (hrestore : ∀ settings store, Operation.restore settings store ∉ operations) :
    (desk.run operations).stack.scriptTextFont.IsTidy := by
  induction operations generalizing desk with
  | nil => exact htidy
  | cons operation rest ih =>
    refine ih (isTidy_operate htidy ?_) fun settings store hmem ↦
      hrestore settings store (List.mem_cons_of_mem _ hmem)
    rintro settings store rfl
    exact hrestore settings store List.mem_cons_self

/-! ### Both ways -/

/-- What setting a property at a desk has in common with setting it on the stack, and what it logs
besides. -/
structure SetsAlike (desk : Desk) (name : String) (value : PropertyValue) : Prop where
  accepts : (desk.setProperty name value).1 = (desk.stack.setProperty? name value).map Option.isSome
  answers : (∀ n, value = .number n → IsShort n) →
    ∃ accepted, (desk.setProperty name value).1 = .ok accepted
  stack : (desk.setProperty name value).2.stack =
    (desk.stack.setProperty? name value).toOption.join.getD desk.stack
  /-- Nothing else changes in the session but for one event in its log. -/
  logged : (desk.setProperty name value).1 = .ok true →
    (desk.setProperty name value).2.session =
      desk.session.log (settingEvent name (desk.setProperty name value).2.stack).kind
        (settingEvent name (desk.setProperty name value).2.stack).detail
  refused : (desk.setProperty name value).1 ≠ .ok true → (desk.setProperty name value).2 = desk
  level : (desk.setProperty name value).1 = .ok true →
    caseFold (strip name) ∈ Property.spellings .userLevel →
    value.whole? = some (desk.setProperty name value).2.stack.userLevel
  inBounds : (desk.setProperty name value).2.stack.InBounds
  font : (desk.setProperty name value).1 = .ok true →
    caseFold (strip name) ∈ Property.spellings .scriptTextFont →
    value.display?.map WideText.strip = some (desk.setProperty name value).2.stack.scriptTextFont
  /-- A font that was set stays tidy for as long as no snapshot is restored. -/
  tidy : (desk.setProperty name value).1 = .ok true →
    caseFold (strip name) ∈ Property.spellings .scriptTextFont →
    ∀ later : List Operation, (∀ settings store, Operation.restore settings store ∉ later) →
      ((desk.setProperty name value).2.run later).stack.scriptTextFont.IsTidy

/-- Assumes: a stack within its bounds. -/
theorem setsAlike (hbounds : desk.stack.InBounds) (name : String) (value : PropertyValue) :
    desk.SetsAlike name value := by
  have haccepts := desk.setProperty_fst name value
  have hanswers (hshort : ∀ n, value = .number n → IsShort n) :
      ∃ accepted, (desk.setProperty name value).1 = .ok accepted := by
    obtain ⟨adjusted?, hset⟩ := desk.stack.exists_setProperty?_eq_ok name hshort
    exact ⟨adjusted?.isSome, by rw [haccepts, hset]; rfl⟩
  by_cases hverdict : (desk.setProperty name value).1 = .ok true
  · obtain ⟨adjusted, hset⟩ := setProperty_fst_eq_ok_true_iff.mp hverdict
    have hdone := setProperty_of_some hset
    obtain ⟨found, hfound, hadjusted⟩ := Stack.setProperty?_eq_ok_some_iff.mp hset
    have hsets {property : Property} (hname : caseFold (strip name) ∈ property.spellings) :
        desk.stack.Sets value property adjusted := by
      rw [Property.ofName?_eq_some_iff.mpr hname] at hfound
      exact Option.some.inj hfound ▸ hadjusted
    exact {
      accepts := haccepts
      answers := hanswers
      stack := by rw [hdone, hset]; rfl
      logged := fun _ ↦ by rw [hdone]; rfl
      refused := fun hrefused ↦ absurd hverdict hrefused
      level := fun _ hname ↦ by rw [hdone]; exact (hsets hname).whole?_eq
      inBounds := by rw [hdone]; exact hadjusted.inBounds hbounds
      font := fun _ hname ↦ by rw [hdone]; exact (hsets hname).display?_eq
      tidy := fun _ hname _ hrestore ↦ by
        rw [hdone]
        exact isTidy_run (hsets hname).isTidy_scriptTextFont hrestore }
  · have hsame := setProperty_snd_of_refused hverdict
    have hstack : (desk.stack.setProperty? name value).toOption.join = none := by
      rw [setProperty_fst_eq_ok_true_iff] at hverdict
      rcases hset : desk.stack.setProperty? name value with failure | _ | adjusted
      · rfl
      · rfl
      · exact absurd ⟨adjusted, hset⟩ hverdict
    exact {
      accepts := haccepts
      answers := hanswers
      stack := by rw [hsame, hstack]; rfl
      logged := fun hdone ↦ absurd hdone hverdict
      refused := fun _ ↦ hsame
      level := fun hdone _ ↦ absurd hdone hverdict
      inBounds := by rw [hsame]; exact hbounds
      font := fun hdone _ ↦ absurd hdone hverdict
      tidy := fun hdone _ _ _ ↦ absurd hdone hverdict }

/-- Assumes: a fresh desk on a stack within its bounds, and any operations after it. A property set
at the desk is accepted, is refused or fails exactly if that is so of the stack, and leaves the same
stack. -/
theorem setsAlike_run {base : Stack} {start : Desk} (hopen : open? base = some start)
    (hbounds : base.InBounds) (operations : List Operation) (name : String)
    (value : PropertyValue) : (start.run operations).SetsAlike name value := by
  have hsound := isSound_run hopen hbounds operations
  exact setsAlike ⟨hsound.userLevel, hsound.scriptTextSize⟩ name value

/-- A level between blanks, with a sign, an underscore and a digit of another script. -/
def looseLevel : PropertyValue :=
  .text " +0_\uff13\t"

theorem setsAlike_run_looseLevel :
    open? Stack.starter = some starter ∧ Stack.starter.InBounds ∧
      ((starter.run openedBesideFooter).setProperty " USER_Level\n" looseLevel).1 = .ok true ∧
      ((starter.run openedBesideFooter).setProperty
        " USER_Level\n" looseLevel).2.stack.userLevel = 3 ∧
      (starter.run openedBesideFooter).SetsAlike " USER_Level\n" looseLevel :=
  ⟨open?_starter, by decide, by decide +kernel, by decide +kernel,
    setsAlike_run open?_starter (by decide) _ _ _⟩

end Desk

end Cardfile
