import Cardfile.Proofs.Desk.Brackets
import Cardfile.Proofs.Session.Cursor

/-!
# Refused operations

An operation is refused if it fails or says that it did nothing. Apart from the execution of a line
and the renaming of a card, every operation decides whether it can be carried out before it changes
anything, even if it changes the desk in several steps: opening a field closes another one, and a
property is first read, then checked and then logged. So if it is refused, it leaves the whole desk
as it was (`Desk.operate_of_refuses`).

A card is renamed before the event is written, and the event has the id of the card in it. If that
is too long to be written, the renaming fails, nothing is logged, and the card has its new name
(`Desk.operate_renameCard_of_refuses`). No other refusal changes anything
(`Desk.atomicButForNames_run`).

`Desk.Bars` lists the reasons for a refusal. They speak of the desk before the operation alone, and
on a desk that operations lead to there are no others (`Desk.refuses_iff_bars`).
-/

set_option autoImplicit false
set_option relaxedAutoImplicit false

namespace Cardfile

open Text

/-! ### Blank texts -/

theorem Text.trimOf_eq_nil_iff {α : Type} {inClass : α → Bool} {text : List α} :
    trimOf inClass text = [] ↔ text.all inClass = true := by
  constructor
  · intro hnil
    by_contra hall
    have hdrop : text.dropWhile inClass ≠ [] := by
      simpa [List.dropWhile_eq_nil_iff] using hall
    have hreverse : ∀ a ∈ text.dropWhile inClass, inClass a = true := by
      simpa [trimOf, List.dropWhile_eq_nil_iff] using hnil
    have hfirst := List.head_dropWhile_not inClass hdrop
    rw [hreverse _ (List.head_mem hdrop)] at hfirst
    cases hfirst
  · intro hall
    have hdrop : text.dropWhile inClass = [] := by
      simpa [List.dropWhile_eq_nil_iff] using hall
    simp [trimOf, hdrop]

theorem WideText.isEmpty_strip (text : WideText) : text.strip.isEmpty = text.isAllBlank := by
  rw [Bool.eq_iff_iff]
  cases text with
  | plain text =>
    show (Text.strip text).isEmpty = true ↔ text.toList.all isBlank = true
    rw [← trimOf_eq_nil_iff, String.isEmpty_iff, Text.strip, ← String.toList_inj,
      String.toList_ofList]
    rfl
  | halved codes =>
    show (trimOf isBlankCode codes).isEmpty = true ↔ codes.all isBlankCode = true
    rw [← trimOf_eq_nil_iff, List.isEmpty_iff]

/-! ### Properties -/

/-- The values that a property takes. -/
def Property.Takes : Property → PropertyValue → Prop
  | .userLevel, value => ∃ level, value.whole? = some level ∧ isUserLevel level = true
  | .scriptTextSize, value => ∃ size, value.whole? = some size ∧ 0 < size
  | .scriptTextFont, value => ∃ shown, value.display? = some shown ∧ shown.isAllBlank = false
  | .cantModify, _ => True

theorem Stack.exists_sets_iff {stack : Stack} {property : Property} {value : PropertyValue} :
    (∃ adjusted, stack.Sets value property adjusted) ↔ property.Takes value := by
  constructor
  · rintro ⟨adjusted, hsets⟩
    cases hsets with
    | userLevel level hwhole hlevel => exact ⟨level, hwhole, hlevel⟩
    | scriptTextSize size hwhole hsize => exact ⟨size, hwhole, hsize⟩
    | scriptTextFont shown hshown hfont =>
      exact ⟨shown, hshown, by rwa [← shown.isEmpty_strip]⟩
    | cantModify => exact trivial
  · intro htakes
    cases property with
    | userLevel =>
      obtain ⟨level, hwhole, hlevel⟩ := htakes
      exact ⟨_, .userLevel level hwhole hlevel⟩
    | scriptTextSize =>
      obtain ⟨size, hwhole, hsize⟩ := htakes
      exact ⟨_, .scriptTextSize size hwhole hsize⟩
    | scriptTextFont =>
      obtain ⟨shown, hshown, hblank⟩ := htakes
      exact ⟨_, .scriptTextFont shown hshown (by rwa [shown.isEmpty_strip])⟩
    | cantModify => exact ⟨_, .cantModify⟩

theorem Stack.exists_setProperty?_iff {stack : Stack} {name : String} {value : PropertyValue} :
    (∃ adjusted, stack.setProperty? name value = .ok (some adjusted)) ↔
      ∃ property, Property.ofName? name = some property ∧ property.Takes value := by
  simp only [setProperty?_eq_ok_some_iff]
  rw [exists_comm]
  simp only [exists_and_left, exists_sets_iff]

/-! ### Buttons and tools -/

theorem Stack.exists_buttonPlace? {stack : Stack} {card : Card} {button : Button} {buttonId : Int}
    (hcard : card ∈ stack.cards) (hbutton : button ∈ card.buttons) (hid : button.id = buttonId) :
    ∃ place, stack.buttonPlace? buttonId = some place := by
  have hholds : card.buttons.any (fun button ↦ button.id == buttonId) = true :=
    List.any_eq_true.mpr ⟨button, hbutton, by simpa using hid⟩
  have hsome : (stack.cards.findIdx? fun card ↦
      card.buttons.any fun button ↦ button.id == buttonId).isSome = true := by
    rw [List.findIdx?_isSome]
    exact List.any_eq_true.mpr ⟨card, hcard, hholds⟩
  obtain ⟨cardPlace, hplace⟩ := Option.isSome_iff_exists.mp hsome
  obtain ⟨hlt, hany, -⟩ := List.findIdx?_eq_some_iff_getElem.mp hplace
  have hfound : (stack.cards[cardPlace].buttons.findIdx? fun button ↦
      button.id == buttonId).isSome = true := by
    rw [List.findIdx?_isSome]
    exact hany
  obtain ⟨buttonPlace, hbuttonPlace⟩ := Option.isSome_iff_exists.mp hfound
  exact ⟨(cardPlace, buttonPlace), by simp [buttonPlace?, hplace, hlt, hbuttonPlace]⟩

theorem Stack.exists_findButton? {stack : Stack} {card : Card} {button : Button} {buttonId : Int}
    (hcard : card ∈ stack.cards) (hbutton : button ∈ card.buttons) (hid : button.id = buttonId) :
    ∃ found, stack.findButton? buttonId = some found := by
  have hmem : button ∈ stack.cards.flatMap (·.buttons) :=
    List.mem_flatMap.mpr ⟨card, hcard, hbutton⟩
  exact Option.isSome_iff_exists.mp (List.find?_isSome.mpr ⟨button, hmem, by simpa using hid⟩)

theorem Tool.ofName?_eq_none_iff {name : String} :
    Tool.ofName? name = none ↔ ∀ tool : Tool, tool.name ≠ name := by
  have hall (tool : Tool) : tool ∈ [browse, button, field] := by cases tool <;> decide
  simp only [ofName?, List.find?_eq_none, beq_iff_eq]
  exact ⟨fun h tool ↦ h tool (hall tool), fun h tool _ ↦ h tool⟩

namespace Desk

variable {desk : Desk} {card : Card}

/-- Whether an operation is refused: it fails, or it says that it did nothing. -/
def refuses (desk : Desk) : Operation → Bool
  | .execute line => !(desk.execute line).1.isOk
  | .openField name => !(desk.openField name).1.isOk
  | .editFieldText text => !(desk.editFieldText text).1.isOk
  | .closeField => !desk.closeField.1.isOk
  | .editScript buttonId script => !(desk.editScript buttonId script).1.isOk
  | .renameCard name => !(desk.renameCard name).1.isOk
  | .setUserLevel level => !(desk.setUserLevel level).1
  | .setProperty name value => (desk.setProperty name value).1 != .ok true
  | .selectTool name => !(desk.selectTool name).1
  | .historyPrevious => !desk.historyPrevious.1.isOk
  | .historyNext => !desk.historyNext.1.isOk
  | .save settings store => !(desk.save settings store).1
  | .restore settings store => !(desk.restore settings store).1

/-- The reasons for which a desk refuses an operation. Nothing stops a line from being recalled. -/
inductive Bars (desk : Desk) : Operation → Prop
  | noSuchField (name : String) (card : Card) (hcard : desk.currentCard? = some card)
      (hmissing : ∀ field ∈ card.fields, sameName field.name name = false) :
    Bars desk (.openField name)
  | lockedField (name : String) (card : Card) (field : TextField)
      (hcard : desk.currentCard? = some card) (hfield : card.findField? name = some field)
      (hlocked : field.lockText = true) :
    Bars desk (.openField name)
  | cantModify (name : String) (hcant : desk.stack.cantModify = true) :
    Bars desk (.openField name)
  | noOpenField (text : String) (hclosed : desk.session.editingFieldId = none) :
    Bars desk (.editFieldText text)
  | openFieldGone (text : String) (hgone : ¬ desk.OpenFieldHere) : Bars desk (.editFieldText text)
  | nothingToClose (hclosed : desk.session.editingFieldId = none) : Bars desk .closeField
  | noSuchButton (buttonId : Int) (script : String)
      (hmissing : ∀ card ∈ desk.stack.cards, ∀ button ∈ card.buttons, button.id ≠ buttonId) :
    Bars desk (.editScript buttonId script)
  | longId (name : String) (card : Card) (hcard : desk.currentCard? = some card)
      (hlong : ¬ IsShort card.id) :
    Bars desk (.renameCard name)
  | levelOutOfRange (level : Int) (hlevel : isUserLevel level = false) :
    Bars desk (.setUserLevel level)
  /-- No property has the name, or the one that has it does not take the value. -/
  | property (name : String) (value : PropertyValue)
      (htakes : ∀ property, Property.ofName? name = some property → ¬ property.Takes value) :
    Bars desk (.setProperty name value)
  | noSuchTool (name : String) (hmissing : ∀ tool : Tool, tool.name ≠ caseFold (strip name)) :
    Bars desk (.selectTool name)
  /-- The snapshot has no text, or the store does not take it. -/
  | unsaved (settings : Settings) (store : Store)
      (hstore : desk.snapshot.encode? = none ∨ store.outage store.calls.length .set = true) :
    Bars desk (.save settings store)
  /-- The store cannot be read, or holds nothing, or a text that is empty or no snapshot. -/
  | unrestored (settings : Settings) (store : Store)
      (hstore : ∀ text, (store.get (settings.snapshotKey desk.stack.name)).1 = .ok (some text) →
        text.isEmpty = true ∨ (Snapshot.decode text).value? = none) :
    Bars desk (.restore settings store)

/-! ### When an operation is refused -/

theorem isOk_eq_false_iff {ε α : Type} {result : Except ε α} :
    result.isOk = false ↔ ∃ failure, result = .error failure := by
  cases result <;> simp [Except.isOk, Except.toBool]

theorem isOk_openField (desk : Desk) (name : String) :
    (desk.openField name).1.isOk = (desk.openable name).isOk := by
  unfold openField
  cases desk.openable name <;> rfl

theorem isOk_openable (hcard : desk.currentCard? = some card) (name : String) :
    (desk.openable name).isOk =
      ((card.findField? name).any (!·.lockText) && !desk.stack.cantModify) := by
  unfold openable
  rw [hcard]
  dsimp only
  cases card.findField? name with
  | none => rfl
  | some field =>
    dsimp only
    split_ifs with hlocked hcant
    · simp [hlocked, Except.isOk, Except.toBool]
    · simp [hcant, Except.isOk, Except.toBool]
    · simp [hlocked, hcant, Except.isOk, Except.toBool]

theorem refuses_openField_iff (hcard : desk.currentCard? = some card) (name : String) :
    desk.refuses (.openField name) = true ↔ desk.Bars (.openField name) := by
  rw [refuses, isOk_openField, isOk_openable hcard]
  constructor
  · intro hrefused
    by_cases hcant : desk.stack.cantModify = true
    · exact .cantModify name hcant
    · cases hfield : card.findField? name with
      | none =>
        refine .noSuchField name card hcard fun field hmem ↦ ?_
        simpa using List.find?_eq_none.mp hfield field hmem
      | some field =>
        refine .lockedField name card field hcard hfield ?_
        simpa [hfield, hcant] using hrefused
  · intro hbars
    cases hbars with
    | noSuchField _ found hfound hmissing =>
      obtain rfl : found = card := Option.some.inj (hfound.symm.trans hcard)
      have hnone : found.findField? name = none := by
        rw [Card.findField?, List.find?_eq_none]
        intro field hmem
        simp [hmissing field hmem]
      simp [hnone]
    | lockedField _ found field hfound hfield hlocked =>
      obtain rfl : found = card := Option.some.inj (hfound.symm.trans hcard)
      simp [hfield, hlocked]
    | cantModify _ hcant => simp [hcant]

theorem refuses_editFieldText_iff (hcard : desk.currentCard? = some card) (text : String) :
    desk.refuses (.editFieldText text) = true ↔ desk.Bars (.editFieldText text) := by
  rw [refuses, Bool.not_eq_true', isOk_eq_false_iff]
  simp only [editFieldText_eq_error_iff hcard]
  constructor
  · rintro ⟨refusal, ⟨hclosed, -⟩ | ⟨hgone, -⟩⟩
    · exact .noOpenField text hclosed
    · exact .openFieldGone text hgone
  · intro hbars
    cases hbars with
    | noOpenField _ hclosed => exact ⟨_, Or.inl ⟨hclosed, rfl⟩⟩
    | openFieldGone _ hgone => exact ⟨_, Or.inr ⟨hgone, rfl⟩⟩

theorem refuses_closeField_iff (desk : Desk) :
    desk.refuses .closeField = true ↔ desk.Bars .closeField := by
  rw [refuses, Bool.not_eq_true', isOk_eq_false_iff, closeField_eq_error_iff]
  constructor
  · exact fun hclosed ↦ .nothingToClose hclosed
  · rintro ⟨⟩
    assumption

theorem refuses_editScript_iff (desk : Desk) (buttonId : Int) (script : String) :
    desk.refuses (.editScript buttonId script) = true ↔
      desk.Bars (.editScript buttonId script) := by
  rw [refuses, editScript]
  constructor
  · intro hrefused
    refine .noSuchButton buttonId script fun card hcard button hbutton hid ↦ ?_
    obtain ⟨place, hplace⟩ := Stack.exists_buttonPlace? hcard hbutton hid
    obtain ⟨found, hfound⟩ := Stack.exists_findButton? hcard hbutton hid
    rw [hplace, hfound] at hrefused
    cases hrefused
  · rintro ⟨⟩
    rename_i hmissing
    have hnone : desk.stack.findButton? buttonId = none := by
      rw [Stack.findButton?, List.find?_eq_none]
      intro button hbutton
      obtain ⟨card, hcard, hmem⟩ := List.mem_flatMap.mp hbutton
      simpa using hmissing card hcard button hmem
    rw [hnone]
    cases desk.stack.buttonPlace? buttonId <;> rfl

theorem refuses_renameCard (hcard : desk.currentCard? = some card) (name : String) :
    desk.refuses (.renameCard name) = true ↔ ¬ IsShort card.id := by
  obtain ⟨place, hplace⟩ := exists_currentPlace? hcard
  rw [refuses, renameCard_eq hplace hcard]
  split_ifs with hshort <;> simp [hshort, Except.isOk, Except.toBool]

theorem refuses_renameCard_iff (hcard : desk.currentCard? = some card) (name : String) :
    desk.refuses (.renameCard name) = true ↔ desk.Bars (.renameCard name) := by
  rw [refuses_renameCard hcard]
  constructor
  · exact .longId name card hcard
  · intro hbars
    cases hbars with
    | longId _ found hfound hlong =>
      obtain rfl : found = card := Option.some.inj (hfound.symm.trans hcard)
      exact hlong

theorem setUserLevel_fst (desk : Desk) (level : Int) :
    (desk.setUserLevel level).1 = (desk.stack.setUserLevel? level).isSome := by
  unfold setUserLevel
  cases desk.stack.setUserLevel? level <;> rfl

theorem refuses_setUserLevel_iff (desk : Desk) (level : Int) :
    desk.refuses (.setUserLevel level) = true ↔ desk.Bars (.setUserLevel level) := by
  have hlevel : (desk.setUserLevel level).1 = isUserLevel level := by
    rw [setUserLevel_fst, Stack.setUserLevel?]
    cases isUserLevel level <;> rfl
  rw [refuses, hlevel, Bool.not_eq_true']
  constructor
  · exact .levelOutOfRange level
  · rintro ⟨⟩
    assumption

/-- Setting a property at a desk fails, is refused and is accepted where that is so of the stack. -/
theorem setProperty_fst (desk : Desk) (name : String) (value : PropertyValue) :
    (desk.setProperty name value).1 = (desk.stack.setProperty? name value).map Option.isSome := by
  unfold setProperty
  split_ifs with hlevel
  · unfold Stack.setProperty?
    rw [hlevel]
    cases value.whole? with
    | none => rfl
    | some level => exact congrArg Except.ok (desk.setUserLevel_fst level)
  · rcases desk.stack.setProperty? name value with failure | _ | stack <;> rfl

theorem setProperty_fst_eq_ok_true_iff {name : String} {value : PropertyValue} :
    (desk.setProperty name value).1 = .ok true ↔
      ∃ adjusted, desk.stack.setProperty? name value = .ok (some adjusted) := by
  rw [setProperty_fst]
  rcases desk.stack.setProperty? name value with failure | _ | stack <;> simp [Except.map]

theorem refuses_setProperty_iff (desk : Desk) (name : String) (value : PropertyValue) :
    desk.refuses (.setProperty name value) = true ↔ desk.Bars (.setProperty name value) := by
  rw [refuses, bne_iff_ne, Ne, setProperty_fst_eq_ok_true_iff, Stack.exists_setProperty?_iff]
  push Not
  constructor
  · exact .property name value
  · rintro ⟨⟩
    assumption

theorem refuses_selectTool_iff (desk : Desk) (name : String) :
    desk.refuses (.selectTool name) = true ↔ desk.Bars (.selectTool name) := by
  have htool : desk.refuses (.selectTool name) = true ↔
      Tool.ofName? (caseFold (strip name)) = none := by
    cases hname : Tool.ofName? (caseFold (strip name)) with
    | none => simp [refuses, selectTool, hname]
    | some tool => simp [refuses, selectTool, hname]
  rw [htool, Tool.ofName?_eq_none_iff]
  constructor
  · exact .noSuchTool name
  · rintro ⟨⟩
    assumption

theorem refuses_save_iff (desk : Desk) (settings : Settings) (store : Store) :
    desk.refuses (.save settings store) = true ↔ desk.Bars (.save settings store) := by
  have hsaved : desk.refuses (.save settings store) = true ↔
      desk.snapshot.encode? = none ∨ store.outage store.calls.length .set = true := by
    rw [refuses, save, Store.saveSnapshot]
    cases hencoded : desk.snapshot.encode? with
    | none => simp
    | some text =>
      by_cases hdown : store.outage store.calls.length .set = true
      · simp [Store.set, Store.call, StoreCall.command, hdown]
      · simp [Store.set, Store.call, StoreCall.command, hdown]
  rw [hsaved]
  constructor
  · exact .unsaved settings store
  · rintro ⟨⟩
    assumption

theorem refuses_restore_iff (desk : Desk) (settings : Settings) (store : Store) :
    desk.refuses (.restore settings store) = true ↔ desk.Bars (.restore settings store) := by
  have hloaded : desk.refuses (.restore settings store) = true ↔
      ∀ text, (store.get (settings.snapshotKey desk.stack.name)).1 = .ok (some text) →
        text.isEmpty = true ∨ (Snapshot.decode text).value? = none := by
    rw [refuses, restore_eq, Store.loadSnapshot]
    rcases store.get (settings.snapshotKey desk.stack.name) with ⟨_ | _ | text, after⟩
    · simp
    · simp
    · by_cases hempty : text.isEmpty = true <;> simp [hempty, -String.isEmpty_iff]
  rw [hloaded]
  constructor
  · exact .unrestored settings store
  · rintro ⟨⟩
    assumption

/-- Assumes: a desk whose session fits its stack. Every operation but the execution of a line is
refused exactly if there is a reason. -/
theorem refuses_iff_bars (hfits : desk.session.Fits desk.stack) {operation : Operation}
    (hline : ∀ line, operation ≠ .execute line) :
    desk.refuses operation = true ↔ desk.Bars operation := by
  obtain ⟨card, hcard⟩ := exists_currentCard? hfits
  -- Recalling a line is never refused, so nothing bars it.
  have hnever {operation : Operation} (hdone : desk.refuses operation = false)
      (hfree : ¬ desk.Bars operation) : desk.refuses operation = true ↔ desk.Bars operation := by
    simp [hdone, hfree]
  cases operation with
  | execute line => exact absurd rfl (hline line)
  | openField name => exact refuses_openField_iff hcard name
  | editFieldText text => exact refuses_editFieldText_iff hcard text
  | closeField => exact desk.refuses_closeField_iff
  | editScript buttonId script => exact desk.refuses_editScript_iff buttonId script
  | renameCard name => exact refuses_renameCard_iff hcard name
  | setUserLevel level => exact desk.refuses_setUserLevel_iff level
  | setProperty name value => exact desk.refuses_setProperty_iff name value
  | selectTool name => exact desk.refuses_selectTool_iff name
  | historyPrevious =>
    obtain ⟨line, hrecalled⟩ := hfits.exists_historyPrevious_eq_ok
    refine hnever ?_ (by rintro ⟨⟩)
    rw [refuses, historyPrevious, hrecalled]
    rfl
  | historyNext =>
    obtain ⟨line, hrecalled⟩ := hfits.exists_historyNext_eq_ok
    refine hnever ?_ (by rintro ⟨⟩)
    rw [refuses, historyNext, hrecalled]
    rfl
  | save settings store => exact desk.refuses_save_iff settings store
  | restore settings store => exact desk.refuses_restore_iff settings store

/-! ### What a refused operation leaves -/

theorem setUserLevel_snd_of_refused {level : Int} (h : (desk.setUserLevel level).1 = false) :
    (desk.setUserLevel level).2 = desk := by
  rw [setUserLevel_fst, Option.isSome_eq_false_iff, Option.isNone_iff_eq_none] at h
  rw [setUserLevel, h]

/-- The level is set through an operation of its own, which is refused before it logs anything. -/
theorem setProperty_snd_of_refused {name : String} {value : PropertyValue}
    (h : (desk.setProperty name value).1 ≠ .ok true) : (desk.setProperty name value).2 = desk := by
  unfold setProperty at h ⊢
  split_ifs at h ⊢ with hlevel
  · cases hwhole : value.whole? with
    | none => rfl
    | some level =>
      rw [hwhole] at h
      refine setUserLevel_snd_of_refused (Bool.eq_false_iff.mpr fun hdone ↦ h ?_)
      exact congrArg Except.ok hdone
  · rcases hstack : desk.stack.setProperty? name value with failure | _ | stack
    · rfl
    · rfl
    · rw [hstack] at h
      exact absurd rfl h

/-- Assumes: a desk whose session fits its stack. An operation that is refused changes nothing, if
it names no card. -/
theorem operate_of_refuses (hfits : desk.session.Fits desk.stack) {operation : Operation}
    (hline : ∀ line, operation ≠ .execute line) (hname : ∀ name, operation ≠ .renameCard name)
    (hrefuses : desk.refuses operation = true) :
    desk.operate operation = desk := by
  cases operation with
  | execute line => exact absurd rfl (hline line)
  | openField name =>
    rw [refuses, isOk_openField, Bool.not_eq_true', isOk_eq_false_iff] at hrefuses
    obtain ⟨refusal, hrefused⟩ := hrefuses
    rw [operate, openField_of_refused hrefused]
  | editFieldText text =>
    rw [refuses] at hrefuses
    rcases desk.editFieldText_cases text with ⟨refusal, hrefused⟩ | ⟨place, field, -, hedited⟩
    · rw [operate, hrefused]
    · rw [hedited] at hrefuses
      cases hrefuses
  | closeField =>
    rw [refuses, closeField] at hrefuses
    rw [operate, closeField]
    split_ifs at hrefuses ⊢ with hopen
    · cases hrefuses
    · rfl
  | editScript buttonId script =>
    rw [refuses, editScript] at hrefuses
    rw [operate, editScript]
    split at hrefuses
    · cases hrefuses
    · rfl
  | renameCard name => exact absurd rfl (hname name)
  | setUserLevel level =>
    rw [refuses, Bool.not_eq_true'] at hrefuses
    exact setUserLevel_snd_of_refused hrefuses
  | setProperty name value =>
    rw [refuses, bne_iff_ne] at hrefuses
    exact setProperty_snd_of_refused hrefuses
  | selectTool name =>
    rw [refuses, selectTool] at hrefuses
    rw [operate, selectTool]
    cases htool : Tool.ofName? (caseFold (strip name)) with
    | none => rfl
    | some tool => simp [htool] at hrefuses
  | save settings store => rfl
  | restore settings store =>
    rw [refuses, restore_eq] at hrefuses
    rw [operate, restore_eq]
    cases hloaded : (store.loadSnapshot settings desk.stack.name).1 with
    | none => rfl
    | some snapshot => simp [hloaded] at hrefuses
  | historyPrevious | historyNext =>
    -- Nothing bars these.
    cases (refuses_iff_bars hfits hline).mp hrefuses

/-! ### Names that stay -/

/-- A renaming that is refused has given the card its name. -/
theorem operate_renameCard_of_refuses {place : Nat} (hplace : desk.currentPlace? = some place)
    (hcard : desk.currentCard? = some card) {name : String}
    (hrefuses : desk.refuses (.renameCard name) = true) :
    desk.operate (.renameCard name) = desk.withCardName place name := by
  have hlong := (refuses_renameCard hcard name).mp hrefuses
  rw [operate, renameCard_eq hplace hcard, if_neg hlong]

theorem withCardName_eq_self_iff {place : Nat} (hplace : desk.currentPlace? = some place)
    (hcard : desk.currentCard? = some card) {name : String} :
    desk.withCardName place name = desk ↔ card.name = name := by
  have hget := getElem?_of_currentPlace? hplace hcard
  constructor
  · intro hsame
    have hnamed : (desk.withCardName place name).stack.cards[place]? =
        some { card with name := name } := by
      simp [withCardName, Stack.modifyCard, hget]
    rw [hsame, hget] at hnamed
    exact congrArg Card.name (Option.some.inj hnamed)
  · rintro rfl
    have hcards : desk.stack.cards.modify place (fun other ↦ { other with name := card.name }) =
        desk.stack.cards := by
      refine List.ext_getElem? fun other ↦ ?_
      rw [List.getElem?_modify]
      split_ifs with hother
      · subst hother
        simp [hget]
      · simp
    simp [withCardName, Stack.modifyCard, hcards]

/-- The current card gets a new name, but its id is too long for the event. -/
inductive RenamesUnlogged (desk : Desk) : Operation → Prop
  | intro (name : String) (card : Card) (hcard : desk.currentCard? = some card)
      (hlong : ¬ IsShort card.id) (hnew : card.name ≠ name) :
    RenamesUnlogged desk (.renameCard name)

/-- An operation is carried out or changes nothing. -/
def Atomic (desk : Desk) (operation : Operation) : Prop :=
  desk.refuses operation = true → desk.operate operation = desk

theorem atomic_renameCard_iff (hcard : desk.currentCard? = some card) (name : String) :
    desk.Atomic (.renameCard name) ↔ ¬ desk.RenamesUnlogged (.renameCard name) := by
  obtain ⟨place, hplace⟩ := exists_currentPlace? hcard
  constructor
  · intro hatomic hrenames
    cases hrenames with
    | intro _ found hfound hlong hnew =>
      obtain rfl : found = card := Option.some.inj (hfound.symm.trans hcard)
      have hrefuses := (refuses_renameCard hcard name).mpr hlong
      have hsame := hatomic hrefuses
      rw [operate_renameCard_of_refuses hplace hcard hrefuses] at hsame
      exact hnew ((withCardName_eq_self_iff hplace hcard).mp hsame)
  · intro hkept hrefuses
    have hlong := (refuses_renameCard hcard name).mp hrefuses
    rw [operate_renameCard_of_refuses hplace hcard hrefuses, withCardName_eq_self_iff hplace hcard]
    by_contra hnew
    exact hkept (.intro name card hcard hlong hnew)

/-- What is known of the refusals of an operation. -/
structure AtomicButForNames (desk : Desk) (operation : Operation) : Prop where
  refuses_iff : desk.refuses operation = true ↔ desk.Bars operation
  atomic_iff : desk.Atomic operation ↔ ¬ desk.RenamesUnlogged operation
  session_eq : desk.refuses operation = true → (desk.operate operation).session = desk.session
  /-- A refused renaming changes the name of the current card and nothing else. -/
  renamed : ∀ name place, operation = .renameCard name → desk.currentPlace? = some place →
    desk.refuses operation = true → desk.operate operation = desk.withCardName place name

/-- Assumes: a desk whose session fits its stack, and an operation that executes no line. -/
theorem atomicButForNames (hfits : desk.session.Fits desk.stack) {operation : Operation}
    (hline : ∀ line, operation ≠ .execute line) : desk.AtomicButForNames operation := by
  obtain ⟨card, hcard⟩ := exists_currentCard? hfits
  obtain ⟨place, hplace⟩ := exists_currentPlace? hcard
  have hrefuses_iff := refuses_iff_bars hfits hline
  by_cases hname : ∃ name, operation = .renameCard name
  · obtain ⟨name, rfl⟩ := hname
    exact {
      refuses_iff := hrefuses_iff
      atomic_iff := atomic_renameCard_iff hcard name
      session_eq := fun hrefuses ↦ by rw [operate_renameCard_of_refuses hplace hcard hrefuses]; rfl
      renamed := by
        rintro _ _ ⟨⟩ hfound hrefuses
        exact operate_renameCard_of_refuses hfound hcard hrefuses }
  · have hother (name : String) : operation ≠ .renameCard name := fun hsame ↦ hname ⟨name, hsame⟩
    have hatomic : desk.Atomic operation := operate_of_refuses hfits hline hother
    exact {
      refuses_iff := hrefuses_iff
      atomic_iff := by
        refine iff_of_true hatomic ?_
        rintro ⟨name, -, -, -, -⟩
        exact hother name rfl
      session_eq := fun hrefuses ↦ by rw [hatomic hrefuses]
      renamed := fun name _ hsame ↦ absurd hsame (hother name) }

/-- Assumes: a fresh desk, any operations after it, and an operation that executes no line. It is
refused exactly if there is a reason, and then the whole desk stays as it was exactly if the current
card does not get a new name whose event cannot be written. Such a name is all that changes. -/
theorem atomicButForNames_run {base : Stack} {start : Desk} (hopen : open? base = some start)
    (operations : List Operation) {operation : Operation}
    (hline : ∀ line, operation ≠ .execute line) :
    (start.run operations).AtomicButForNames operation :=
  atomicButForNames (reached_run hopen operations).session hline

/-- On the last card a field is open, and the footer is locked. -/
def openedBesideFooter : List Operation :=
  [.execute "go last", .openField "Title"]

theorem atomicButForNames_run_openedBesideFooter :
    open? Stack.starter = some starter ∧ (∀ line, Operation.openField "FOOTER" ≠ .execute line) ∧
      (starter.run openedBesideFooter).session.editingFieldId = some 1005 ∧
      (starter.run openedBesideFooter).refuses (.openField "FOOTER") = true ∧
      (starter.run openedBesideFooter).operate (.openField "FOOTER") =
        starter.run openedBesideFooter := by
  have hline : ∀ line, Operation.openField "FOOTER" ≠ .execute line := by
    rintro line ⟨⟩
  have hatomic := atomicButForNames_run open?_starter openedBesideFooter hline
  have hrefuses : (starter.run openedBesideFooter).refuses (.openField "FOOTER") = true := by
    decide +kernel
  have hkept : ¬ (starter.run openedBesideFooter).RenamesUnlogged (.openField "FOOTER") := by
    rintro ⟨⟩
  exact ⟨open?_starter, hline, by decide +kernel, hrefuses, hatomic.atomic_iff.mpr hkept hrefuses⟩

/-- A stack of one card, whose id has one digit more than are written. -/
def numberedLong : Stack where
  name := "Numbers"
  cards := [{ id := 10 ^ digitLimit, name := "Long", backgroundId := 1 }]

/-- The renaming fails, and the card has the new name. -/
theorem not_atomic_numberedLong :
    open? numberedLong = some ⟨numberedLong, {}⟩ ∧
      (renameCard ⟨numberedLong, {}⟩ "Start").1 = .error .numberTooLong ∧
      (operate ⟨numberedLong, {}⟩ (.renameCard "Start")).stack.cards.map (·.name) = ["Start"] ∧
      ¬ Atomic ⟨numberedLong, {}⟩ (.renameCard "Start") := by
  have hlong : ¬ IsShort (10 ^ digitLimit) := by
    have hten : Int.natAbs 10 = 10 := rfl
    rw [isShort_iff, Int.natAbs_pow, hten]
    exact Nat.lt_irrefl _
  have hplace : currentPlace? ⟨numberedLong, {}⟩ = some 0 := rfl
  have hcard : currentCard? ⟨numberedLong, {}⟩ =
      some { id := 10 ^ digitLimit, name := "Long", backgroundId := 1 } := rfl
  have hrenamed := renameCard_eq hplace hcard "Start"
  rw [if_neg hlong] at hrenamed
  refine ⟨rfl, by rw [hrenamed], ?_, ?_⟩
  · rw [operate, hrenamed]
    rfl
  · rw [atomic_renameCard_iff hcard, not_not]
    exact .intro "Start" _ hcard hlong (by decide)

end Desk

end Cardfile
