import Cardfile.Text.Blank
import Cardfile.Text.Digit
import Cardfile.Text.Fold
import Mathlib.Data.List.TakeWhile

/-!
# Letter case and padding

A text is respelled when blanks at its ends are added or taken away and some of its letters `A` to
`Z` change their case (`Respelled`). All that is read off a single character is the same for a
letter in either case, or it is not about letters (`read_toLower`); so lowering the letters of a
text can be done before or after blanks are trimmed off it (`trim_map_toLower`), and it does not
matter to a comparison of names at all (`caseFold_lowered`).
-/

set_option autoImplicit false
set_option relaxedAutoImplicit false

namespace Cardfile.Text

/-! ### Characters -/

/-- The letters with a lower case that is another ASCII letter. -/
def capitals : List Char :=
  ['A', 'B', 'C', 'D', 'E', 'F', 'G', 'H', 'I', 'J', 'K', 'L', 'M', 'N', 'O', 'P', 'Q', 'R', 'S',
    'T', 'U', 'V', 'W', 'X', 'Y', 'Z']

theorem toLower_eq_self_or_mem (c : Char) : c.toLower = c ∨ c ∈ capitals := by
  by_cases hcapital : 65 ≤ c.toNat ∧ c.toNat ≤ 90
  · have hall : ∀ offset ∈ List.range 26, Char.ofNat (65 + offset) ∈ capitals := by decide
    have hoffset : c.toNat - 65 ∈ List.range 26 := by
      rw [List.mem_range]
      omega
    have hc : Char.ofNat (65 + (c.toNat - 65)) = c := by
      rw [Nat.add_sub_cancel' hcapital.1, Char.ofNat_toNat]
    exact Or.inr (hc ▸ hall _ hoffset)
  · refine Or.inl (dif_neg ?_)
    exact hcapital

/-- Assumes: a reading of characters that takes capitals for their lower case. -/
theorem read_toLower {α : Type} (read : Char → α)
    (h : capitals.map (fun c ↦ read c.toLower) = capitals.map read) (c : Char) :
    read c.toLower = read c := by
  rcases toLower_eq_self_or_mem c with hsame | hcapital
  · rw [hsame]
  · exact List.map_inj_left.mp h c hcapital

theorem isBlank_toLower (c : Char) : isBlank c.toLower = isBlank c :=
  read_toLower isBlank (by decide) c

theorem digitValue?_toLower (c : Char) : digitValue? c.toLower = digitValue? c :=
  read_toLower digitValue? (by decide) c

theorem isAnyDigit_toLower (c : Char) : isAnyDigit c.toLower = isAnyDigit c := by
  rw [isAnyDigit, digitValue?_toLower]
  rfl

theorem foldChar_toLower (c : Char) : foldChar c.toLower = foldChar c :=
  read_toLower foldChar (by decide) c

/-- The characters that are told apart from all others when a line is read. -/
def marks : List Char :=
  ['"', '\n', '-']

theorem quote_mem_marks : '"' ∈ marks := by simp [marks]

theorem break_mem_marks : '\n' ∈ marks := by simp [marks]

theorem minus_mem_marks : '-' ∈ marks := by simp [marks]

theorem toLower_bne {mark : Char} (hmark : mark ∈ marks) (c : Char) :
    (c.toLower != mark) = (c != mark) := by
  simp only [marks, List.mem_cons, List.not_mem_nil, or_false] at hmark
  rcases hmark with rfl | rfl | rfl
  · exact read_toLower (· != '"') (by decide) c
  · exact read_toLower (· != '\n') (by decide) c
  · exact read_toLower (· != '-') (by decide) c

theorem toLower_eq_iff {mark : Char} (hmark : mark ∈ marks) {c : Char} :
    c.toLower = mark ↔ c = mark := by
  have hbne := toLower_bne hmark c
  rwa [Bool.eq_iff_iff, bne_iff_ne, bne_iff_ne, not_iff_not] at hbne

/-! ### Texts -/

theorem dropWhile_map_toLower {inClass : Char → Bool}
    (h : ∀ c, inClass c.toLower = inClass c) (text : List Char) :
    (text.map Char.toLower).dropWhile inClass = (text.dropWhile inClass).map Char.toLower := by
  simp only [List.dropWhile_map, Function.comp_def, h]

theorem takeWhile_map_toLower {inClass : Char → Bool}
    (h : ∀ c, inClass c.toLower = inClass c) (text : List Char) :
    (text.map Char.toLower).takeWhile inClass = (text.takeWhile inClass).map Char.toLower := by
  simp only [List.takeWhile_map, Function.comp_def, h]

theorem all_isBlank_map_toLower (text : List Char) :
    (text.map Char.toLower).all isBlank = text.all isBlank := by
  simp only [List.all_map, Function.comp_def, isBlank_toLower]

theorem any_isBlank_map_toLower (c? : Option Char) :
    (c?.map Char.toLower).any isBlank = c?.any isBlank := by
  simp only [Option.any_map, isBlank_toLower]

section Mark

variable {mark : Char} (hmark : mark ∈ marks) (text : List Char)

include hmark

theorem head?_map_toLower_eq_iff :
    (text.map Char.toLower).head? = some mark ↔ text.head? = some mark := by
  rw [List.head?_map, Option.map_eq_some_iff]
  simp only [toLower_eq_iff hmark, exists_eq_right]

theorem getLast?_map_toLower_eq_iff :
    (text.map Char.toLower).getLast? = some mark ↔ text.getLast? = some mark := by
  rw [List.getLast?_map, Option.map_eq_some_iff]
  simp only [toLower_eq_iff hmark, exists_eq_right]

theorem contains_map_toLower :
    (text.map Char.toLower).contains mark = text.contains mark := by
  rw [Bool.eq_iff_iff, List.contains_iff_mem, List.contains_iff_mem, List.mem_map]
  simp only [toLower_eq_iff hmark, exists_eq_right]

end Mark

theorem trim_map_toLower (text : List Char) :
    trim (text.map Char.toLower) = (trim text).map Char.toLower := by
  simp only [trim, trimOf, dropWhile_map_toLower isBlank_toLower, ← List.map_reverse]

/-- A text with its letters `A` to `Z` in lower case. -/
def lowered (text : String) : String :=
  String.ofList (text.toList.map Char.toLower)

theorem lowered_ofList (text : List Char) :
    lowered (String.ofList text) = String.ofList (text.map Char.toLower) := by
  rw [lowered, String.toList_ofList]

theorem toList_lowered (text : String) : (lowered text).toList = text.toList.map Char.toLower :=
  String.toList_ofList

theorem caseFold_lowered (text : String) : caseFold (lowered text) = caseFold text := by
  have hfold : fold (text.toList.map Char.toLower) = fold text.toList := by
    simp only [fold, List.flatMap_map, foldChar_toLower]
  rw [caseFold, toList_lowered, hfold]
  rfl

theorem sameName_lowered (name other : String) :
    sameName name (lowered other) = sameName name other := by
  rw [sameName, caseFold_lowered]
  rfl

/-! ### Respelling -/

/-- A text that is another one with blanks around it. -/
def IsPadded (core text : List Char) : Prop :=
  ∃ before after, before.all isBlank = true ∧ after.all isBlank = true ∧
    text = before ++ core ++ after

/-- Two lines that differ in blanks at their ends. -/
def Repadded (line other : String) : Prop :=
  ∃ core, IsPadded core line.toList ∧ IsPadded core other.toList

/-- Two lines that differ in blanks at their ends and in the case of letters `A` to `Z`. -/
def Respelled (line other : String) : Prop :=
  ∃ core respelled, IsPadded core line.toList ∧ IsPadded respelled other.toList ∧
    respelled.map Char.toLower = core.map Char.toLower

variable {line other : String}

theorem IsPadded.trim_eq {core text : List Char} (h : IsPadded core text) :
    trim text = trim core := by
  obtain ⟨before, after, hbefore, hafter, rfl⟩ := h
  exact trimOf_append (List.all_eq_true.mp hbefore) (List.all_eq_true.mp hafter) core

theorem Repadded.strip_eq (h : Repadded line other) : strip other = strip line := by
  obtain ⟨core, hline, hother⟩ := h
  rw [strip, strip, hother.trim_eq, hline.trim_eq]

theorem Repadded.respelled (h : Repadded line other) : Respelled line other := by
  obtain ⟨core, hline, hother⟩ := h
  exact ⟨core, core, hline, hother, rfl⟩

theorem Respelled.lowered_strip_eq (h : Respelled line other) :
    lowered (strip other) = lowered (strip line) := by
  obtain ⟨core, respelled, hline, hother, hletters⟩ := h
  rw [strip, strip, lowered_ofList, lowered_ofList, hother.trim_eq, hline.trim_eq,
    ← trim_map_toLower, ← trim_map_toLower, hletters]

end Cardfile.Text
