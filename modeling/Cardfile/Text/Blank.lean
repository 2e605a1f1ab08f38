/-!
# Blank characters and trimming

`trim` removes the blanks at both ends of a text and nothing else (`exists_eq_append_trimOf`): what
it keeps neither starts nor ends with a blank (`head?_trimOf`, `getLast?_trimOf`).
-/

set_option autoImplicit false
set_option relaxedAutoImplicit false

namespace Cardfile.Text

/-- The blanks: tab to carriage return, the four information separators, the space, the next-line
control, and every Unicode space and line separator. -/
def isBlank (c : Char) : Bool :=
  let code := c.toNat
  (9 ≤ code && code ≤ 13) || (28 ≤ code && code ≤ 32) || code == 0x85 || code == 0xA0 ||
    code == 0x1680 || (0x2000 ≤ code && code ≤ 0x200A) || code == 0x2028 || code == 0x2029 ||
    code == 0x202F || code == 0x205F || code == 0x3000

/-- A row without the members of one class at its ends. -/
def trimOf {α : Type} (inClass : α → Bool) (text : List α) : List α :=
  ((text.dropWhile inClass).reverse.dropWhile inClass).reverse

def trim (text : List Char) : List Char :=
  trimOf isBlank text

/-- A text without the blanks at its ends. -/
def strip (text : String) : String :=
  String.ofList (trim text.toList)

def isAllBlank (text : String) : Bool :=
  text.toList.all isBlank

/-! ### What trimming leaves -/

theorem getLast?_trimOf {α : Type} {inClass : α → Bool} {text : List α} {c : α}
    (h : (trimOf inClass text).getLast? = some c) : inClass c = false := by
  have hstop := List.head?_dropWhile_not inClass (text.dropWhile inClass).reverse
  rw [trimOf, List.getLast?_reverse] at h
  rw [h] at hstop
  simpa using hstop

theorem trimOf_isPrefix {α : Type} (inClass : α → Bool) (text : List α) :
    trimOf inClass text <+: text.dropWhile inClass := by
  have hsuffix := List.dropWhile_suffix (l := (text.dropWhile inClass).reverse) inClass
  rw [← List.reverse_prefix, List.reverse_reverse] at hsuffix
  exact hsuffix

theorem head?_trimOf {α : Type} {inClass : α → Bool} {text : List α} {c : α}
    (h : (trimOf inClass text).head? = some c) : inClass c = false := by
  have hstop := List.head?_dropWhile_not inClass text
  obtain ⟨tail, htail⟩ := trimOf_isPrefix inClass text
  rw [← htail, List.head?_append, h] at hstop
  simpa using hstop

/-- Assumes: a text without a blank at either end. -/
theorem trim_eq_self {text : List Char} (hfirst : ∀ c, text.head? = some c → isBlank c = false)
    (hlast : ∀ c, text.getLast? = some c → isBlank c = false) : trim text = text := by
  have hdrop {row : List Char} (h : ∀ c, row.head? = some c → isBlank c = false) :
      row.dropWhile isBlank = row := by
    cases row with
    | nil => rfl
    | cons c rest => rw [List.dropWhile_cons_of_neg (by simp [h c rfl])]
  have hreverse : text.reverse.dropWhile isBlank = text.reverse :=
    hdrop fun c hc ↦ hlast c (by rwa [List.head?_reverse] at hc)
  rw [trim, trimOf, hdrop hfirst, hreverse, List.reverse_reverse]

theorem trim_trim (text : List Char) : trim (trim text) = trim text :=
  trim_eq_self (fun _ h ↦ head?_trimOf h) fun _ h ↦ getLast?_trimOf h

/-- A stripped text has no line end at its end. -/
theorem getLast?_strip_ne (text : String) : (strip text).toList.getLast? ≠ some '\n' := by
  intro hlast
  rw [strip, String.toList_ofList] at hlast
  exact absurd (getLast?_trimOf hlast) (by decide)

/-- What trimming takes away is in the class. -/
theorem exists_eq_append_trimOf {α : Type} (inClass : α → Bool) (text : List α) :
    ∃ before after, (∀ c ∈ before, inClass c = true) ∧ (∀ c ∈ after, inClass c = true) ∧
      text = before ++ trimOf inClass text ++ after := by
  have hmem {row : List α} : ∀ c ∈ row.takeWhile inClass, inClass c = true := fun c hc ↦
    List.all_eq_true.mp List.all_takeWhile c hc
  refine ⟨text.takeWhile inClass, ((text.dropWhile inClass).reverse.takeWhile inClass).reverse,
    hmem, fun c hc ↦ hmem c (List.mem_reverse.mp hc), ?_⟩
  rw [trimOf, List.append_assoc, ← List.reverse_append, List.takeWhile_append_dropWhile,
    List.reverse_reverse, List.takeWhile_append_dropWhile]

/-- Members of the class at the ends of a row make no difference to trimming. -/
theorem trimOf_append {α : Type} {inClass : α → Bool} {before after : List α}
    (hbefore : ∀ c ∈ before, inClass c = true) (hafter : ∀ c ∈ after, inClass c = true)
    (text : List α) : trimOf inClass (before ++ text ++ after) = trimOf inClass text := by
  have hreverse : ∀ c ∈ after.reverse, inClass c = true := fun c hc ↦
    hafter c (List.mem_reverse.mp hc)
  rw [trimOf, trimOf, List.append_assoc, List.dropWhile_append_of_pos hbefore,
    List.dropWhile_append]
  split
  · next hempty =>
    have hnil : after.dropWhile inClass = [] := by
      simpa using @List.dropWhile_append_of_pos _ inClass after [] hafter
    rw [hnil, List.isEmpty_iff.mp hempty]
  · rw [List.reverse_append, List.dropWhile_append_of_pos hreverse]

end Cardfile.Text
