import Cardfile.Proofs.Command.Putting

/-!
# Lines that get, answer and find

A line that gets is `get`, a gap and a reference to a field (`SpellsGet`). A line that answers or
finds is its keyword, a gap and an expression that stands on a single line (`SpellsAsking`). Among
the lines that do not end with a blank these and no others are recognised (`get?_eq_some_iff`,
`answer?_eq_some_iff`, `find?_eq_some_iff`), and they can be split in one way only: the gap is as
long as it can be.
-/

set_option autoImplicit false
set_option relaxedAutoImplicit false

namespace Cardfile.Command

open Text

variable {name expression front text line : List Char} {keyword : String} {command : Command}

/-! ### Texts that do not end with a blank -/

theorem EndsSolid.of_append (h : EndsSolid (front ++ text)) : EndsSolid text :=
  fun c hc ↦ h c (by rw [List.getLast?_append, hc]; rfl)

theorem EndsSolid.getLast?_ne (h : EndsSolid text) : text.getLast? ≠ some '\n' := by
  intro hbreak
  have hsolid : isBlank '\n' = false := h '\n' hbreak
  exact absurd hsolid (by decide)

theorem EndsSolid.dropLineEnd_eq (h : EndsSolid text) : dropLineEnd text = text := by
  rw [dropLineEnd, if_neg h.getLast?_ne]

theorem EndsSolid.all_isBlank_eq_false (h : EndsSolid text) (hne : text ≠ []) :
    text.all isBlank = false := by
  have hlast : isBlank (text.getLast hne) = false := h _ (List.getLast?_eq_some_getLast hne)
  exact List.all_eq_false.mpr ⟨_, List.getLast_mem hne, by rw [hlast]; exact Bool.false_ne_true⟩

theorem startsSolid_dropWhile (text : List Char) : StartsSolid (text.dropWhile isBlank) := by
  intro c hc
  have hstop := List.head?_dropWhile_not isBlank text
  rw [hc] at hstop
  simpa using hstop

theorem EndsSolid.trim_eq (h : EndsSolid text) : trim text = text.dropWhile isBlank := by
  have hsplit : text.takeWhile isBlank ++ text.dropWhile isBlank = text :=
    List.takeWhile_append_dropWhile
  have hends : EndsSolid (text.dropWhile isBlank) := by
    rw [← hsplit] at h
    exact h.of_append
  calc trim text = trim (text.takeWhile isBlank ++ text.dropWhile isBlank ++ []) := by
        rw [List.append_nil, hsplit]
    _ = trim (text.dropWhile isBlank) :=
        trimOf_append (fun _ ↦ List.mem_takeWhile_imp) (List.forall_mem_nil _) _
    _ = text.dropWhile isBlank := trim_eq_self (startsSolid_dropWhile text) hends

theorem endsSolid_strip (raw : String) : EndsSolid (strip raw).toList := by
  intro c hc
  rw [strip, String.toList_ofList] at hc
  exact getLast?_trimOf hc

/-! ### Lines that get -/

/-- A line that reads the field with a name. -/
inductive SpellsGet (name : List Char) : List Char → Prop
  | intro {get gap field : List Char} (hget : SpellsWord "get" get) (hgap : IsGap gap)
      (hfield : SpellsField name field) :
    SpellsGet name (get ++ gap ++ field)

theorem get?_eq_some_iff (hends : EndsSolid line) : get? line = some command ↔
    ∃ name, SpellsGet name line ∧ command = .get (String.ofList name) := by
  constructor
  · intro h
    obtain ⟨field, htaken, hrest⟩ := Option.bind_eq_some_iff.mp h
    obtain ⟨name, hname, hcommand⟩ := Option.bind_eq_some_iff.mp hrest
    obtain ⟨get, gap, hget, hgap, rfl⟩ := takeWordAndBlanks?_eq_some htaken
    cases hcommand
    have hfield := spellsField_of_fieldReference? hends.of_append.getLast?_ne hname
    exact ⟨name, .intro hget hgap hfield, rfl⟩
  · rintro ⟨name, ⟨hget, hgap, hfield⟩, rfl⟩
    rw [get?, takeWordAndBlanks?_append hget hgap hfield.startsSolid, Option.bind_eq_bind,
      Option.bind_some, hfield.fieldReference?_eq]
    rfl

/-! ### Lines that answer and find -/

/-- A keyword, and an expression after a gap. -/
inductive SpellsAsking (keyword : String) (expression : List Char) : List Char → Prop
  | intro {front gap : List Char} (hfront : SpellsWord keyword front) (hgap : IsGap gap)
      (hexpression : IsExpression expression) (hstarts : StartsSolid expression) :
    SpellsAsking keyword expression (front ++ (gap ++ expression))

theorem dropWhile_gap_append {gap : List Char} (hgap : IsGap gap)
    (hstarts : StartsSolid expression) : (gap ++ expression).dropWhile isBlank = expression := by
  rw [List.dropWhile_append_of_pos hgap.2, hstarts.dropWhile_eq]

/-- The expression has no blanks to trim, unless the line ends with one. -/
theorem SpellsAsking.isSolid (h : SpellsAsking keyword expression line) (hends : EndsSolid line) :
    StartsSolid expression ∧ EndsSolid expression := by
  cases h with
  | intro _ _ _ hstarts => exact ⟨hstarts, hends.of_append.of_append⟩

theorem argument?_eq_some_iff (hends : EndsSolid text) : argument? text = some expression ↔
    ∃ gap, IsGap gap ∧ IsExpression expression ∧ StartsSolid expression ∧
      text = gap ++ expression := by
  constructor
  · intro h
    have hne : text ≠ [] := by
      rintro rfl
      cases h
    have hsolid := hends.all_isBlank_eq_false hne
    simp only [argument?, hends.dropLineEnd_eq, hsolid, hends.trim_eq, Bool.false_eq_true,
      if_false] at h
    split_ifs at h with hline
    simp only [Bool.and_eq_true, Bool.not_eq_true', List.contains_eq_mem,
      decide_eq_false_iff_not] at hline
    obtain rfl := Option.some.inj h
    refine ⟨text.takeWhile isBlank, ⟨?_, fun _ ↦ List.mem_takeWhile_imp⟩, ⟨?_, hline.2⟩,
      startsSolid_dropWhile text, List.takeWhile_append_dropWhile.symm⟩
    · obtain ⟨first, rest, rfl⟩ := List.exists_cons_of_ne_nil hne
      have hfirst : isBlank first = true := hline.1
      rw [List.takeWhile_cons_of_pos hfirst]
      exact List.cons_ne_nil _ _
    · intro hnil
      rw [List.dropWhile_eq_nil_iff, ← List.all_eq_true, hsolid] at hnil
      cases hnil
  · rintro ⟨gap, hgap, hexpression, hstarts, rfl⟩
    have hne : gap ++ expression ≠ [] := List.append_ne_nil_of_left_ne_nil hgap.1 _
    have hsolid := hends.all_isBlank_eq_false hne
    have hdrop := dropWhile_gap_append hgap hstarts
    have hfirst : (gap ++ expression).head?.any isBlank = true := by
      obtain ⟨first, rest, rfl⟩ := List.exists_cons_of_ne_nil hgap.1
      exact hgap.2 first List.mem_cons_self
    simp only [argument?, hends.dropLineEnd_eq, hsolid, hends.trim_eq, Bool.false_eq_true,
      if_false, hdrop, hfirst]
    simp [hexpression.2]

/-- The rule with a keyword, whatever kind of command it gives. -/
theorem asking_eq_some_iff (hends : EndsSolid line) {say : String → Command} :
    (do return say (String.ofList (← argument? (← takeWord? keyword.toList line)))) =
      some command ↔
    ∃ expression, SpellsAsking keyword expression line ∧
      command = say (String.ofList expression) := by
  constructor
  · intro h
    obtain ⟨text, htaken, hrest⟩ := Option.bind_eq_some_iff.mp h
    obtain ⟨expression, hargument, hcommand⟩ := Option.bind_eq_some_iff.mp hrest
    obtain ⟨front, hfront, rfl⟩ := takeWord?_eq_some_iff.mp htaken
    obtain ⟨gap, hgap, hexpression, hstarts, rfl⟩ :=
      (argument?_eq_some_iff hends.of_append).mp hargument
    exact ⟨expression, .intro hfront hgap hexpression hstarts, (Option.some.inj hcommand).symm⟩
  · rintro ⟨expression, ⟨hfront, hgap, hexpression, hstarts⟩, rfl⟩
    rename_i front gap
    have htaken : takeWord? keyword.toList (front ++ (gap ++ expression)) =
        some (gap ++ expression) :=
      takeWord?_eq_some_iff.mpr ⟨front, hfront, rfl⟩
    have hargument : argument? (gap ++ expression) = some expression :=
      (argument?_eq_some_iff hends.of_append).mpr ⟨gap, hgap, hexpression, hstarts, rfl⟩
    simp only [htaken, hargument, Option.bind_eq_bind, Option.bind_some]
    rfl

theorem answer?_eq_some_iff (hends : EndsSolid line) : answer? line = some command ↔
    ∃ expression, SpellsAsking "answer" expression line ∧
      command = .answer (String.ofList expression) :=
  asking_eq_some_iff hends

theorem find?_eq_some_iff (hends : EndsSolid line) : find? line = some command ↔
    ∃ expression, SpellsAsking "find" expression line ∧
      command = .find (String.ofList expression) :=
  asking_eq_some_iff hends

end Cardfile.Command
