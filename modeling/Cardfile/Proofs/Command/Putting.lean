import Cardfile.Proofs.Command.Rules
import Mathlib.Data.List.DropRight

/-!
# Lines that put

A line that puts is `put`, an expression on a single line and a clause `into field "name"`, perhaps
with the word `card` before `field`, with gaps between them (`SpellsPut`). Among the lines without a
line end at their end these and no others are recognised (`put?_eq_some_iff`).

Blanks, quotes and the words of the clause may all stand in the expression, so a line can be split
in several ways. They agree in the name, and in the expression but for the blanks at its ends
(`SpellsPut.unique`), because a line ends with one clause only (`SpellsInto.unique`): the name is
what stands between the last two quotes, and the words before it are told apart from the end.
-/

set_option autoImplicit false
set_option relaxedAutoImplicit false

namespace Cardfile.Command

open Text

variable {name other expression second text front before after line : List Char}

/-! ### Fields -/

/-- A reference to a field: `field "name"`, perhaps with the word `card` before it. -/
inductive SpellsField (name : List Char) : List Char → Prop
  | intro {clause field space : List Char} (hclause : IsClause "card" clause)
      (hfield : SpellsWord "field" field) (hspace : IsGap space) (hname : '"' ∉ name) :
    SpellsField name (clause ++ (field ++ space ++ ('"' :: (name ++ ['"']))))

/-- The clause that names the field to put into. -/
inductive SpellsInto (name : List Char) : List Char → Prop
  | intro {into gap field : List Char} (hinto : SpellsWord "into" into) (hgap : IsGap gap)
      (hfield : SpellsField name field) :
    SpellsInto name (into ++ gap ++ field)

theorem SpellsField.fieldReference?_eq (h : SpellsField name text) :
    fieldReference? text = some name := by
  obtain ⟨hclause, hfield, hspace, hname⟩ := h
  rename_i clause field space
  have hskip := skipWord_append hclause hfield isSolid_field (by decide)
    (space ++ ('"' :: (name ++ ['"'])))
  rw [← List.append_assoc field] at hskip
  rw [fieldReference?, hskip, takeWordAndBlanks?_append hfield hspace startsSolid_quoted]
  exact quotedName?_quoted hname rfl

/-- Only a reference to a field is read as one, unless a line end follows it. -/
theorem spellsField_of_fieldReference? (hlast : text.getLast? ≠ some '\n')
    (h : fieldReference? text = some name) : SpellsField name text := by
  obtain ⟨clause, hclause, htext⟩ := exists_isClause_skipWord "card" text
  obtain ⟨quoted, hquoted, hread⟩ := Option.bind_eq_some_iff.mp h
  obtain ⟨field, space, hfield, hspace, hskip⟩ := takeWordAndBlanks?_eq_some hquoted
  obtain ⟨hname, tail, hend, rfl⟩ := exists_of_quotedName? hread
  rw [hskip] at htext
  obtain rfl : tail = [] := by
    refine eq_nil_of_isEnd (clause ++ (field ++ space ++ ('"' :: (name ++ ['"'])))) hend ?_
    simpa [htext] using hlast
  rw [htext]
  exact .intro hclause hfield hspace hname

theorem SpellsField.startsSolid (h : SpellsField name text) : StartsSolid text := by
  obtain ⟨hclause, hfield, hspace, hname⟩ := h
  rw [List.append_assoc]
  exact hclause.startsSolid isSolid_card (hfield.startsSolid isSolid_field _)

theorem SpellsField.getLast?_eq (h : SpellsField name text) : text.getLast? = some '"' := by
  obtain ⟨hclause, hfield, hspace, hname⟩ := h
  simp [List.getLast?_cons]

theorem SpellsInto.getLast?_append (h : SpellsInto name text) (front : List Char) :
    (front ++ text).getLast? = some '"' := by
  obtain ⟨hinto, hgap, hfield⟩ := h
  rw [List.getLast?_append, List.getLast?_append, hfield.getLast?_eq]
  rfl

theorem SpellsInto.intoClause?_eq (h : SpellsInto name text) : intoClause? text = some name := by
  obtain ⟨hinto, hgap, hfield⟩ := h
  rw [intoClause?, takeWordAndBlanks?_append hinto hgap hfield.startsSolid]
  exact hfield.fieldReference?_eq

theorem spellsInto_of_intoClause? (hlast : text.getLast? ≠ some '\n')
    (h : intoClause? text = some name) : SpellsInto name text := by
  obtain ⟨field, hinto, hread⟩ := Option.bind_eq_some_iff.mp h
  obtain ⟨into, gap, hword, hgap, rfl⟩ := takeWordAndBlanks?_eq_some hinto
  have hne : field ≠ [] := by
    rintro rfl
    cases hread
  rw [List.getLast?_append_of_ne_nil _ hne] at hlast
  exact .intro hword hgap (spellsField_of_fieldReference? hlast hread)

/-! ### Reading from the end -/

/-- Where a text stops being outside a class for good is told by the text. -/
theorem append_inj_of_last {α : Type} {inClass : α → Bool} {front other back rest : List α}
    (hfront : ∀ c, front.getLast? = some c → inClass c = false)
    (hother : ∀ c, other.getLast? = some c → inClass c = false)
    (hback : ∀ c ∈ back, inClass c = true) (hrest : ∀ c ∈ rest, inClass c = true)
    (h : front ++ back = other ++ rest) : front = other ∧ back = rest := by
  have hkept {front back : List α} (hfront : ∀ c, front.getLast? = some c → inClass c = false)
      (hback : ∀ c ∈ back, inClass c = true) : (front ++ back).rdropWhile inClass = front := by
    have hself : front.rdropWhile inClass = front := by
      rw [List.rdropWhile_eq_self_iff]
      intro hne
      simp [hfront _ (List.getLast?_eq_some_getLast hne)]
    rw [List.rdropWhile, List.reverse_append,
      List.dropWhile_append_of_pos fun c hc ↦ hback c (List.mem_reverse.mp hc)]
    exact hself
  have hsame : front = other := by
    rw [← hkept hfront hback, h, hkept hother hrest]
  subst hsame
  exact ⟨rfl, List.append_cancel_left h⟩

/-- A word with a gap after it is told from the end of a text, as far as its length is known. -/
theorem append_word_gap_inj {word other : String} {before after front second gap space : List Char}
    (hfront : SpellsWord word front) (hsecond : SpellsWord other second) (hword : IsSolid word)
    (hother : IsSolid other) (hlength : word.toList.length = other.toList.length)
    (hgap : IsGap gap) (hspace : IsGap space)
    (h : before ++ front ++ gap = after ++ second ++ space) :
    before = after ∧ front = second := by
  obtain ⟨hwords, -⟩ := append_inj_of_last (hfront.endsSolid hword before)
    (hsecond.endsSolid hother after) hgap.2 hspace.2 h
  have hlengths : front.length = second.length := by
    rw [hfront.length_eq, hsecond.length_eq, hlength]
  exact List.append_inj' hwords hlengths

/-- The word `into` and an optional word `card` are told from the end of a text. -/
theorem append_into_clause_inj {into other gap space clause second : List Char}
    (hinto : SpellsWord "into" into) (hother : SpellsWord "into" other) (hgap : IsGap gap)
    (hspace : IsGap space) (hclause : IsClause "card" clause) (hsecond : IsClause "card" second)
    (h : before ++ into ++ gap ++ clause = after ++ other ++ space ++ second) : before = after := by
  have hapart {card into : List Char} (hcard : SpellsWord "card" card)
      (hinto : SpellsWord "into" into) : card ≠ into := by
    rintro rfl
    exact absurd (hcard.symm.trans hinto) (by decide)
  rcases hclause with rfl | ⟨card, cardGap, hcard, hcardGap, rfl⟩
  · rcases hsecond with rfl | ⟨second, secondGap, hsecond, hsecondGap, rfl⟩
    · simp only [List.append_nil] at h
      exact (append_word_gap_inj hinto hother isSolid_into isSolid_into rfl hgap hspace h).1
    · rw [List.append_nil, ← List.append_assoc] at h
      have hwords := append_word_gap_inj hinto hsecond isSolid_into isSolid_card rfl hgap
        hsecondGap h
      exact absurd hwords.2.symm (hapart hsecond hinto)
  · rw [← List.append_assoc] at h
    rcases hsecond with rfl | ⟨second, secondGap, hsecond, hsecondGap, rfl⟩
    · rw [List.append_nil] at h
      have hwords := append_word_gap_inj hcard hother isSolid_card isSolid_into rfl hcardGap
        hspace h
      exact absurd hwords.2 (hapart hcard hother)
    · rw [← List.append_assoc] at h
      have hwords := append_word_gap_inj hcard hsecond isSolid_card isSolid_card rfl hcardGap
        hsecondGap h
      exact (append_word_gap_inj hinto hother isSolid_into isSolid_into rfl hgap hspace hwords.1).1

/-- A text ends with one clause that names a field to put into. -/
theorem SpellsInto.unique {clause rest : List Char} (h : SpellsInto name clause)
    (hother : SpellsInto other rest) (htext : before ++ clause = after ++ rest) :
    before = after ∧ name = other := by
  have hquote (text : List Char) :
      ∀ c, (text ++ ['"']).getLast? = some c → (c != '"') = false := by
    intro c hc
    obtain rfl : '"' = c := by simpa using hc
    rfl
  obtain ⟨hinto, hgap, hfieldName⟩ := h
  obtain ⟨hcard, hfield, hspace, hname⟩ := hfieldName
  obtain ⟨hinto', hgap', hfieldName'⟩ := hother
  obtain ⟨hcard', hfield', hspace', hname'⟩ := hfieldName'
  rename_i into gap card field space into' gap' card' field' space'
  have hquoted : before ++ into ++ gap ++ card ++ field ++ space ++ ['"'] ++ name =
      after ++ into' ++ gap' ++ card' ++ field' ++ space' ++ ['"'] ++ other := by
    refine (List.append_left_inj ['"']).mp ?_
    simpa using htext
  obtain ⟨hbefore, rfl⟩ := append_inj_of_last (hquote _) (hquote _) (bne_quote hname)
    (bne_quote hname') hquoted
  have hwords := append_word_gap_inj hfield hfield' isSolid_field isSolid_field rfl hspace hspace'
    (List.append_cancel_right hbefore)
  exact ⟨append_into_clause_inj hinto hinto' hgap hgap' hcard hcard' hwords.1, rfl⟩

/-- The clause is found where the line is split. -/
theorem exists_of_splitInto? (h : splitInto? text = some (front, name)) :
    ∃ clause, text = front ++ clause ∧ intoClause? clause = some name := by
  induction text generalizing front with
  | nil => cases h
  | cons c rest ih =>
    rw [splitInto?] at h
    cases hclause : intoClause? (c :: rest) with
    | some found =>
      rw [hclause] at h
      cases h
      exact ⟨c :: rest, rfl, hclause⟩
    | none =>
      rw [hclause] at h
      obtain ⟨⟨kept, found⟩, hsplit, hfound⟩ := Option.map_eq_some_iff.mp h
      cases hfound
      obtain ⟨clause, hrest, hread⟩ := ih hsplit
      exact ⟨clause, by rw [hrest, List.cons_append], hread⟩

theorem isSome_splitInto? {clause : List Char} (hclause : (intoClause? clause).isSome = true)
    (front : List Char) : (splitInto? (front ++ clause)).isSome = true := by
  have hhere {clause : List Char} (hclause : (intoClause? clause).isSome = true) :
      (splitInto? clause).isSome = true := by
    cases clause with
    | nil => cases hclause
    | cons c rest =>
      obtain ⟨name, hname⟩ := Option.isSome_iff_exists.mp hclause
      rw [splitInto?, hname]
      rfl
  induction front with
  | nil => exact hhere hclause
  | cons c rest ih =>
    by_cases hearlier : (intoClause? (c :: (rest ++ clause))).isSome = true
    · exact hhere hearlier
    · rw [List.cons_append, splitInto?, Option.not_isSome_iff_eq_none.mp hearlier]
      simpa using ih

/-- A text that ends with a clause is split there. -/
theorem SpellsInto.splitInto?_append {clause : List Char} (h : SpellsInto name clause)
    (front : List Char) : splitInto? (front ++ clause) = some (front, name) := by
  have hsome := isSome_splitInto? (Option.isSome_of_eq_some h.intoClause?_eq) front
  obtain ⟨⟨found, other⟩, hfound⟩ := Option.isSome_iff_exists.mp hsome
  obtain ⟨rest, htext, hread⟩ := exists_of_splitInto? hfound
  have hlast : rest.getLast? ≠ some '\n' := by
    have hne : rest ≠ [] := by
      rintro rfl
      cases hread
    rw [← List.getLast?_append_of_ne_nil found hne, ← htext, h.getLast?_append]
    decide
  obtain ⟨rfl, rfl⟩ := h.unique (spellsInto_of_intoClause? hlast hread) htext
  exact hfound

/-! ### Expressions between gaps -/

/-- An expression of at least one character on a single line. -/
def IsExpression (text : List Char) : Prop :=
  text ≠ [] ∧ '\n' ∉ text

theorem trim_subset (text : List Char) : ∀ c ∈ trim text, c ∈ text := by
  obtain ⟨before, after, -, -, htext⟩ := exists_eq_append_trimOf isBlank text
  intro c hc
  rw [htext]
  exact List.mem_append_left _ (List.mem_append_right _ hc)

theorem trim_eq_nil_iff : trim text = [] ↔ ∀ c ∈ text, isBlank c = true := by
  constructor
  · intro hnil
    obtain ⟨before, after, hbefore, hafter, htext⟩ := exists_eq_append_trimOf isBlank text
    have hnone : trimOf isBlank text = [] := hnil
    rw [htext, hnone, List.append_nil]
    exact List.forall_mem_append.mpr ⟨hbefore, hafter⟩
  · intro hblank
    simpa [trim, trimOf] using trimOf_append hblank (List.forall_mem_nil _) []

/-- Within a blank text any character but a line end makes an expression. -/
theorem exists_enclosed_of_blank (hblank : ∀ c ∈ text, isBlank c = true)
    (hany : (text.drop 1).dropLast.any (· != '\n') = true) :
    ∃ before expression after, IsGap before ∧ IsExpression expression ∧ IsGap after ∧
      text = before ++ expression ++ after ∧ trim expression = [] := by
  obtain ⟨c, hc, hbreak⟩ := List.any_eq_true.mp hany
  cases text with
  | nil => cases hc
  | cons first rest =>
    obtain ⟨middle, last, rfl⟩ : ∃ middle last, rest = middle ++ [last] :=
      (List.eq_nil_or_concat' rest).resolve_left (by rintro rfl; cases hc)
    obtain ⟨left, right, rfl⟩ := List.append_of_mem (by simpa using hc : c ∈ middle)
    have htext : first :: (left ++ c :: right ++ [last]) =
        (first :: left) ++ [c] ++ (right ++ [last]) := by simp
    rw [htext, List.forall_mem_append, List.forall_mem_append] at hblank
    obtain ⟨⟨hbefore, hinside⟩, hafter⟩ := hblank
    have hexpression : IsExpression [c] := by
      refine ⟨List.cons_ne_nil _ _, fun hmem ↦ ?_⟩
      rw [← List.mem_singleton.mp hmem] at hbreak
      exact absurd hbreak (by decide)
    exact ⟨first :: left, [c], right ++ [last], ⟨List.cons_ne_nil _ _, hbefore⟩, hexpression,
      ⟨List.append_ne_nil_of_right_ne_nil _ (List.cons_ne_nil _ _), hafter⟩, htext,
      trim_eq_nil_iff.mpr hinside⟩

/-- A text with blanks at both ends that is not all blank is trimmed of a gap at each end. -/
theorem exists_gaps_of_solid (hsolid : trim text ≠ []) (hfirst : text.head?.any isBlank = true)
    (hlast : text.getLast?.any isBlank = true) :
    ∃ before after, IsGap before ∧ IsGap after ∧ text = before ++ trim text ++ after := by
  obtain ⟨before, after, hbefore, hafter, (htext : text = before ++ trim text ++ after)⟩ :=
    exists_eq_append_trimOf isBlank text
  refine ⟨before, after, ⟨?_, hbefore⟩, ⟨?_, hafter⟩, htext⟩
  · rintro rfl
    obtain ⟨c, hc, hblank⟩ := (Option.any_eq_true _ _).mp hfirst
    rw [htext, List.nil_append] at hc
    have hhead : (trim text).head? = some c := by
      rwa [List.head?_append_of_ne_nil _ hsolid] at hc
    simp [head?_trimOf hhead] at hblank
  · rintro rfl
    obtain ⟨c, hc, hblank⟩ := (Option.any_eq_true _ _).mp hlast
    rw [htext, List.append_nil] at hc
    have hend : (trim text).getLast? = some c := by
      rwa [List.getLast?_append_of_ne_nil _ hsolid] at hc
    simp [getLast?_trimOf hend] at hblank

theorem enclosed?_of_blank (hblank : trim text = []) {c : Char}
    (hc : c ∈ (text.drop 1).dropLast) (hbreak : c ≠ '\n') : enclosed? text = some [] := by
  have hall : text.all isBlank = true := List.all_eq_true.mpr (trim_eq_nil_iff.mp hblank)
  have hany : (text.drop 1).dropLast.any (· != '\n') = true :=
    List.any_eq_true.mpr ⟨c, hc, bne_iff_ne.mpr hbreak⟩
  rw [enclosed?, if_pos hall, if_pos hany]

theorem enclosed?_of_solid (hsolid : trim text ≠ []) (hfirst : text.head?.any isBlank = true)
    (hlast : text.getLast?.any isBlank = true) (hbreak : '\n' ∉ trim text) :
    enclosed? text = some (trim text) := by
  have hall : ¬ text.all isBlank = true := fun hall ↦
    hsolid (trim_eq_nil_iff.mpr (List.all_eq_true.mp hall))
  have hends : (text.head?.any isBlank && text.getLast?.any isBlank &&
      !(trim text).contains '\n') = true := by
    simpa [hfirst, hlast] using hbreak
  rw [enclosed?, if_neg hall, if_pos hends]

theorem mem_dropLast_of_mem (hbefore : before ≠ []) (hafter : after ≠ []) {c : Char}
    (hc : c ∈ expression) : c ∈ ((before ++ expression ++ after).drop 1).dropLast := by
  obtain ⟨first, rest, rfl⟩ := List.exists_cons_of_ne_nil hbefore
  obtain ⟨middle, last, rfl⟩ := (List.eq_nil_or_concat' after).resolve_left hafter
  have hinside : ((first :: rest ++ expression ++ (middle ++ [last])).drop 1).dropLast =
      rest ++ expression ++ middle := by
    rw [← List.append_assoc, List.cons_append, List.cons_append, List.cons_append,
      List.drop_one, List.tail_cons, List.dropLast_concat]
  rw [hinside]
  exact List.mem_append_left _ (List.mem_append_right _ hc)

theorem enclosed?_append (hbefore : IsGap before) (hexpression : IsExpression expression)
    (hafter : IsGap after) :
    enclosed? (before ++ expression ++ after) = some (trim expression) := by
  have htrim : trim (before ++ expression ++ after) = trim expression :=
    trimOf_append hbefore.2 hafter.2 expression
  by_cases hblank : trim expression = []
  · obtain ⟨c, hc⟩ := List.exists_mem_of_ne_nil expression hexpression.1
    have hbreak : c ≠ '\n' := fun heq ↦ hexpression.2 (heq ▸ hc)
    rw [hblank]
    exact enclosed?_of_blank (htrim.trans hblank) (mem_dropLast_of_mem hbefore.1 hafter.1 hc) hbreak
  · have hfirst : (before ++ expression ++ after).head?.any isBlank = true := by
      obtain ⟨first, rest, rfl⟩ := List.exists_cons_of_ne_nil hbefore.1
      exact hbefore.2 first List.mem_cons_self
    have hlast : (before ++ expression ++ after).getLast?.any isBlank = true := by
      obtain ⟨middle, last, rfl⟩ := (List.eq_nil_or_concat' after).resolve_left hafter.1
      rw [← List.append_assoc, List.getLast?_concat]
      exact hafter.2 last (List.mem_append_right _ List.mem_cons_self)
    rw [← htrim] at hblank ⊢
    refine enclosed?_of_solid hblank hfirst hlast fun hmem ↦ hexpression.2 ?_
    rw [htrim] at hmem
    exact trim_subset expression '\n' hmem

/-- An expression is what stands between two gaps. -/
theorem enclosed?_eq_some_iff {inner : List Char} : enclosed? text = some inner ↔
    ∃ before expression after, IsGap before ∧ IsExpression expression ∧ IsGap after ∧
      text = before ++ expression ++ after ∧ inner = trim expression := by
  constructor
  · intro h
    unfold enclosed? at h
    split_ifs at h with hblank hany hends
    · obtain rfl := Option.some.inj h
      obtain ⟨before, expression, after, hbefore, hexpression, hafter, htext, htrim⟩ :=
        exists_enclosed_of_blank (List.all_eq_true.mp hblank) hany
      exact ⟨before, expression, after, hbefore, hexpression, hafter, htext, htrim.symm⟩
    · obtain rfl := Option.some.inj h
      simp only [Bool.and_eq_true, Bool.not_eq_true', List.contains_eq_mem,
        decide_eq_false_iff_not] at hends
      obtain ⟨⟨hfirst, hlast⟩, hbreak⟩ := hends
      have hsolid : trim text ≠ [] := fun hnil ↦
        hblank (List.all_eq_true.mpr (trim_eq_nil_iff.mp hnil))
      obtain ⟨before, after, hbefore, hafter, htext⟩ := exists_gaps_of_solid hsolid hfirst hlast
      refine ⟨before, trim text, after, hbefore, ⟨hsolid, hbreak⟩, hafter, htext, ?_⟩
      conv_lhs => rw [htext]
      exact trimOf_append hbefore.2 hafter.2 (trim text)
  · rintro ⟨before, expression, after, hbefore, hexpression, hafter, rfl, rfl⟩
    exact enclosed?_append hbefore hexpression hafter

/-! ### Whole lines -/

/-- A line that puts an expression into the field with a name. -/
inductive SpellsPut (expression name : List Char) : List Char → Prop
  | intro {put before after clause : List Char} (hput : SpellsWord "put" put)
      (hbefore : IsGap before) (hexpression : IsExpression expression) (hafter : IsGap after)
      (hclause : SpellsInto name clause) :
    SpellsPut expression name (put ++ (before ++ expression ++ after ++ clause))

/-- However a line is split, it puts the same expression into the field with the same name. -/
theorem SpellsPut.unique (h : SpellsPut expression name line)
    (hother : SpellsPut second other line) :
    trim expression = trim second ∧ name = other := by
  obtain ⟨hput, hbefore, -, hafter, hclause⟩ := h
  rename_i put before after clause
  generalize hline : put ++ (before ++ expression ++ after ++ clause) = line at hother
  obtain ⟨hput', hbefore', -, hafter', hclause'⟩ := hother
  rename_i put' before' after' clause'
  have hlengths : put.length = put'.length := hput.length_eq.trans hput'.length_eq.symm
  obtain ⟨hmiddle, hname⟩ := hclause.unique hclause' (List.append_inj hline hlengths).2
  refine ⟨?_, hname⟩
  calc trim expression = trim (before ++ expression ++ after) :=
        (trimOf_append hbefore.2 hafter.2 expression).symm
    _ = trim (before' ++ second ++ after') := by rw [hmiddle]
    _ = trim second := trimOf_append hbefore'.2 hafter'.2 second

/-- A line without a line end at its end is recognised exactly if it spells a line that puts. -/
theorem put?_eq_some_iff (hlast : line.getLast? ≠ some '\n') {command : Command} :
    put? line = some command ↔ ∃ expression name, SpellsPut expression name line ∧
      command = .put (String.ofList (trim expression)) (String.ofList name) := by
  constructor
  · intro h
    obtain ⟨middle, hput, hrest⟩ := Option.bind_eq_some_iff.mp h
    obtain ⟨⟨front, name⟩, hsplit, hrest⟩ := Option.bind_eq_some_iff.mp hrest
    obtain ⟨inner, hinner, hcommand⟩ := Option.bind_eq_some_iff.mp hrest
    obtain ⟨put, hword, rfl⟩ := takeWord?_eq_some_iff.mp hput
    obtain ⟨clause, rfl, hclause⟩ := exists_of_splitInto? hsplit
    obtain ⟨before, expression, after, hbefore, hexpression, hafter, rfl, rfl⟩ :=
      enclosed?_eq_some_iff.mp hinner
    cases hcommand
    have hne : clause ≠ [] := by
      rintro rfl
      cases hclause
    have hlast : clause.getLast? ≠ some '\n' := by
      rwa [← List.append_assoc, List.getLast?_append_of_ne_nil _ hne] at hlast
    exact ⟨expression, name,
      .intro hword hbefore hexpression hafter (spellsInto_of_intoClause? hlast hclause), rfl⟩
  · rintro ⟨expression, name, ⟨hput, hbefore, hexpression, hafter, hclause⟩, rfl⟩
    rename_i put before after clause
    have hword : takeWord? "put".toList (put ++ (before ++ expression ++ after ++ clause)) =
        some (before ++ expression ++ after ++ clause) :=
      takeWord?_eq_some_iff.mpr ⟨put, hput, rfl⟩
    simp only [put?, hword, Option.bind_eq_bind, Option.bind_some, hclause.splitInto?_append,
      enclosed?_append hbefore hexpression hafter]
    rfl

end Cardfile.Command
