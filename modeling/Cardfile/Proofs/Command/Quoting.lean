import Cardfile.Proofs.Command.Asking

/-!
# Lines with a quoted literal

Between double quotes any text stands for itself, quotes and line ends included
(`ofTextWith_inQuotes`). The rules for commands are narrower: the expression of a command stands on
a single line. So a line with a quoted literal for its expression is recognised exactly if there is
no line end in the literal (`answer?_answerLine`, `find?_findLine`, `put?_putLine`).
-/

set_option autoImplicit false
set_option relaxedAutoImplicit false

namespace Cardfile.Command

open Text

variable {text name : String}

/-! ### Lines -/

/-- A text between double quotes. -/
def inQuotes (text : String) : String :=
  "\"" ++ text ++ "\""

/-- A reference to the field with a name, perhaps as a field of the card. -/
def fieldClause (viaCard : Bool) (name : String) : String :=
  (if viaCard then "card " else "") ++ "field " ++ inQuotes name

/-- The line that puts a literal into the field with a name. -/
def putLine (viaCard : Bool) (text name : String) : String :=
  "put " ++ inQuotes text ++ " into " ++ fieldClause viaCard name

/-- The line that reads the field with a name. -/
def getLine (viaCard : Bool) (name : String) : String :=
  "get " ++ fieldClause viaCard name

def answerLine (text : String) : String :=
  "answer " ++ inQuotes text

def findLine (text : String) : String :=
  "find " ++ inQuotes text

theorem toList_inQuotes (text : String) :
    (inQuotes text).toList = '"' :: (text.toList ++ ['"']) := by
  simp [inQuotes]

/-- There is nothing to trim from a text between quotes. -/
theorem trim_inQuotes (text : String) : trim (inQuotes text).toList = (inQuotes text).toList := by
  rw [toList_inQuotes]
  refine trim_eq_self startsSolid_quoted fun c hc ↦ ?_
  obtain rfl : '"' = c := by simpa [List.getLast?_cons] using hc
  decide

/-! ### Literals -/

/-- What stands between double quotes is taken as it is. -/
theorem ofTextWith_inQuotes (text : String) :
    Expression.ofTextWith Expression.rules (inQuotes text).toList = .literal text := by
  have hliteral : Expression.literal? (inQuotes text).toList = some text.toList := by
    rw [toList_inQuotes]
    simp [Expression.literal?, dropLineEnd]
  simp [Expression.ofTextWith, Rule.first?, Expression.rules, hliteral]

theorem mem_inQuotes {c : Char} (hc : c ≠ '"') : c ∈ (inQuotes text).toList ↔ c ∈ text.toList := by
  simp [toList_inQuotes, hc]

theorem isExpression_inQuotes (hbreak : '\n' ∉ text.toList) :
    IsExpression (inQuotes text).toList :=
  ⟨by simp [toList_inQuotes], fun hmem ↦ hbreak ((mem_inQuotes (by decide)).mp hmem)⟩

/-- The expression after a keyword stands on a single line. -/
theorem argument?_inQuotes (text : String) : argument? (' ' :: (inQuotes text).toList) =
    if '\n' ∈ text.toList then none else some (inQuotes text).toList := by
  have hstarts : StartsSolid (inQuotes text).toList := by
    rw [toList_inQuotes]
    exact startsSolid_quoted
  have hends : EndsSolid ([' '] ++ (inQuotes text).toList) := by
    intro c hc
    obtain rfl : '"' = c := by simpa [toList_inQuotes, List.getLast?_cons] using hc
    decide
  show argument? ([' '] ++ (inQuotes text).toList) = _
  split_ifs with hbreak
  · rw [Option.eq_none_iff_forall_ne_some]
    intro expression hargument
    obtain ⟨gap, hgap, hexpression, hsolid, htext⟩ := (argument?_eq_some_iff hends).mp hargument
    -- There is one way to split off the blanks, so the expression is the literal.
    have hsame : (inQuotes text).toList = expression := by
      rw [← dropWhile_gap_append isGap_space hstarts, htext, dropWhile_gap_append hgap hsolid]
    refine hexpression.2 ?_
    rw [← hsame]
    exact (mem_inQuotes (by decide)).mpr hbreak
  · exact (argument?_eq_some_iff hends).mpr
      ⟨[' '], isGap_space, isExpression_inQuotes hbreak, hstarts, rfl⟩

/-- The expression before a clause stands on a single line. -/
theorem enclosed?_inQuotes (text : String) :
    enclosed? ([' '] ++ (inQuotes text).toList ++ [' ']) =
      if '\n' ∈ text.toList then none else some (inQuotes text).toList := by
  split_ifs with hbreak
  · rw [Option.eq_none_iff_forall_ne_some]
    intro inner hinner
    obtain ⟨before, expression, after, hbefore, hexpression, hafter, htext, -⟩ :=
      enclosed?_eq_some_iff.mp hinner
    -- Both splits are trimmed to the same text, which has the line end of the literal.
    have htrim : (inQuotes text).toList = trim expression := by
      calc (inQuotes text).toList = trim (inQuotes text).toList := (trim_inQuotes text).symm
        _ = trim ([' '] ++ (inQuotes text).toList ++ [' ']) :=
          (trimOf_append isGap_space.2 isGap_space.2 _).symm
        _ = trim expression := by rw [htext]; exact trimOf_append hbefore.2 hafter.2 expression
    refine hexpression.2 (trim_subset expression '\n' ?_)
    rw [← htrim]
    exact (mem_inQuotes (by decide)).mpr hbreak
  · rw [enclosed?_append isGap_space (isExpression_inQuotes hbreak) isGap_space, trim_inQuotes]

/-! ### Rules -/

theorem takeWord?_of_toList {keyword line : String} {rest : List Char}
    (hkeyword : keyword ∈ keywords) (hline : line.toList = keyword.toList ++ rest) :
    takeWord? keyword.toList line.toList = some rest := by
  have hspells : ∀ keyword ∈ keywords, SpellsWord keyword keyword.toList := by decide
  exact takeWord?_eq_some_iff.mpr ⟨keyword.toList, hspells keyword hkeyword, hline⟩

theorem takeWord?_answerLine (text : String) :
    takeWord? "answer".toList (answerLine text).toList = some (' ' :: (inQuotes text).toList) :=
  takeWord?_of_toList (by decide) (by simp [answerLine])

theorem takeWord?_findLine (text : String) :
    takeWord? "find".toList (findLine text).toList = some (' ' :: (inQuotes text).toList) :=
  takeWord?_of_toList (by decide) (by simp [findLine])

theorem takeWord?_putLine (viaCard : Bool) (text name : String) :
    takeWord? "put".toList (putLine viaCard text name).toList =
      some (([' '] ++ (inQuotes text).toList ++ [' ']) ++
        ("into".toList ++ [' '] ++ (fieldClause viaCard name).toList)) :=
  takeWord?_of_toList (by decide) (by simp [putLine])

theorem takeWord?_getLine (viaCard : Bool) (name : String) :
    takeWord? "get".toList (getLine viaCard name).toList =
      some (' ' :: (fieldClause viaCard name).toList) :=
  takeWord?_of_toList (by decide) (by simp [getLine])

theorem answer?_answerLine (text : String) : answer? (answerLine text).toList =
    if '\n' ∈ text.toList then none else some (.answer (inQuotes text)) := by
  rw [answer?, takeWord?_answerLine, Option.bind_eq_bind, Option.bind_some, argument?_inQuotes]
  split_ifs
  · rfl
  · simp

theorem find?_findLine (text : String) : find? (findLine text).toList =
    if '\n' ∈ text.toList then none else some (.find (inQuotes text)) := by
  rw [find?, takeWord?_findLine, Option.bind_eq_bind, Option.bind_some, argument?_inQuotes]
  split_ifs
  · rfl
  · simp

theorem spellsField_fieldClause (hname : '"' ∉ name.toList) (viaCard : Bool) :
    SpellsField name.toList (fieldClause viaCard name).toList := by
  have hclause : IsClause "card" (if viaCard then "card " else "").toList := by
    cases viaCard with
    | false => exact Or.inl rfl
    | true => exact Or.inr ⟨"card".toList, [' '], rfl, isGap_space, rfl⟩
  have htext : (fieldClause viaCard name).toList = (if viaCard then "card " else "").toList ++
      ("field".toList ++ [' '] ++ ('"' :: (name.toList ++ ['"']))) := by
    simp [fieldClause, toList_inQuotes]
  rw [htext]
  exact .intro hclause rfl isGap_space hname

theorem put?_putLine (hname : '"' ∉ name.toList) (viaCard : Bool) (text : String) :
    put? (putLine viaCard text name).toList =
      if '\n' ∈ text.toList then none else some (.put (inQuotes text) name) := by
  have hclause : SpellsInto name.toList
      ("into".toList ++ [' '] ++ (fieldClause viaCard name).toList) :=
    .intro rfl isGap_space (spellsField_fieldClause hname viaCard)
  simp only [put?, takeWord?_putLine, Option.bind_eq_bind, Option.bind_some,
    hclause.splitInto?_append, enclosed?_inQuotes]
  split_ifs
  · rfl
  · simp

theorem get?_getLine (hname : '"' ∉ name.toList) (viaCard : Bool) :
    get? (getLine viaCard name).toList = some (.get name) := by
  have hfield := spellsField_fieldClause hname viaCard
  have hafter : takeWordAndBlanks? "get" (getLine viaCard name).toList =
      some (fieldClause viaCard name).toList := by
    rw [takeWordAndBlanks?, takeWord?_getLine, Option.bind_some]
    exact takeBlanks?_append isGap_space hfield.startsSolid
  rw [get?, hafter, Option.bind_eq_bind, Option.bind_some, hfield.fieldReference?_eq]
  simp

/-! ### Nothing to strip -/

/-- A line that starts with a keyword and does not end with a blank has no blanks to strip. -/
theorem strip_of_keyword {keyword line : String} (hkeyword : keyword ∈ keywords)
    (hstarts : (takeWord? keyword.toList line.toList).isSome = true)
    (hends : EndsSolid line.toList) : strip line = line := by
  have hkeywords : ∀ keyword ∈ keywords, IsSolid keyword := by decide
  have hsolid : StartsSolid line.toList := by
    obtain ⟨rest, hrest⟩ := Option.isSome_iff_exists.mp hstarts
    obtain ⟨front, hfront, hline⟩ := takeWord?_eq_some_iff.mp hrest
    rw [hline]
    exact SpellsWord.startsSolid hfront (hkeywords keyword hkeyword) rest
  rw [strip, trim_eq_self hsolid hends, String.ofList_toList]

theorem endsSolid_append_inQuotes (front text : String) :
    EndsSolid (front ++ inQuotes text).toList := by
  intro c hc
  obtain rfl : '"' = c := by simpa [toList_inQuotes, List.getLast?_cons] using hc
  decide

theorem endsSolid_append_fieldClause (front : String) (viaCard : Bool) (name : String) :
    EndsSolid (front ++ fieldClause viaCard name).toList := by
  rw [fieldClause, ← String.append_assoc]
  exact endsSolid_append_inQuotes _ _

theorem strip_answerLine (text : String) : strip (answerLine text) = answerLine text :=
  strip_of_keyword (by decide) (Option.isSome_of_eq_some (takeWord?_answerLine text))
    (endsSolid_append_inQuotes _ _)

theorem strip_findLine (text : String) : strip (findLine text) = findLine text :=
  strip_of_keyword (by decide) (Option.isSome_of_eq_some (takeWord?_findLine text))
    (endsSolid_append_inQuotes _ _)

theorem strip_putLine (viaCard : Bool) (text name : String) :
    strip (putLine viaCard text name) = putLine viaCard text name :=
  strip_of_keyword (by decide) (Option.isSome_of_eq_some (takeWord?_putLine viaCard text name))
    (endsSolid_append_fieldClause _ _ _)

theorem strip_getLine (viaCard : Bool) (name : String) :
    strip (getLine viaCard name) = getLine viaCard name :=
  strip_of_keyword (by decide) (Option.isSome_of_eq_some (takeWord?_getLine viaCard name))
    (endsSolid_append_fieldClause _ _ _)

end Cardfile.Command
