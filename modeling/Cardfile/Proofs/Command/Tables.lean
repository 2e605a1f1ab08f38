import Cardfile.Desk.Execution
import Cardfile.Proofs.Command.Rules

/-!
# The order of the rules

No text is recognised by two rules of the table for commands, nor by two rules of the table for
expressions (`Command.exclusive_rules`, `Expression.exclusive_rules`). Commands are told apart by
their keywords. Expressions are told apart by a quote or by their first words (`Opens`), of which
the forms that start with `the` need two.

A table of such rules gives what any one of them gives (`Rule.Exclusive.first?_eq_some_iff`), and
the same in any order (`Rule.Exclusive.first?_eq`). So lines and expressions are understood alike by
the tables in any order (`Desk.executeWith_eq_of_perm`).
-/

set_option autoImplicit false
set_option relaxedAutoImplicit false

namespace Cardfile

open Text Command

/-! ### Tables -/

namespace Rule

variable {α : Type} {table other : List (Rule α)}

/-- No text is recognised by two rules of a table. -/
def Exclusive (table : List (Rule α)) : Prop :=
  table.Pairwise fun rule other ↦ ∀ text, rule.recognise text = none ∨ other.recognise text = none

theorem exclusive_of_forms (hforms : (table.map Rule.form).Nodup)
    (hsame : ∀ rule ∈ table, ∀ other ∈ table, ∀ text, (rule.recognise text).isSome = true →
      (other.recognise text).isSome = true → rule.form = other.form) : Exclusive table := by
  have hdistinct : table.Pairwise fun rule other ↦ rule.form ≠ other.form :=
    List.pairwise_map.mp hforms
  refine hdistinct.imp_of_mem fun {rule other} hrule hother hform text ↦ ?_
  by_contra hboth
  rw [not_or, ← Ne, ← Ne, ← Option.isSome_iff_ne_none, ← Option.isSome_iff_ne_none] at hboth
  exact hform (hsame rule hrule other hother text hboth.1 hboth.2)

theorem Exclusive.perm (h : Exclusive table) (hperm : table.Perm other) : Exclusive other :=
  (hperm.pairwise_iff fun hnone text ↦ (hnone text).symm).mp h

/-- The first rule that recognises a text is the only one, so the order makes no difference. -/
theorem Exclusive.first?_eq (h : Exclusive table) (hperm : table.Perm other) (text : List Char) :
    first? other text = first? table text := by
  unfold first?
  induction hperm with
  | nil => rfl
  | cons rule _ ih => rw [List.findSome?_cons, List.findSome?_cons, ih (List.Pairwise.of_cons h)]
  | swap second rule rest =>
    have hnone := (List.pairwise_cons.mp h).1 second List.mem_cons_self text
    simp only [List.findSome?_cons]
    rcases hnone with hrule | hsecond
    · rw [hrule]
    · rw [hsecond]
  | trans hfirst _ ih ihlast => rw [ihlast (h.perm hfirst), ih h]

/-- A text means what any of the rules makes of it. -/
theorem Exclusive.first?_eq_some_iff (h : Exclusive table) {text : List Char} {meaning : α} :
    first? table text = some meaning ↔ ∃ rule ∈ table, rule.recognise text = some meaning := by
  constructor
  · exact List.exists_of_findSome?_eq_some
  · rintro ⟨rule, hrule, hmeaning⟩
    unfold first?
    induction table with
    | nil => cases hrule
    | cons head rest ih =>
      obtain ⟨hapart, hrest⟩ := List.pairwise_cons.mp h
      rw [List.findSome?_cons]
      rcases List.mem_cons.mp hrule with rfl | hmem
      · rw [hmeaning]
      · have hhead : head.recognise text = none :=
          (hapart rule hmem text).resolve_right (hmeaning ▸ Option.some_ne_none meaning)
        rw [hhead]
        exact ih hrest hmem

end Rule

/-! ### Openings -/

namespace Command

variable {text : List Char} {words others : List String}

/-- A text that starts with words and blanks between them, whatever follows the last one. -/
inductive Opens : List String → List Char → Prop
  | word {word : String} {text : List Char} (h : (takeWord? word.toList text).isSome = true) :
    Opens [word] text
  | cons {word : String} {words : List String} {text rest : List Char}
      (hword : takeWordAndBlanks? word text = some rest) (hrest : Opens words rest) :
    Opens (word :: words) text

/-- Rows of words that differ for the first time in two words of which none starts with the
other. -/
def areApart : List String → List String → Bool
  | word :: words, other :: others =>
    if word = other then areApart words others
    else decide ¬(word.toList <+: other.toList ∨ other.toList <+: word.toList)
  | _, _ => false

theorem isSome_takeWord?_of_takeWordAndBlanks? {word : String} {rest : List Char}
    (h : takeWordAndBlanks? word text = some rest) : (takeWord? word.toList text).isSome = true :=
  Option.isSome_of_isSome_bind (Option.isSome_of_eq_some h)

theorem Opens.exists_cons (h : Opens words text) :
    ∃ word more, words = word :: more ∧ (takeWord? word.toList text).isSome = true := by
  cases h with
  | word hword => exact ⟨_, [], rfl, hword⟩
  | cons hword => exact ⟨_, _, rfl, isSome_takeWord?_of_takeWordAndBlanks? hword⟩

/-- No text opens in two ways that are apart. -/
theorem Opens.areApart_eq_false (h : Opens words text) (hother : Opens others text) :
    areApart words others = false := by
  induction h generalizing others with
  | @word word text htake =>
    obtain ⟨other, more, rfl, hothertake⟩ := hother.exists_cons
    rw [areApart]
    split_ifs with hsame
    · rfl
    · exact decide_eq_false (not_not_intro (isPrefix_or_of_takeWord? htake hothertake))
  | @cons word words text rest hword hrest ih =>
    obtain ⟨other, more, rfl, hothertake⟩ := hother.exists_cons
    rw [areApart]
    split_ifs with hsame
    · subst hsame
      cases hother with
      | word => cases hrest <;> rfl
      | cons hsecond hmore =>
        obtain rfl := Option.some.inj (hword.symm.trans hsecond)
        exact ih hmore
    · have htake := isSome_takeWord?_of_takeWordAndBlanks? hword
      exact decide_eq_false (not_not_intro (isPrefix_or_of_takeWord? htake hothertake))

theorem opens_of_isPhrase {word second : String} {more : List String}
    (h : isPhrase (word :: second :: more) text = true) : Opens [word, second] text := by
  rw [isPhrase, Option.any_eq_true] at h
  · obtain ⟨rest, hrest, hphrase⟩ := h
    refine .cons hrest (.word ?_)
    cases more with
    | nil => exact Option.isSome_of_any hphrase
    | cons third more =>
      rw [isPhrase] at hphrase
      · exact Option.isSome_of_isSome_bind (Option.isSome_of_any hphrase)
      · simp
  · simp

theorem opens_of_fieldReference? (h : (fieldReference? text).isSome = true) :
    Opens ["card"] text ∨ Opens ["field"] text := by
  have hfield := Option.isSome_of_isSome_bind (Option.isSome_of_isSome_bind h)
  unfold skipWord at hfield
  cases hcard : takeWordAndBlanks? "card" text with
  | some rest => exact Or.inl (.word (isSome_takeWord?_of_takeWordAndBlanks? hcard))
  | none =>
    rw [hcard] at hfield
    exact Or.inr (.word hfield)

theorem exclusive_rules : Rule.Exclusive rules :=
  Rule.exclusive_of_forms (by decide) fun _ hrule _ hother _ h hothers ↦
    congrArg Rule.form (eq_of_recognise hrule hother h hothers)

end Command

namespace Expression

variable {text : List Char} {rule : Rule Expression}

/-- How the texts of each form open. -/
def openings : List (String × List String) :=
  [("quoted literal", ["\""]), ("field", ["card"]), ("field", ["field"]),
    ("card name", ["the", "name"]), ("card count", ["the", "number"]),
    ("result", ["the", "result"]), ("it", ["it"])]

theorem opens_of_literal? (h : (literal? text).isSome = true) : Opens ["\""] text := by
  unfold literal? at h
  split at h
  · exact .word rfl
  · cases h

theorem isPhrase_of_isSome {words : List String} {expression : Expression}
    (h : (phrase words expression text).isSome = true) : isPhrase words text = true := by
  unfold phrase at h
  split_ifs at h with hphrase
  · exact hphrase
  · cases h

theorem exists_opening (hrule : rule ∈ rules) (h : (rule.recognise text).isSome = true) :
    ∃ words, (rule.form, words) ∈ openings ∧ Opens words text := by
  simp only [rules, List.mem_cons, List.not_mem_nil, or_false] at hrule
  rcases hrule with rfl | rfl | rfl | rfl | rfl | rfl
  · exact ⟨_, by simp [openings], opens_of_literal? (by simpa using h)⟩
  · rcases opens_of_fieldReference? (by simpa using h) with hcard | hfield
    · exact ⟨_, by simp [openings], hcard⟩
    · exact ⟨_, by simp [openings], hfield⟩
  · exact ⟨_, by simp [openings], opens_of_isPhrase (isPhrase_of_isSome h)⟩
  · exact ⟨_, by simp [openings], opens_of_isPhrase (isPhrase_of_isSome h)⟩
  · exact ⟨_, by simp [openings], opens_of_isPhrase (isPhrase_of_isSome h)⟩
  · exact ⟨_, by simp [openings], .word (Option.isSome_of_any (isPhrase_of_isSome h))⟩

theorem exclusive_rules : Rule.Exclusive rules := by
  have hapart : ∀ opening ∈ openings, ∀ other ∈ openings, opening.1 ≠ other.1 →
      areApart opening.2 other.2 = true := by
    decide
  refine Rule.exclusive_of_forms (by decide) fun rule hrule other hother text h hothers ↦ ?_
  obtain ⟨words, hwords, hopens⟩ := exists_opening hrule h
  obtain ⟨others, hopening, hothersOpen⟩ := exists_opening hother hothers
  by_contra hform
  have hboth := hapart _ hwords _ hopening hform
  rw [hopens.areApart_eq_false hothersOpen] at hboth
  cases hboth

end Expression

/-! ### What is understood -/

namespace Desk

variable {commands : List (Rule Command)} {expressions : List (Rule Expression)}
  {grammar other : Grammar}

theorem evaluateWith_eq_of_perm (hexpressions : expressions.Perm Expression.rules) (desk : Desk)
    (text : String) : desk.evaluateWith expressions text = desk.evaluate text := by
  unfold evaluate evaluateWith Expression.ofTextWith
  rw [Expression.exclusive_rules.first?_eq hexpressions.symm]

theorem withValue_congr {desk : Desk}
    (h : ∀ text, desk.evaluateWith grammar.expressions text =
      desk.evaluateWith other.expressions text)
    (expression : String) (next : String → Outcome) :
    desk.withValue grammar expression next = desk.withValue other expression next := by
  unfold withValue
  rw [h]

/-- A command is carried out alike under tables by which expressions have the same values. -/
theorem perform_congr {desk : Desk}
    (h : ∀ text, desk.evaluateWith grammar.expressions text =
      desk.evaluateWith other.expressions text)
    (line : String) (command : Command) :
    desk.perform grammar line command = desk.perform other line command := by
  cases command with
  | nothing | beep | go | get | message => rfl
  | put expression name =>
    show desk.put grammar expression name = desk.put other expression name
    unfold put
    rw [withValue_congr h]
  | answer expression => exact withValue_congr h ..
  | find expression => exact withValue_congr h ..

/-- Assumes: the two tables, each with its rules in some order. No text is recognised by two rules
of a table, and on every desk each expression has the same value and each line the same answer and
the same effect as with the rules in their own order. -/
theorem executeWith_eq_of_perm (hcommands : commands.Perm Command.rules)
    (hexpressions : expressions.Perm Expression.rules) :
    Rule.Exclusive Command.rules ∧ Rule.Exclusive Expression.rules ∧
      (∀ (desk : Desk) (text : String),
        desk.evaluateWith expressions text = desk.evaluate text) ∧
      ∀ (desk : Desk) (raw : String),
        desk.executeWith ⟨commands, expressions⟩ raw = desk.execute raw := by
  have hvalues := evaluateWith_eq_of_perm hexpressions
  refine ⟨Command.exclusive_rules, Expression.exclusive_rules, hvalues, fun desk raw ↦ ?_⟩
  have hsaid (line : List Char) : ofLineWith commands line = ofLineWith Command.rules line := by
    unfold ofLineWith
    rw [Command.exclusive_rules.first?_eq hcommands.symm]
  show (desk.receive raw).perform ⟨commands, expressions⟩ (strip raw)
      (ofLineWith commands (strip raw).toList) =
    (desk.receive raw).perform .standard (strip raw) (ofLineWith Command.rules (strip raw).toList)
  rw [hsaid]
  exact perform_congr (hvalues _) ..

theorem executeWith_eq_of_perm_reversed :
    Command.rules.reverse.Perm Command.rules ∧ Expression.rules.reverse.Perm Expression.rules ∧
      starter.evaluateWith Expression.rules.reverse "the name of this card" = .ok "Welcome" ∧
      (starter.executeWith ⟨Command.rules.reverse, Expression.rules.reverse⟩
        "put the number of cards into field \"Body\"").1 = .ok "3" := by
  have hcommands := List.reverse_perm Command.rules
  have hexpressions := List.reverse_perm Expression.rules
  obtain ⟨-, -, hvalue, hline⟩ := executeWith_eq_of_perm hcommands hexpressions
  refine ⟨hcommands, hexpressions, ?_, ?_⟩
  · rw [hvalue]
    decide +kernel
  · rw [hline]
    decide +kernel

end Desk

end Cardfile
