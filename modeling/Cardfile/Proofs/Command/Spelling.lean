import Cardfile.Command.Basic
import Cardfile.Proofs.Text.Decimal
import Mathlib.Data.List.TakeWhile
import Mathlib.Data.Option.Basic

/-!
# Spellings

A text spells a word if its letters are those of the word up to case (`SpellsWord`); words are set
apart by gaps (`IsGap`). The functions that take words and blanks off the front of a text take
exactly these (`takeWordAndBlanks?_eq_some`, `takeWordAndBlanks?_append`). A word with a gap after
it may be optional (`IsClause`, `skipWord_append`).

A phrase is some words with gaps between them; what is recognised as one is a phrase and at most one
line end (`isPhrase_iff`). A name in quotes is what stands between a first and a last quote
(`quotedName?_quoted`, `exists_of_quotedName?`).
-/

set_option autoImplicit false
set_option relaxedAutoImplicit false

namespace Cardfile.Command

open Text

/-! ### Words and gaps -/

/-- A text that spells a word, which is given in lower case. -/
def SpellsWord (word : String) (text : List Char) : Prop :=
  text.map wordLetter = word.toList

instance (word : String) (text : List Char) : Decidable (SpellsWord word text) :=
  inferInstanceAs (Decidable (_ = _))

/-- One blank or more. -/
def IsGap (text : List Char) : Prop :=
  text ≠ [] ∧ ∀ c ∈ text, isBlank c = true

/-- A text that does not start with a blank. -/
def StartsSolid (text : List Char) : Prop :=
  ∀ c, text.head? = some c → isBlank c = false

/-- A text that does not end with a blank. -/
def EndsSolid (text : List Char) : Prop :=
  ∀ c, text.getLast? = some c → isBlank c = false

/-- A word of one letter or more, with no blank in it. -/
def IsSolid (word : String) : Prop :=
  word.toList ≠ [] ∧ ∀ letter ∈ word.toList, isBlank letter = false

-- The letters are looked through in the word, not in the alphabet.
instance (word : String) : Decidable (IsSolid word) :=
  decidable_of_iff (word.toList ≠ [] ∧ word.toList.all fun letter ↦ !isBlank letter)
    (by simp [IsSolid])

theorem isSolid_to : IsSolid "to" := by decide

theorem isSolid_into : IsSolid "into" := by decide

theorem isSolid_card : IsSolid "card" := by decide

theorem isSolid_field : IsSolid "field" := by decide

/-- A text that is empty or spells a word with a gap after it. -/
def IsClause (word : String) (text : List Char) : Prop :=
  text = [] ∨ ∃ front gap, SpellsWord word front ∧ IsGap gap ∧ text = front ++ gap

variable {text rest gap : List Char}

theorem wordLetter_of_isBlank {c : Char} (h : isBlank c = true) : wordLetter c = c := by
  simp only [isBlank, Bool.or_eq_true, Bool.and_eq_true, decide_eq_true_eq, beq_iff_eq] at h
  unfold wordLetter
  simp only [Bool.or_eq_true, Bool.and_eq_true, decide_eq_true_eq, beq_iff_eq]
  split_ifs with hupper hdotted hlong hkelvin
  · omega
  · omega
  · omega
  · omega
  · rfl

theorem SpellsWord.isBlank_eq_false {word : String} (h : SpellsWord word text)
    (hword : IsSolid word) {c : Char} (hc : c ∈ text) : isBlank c = false := by
  have hletter : wordLetter c ∈ word.toList := h ▸ List.mem_map_of_mem hc
  rw [Bool.eq_false_iff]
  intro hblank
  -- A blank is its own letter in lower case, and the word has no blanks.
  rw [wordLetter_of_isBlank hblank] at hletter
  simp [hword.2 c hletter] at hblank

theorem SpellsWord.ne_nil {word : String} (h : SpellsWord word text) (hword : IsSolid word) :
    text ≠ [] := by
  rintro rfl
  exact hword.1 h.symm

theorem SpellsWord.length_eq {word : String} (h : SpellsWord word text) :
    text.length = word.toList.length := by
  rw [← h, List.length_map]

theorem SpellsWord.startsSolid {word : String} (h : SpellsWord word text) (hword : IsSolid word)
    (rest : List Char) : StartsSolid (text ++ rest) := by
  intro c hc
  have hfirst : text.head? = some c := by
    rwa [List.head?_append_of_ne_nil text (h.ne_nil hword)] at hc
  exact h.isBlank_eq_false hword (List.mem_of_mem_head? hfirst)

theorem SpellsWord.endsSolid {word : String} (h : SpellsWord word text) (hword : IsSolid word)
    (before : List Char) : EndsSolid (before ++ text) := by
  intro c hc
  rw [List.getLast?_append_of_ne_nil before (h.ne_nil hword)] at hc
  exact h.isBlank_eq_false hword (List.mem_of_getLast? hc)

theorem StartsSolid.dropWhile_eq (h : StartsSolid text) : text.dropWhile isBlank = text := by
  cases text with
  | nil => rfl
  | cons first rest =>
    have hfirst : ¬ isBlank first = true := by
      rw [h first rfl]
      exact Bool.false_ne_true
    exact List.dropWhile_cons_of_neg hfirst

theorem isGap_space : IsGap [' '] :=
  ⟨List.cons_ne_nil _ _, List.forall_mem_singleton.mpr rfl⟩

theorem takeWord?_eq_some_iff {word : List Char} :
    takeWord? word text = some rest ↔
      ∃ front, front.map wordLetter = word ∧ text = front ++ rest := by
  induction word generalizing text with
  | nil =>
    constructor
    · intro h
      cases h
      exact ⟨[], rfl, rfl⟩
    · rintro ⟨front, hfront, rfl⟩
      rw [List.map_eq_nil_iff] at hfront
      rw [hfront]
      rfl
  | cons letter word ih =>
    cases text with
    | nil =>
      constructor
      · intro h
        cases h
      · rintro ⟨front, hfront, htext⟩
        obtain ⟨rfl, -⟩ := List.append_eq_nil_iff.mp htext.symm
        cases hfront
    | cons c tail =>
      rw [takeWord?]
      split_ifs with hletter
      · rw [ih]
        constructor
        · rintro ⟨front, rfl, rfl⟩
          exact ⟨c :: front, by rw [List.map_cons, hletter], rfl⟩
        · rintro ⟨front, hfront, htext⟩
          cases front with
          | nil => cases hfront
          | cons first front =>
            obtain ⟨rfl, rfl⟩ := List.cons.inj htext
            exact ⟨front, (List.cons.inj hfront).2, rfl⟩
      · constructor
        · intro h
          cases h
        · rintro ⟨front, hfront, htext⟩
          cases front with
          | nil => cases hfront
          | cons first front =>
            obtain ⟨rfl, -⟩ := List.cons.inj htext
            exact absurd (List.cons.inj hfront).1 hletter

theorem takeWord?_isSome_iff {word : List Char} :
    (takeWord? word text).isSome = true ↔ word <+: text.map wordLetter := by
  constructor
  · intro h
    obtain ⟨rest, hrest⟩ := Option.isSome_iff_exists.mp h
    obtain ⟨front, rfl, rfl⟩ := takeWord?_eq_some_iff.mp hrest
    rw [List.map_append]
    exact List.prefix_append ..
  · rintro ⟨letters, hletters⟩
    obtain ⟨front, rest, rfl, hfront, -⟩ := List.map_eq_append_iff.mp hletters.symm
    exact Option.isSome_of_eq_some (takeWord?_eq_some_iff.mpr ⟨front, hfront, rfl⟩)

/-- Of two words that one text starts with, one starts with the other. -/
theorem isPrefix_or_of_takeWord? {word other : List Char}
    (hword : (takeWord? word text).isSome = true) (hother : (takeWord? other text).isSome = true) :
    word <+: other ∨ other <+: word :=
  List.prefix_or_prefix_of_prefix (takeWord?_isSome_iff.mp hword) (takeWord?_isSome_iff.mp hother)

theorem takeBlanks?_eq_some (h : takeBlanks? text = some rest) :
    ∃ gap, IsGap gap ∧ text = gap ++ rest := by
  cases text with
  | nil => cases h
  | cons c tail =>
    rw [takeBlanks?] at h
    split_ifs at h with hblank
    obtain rfl := Option.some.inj h
    refine ⟨c :: tail.takeWhile isBlank, ⟨List.cons_ne_nil _ _, ?_⟩, ?_⟩
    · intro other hother
      rcases List.mem_cons.mp hother with rfl | htail
      · exact hblank
      · exact List.mem_takeWhile_imp htail
    · rw [List.cons_append, List.takeWhile_append_dropWhile]

theorem takeBlanks?_append (hgap : IsGap gap) (hrest : StartsSolid rest) :
    takeBlanks? (gap ++ rest) = some rest := by
  obtain ⟨hne, hblank⟩ := hgap
  cases gap with
  | nil => exact absurd rfl hne
  | cons c tail =>
    have htail : ∀ other ∈ tail, isBlank other = true := fun other hother ↦
      hblank other (List.mem_cons_of_mem _ hother)
    rw [List.cons_append, takeBlanks?, if_pos (hblank c List.mem_cons_self),
      List.dropWhile_append_of_pos htail, hrest.dropWhile_eq]

theorem takeWordAndBlanks?_eq_some {word : String} (h : takeWordAndBlanks? word text = some rest) :
    ∃ front gap, SpellsWord word front ∧ IsGap gap ∧ text = front ++ gap ++ rest := by
  obtain ⟨middle, hword, hblanks⟩ := Option.bind_eq_some_iff.mp h
  obtain ⟨front, hfront, rfl⟩ := takeWord?_eq_some_iff.mp hword
  obtain ⟨gap, hgap, rfl⟩ := takeBlanks?_eq_some hblanks
  exact ⟨front, gap, hfront, hgap, (List.append_assoc ..).symm⟩

theorem takeWordAndBlanks?_append {word : String} {front : List Char}
    (hfront : SpellsWord word front) (hgap : IsGap gap) (hrest : StartsSolid rest) :
    takeWordAndBlanks? word (front ++ gap ++ rest) = some rest := by
  have hword : takeWord? word.toList (front ++ (gap ++ rest)) = some (gap ++ rest) :=
    takeWord?_eq_some_iff.mpr ⟨front, hfront, rfl⟩
  rw [List.append_assoc, takeWordAndBlanks?, hword]
  exact takeBlanks?_append hgap hrest

/-- A text that spells one word has no other word at its front, unless one starts with the other. -/
theorem takeWordAndBlanks?_eq_none {word other : String} {front : List Char}
    (hfront : SpellsWord other front)
    (hapart : ¬ (word.toList <+: other.toList ∨ other.toList <+: word.toList))
    (rest : List Char) : takeWordAndBlanks? word (front ++ rest) = none := by
  have hother : (takeWord? other.toList (front ++ rest)).isSome = true :=
    Option.isSome_of_eq_some (takeWord?_eq_some_iff.mpr ⟨front, hfront, rfl⟩)
  have hword : takeWord? word.toList (front ++ rest) = none := by
    rw [← Option.not_isSome_iff_eq_none]
    exact fun hword ↦ hapart (isPrefix_or_of_takeWord? hword hother)
  rw [takeWordAndBlanks?, hword]
  rfl

/-! ### Optional words -/

theorem skipWord_append {word other : String} {clause front : List Char}
    (hclause : IsClause word clause) (hfront : SpellsWord other front) (hsolid : IsSolid other)
    (hapart : ¬ (word.toList <+: other.toList ∨ other.toList <+: word.toList))
    (rest : List Char) : skipWord word (clause ++ (front ++ rest)) = front ++ rest := by
  rcases hclause with rfl | ⟨spelled, gap, hspelled, hgap, rfl⟩
  · rw [List.nil_append, skipWord, takeWordAndBlanks?_eq_none hfront hapart]
    rfl
  · rw [skipWord, takeWordAndBlanks?_append hspelled hgap (hfront.startsSolid hsolid rest)]
    rfl

theorem exists_isClause_skipWord (word : String) (text : List Char) :
    ∃ clause, IsClause word clause ∧ text = clause ++ skipWord word text := by
  unfold skipWord
  cases htaken : takeWordAndBlanks? word text with
  | none => exact ⟨[], Or.inl rfl, rfl⟩
  | some rest =>
    obtain ⟨spelled, gap, hspelled, hgap, htext⟩ := takeWordAndBlanks?_eq_some htaken
    exact ⟨spelled ++ gap, Or.inr ⟨spelled, gap, hspelled, hgap, rfl⟩, htext⟩

theorem IsClause.startsSolid {word : String} {clause : List Char} (hclause : IsClause word clause)
    (hword : IsSolid word) (hrest : StartsSolid rest) : StartsSolid (clause ++ rest) := by
  rcases hclause with rfl | ⟨spelled, gap, hspelled, -, rfl⟩
  · exact hrest
  · rw [List.append_assoc]
    exact hspelled.startsSolid hword _

/-! ### Ends and phrases -/

theorem isEnd_iff {tail : List Char} : isEnd tail = true ↔ tail = [] ∨ tail = ['\n'] := by
  simp [isEnd]

theorem eq_nil_of_isEnd (front : List Char) {tail : List Char} (hend : isEnd tail = true)
    (hlast : (front ++ tail).getLast? ≠ some '\n') : tail = [] := by
  rcases isEnd_iff.mp hend with hnil | hbreak
  · exact hnil
  · simp [hbreak] at hlast

/-- Words with gaps between them. -/
inductive SpellsPhrase : List String → List Char → Prop
  | last {word : String} {text : List Char} (hword : SpellsWord word text) :
    SpellsPhrase [word] text
  | cons {word : String} {words : List String} {front gap rest : List Char}
      (hword : SpellsWord word front) (hgap : IsGap gap) (hrest : SpellsPhrase words rest) :
    SpellsPhrase (word :: words) (front ++ gap ++ rest)

theorem SpellsPhrase.startsSolid {words : List String} (h : SpellsPhrase words text)
    (hsolid : ∀ word ∈ words, IsSolid word) (tail : List Char) : StartsSolid (text ++ tail) := by
  cases h with
  | last hword => exact hword.startsSolid (hsolid _ List.mem_cons_self) tail
  | cons hword =>
    rw [List.append_assoc, List.append_assoc]
    exact hword.startsSolid (hsolid _ List.mem_cons_self) _

/-- A phrase is recognised with a line end after it or without. -/
theorem isPhrase_iff {words : List String} (hwords : words ≠ [])
    (hsolid : ∀ word ∈ words, IsSolid word) : isPhrase words text = true ↔
      ∃ front tail, SpellsPhrase words front ∧ isEnd tail = true ∧ text = front ++ tail := by
  induction words generalizing text with
  | nil => exact absurd rfl hwords
  | cons word words ih =>
    cases words with
    | nil =>
      rw [isPhrase, Option.any_eq_true]
      constructor
      · rintro ⟨tail, htail, hend⟩
        obtain ⟨front, hfront, rfl⟩ := takeWord?_eq_some_iff.mp htail
        exact ⟨front, tail, .last hfront, hend, rfl⟩
      · rintro ⟨front, tail, hphrase, hend, rfl⟩
        cases hphrase with
        | last hword => exact ⟨tail, takeWord?_eq_some_iff.mpr ⟨front, hword, rfl⟩, hend⟩
        | cons _ _ hrest => cases hrest
    | cons second words =>
      have hmore : ∀ word ∈ second :: words, IsSolid word := fun word hmem ↦
        hsolid word (List.mem_cons_of_mem _ hmem)
      rw [isPhrase, Option.any_eq_true]
      · constructor
        · rintro ⟨rest, hrest, hphrase⟩
          obtain ⟨front, gap, hfront, hgap, rfl⟩ := takeWordAndBlanks?_eq_some hrest
          obtain ⟨front', tail, hspells, hend, rfl⟩ := (ih (List.cons_ne_nil _ _) hmore).mp hphrase
          exact ⟨front ++ gap ++ front', tail, .cons hfront hgap hspells, hend,
            (List.append_assoc ..).symm⟩
        · rintro ⟨front, tail, hphrase, hend, rfl⟩
          cases hphrase with
          | cons hword hgap hrest =>
            rw [List.append_assoc]
            exact ⟨_, takeWordAndBlanks?_append hword hgap (hrest.startsSolid hmore tail),
              (ih (List.cons_ne_nil _ _) hmore).mpr ⟨_, tail, hrest, hend, rfl⟩⟩
      · simp

/-! ### Quoted names -/

variable {name : List Char}

theorem bne_quote (hname : '"' ∉ name) : ∀ c ∈ name, (c != '"') = true := by
  intro c hc
  simp only [bne_iff_ne]
  rintro rfl
  exact hname hc

theorem startsSolid_quoted : StartsSolid ('"' :: text) := by
  intro c hc
  obtain rfl : '"' = c := by simpa using hc
  decide

theorem quotedName?_quoted (hname : '"' ∉ name) {tail : List Char} (hend : isEnd tail = true) :
    quotedName? ('"' :: (name ++ '"' :: tail)) = some name := by
  simp [quotedName?, List.takeWhile_append_of_pos (bne_quote hname),
    List.dropWhile_append_of_pos (bne_quote hname), hend]

theorem exists_of_quotedName? (h : quotedName? text = some name) :
    '"' ∉ name ∧ ∃ tail, isEnd tail = true ∧ text = '"' :: (name ++ '"' :: tail) := by
  unfold quotedName? at h
  split at h
  · next rest =>
    split at h
    · next tail hdrop =>
      split_ifs at h with hend
      obtain rfl := Option.some.inj h
      refine ⟨fun hmem ↦ ?_, tail, hend, ?_⟩
      · simpa using List.mem_takeWhile_imp hmem
      · rw [← hdrop, List.takeWhile_append_dropWhile]
    · cases h
  · cases h

end Cardfile.Command
