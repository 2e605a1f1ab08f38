import Cardfile.Proofs.Command.Spelling
import Mathlib.Data.Nat.Digits.Defs

/-!
# Lines that go

A line that goes somewhere is `go`, perhaps `to`, and a goal (`SpellsGoing`): `card` and a number in
digits of any script, perhaps with a minus sign; `card` and a name in quotes; or a word for a
direction, perhaps with `card` after it (`SpellsGoal`). With a line end after it or without, these
lines and no others are read, and they are read as what they spell (`ofLine?_eq_some_iff`). So
the order in which the spellings are tried makes no difference.

A line spells a destination if the number of digits can be read and the destination is the number
that they write, the name or the direction (`SpellsDestination`). `Destination.ofLine?_unambiguous`
says that these destinations are read, that no line spells two of them, and that nothing is read
from any other line.
-/

set_option autoImplicit false
set_option relaxedAutoImplicit false

namespace Cardfile.Command

open Text

/-! ### Card numbers -/

/-- A text that is empty or spells `to` with a gap after it. -/
def IsToClause (text : List Char) : Prop :=
  text = [] ∨ ∃ word gap, SpellsWord "to" word ∧ IsGap gap ∧ text = word ++ gap

/-- The sign of a card number. -/
def signOf (negative : Bool) : List Char :=
  if negative then ['-'] else []

/-- One digit of any script or more. -/
def AreDigits (digits : List Char) : Prop :=
  digits ≠ [] ∧ ∀ c ∈ digits, isAnyDigit c = true

/-- A line that goes to a card by a number with the given sign and digits. -/
inductive SpellsCardNumber (negative : Bool) (digits : List Char) : List Char → Prop
  | intro {go gap clause card space : List Char} (hgo : SpellsWord "go" go) (hgap : IsGap gap)
      (hclause : IsToClause clause) (hcard : SpellsWord "card" card) (hspace : IsGap space)
      (hdigits : AreDigits digits) :
    SpellsCardNumber negative digits
      (go ++ gap ++ (clause ++ (card ++ space ++ (signOf negative ++ digits))))

variable {negative : Bool} {digits line text tail : List Char} {values : List Nat}
  {going : Going}

/-! ### Digits of a card number -/

theorem exists_zero_of_isAnyDigit {c : Char} (h : isAnyDigit c = true) :
    ∃ start ∈ digitZeros, start ≤ c.toNat ∧ c.toNat ≤ start + 9 := by
  obtain ⟨value, hvalue⟩ := Option.isSome_iff_exists.mp h
  unfold digitValue? at hvalue
  split_ifs at hvalue with hascii hdigit
  · refine ⟨48, by decide, ?_⟩
    rw [Char.isDigit, Bool.and_eq_true, decide_eq_true_eq, decide_eq_true_eq] at hdigit
    exact hdigit
  · obtain ⟨start, hstart, -⟩ := Option.map_eq_some_iff.mp hvalue
    have hrange := List.find?_some hstart
    rw [Bool.and_eq_true, decide_eq_true_eq, decide_eq_true_eq] at hrange
    exact ⟨start, List.mem_of_find?_eq_some hstart, hrange⟩

/-- No digit of any script is a blank. -/
theorem isBlank_of_isAnyDigit {c : Char} (h : isAnyDigit c = true) : isBlank c = false := by
  have hapart : ∀ start ∈ digitZeros, ∀ blanks ∈ [(9, 13), (28, 32), (0x85, 0x85), (0xA0, 0xA0),
      (0x1680, 0x1680), (0x2000, 0x200A), (0x2028, 0x2029), (0x202F, 0x202F), (0x205F, 0x205F),
      (0x3000, 0x3000)], start + 9 < blanks.1 ∨ blanks.2 < start := by
    decide
  obtain ⟨start, hstart, hlow, hhigh⟩ := exists_zero_of_isAnyDigit h
  have hstart := hapart start hstart
  simp only [List.mem_cons, List.not_mem_nil, or_false, forall_eq_or_imp, forall_eq] at hstart
  rw [Bool.eq_false_iff]
  intro hblank
  simp only [isBlank, Bool.or_eq_true, Bool.and_eq_true, decide_eq_true_eq, beq_iff_eq] at hblank
  omega

theorem startsSolid_signOf (hdigits : AreDigits digits) :
    StartsSolid (signOf negative ++ (digits ++ tail)) := by
  intro c hc
  cases negative with
  | true =>
    obtain rfl : '-' = c := by simpa [signOf] using hc
    decide
  | false =>
    have hfirst : digits.head? = some c := by
      rwa [signOf, if_neg Bool.false_ne_true, List.nil_append,
        List.head?_append_of_ne_nil _ hdigits.1] at hc
    exact isBlank_of_isAnyDigit (hdigits.2 c (List.mem_of_mem_head? hfirst))

theorem length_filterMap_digitValue? (hdigits : AreDigits digits) :
    (digits.filterMap digitValue?).length = digits.length :=
  List.filterMap_length_eq_length.mpr hdigits.2

/-- The sign of a card number and what follows it. -/
def splitSign (text : List Char) : Bool × List Char :=
  match text with
  | '-' :: unsigned => (true, unsigned)
  | _ => (false, text)

theorem splitSign_signOf (hdigits : AreDigits digits) :
    splitSign (signOf negative ++ (digits ++ tail)) = (negative, digits ++ tail) := by
  cases negative with
  | true => rfl
  | false =>
    obtain ⟨first, rest, rfl⟩ := List.exists_cons_of_ne_nil hdigits.1
    show splitSign (first :: (rest ++ tail)) = (false, first :: (rest ++ tail))
    unfold splitSign
    split
    · next hminus =>
      obtain ⟨rfl, -⟩ := List.cons.inj hminus
      exact absurd (hdigits.2 '-' List.mem_cons_self) (by decide)
    · rfl

theorem eq_of_splitSign {unsigned : List Char} (h : splitSign text = (negative, unsigned)) :
    text = signOf negative ++ unsigned := by
  unfold splitSign at h
  split at h
  · cases h
    rfl
  · cases h
    rfl

theorem number?_eq (text : List Char) :
    Going.number? text =
      if (splitSign text).2.takeWhile isAnyDigit = [] then none
      else if isEnd ((splitSign text).2.dropWhile isAnyDigit) then
        some (.number (splitSign text).1
          (((splitSign text).2.takeWhile isAnyDigit).filterMap digitValue?))
      else none := by
  unfold Going.number?
  split
  next negative unsigned hsign =>
    have hsplit : splitSign text = (negative, unsigned) := hsign
    rw [hsplit]
    split
    · next hnone => rw [if_pos hnone]
    · next hsome => rw [if_neg hsome]

theorem isAnyDigit_of_isEnd (hend : isEnd tail = true) :
    tail.takeWhile isAnyDigit = [] ∧ tail.dropWhile isAnyDigit = tail := by
  rcases isEnd_iff.mp hend with rfl | rfl <;> decide

theorem number?_of_areDigits (hdigits : AreDigits digits) (hend : isEnd tail = true) :
    Going.number? (signOf negative ++ (digits ++ tail)) =
      some (.number negative (digits.filterMap digitValue?)) := by
  obtain ⟨htake, hdrop⟩ := isAnyDigit_of_isEnd hend
  rw [number?_eq, splitSign_signOf hdigits, List.takeWhile_append_of_pos hdigits.2,
    List.dropWhile_append_of_pos hdigits.2, htake, hdrop, List.append_nil, if_neg hdigits.1,
    if_pos hend]

/-- A text read as a number is a sign, digits and at most a line end. -/
theorem exists_of_number?_eq {going : Going} (h : Going.number? text = some going) :
    ∃ negative digits tail, text = signOf negative ++ (digits ++ tail) ∧ AreDigits digits ∧
      isEnd tail = true ∧ going = .number negative (digits.filterMap digitValue?) := by
  rw [number?_eq] at h
  rcases hsplit : splitSign text with ⟨negative, unsigned⟩
  rw [hsplit] at h
  split_ifs at h with hne htail
  refine ⟨negative, unsigned.takeWhile isAnyDigit, unsigned.dropWhile isAnyDigit, ?_, ?_, htail,
    (Option.some.inj h).symm⟩
  · rw [List.takeWhile_append_dropWhile]
    exact eq_of_splitSign hsplit
  · exact ⟨hne, fun c hc ↦ List.mem_takeWhile_imp hc⟩

/-! ### Directions -/

/-- A text that names a direction: one of the words for it, perhaps with `card` after it. -/
def SpellsDirection (direction : Direction) (text : List Char) : Prop :=
  ∃ word, (word, direction) ∈ Going.directionWords ∧
    (SpellsPhrase [word] text ∨ SpellsPhrase [word, "card"] text)

theorem isSolid_directionWord {word : String} {direction : Direction}
    (hword : (word, direction) ∈ Going.directionWords) : IsSolid word := by
  have hsolid : ∀ entry ∈ Going.directionWords, IsSolid entry.1 := by decide
  exact hsolid _ hword

theorem isDirection_iff {word : String} (hsolid : IsSolid word) :
    (isPhrase [word] text || isPhrase [word, "card"] text) = true ↔
      ∃ front tail, (SpellsPhrase [word] front ∨ SpellsPhrase [word, "card"] front) ∧
        isEnd tail = true ∧ text = front ++ tail := by
  have hboth : ∀ other ∈ [word, "card"], IsSolid other := by
    simp [hsolid, isSolid_card]
  have hone : ∀ other ∈ [word], IsSolid other := by
    simp [hsolid]
  rw [Bool.or_eq_true, isPhrase_iff (List.cons_ne_nil _ _) hone,
    isPhrase_iff (List.cons_ne_nil _ _) hboth]
  simp only [or_and_right, exists_or]

/-- What stands after the first word of a direction is nothing or starts with a blank. -/
theorem exists_word_of_phrase {word : String}
    (h : SpellsPhrase [word] text ∨ SpellsPhrase [word, "card"] text) :
    ∃ front rest, SpellsWord word front ∧ text = front ++ rest ∧
      ∀ c, rest.head? = some c → isBlank c = true := by
  rcases h with h | h
  · cases h with
    | last hword => exact ⟨text, [], hword, (List.append_nil _).symm, by simp⟩
    | cons _ _ hrest => cases hrest
  · cases h with
    | @cons _ _ front gap rest hword hgap hrest =>
      refine ⟨front, gap ++ rest, hword, List.append_assoc .., fun c hc ↦ ?_⟩
      rw [List.head?_append_of_ne_nil _ hgap.1] at hc
      exact hgap.2 c (List.mem_of_mem_head? hc)

/-- The letters before the first blank tell the word. -/
theorem letters_of_phrase {word : String} (hsolid : IsSolid word)
    (h : SpellsPhrase [word] text ∨ SpellsPhrase [word, "card"] text) (hend : isEnd tail = true) :
    ((text ++ tail).takeWhile fun c ↦ !isBlank c).map wordLetter = word.toList := by
  obtain ⟨front, rest, hword, rfl, hrest⟩ := exists_word_of_phrase h
  have hfront : ∀ c ∈ front, (!isBlank c) = true := fun c hc ↦ by
    rw [hword.isBlank_eq_false hsolid hc, Bool.not_false]
  have hstop : (rest ++ tail).takeWhile (fun c ↦ !isBlank c) = [] := by
    cases rest with
    | nil => rcases isEnd_iff.mp hend with rfl | rfl <;> decide
    | cons first rest => exact List.takeWhile_cons_of_neg (by simp [hrest first rfl])
  rw [List.append_assoc, List.takeWhile_append_of_pos hfront, hstop, List.append_nil]
  exact hword

theorem direction?_of_spells {direction : Direction} (h : SpellsDirection direction text)
    (hend : isEnd tail = true) : Going.direction? (text ++ tail) = some (.toward direction) := by
  obtain ⟨word, hword, hphrase⟩ := h
  have hhere := (isDirection_iff (isSolid_directionWord hword)).mpr ⟨text, tail, hphrase, hend, rfl⟩
  have hsome : (Going.direction? (text ++ tail)).isSome = true :=
    List.findSome?_isSome_iff.mpr ⟨(word, direction), hword, by simp [hhere]⟩
  obtain ⟨going, hgoing⟩ := Option.isSome_iff_exists.mp hsome
  obtain ⟨⟨other, second⟩, hother, hfound⟩ := List.exists_of_findSome?_eq_some hgoing
  dsimp only at hfound
  split_ifs at hfound with hthere
  obtain rfl := Option.some.inj hfound
  obtain ⟨front, rest, hspells, hrest, htext⟩ :=
    (isDirection_iff (isSolid_directionWord hother)).mp hthere
  -- Whichever word is recognised first, it is the one before the first blank.
  have hsame : word.toList = other.toList := by
    rw [← letters_of_phrase (isSolid_directionWord hword) hphrase hend, htext,
      letters_of_phrase (isSolid_directionWord hother) hspells hrest]
  have hkeys : ∀ entry ∈ Going.directionWords, ∀ other ∈ Going.directionWords,
      entry.1.toList = other.1.toList → entry.2 = other.2 := by
    decide
  obtain rfl : direction = second := hkeys _ hword _ hother hsame
  exact hgoing

theorem exists_of_direction?_eq (h : Going.direction? text = some going) :
    ∃ direction front tail, SpellsDirection direction front ∧ isEnd tail = true ∧
      text = front ++ tail ∧ going = .toward direction := by
  obtain ⟨⟨word, direction⟩, hword, hfound⟩ := List.exists_of_findSome?_eq_some h
  dsimp only at hfound
  split_ifs at hfound with hhere
  obtain ⟨front, tail, hphrase, hend, rfl⟩ :=
    (isDirection_iff (isSolid_directionWord hword)).mp hhere
  exact ⟨direction, front, tail, ⟨word, hword, hphrase⟩, hend, rfl,
    (Option.some.inj hfound).symm⟩

/-! ### Goals -/

/-- Where a line goes: what stands after `go` and perhaps `to`. -/
inductive SpellsGoal : Going → List Char → Prop
  | number {negative : Bool} {card space digits : List Char} (hcard : SpellsWord "card" card)
      (hspace : IsGap space) (hdigits : AreDigits digits) :
    SpellsGoal (.number negative (digits.filterMap digitValue?))
      (card ++ space ++ (signOf negative ++ digits))
  | name {card space name : List Char} (hcard : SpellsWord "card" card) (hspace : IsGap space)
      (hname : '"' ∉ name) :
    SpellsGoal (.name (String.ofList name)) (card ++ space ++ ('"' :: (name ++ ['"'])))
  | toward {direction : Direction} {text : List Char}
      (hdirection : SpellsDirection direction text) :
    SpellsGoal (.toward direction) text

/-- A goal starts with a word that is told apart from `to`. -/
theorem SpellsGoal.exists_word (h : SpellsGoal going text) :
    ∃ word front rest, SpellsWord word front ∧ text = front ++ rest ∧ IsSolid word ∧
      ¬ ("to".toList <+: word.toList ∨ word.toList <+: "to".toList) := by
  cases h with
  | number hcard hspace hdigits =>
    exact ⟨"card", _, _, hcard, List.append_assoc .., isSolid_card, by decide⟩
  | name hcard hspace hname =>
    exact ⟨"card", _, _, hcard, List.append_assoc .., isSolid_card, by decide⟩
  | toward hdirection =>
    obtain ⟨word, hword, hphrase⟩ := hdirection
    obtain ⟨front, rest, hfront, htext, -⟩ := exists_word_of_phrase hphrase
    have hapart : ∀ entry ∈ Going.directionWords,
        ¬ ("to".toList <+: entry.1.toList ∨ entry.1.toList <+: "to".toList) := by
      decide
    exact ⟨word, front, rest, hfront, htext, isSolid_directionWord hword, hapart _ hword⟩

theorem number?_quoted (text : List Char) : Going.number? ('"' :: text) = none := by
  rw [number?_eq]
  exact if_pos (List.takeWhile_cons_of_neg (by decide))

/-- A direction is not taken for a card. -/
theorem card?_of_spellsDirection {direction : Direction} (h : SpellsDirection direction text)
    (tail : List Char) : Going.card? (text ++ tail) = none := by
  obtain ⟨word, hword, hphrase⟩ := h
  obtain ⟨front, rest, hfront, rfl, -⟩ := exists_word_of_phrase hphrase
  have hapart : ∀ entry ∈ Going.directionWords,
      ¬ ("card".toList <+: entry.1.toList ∨ entry.1.toList <+: "card".toList) := by
    decide
  rw [List.append_assoc, Going.card?, takeWordAndBlanks?_eq_none hfront (hapart _ hword)]
  rfl

theorem SpellsGoal.read (h : SpellsGoal going text) (hend : isEnd tail = true) :
    (Going.card? (text ++ tail) <|> Going.direction? (text ++ tail)) = some going := by
  cases h with
  | number hcard hspace hdigits =>
    rw [List.append_assoc, List.append_assoc (signOf _), Going.card?,
      takeWordAndBlanks?_append hcard hspace (startsSolid_signOf hdigits)]
    simp only [Option.bind_eq_bind, Option.bind_some, number?_of_areDigits hdigits hend]
    rfl
  | @name card space name hcard hspace hname =>
    have htext : card ++ space ++ ('"' :: (name ++ ['"'])) ++ tail =
        card ++ space ++ ('"' :: (name ++ '"' :: tail)) := by
      simp
    rw [htext, Going.card?, takeWordAndBlanks?_append hcard hspace startsSolid_quoted]
    simp only [Option.bind_eq_bind, Option.bind_some, number?_quoted, quotedName?_quoted hname hend]
    rfl
  | toward hdirection =>
    rw [card?_of_spellsDirection hdirection, direction?_of_spells hdirection hend]
    rfl

theorem exists_of_card?_eq (h : Going.card? text = some going) :
    ∃ front tail, SpellsGoal going front ∧ isEnd tail = true ∧ text = front ++ tail := by
  obtain ⟨rest, hrest, hread⟩ := Option.bind_eq_some_iff.mp h
  obtain ⟨card, space, hcard, hspace, rfl⟩ := takeWordAndBlanks?_eq_some hrest
  cases hnumber : Going.number? rest with
  | some found =>
    rw [hnumber] at hread
    obtain rfl : found = going := Option.some.inj hread
    obtain ⟨negative, digits, tail, rfl, hdigits, hend, rfl⟩ := exists_of_number?_eq hnumber
    exact ⟨_, tail, .number hcard hspace hdigits, hend, by simp only [List.append_assoc]⟩
  | none =>
    rw [hnumber] at hread
    obtain ⟨name, hname, rfl⟩ := Option.map_eq_some_iff.mp hread
    obtain ⟨hquote, tail, hend, rfl⟩ := exists_of_quotedName? hname
    exact ⟨_, tail, .name hcard hspace hquote, hend, by simp⟩

/-- A goal is read with a line end after it or without. -/
theorem goal_eq_some_iff :
    (Going.card? text <|> Going.direction? text) = some going ↔
      ∃ front tail, SpellsGoal going front ∧ isEnd tail = true ∧ text = front ++ tail := by
  constructor
  · intro h
    rcases (Option.orElse_eq_some _ _ _).mp h with hcard | ⟨-, hdirection⟩
    · exact exists_of_card?_eq hcard
    · obtain ⟨direction, front, tail, hspells, hend, rfl, rfl⟩ := exists_of_direction?_eq hdirection
      exact ⟨front, tail, .toward hspells, hend, rfl⟩
  · rintro ⟨front, tail, hgoal, hend, rfl⟩
    exact hgoal.read hend

/-! ### Lines -/

/-- A line that goes somewhere. -/
inductive SpellsGoing (going : Going) : List Char → Prop
  | intro {go gap clause goal : List Char} (hgo : SpellsWord "go" go) (hgap : IsGap gap)
      (hclause : IsToClause clause) (hgoal : SpellsGoal going goal) :
    SpellsGoing going (go ++ gap ++ (clause ++ goal))

theorem SpellsGoing.ofLine?_eq (h : SpellsGoing going text) (hend : isEnd tail = true) :
    Going.ofLine? (text ++ tail) = some going := by
  obtain ⟨hgo, hgap, hclause, hgoal⟩ := h
  rename_i go gap clause goal
  have hto : IsClause "to" clause := hclause
  obtain ⟨word, front, rest, hfront, rfl, hsolid, hapart⟩ := hgoal.exists_word
  have hstarts : StartsSolid (clause ++ (front ++ rest) ++ tail) := by
    rw [List.append_assoc, List.append_assoc]
    exact hto.startsSolid isSolid_to (hfront.startsSolid hsolid _)
  have hskip : skipWord "to" (clause ++ (front ++ rest) ++ tail) = front ++ rest ++ tail := by
    rw [List.append_assoc, List.append_assoc]
    exact skipWord_append hto hfront hsolid hapart _
  rw [List.append_assoc, Going.ofLine?, takeWordAndBlanks?_append hgo hgap hstarts]
  simp only [Option.bind_eq_bind, Option.bind_some, hskip]
  exact hgoal.read hend

/-- The lines that are read are those that go somewhere, with a line end after them or without. -/
theorem ofLine?_eq_some_iff : Going.ofLine? line = some going ↔
    ∃ text tail, SpellsGoing going text ∧ isEnd tail = true ∧ line = text ++ tail := by
  constructor
  · intro h
    obtain ⟨afterGo, hgo, hgoal⟩ := Option.bind_eq_some_iff.mp h
    obtain ⟨go, gap, hword, hgap, rfl⟩ := takeWordAndBlanks?_eq_some hgo
    obtain ⟨clause, hclause, hafter⟩ := exists_isClause_skipWord "to" afterGo
    obtain ⟨front, tail, hspells, hend, hskip⟩ := goal_eq_some_iff.mp hgoal
    refine ⟨_, tail, .intro hword hgap hclause hspells, hend, ?_⟩
    rw [hafter, hskip]
    simp only [List.append_assoc]
  · rintro ⟨text, tail, hspells, hend, rfl⟩
    exact hspells.ofLine?_eq hend

theorem SpellsGoing.unique {other : Going} (h : SpellsGoing going line)
    (hother : SpellsGoing other line) : going = other := by
  have hgoing : Going.ofLine? (line ++ []) = some going := h.ofLine?_eq rfl
  rw [hother.ofLine?_eq rfl] at hgoing
  exact (Option.some.inj hgoing).symm

/-! ### Lines that go to a card by its number -/

theorem spellsCardNumber_go_card (hdigits : AreDigits digits) :
    SpellsCardNumber false digits ("go card ".toList ++ digits) :=
  @SpellsCardNumber.intro false digits "go".toList [' '] [] "card".toList [' '] rfl
    isGap_space (Or.inl rfl) rfl isGap_space hdigits

theorem SpellsCardNumber.areDigits (h : SpellsCardNumber negative digits line) :
    AreDigits digits := by
  cases h with
  | intro _ _ _ _ _ hdigits => exact hdigits

theorem SpellsCardNumber.length_le (h : SpellsCardNumber negative digits line) :
    digits.length ≤ line.length := by
  cases h with
  | intro _ _ _ _ _ _ =>
    simp only [List.length_append]
    omega

theorem spellsGoing_number_iff : SpellsGoing (.number negative values) line ↔
    ∃ digits, SpellsCardNumber negative digits line ∧ values = digits.filterMap digitValue? := by
  constructor
  · rintro ⟨hgo, hgap, hclause, hgoal⟩
    cases hgoal with
    | number hcard hspace hdigits => exact ⟨_, .intro hgo hgap hclause hcard hspace hdigits, rfl⟩
  · rintro ⟨digits, ⟨hgo, hgap, hclause, hcard, hspace, hdigits⟩, rfl⟩
    exact .intro hgo hgap hclause (.number hcard hspace hdigits)

/-- A line that spells a card number starts as a `go` line does, and it is read as that number. -/
theorem SpellsCardNumber.ofLine?_eq (h : SpellsCardNumber negative digits line) :
    (takeWordAndBlanks? "go" line).isSome = true ∧
      Going.ofLine? line = some (.number negative (digits.filterMap digitValue?)) := by
  have hgoing : Going.ofLine? line = some (.number negative (digits.filterMap digitValue?)) :=
    ofLine?_eq_some_iff.mpr ⟨line, [], spellsGoing_number_iff.mpr ⟨digits, h, rfl⟩, rfl,
      (List.append_nil _).symm⟩
  exact ⟨Option.isSome_of_isSome_bind (Option.isSome_of_eq_some hgoing), hgoing⟩

theorem isSome_go?_of_ofLine? (h : Going.ofLine? line = some going) :
    (go? line).isSome = true := by
  obtain ⟨rest, hgo, -⟩ := Option.bind_eq_some_iff.mp h
  rw [Command.go?, hgo]
  rfl

/-- Only a line that spells a card number is read as one, unless a line end follows it. -/
theorem exists_spellsCardNumber (hline : line.getLast? ≠ some '\n')
    (h : Going.ofLine? line = some (.number negative values)) :
    ∃ digits, SpellsCardNumber negative digits line ∧ values = digits.filterMap digitValue? := by
  obtain ⟨text, tail, hspells, hend, rfl⟩ := ofLine?_eq_some_iff.mp h
  rw [eq_nil_of_isEnd text hend hline, List.append_nil]
  exact spellsGoing_number_iff.mp hspells

/-! ### Destinations -/

/-- A line that spells a destination. The digits of a number are no more than are read. -/
inductive SpellsDestination : Destination → List Char → Prop
  | number {negative : Bool} {digits line : List Char}
      (hspells : SpellsCardNumber negative digits line)
      (hshort : digits.length ≤ digitLimit) :
    SpellsDestination (.number (withSign negative
      (Nat.ofDigits 10 (digits.filterMap digitValue?).reverse))) line
  | name {name : String} {line : List Char} (hspells : SpellsGoing (.name name) line) :
    SpellsDestination (.name name) line
  | toward {direction : Direction} {line : List Char}
      (hspells : SpellsGoing (.toward direction) line) :
    SpellsDestination (.toward direction) line

/-- A line with a property, with a line end after it or without. -/
def OnLine (property : List Char → Prop) (line : List Char) : Prop :=
  property line ∨ ∃ text, line = text ++ ['\n'] ∧ property text

theorem onLine_iff {property : List Char → Prop} :
    OnLine property line ↔
      ∃ text tail, property text ∧ isEnd tail = true ∧ line = text ++ tail := by
  constructor
  · rintro (h | ⟨text, rfl, h⟩)
    · exact ⟨line, [], h, rfl, (List.append_nil _).symm⟩
    · exact ⟨text, ['\n'], h, rfl, rfl⟩
  · rintro ⟨text, tail, h, hend, rfl⟩
    rcases isEnd_iff.mp hend with rfl | rfl
    · exact Or.inl (by rwa [List.append_nil])
    · exact Or.inr ⟨text, rfl, h⟩

theorem numberOfDigits_eq (digits : List Nat) :
    numberOfDigits digits = Nat.ofDigits 10 digits.reverse := by
  rw [Nat.ofDigits_eq_foldr, List.foldr_reverse, numberOfDigits]
  congr 1
  funext number digit
  exact Nat.add_comm ..

variable {destination : Destination}

/-- What is spelled is a way of going that leads somewhere. -/
theorem spellsDestination_iff : SpellsDestination destination line ↔
    ∃ going, SpellsGoing going line ∧ going.destination = .ok destination := by
  constructor
  · rintro (⟨hspells, hshort⟩ | hspells | hspells)
    · refine ⟨_, spellsGoing_number_iff.mpr ⟨_, hspells, rfl⟩, ?_⟩
      rw [Going.destination, if_pos ((List.length_filterMap_le ..).trans hshort), numberOfDigits_eq]
    · exact ⟨_, hspells, rfl⟩
    · exact ⟨_, hspells, rfl⟩
  · rintro ⟨going, hspells, hdestination⟩
    cases going with
    | number negative values =>
      obtain ⟨digits, hnumber, rfl⟩ := spellsGoing_number_iff.mp hspells
      rw [Going.destination, length_filterMap_digitValue? hnumber.areDigits] at hdestination
      split_ifs at hdestination with hshort
      cases hdestination
      rw [numberOfDigits_eq]
      exact .number hnumber hshort
    | name name =>
      cases hdestination
      exact .name hspells
    | toward direction =>
      cases hdestination
      exact .toward hspells

theorem SpellsDestination.unique {other : Destination} (h : SpellsDestination destination line)
    (hother : SpellsDestination other line) : destination = other := by
  obtain ⟨going, hspells, hdestination⟩ := spellsDestination_iff.mp h
  obtain ⟨second, hsecond, hmeans⟩ := spellsDestination_iff.mp hother
  obtain rfl := hspells.unique hsecond
  rw [hdestination] at hmeans
  exact Except.ok.inj hmeans

end Cardfile.Command

namespace Cardfile.Destination

open Text Command

theorem ofLine?_eq_some_iff_going {line : String} {destination : Destination} :
    ofLine? line = .ok (some destination) ↔
      ∃ going, Going.ofLine? line.toList = some going ∧ going.destination = .ok destination := by
  unfold ofLine?
  cases Going.ofLine? line.toList with
  | none => simp
  | some going => cases hdestination : going.destination <;> simp [Except.map, hdestination]

theorem ofLine?_eq_some_iff {line : String} {destination : Destination} :
    ofLine? line = .ok (some destination) ↔ OnLine (SpellsDestination destination) line.toList := by
  rw [ofLine?_eq_some_iff_going, onLine_iff]
  constructor
  · rintro ⟨going, hgoing, hdestination⟩
    obtain ⟨text, tail, hspells, hend, hline⟩ := Command.ofLine?_eq_some_iff.mp hgoing
    exact ⟨text, tail, spellsDestination_iff.mpr ⟨going, hspells, hdestination⟩, hend, hline⟩
  · rintro ⟨text, tail, hspells, hend, hline⟩
    obtain ⟨going, hgoing, hdestination⟩ := spellsDestination_iff.mp hspells
    exact ⟨going, Command.ofLine?_eq_some_iff.mpr ⟨text, tail, hgoing, hend, hline⟩, hdestination⟩

/-- A line whose destination is not read spells a card number of too many digits. -/
theorem exists_long_of_ofLine? {line : String} {failure : Failure}
    (h : ofLine? line = .error failure) : ∃ negative digits,
      OnLine (SpellsCardNumber negative digits) line.toList ∧ digitLimit < digits.length := by
  unfold ofLine? at h
  cases hgoing : Going.ofLine? line.toList with
  | none =>
    rw [hgoing] at h
    cases h
  | some going =>
    rw [hgoing] at h
    obtain ⟨text, tail, hspells, hend, hline⟩ := Command.ofLine?_eq_some_iff.mp hgoing
    cases going with
    | number negative values =>
      obtain ⟨digits, hnumber, rfl⟩ := spellsGoing_number_iff.mp hspells
      refine ⟨negative, digits, onLine_iff.mpr ⟨text, tail, hnumber, hend, hline⟩, ?_⟩
      by_contra hshort
      have hlength := length_filterMap_digitValue? hnumber.areDigits
      have hdestination : (Going.number negative (digits.filterMap digitValue?)).destination =
          .ok (.number (withSign negative (numberOfDigits (digits.filterMap digitValue?)))) := by
        rw [Going.destination, if_pos (by omega)]
      dsimp only at h
      rw [hdestination] at h
      cases h
    | name name => cases h
    | toward direction => cases h

/-- The destinations that are read are those that the line spells, with a line end after it or
without, and no line spells two of them. As long as no card number on the line has more digits than
are read, nothing is read exactly from the lines that spell no destination. -/
theorem ofLine?_unambiguous (line : String) :
    (∀ destination, ofLine? line = .ok (some destination) ↔
        OnLine (SpellsDestination destination) line.toList) ∧
      (∀ text destination other, SpellsDestination destination text →
        SpellsDestination other text → destination = other) ∧
      ((∀ negative digits, OnLine (SpellsCardNumber negative digits) line.toList →
          digits.length ≤ digitLimit) →
        (ofLine? line = .ok none ↔
          ∀ destination, ¬ OnLine (SpellsDestination destination) line.toList)) := by
  refine ⟨fun destination ↦ ofLine?_eq_some_iff, fun _ _ _ h hother ↦ h.unique hother,
    fun hshort ↦ ⟨fun hnone destination hspells ↦ ?_, fun hnone ↦ ?_⟩⟩
  · rw [ofLine?_eq_some_iff.mpr hspells] at hnone
    cases hnone
  · cases hread : ofLine? line with
    | error failure =>
      obtain ⟨negative, digits, hspells, hlong⟩ := exists_long_of_ofLine? hread
      exact absurd (hshort negative digits hspells) (by omega)
    | ok destination? =>
      cases destination? with
      | none => rfl
      | some destination => exact absurd (ofLine?_eq_some_iff.mp hread) (hnone destination)

/-- A line has no more digits than characters. -/
theorem length_le_of_onLine {negative : Bool} {digits line : List Char}
    (h : OnLine (SpellsCardNumber negative digits) line) : digits.length ≤ line.length := by
  obtain ⟨text, tail, hspells, -, rfl⟩ := onLine_iff.mp h
  rw [List.length_append]
  exact hspells.length_le.trans (Nat.le_add_right ..)

/-- A number in digits of two scripts, and a line that goes nowhere. -/
theorem ofLine?_unambiguous_mixedDigits :
    OnLine (SpellsDestination (.number (-13))) "GO  to card -١3\n".toList ∧
      (∀ negative digits, OnLine (SpellsCardNumber negative digits) "go next to card 1".toList →
        digits.length ≤ digitLimit) ∧
      ∀ destination, ¬ OnLine (SpellsDestination destination) "go next to card 1".toList := by
  obtain ⟨hread, -, -⟩ := ofLine?_unambiguous "GO  to card -١3\n"
  obtain ⟨-, -, hnone⟩ := ofLine?_unambiguous "go next to card 1"
  have hshort (negative : Bool) (digits : List Char)
      (h : OnLine (SpellsCardNumber negative digits) "go next to card 1".toList) :
      digits.length ≤ digitLimit :=
    (length_le_of_onLine h).trans (by decide)
  exact ⟨(hread _).mp (by decide +kernel), hshort, (hnone hshort).mp (by decide +kernel)⟩

end Cardfile.Destination
