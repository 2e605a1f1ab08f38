import Cardfile.Proofs.Command.Destinations
import Cardfile.Proofs.Command.Rules
import Cardfile.Proofs.Text.LetterCase

/-!
# Lines in another letter case

What is read from a line in lower case is what is read from the line itself, in lower case
(`recognise_map_toLower`, `ofLine?_map_toLower`): each function that takes a piece off the front of
a text commutes with lowering its letters. So of two lines that differ in letter case only, the
same rules recognise both, and they say the same up to the case of the names and expressions in
them.
-/

set_option autoImplicit false
set_option relaxedAutoImplicit false

namespace Cardfile

open Text

/-! ### What is said, in lower case -/

/-- What is written about a place to go, with a name in lower case. -/
def Going.lowered : Going → Going
  | .name title => .name (Text.lowered title)
  | going => going

def Destination.lowered : Destination → Destination
  | .name title => .name (Text.lowered title)
  | destination => destination

namespace Command

def lowered : Command → Command
  | .go going? => .go (going?.map Going.lowered)
  | .put expression name => .put (Text.lowered expression) (Text.lowered name)
  | .get name => .get (Text.lowered name)
  | .answer expression => .answer (Text.lowered expression)
  | .find expression => .find (Text.lowered expression)
  | command => command

theorem form_lowered (command : Command) : command.lowered.form = command.form := by
  cases command <;> rfl

/-- Two steps that commute with changes of what they read do so one after the other. -/
theorem bind_map_of_comm {α β : Type} {change : α → α} {after : β → β} {next : α → Option β}
    (h : ∀ a, next (change a) = (next a).map after) (first : Option α) :
    (first.map change).bind next = (first.bind next).map after := by
  cases first with
  | none => rfl
  | some a => exact h a

/-! ### Words and blanks -/

theorem wordLetter_toLower (c : Char) : wordLetter c.toLower = wordLetter c :=
  read_toLower wordLetter (by decide) c

theorem takeWord?_map_toLower (word text : List Char) :
    takeWord? word (text.map Char.toLower) = (takeWord? word text).map (List.map Char.toLower) := by
  induction word generalizing text with
  | nil => rfl
  | cons letter word ih =>
    cases text with
    | nil => rfl
    | cons c rest =>
      rw [List.map_cons, takeWord?, takeWord?, wordLetter_toLower]
      by_cases hletter : wordLetter c = letter
      · rw [if_pos hletter, if_pos hletter]
        exact ih rest
      · rw [if_neg hletter, if_neg hletter]
        rfl

theorem takeBlanks?_map_toLower (text : List Char) :
    takeBlanks? (text.map Char.toLower) = (takeBlanks? text).map (List.map Char.toLower) := by
  cases text with
  | nil => rfl
  | cons c rest =>
    rw [List.map_cons, takeBlanks?, takeBlanks?, isBlank_toLower]
    by_cases hblank : isBlank c = true
    · rw [if_pos hblank, if_pos hblank, dropWhile_map_toLower isBlank_toLower]
      rfl
    · rw [if_neg hblank, if_neg hblank]
      rfl

theorem takeWordAndBlanks?_map_toLower (word : String) (text : List Char) :
    takeWordAndBlanks? word (text.map Char.toLower) =
      (takeWordAndBlanks? word text).map (List.map Char.toLower) := by
  rw [takeWordAndBlanks?, takeWord?_map_toLower]
  exact bind_map_of_comm takeBlanks?_map_toLower _

theorem skipWord_map_toLower (word : String) (text : List Char) :
    skipWord word (text.map Char.toLower) = (skipWord word text).map Char.toLower := by
  rw [skipWord, skipWord, takeWordAndBlanks?_map_toLower]
  cases takeWordAndBlanks? word text <;> rfl

theorem isEnd_map_toLower (text : List Char) : isEnd (text.map Char.toLower) = isEnd text := by
  rw [Bool.eq_iff_iff, isEnd_iff, isEnd_iff, List.map_eq_nil_iff, List.map_eq_singleton_iff]
  simp only [toLower_eq_iff break_mem_marks, exists_eq_right]

theorem isPhrase_map_toLower (words : List String) (text : List Char) :
    isPhrase words (text.map Char.toLower) = isPhrase words text := by
  induction words generalizing text with
  | nil => exact isEnd_map_toLower text
  | cons word more ih =>
    cases more with
    | nil =>
      rw [isPhrase, isPhrase, takeWord?_map_toLower, Option.any_map]
      simp only [isEnd_map_toLower]
    | cons second more =>
      rw [isPhrase, isPhrase, takeWordAndBlanks?_map_toLower, Option.any_map]
      · simp only [ih]
      · simp
      · simp

/-! ### Quoted names -/

/-- What an opening quote is followed by: a name up to a closing quote, and the end. -/
def closedName? (rest : List Char) : Option (List Char) :=
  if (rest.dropWhile (· != '"')).head? = some '"' && isEnd (rest.dropWhile (· != '"')).tail then
    some (rest.takeWhile (· != '"'))
  else none

theorem quotedName?_eq (text : List Char) :
    quotedName? text = if text.head? = some '"' then closedName? text.tail else none := by
  unfold quotedName?
  split
  · next rest =>
    rw [List.head?_cons, if_pos rfl, List.tail_cons, closedName?]
    split
    · next tail hdrop => simp [hdrop]
    · next hnone =>
      have hopen : (rest.dropWhile (· != '"')).head? ≠ some '"' := by
        intro hhead
        obtain ⟨tail, htail⟩ := List.head?_eq_some_iff.mp hhead
        exact hnone tail htail
      simp [hopen]
  · next hnone =>
    have hopen : text.head? ≠ some '"' := by
      intro hhead
      obtain ⟨tail, htail⟩ := List.head?_eq_some_iff.mp hhead
      exact hnone tail htail
    rw [if_neg hopen]

theorem closedName?_map_toLower (rest : List Char) :
    closedName? (rest.map Char.toLower) = (closedName? rest).map (List.map Char.toLower) := by
  rw [closedName?, closedName?, dropWhile_map_toLower (toLower_bne quote_mem_marks),
    takeWhile_map_toLower (toLower_bne quote_mem_marks), ← List.map_tail, isEnd_map_toLower]
  simp only [head?_map_toLower_eq_iff quote_mem_marks]
  split_ifs <;> rfl

theorem quotedName?_map_toLower (text : List Char) :
    quotedName? (text.map Char.toLower) = (quotedName? text).map (List.map Char.toLower) := by
  rw [quotedName?_eq, quotedName?_eq, ← List.map_tail, closedName?_map_toLower]
  simp only [head?_map_toLower_eq_iff quote_mem_marks]
  split_ifs <;> rfl

theorem fieldReference?_map_toLower (text : List Char) :
    fieldReference? (text.map Char.toLower) =
      (fieldReference? text).map (List.map Char.toLower) := by
  rw [fieldReference?, skipWord_map_toLower, takeWordAndBlanks?_map_toLower]
  exact bind_map_of_comm quotedName?_map_toLower _

/-! ### Expressions -/

theorem dropLineEnd_map_toLower (text : List Char) :
    dropLineEnd (text.map Char.toLower) = (dropLineEnd text).map Char.toLower := by
  rw [dropLineEnd, dropLineEnd, ← List.map_dropLast]
  simp only [getLast?_map_toLower_eq_iff break_mem_marks]
  split_ifs <;> rfl

theorem argument?_map_toLower (text : List Char) :
    argument? (text.map Char.toLower) = (argument? text).map (List.map Char.toLower) := by
  have hlast : ∀ line : List Char,
      ((line.map Char.toLower).getLast? != some '\n') = (line.getLast? != some '\n') := by
    intro line
    rw [Bool.eq_iff_iff, bne_iff_ne, bne_iff_ne, Ne, getLast?_map_toLower_eq_iff break_mem_marks]
  unfold argument?
  dsimp only
  rw [dropLineEnd_map_toLower, all_isBlank_map_toLower, List.length_map, hlast, List.head?_map,
    any_isBlank_map_toLower, dropWhile_map_toLower isBlank_toLower,
    contains_map_toLower break_mem_marks, trim_map_toLower]
  split_ifs <;> rfl

theorem enclosed?_map_toLower (text : List Char) :
    enclosed? (text.map Char.toLower) = (enclosed? text).map (List.map Char.toLower) := by
  have hany : ∀ inner : List Char,
      (inner.map Char.toLower).any (· != '\n') = inner.any (· != '\n') := by
    intro inner
    simp only [List.any_map, Function.comp_def, toLower_bne break_mem_marks]
  unfold enclosed?
  rw [all_isBlank_map_toLower, ← List.map_drop, ← List.map_dropLast, hany, List.head?_map,
    List.getLast?_map, any_isBlank_map_toLower, any_isBlank_map_toLower, trim_map_toLower,
    contains_map_toLower break_mem_marks]
  split_ifs <;> rfl

/-! ### Commands -/

theorem beep?_map_toLower (line : List Char) :
    beep? (line.map Char.toLower) = (beep? line).map lowered := by
  rw [beep?, beep?, isPhrase_map_toLower]
  split_ifs <;> rfl

theorem intoClause?_map_toLower (text : List Char) :
    intoClause? (text.map Char.toLower) = (intoClause? text).map (List.map Char.toLower) := by
  rw [intoClause?, takeWordAndBlanks?_map_toLower]
  exact bind_map_of_comm fieldReference?_map_toLower _

theorem splitInto?_map_toLower (text : List Char) :
    splitInto? (text.map Char.toLower) =
      (splitInto? text).map (Prod.map (List.map Char.toLower) (List.map Char.toLower)) := by
  induction text with
  | nil => rfl
  | cons c rest ih =>
    have hhere := intoClause?_map_toLower (c :: rest)
    rw [List.map_cons] at hhere ⊢
    rw [splitInto?, splitInto?, hhere]
    cases intoClause? (c :: rest) with
    | some name => rfl
    | none =>
      rw [ih]
      cases splitInto? rest <;> rfl

theorem put?_map_toLower (line : List Char) :
    put? (line.map Char.toLower) = (put? line).map lowered := by
  unfold put?
  rw [takeWord?_map_toLower]
  refine bind_map_of_comm (fun rest ↦ ?_) _
  dsimp only
  rw [splitInto?_map_toLower]
  refine bind_map_of_comm (fun pair ↦ ?_) _
  obtain ⟨middle, name⟩ := pair
  dsimp only [Prod.map]
  rw [enclosed?_map_toLower]
  cases enclosed? middle with
  | none => rfl
  | some expression => simp [lowered, lowered_ofList]

theorem get?_map_toLower (line : List Char) :
    get? (line.map Char.toLower) = (get? line).map lowered := by
  unfold get?
  rw [takeWordAndBlanks?_map_toLower]
  refine bind_map_of_comm (fun rest ↦ ?_) _
  rw [fieldReference?_map_toLower]
  refine bind_map_of_comm (fun name ↦ ?_) _
  simp [lowered, lowered_ofList]

/-- A keyword and an expression, of which a command is made. -/
theorem argument_map_toLower {keyword : List Char} {say : String → Command}
    (hsay : ∀ expression, say (Text.lowered expression) = (say expression).lowered)
    (line : List Char) :
    (do return say (String.ofList (← argument? (← takeWord? keyword (line.map Char.toLower))))) =
      (do return say (String.ofList (← argument? (← takeWord? keyword line)))).map lowered := by
  rw [takeWord?_map_toLower]
  refine bind_map_of_comm (fun rest ↦ ?_) _
  rw [argument?_map_toLower]
  refine bind_map_of_comm (fun expression ↦ ?_) _
  simp [← hsay, lowered_ofList]

theorem answer?_map_toLower (line : List Char) :
    answer? (line.map Char.toLower) = (answer? line).map lowered :=
  argument_map_toLower (fun _ ↦ rfl) line

theorem find?_map_toLower (line : List Char) :
    find? (line.map Char.toLower) = (find? line).map lowered :=
  argument_map_toLower (fun _ ↦ rfl) line

/-! ### Destinations -/

theorem splitSign_map_toLower (text : List Char) :
    splitSign (text.map Char.toLower) =
      ((splitSign text).1, (splitSign text).2.map Char.toLower) := by
  cases text with
  | nil => rfl
  | cons c rest =>
    have hminus : c.toLower = '-' ↔ c = '-' := toLower_eq_iff minus_mem_marks
    by_cases hsign : c = '-'
    · rw [List.map_cons, hminus.mpr hsign, hsign]
      rfl
    · unfold splitSign
      split
      · next heq => exact absurd (hminus.mp (List.cons.inj heq).1) hsign
      · split
        · next heq => exact absurd (List.cons.inj heq).1 hsign
        · rfl

theorem number?_map_toLower (text : List Char) :
    Going.number? (text.map Char.toLower) = (Going.number? text).map Going.lowered := by
  have hvalues : ∀ digits : List Char,
      (digits.map Char.toLower).filterMap digitValue? = digits.filterMap digitValue? := by
    intro digits
    simp only [List.filterMap_map, Function.comp_def, digitValue?_toLower]
  rw [number?_eq, number?_eq, splitSign_map_toLower]
  dsimp only
  rw [takeWhile_map_toLower isAnyDigit_toLower, dropWhile_map_toLower isAnyDigit_toLower,
    isEnd_map_toLower, hvalues]
  simp only [List.map_eq_nil_iff]
  split_ifs <;> rfl

theorem card?_map_toLower (text : List Char) :
    Going.card? (text.map Char.toLower) = (Going.card? text).map Going.lowered := by
  unfold Going.card?
  rw [takeWordAndBlanks?_map_toLower]
  refine bind_map_of_comm (fun rest ↦ ?_) _
  rw [number?_map_toLower, quotedName?_map_toLower]
  cases Going.number? rest with
  | some going => rfl
  | none =>
    cases quotedName? rest with
    | none => rfl
    | some name => simp [Going.lowered, lowered_ofList]

theorem direction?_map_toLower (text : List Char) :
    Going.direction? (text.map Char.toLower) = (Going.direction? text).map Going.lowered := by
  have hsame : Going.direction? (text.map Char.toLower) = Going.direction? text := by
    unfold Going.direction?
    simp only [isPhrase_map_toLower]
  rw [hsame]
  cases hdirection : Going.direction? text with
  | none => rfl
  | some going =>
    obtain ⟨direction, -, -, -, -, -, rfl⟩ := exists_of_direction?_eq hdirection
    rfl

/-- What a line in lower case says about where to go. -/
theorem ofLine?_map_toLower (line : List Char) :
    Going.ofLine? (line.map Char.toLower) = (Going.ofLine? line).map Going.lowered := by
  unfold Going.ofLine?
  rw [takeWordAndBlanks?_map_toLower]
  refine bind_map_of_comm (fun rest ↦ ?_) _
  dsimp only
  rw [skipWord_map_toLower, card?_map_toLower, direction?_map_toLower]
  cases Going.card? (skipWord "to" rest) <;> rfl

theorem go?_map_toLower (line : List Char) :
    go? (line.map Char.toLower) = (go? line).map lowered := by
  rw [go?, go?, takeWordAndBlanks?_map_toLower, ofLine?_map_toLower]
  cases takeWordAndBlanks? "go" line <;> rfl

/-! ### Rules -/

/-- A rule recognises a line in lower case as it recognises the line itself. -/
theorem recognise_map_toLower {rule : Rule Command} (hrule : rule ∈ rules) (line : List Char) :
    rule.recognise (line.map Char.toLower) = (rule.recognise line).map lowered := by
  simp only [rules, List.mem_cons, List.not_mem_nil, or_false] at hrule
  rcases hrule with rfl | rfl | rfl | rfl | rfl | rfl | rfl
  · dsimp only
    rw [isEnd_map_toLower]
    split_ifs <;> rfl
  · exact beep?_map_toLower line
  · exact go?_map_toLower line
  · exact put?_map_toLower line
  · exact get?_map_toLower line
  · exact answer?_map_toLower line
  · exact find?_map_toLower line

theorem first?_eq_map {α : Type} {table : List (Rule α)} {text other : List Char} {change : α → α}
    (h : ∀ rule ∈ table, rule.recognise other = (rule.recognise text).map change) :
    Rule.first? table other = (Rule.first? table text).map change := by
  induction table with
  | nil => rfl
  | cons rule table ih =>
    have hrest := ih fun next hnext ↦ h next (List.mem_cons_of_mem _ hnext)
    unfold Rule.first? at hrest ⊢
    rw [List.findSome?_cons, List.findSome?_cons, h rule List.mem_cons_self]
    cases rule.recognise text with
    | some meaning => rfl
    | none => exact hrest

theorem ofLineWith_map_toLower (line : List Char) :
    ofLineWith rules (line.map Char.toLower) = (ofLineWith rules line).lowered := by
  have hfirst : Rule.first? rules (line.map Char.toLower) =
      (Rule.first? rules line).map lowered :=
    first?_eq_map fun rule hrule ↦ recognise_map_toLower hrule line
  rw [ofLineWith, ofLineWith, hfirst]
  cases Rule.first? rules line <;> rfl

/-! ### Two lines -/

variable {line other : String}

/-- Whatever rule recognises one of two lines that differ in letter case recognises the other. -/
theorem isSome_recognise_eq {rule : Rule Command} (hrule : rule ∈ rules)
    (h : Text.lowered other = Text.lowered line) :
    (rule.recognise other.toList).isSome = (rule.recognise line.toList).isSome := by
  have hletters : other.toList.map Char.toLower = line.toList.map Char.toLower := by
    rw [← toList_lowered, h, toList_lowered]
  have hother := recognise_map_toLower hrule other.toList
  rw [hletters, recognise_map_toLower hrule] at hother
  simpa using congrArg Option.isSome hother.symm

theorem ofLineWith_alike (h : Text.lowered other = Text.lowered line) :
    (ofLineWith rules other.toList).lowered = (ofLineWith rules line.toList).lowered := by
  rw [← ofLineWith_map_toLower, ← ofLineWith_map_toLower, ← toList_lowered, h, toList_lowered]

end Command

theorem Going.destination_lowered (going : Going) :
    going.lowered.destination = going.destination.map Destination.lowered := by
  cases going with
  | number negative digits =>
    unfold lowered destination
    dsimp only
    split_ifs <;> rfl
  | name title => rfl
  | toward direction => rfl

/-- A line in lower case spells the destination of the line itself, with a name in lower case. -/
theorem Destination.ofLine?_lowered (line : String) :
    ofLine? (Text.lowered line) = (ofLine? line).map (Option.map lowered) := by
  unfold ofLine?
  rw [toList_lowered, Command.ofLine?_map_toLower]
  cases Going.ofLine? line.toList with
  | none => rfl
  | some going =>
    show going.lowered.destination.map some =
      (going.destination.map some).map (Option.map lowered)
    rw [going.destination_lowered]
    cases going.destination <;> rfl

end Cardfile
