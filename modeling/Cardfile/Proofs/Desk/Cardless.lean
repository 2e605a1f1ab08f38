import Cardfile.Proofs.Command.Asking
import Cardfile.Proofs.Command.Tables
import Cardfile.Proofs.Desk.Navigation

/-!
# Stacks without cards

A desk is never opened on a stack without cards, but a line can be executed on one. There is no
current card then, whatever position the session is at. A line that needs it fails, and the lines
that do are known: those that get, those that put unless the stack is not to be modified, and those
that answer or find something of the card (`Desk.AsksForCard`, `Expression.ReadsCard`). Such a line
fails before it changes anything. Every other line is answered, and lines that say where to go are
answered that they lead nowhere (`Desk.execute_eq_error_iff_asksForCard`).
-/

set_option autoImplicit false
set_option relaxedAutoImplicit false

namespace Cardfile

open Text Command

/-! ### Expressions about the current card -/

namespace Expression

variable {text : List Char} {expression : Expression} {rule : Rule Expression} {desk : Desk}

/-- A text that asks for something of the current card, for one of its fields or for its name. -/
inductive ReadsCard : List Char → Prop
  | field {name text : List Char} (hfield : SpellsField name text) : ReadsCard text
  | cardName {text : List Char}
      (hphrase : SpellsPhrase ["the", "name", "of", "this", "card"] text) : ReadsCard text

def isOfCard : Expression → Bool
  | field _ | cardName => true
  | literal _ | cardCount | result | it => false

theorem value_of_isOfCard (hcard : desk.currentCard? = none) (h : expression.isOfCard = true) :
    expression.value desk = .error .noSuchPosition := by
  cases expression with
  | field name => simp only [value, hcard]
  | cardName => simp only [value, hcard]
  | literal | cardCount | result | it => cases h

theorem exists_value_eq_ok (h : expression.isOfCard = false) (desk : Desk) :
    ∃ value, expression.value desk = .ok value := by
  cases expression with
  | field | cardName => cases h
  | literal | cardCount | result | it => exact ⟨_, rfl⟩

theorem field_mem_rules : (⟨"field", fun text ↦
    (fieldReference? text).map fun name ↦ .field (String.ofList name)⟩ : Rule Expression) ∈
      rules := by
  simp [rules]

theorem cardName_mem_rules :
    ⟨"card name", phrase ["the", "name", "of", "this", "card"] .cardName⟩ ∈ rules := by
  simp [rules]

theorem ofTextWith_of_mem (hrule : rule ∈ rules) (h : rule.recognise text = some expression) :
    ofTextWith rules text = expression := by
  rw [ofTextWith, exclusive_rules.first?_eq_some_iff.mpr ⟨rule, hrule, h⟩]
  rfl

/-- Only the rules for fields and for the card's name give something of the card. -/
theorem readsCard_of_mem (hends : EndsSolid text) (hrule : rule ∈ rules)
    (h : rule.recognise text = some expression) (hcard : expression.isOfCard = true) :
    ReadsCard text := by
  simp only [rules, List.mem_cons, List.not_mem_nil, or_false] at hrule
  rcases hrule with rfl | rfl | rfl | rfl | rfl | rfl
  · obtain ⟨inner, -, rfl⟩ := Option.map_eq_some_iff.mp h
    cases hcard
  · obtain ⟨name, hname, rfl⟩ := Option.map_eq_some_iff.mp h
    exact .field (spellsField_of_fieldReference? hends.getLast?_ne hname)
  · have hphrase := isPhrase_of_isSome (Option.isSome_of_eq_some h)
    obtain ⟨front, tail, hspells, hend, rfl⟩ := (isPhrase_iff (by decide) (by decide)).mp hphrase
    obtain rfl := eq_nil_of_isEnd front hend hends.getLast?_ne
    exact .cardName (by rwa [List.append_nil])
  all_goals
    dsimp only [phrase] at h
    split_ifs at h
    cases h
    cases hcard

theorem ofTextWith_of_readsCard (h : ReadsCard text) :
    (ofTextWith rules text).isOfCard = true := by
  cases h with
  | @field name _ hfield =>
    have hgives : (fieldReference? text).map (fun name ↦ Expression.field (String.ofList name)) =
        some (.field (String.ofList name)) := by
      rw [hfield.fieldReference?_eq, Option.map_some]
    rw [ofTextWith_of_mem field_mem_rules hgives]
    rfl
  | cardName hphrase =>
    have hrecognised : isPhrase ["the", "name", "of", "this", "card"] text = true :=
      (isPhrase_iff (by decide) (by decide)).mpr
        ⟨text, [], hphrase, rfl, (List.append_nil text).symm⟩
    rw [ofTextWith_of_mem cardName_mem_rules (if_pos hrecognised)]
    rfl

/-- Assumes: a text that does not end with a blank. -/
theorem readsCard_iff (hends : EndsSolid text) :
    ReadsCard text ↔ (ofTextWith rules text).isOfCard = true := by
  refine ⟨ofTextWith_of_readsCard, fun h ↦ ?_⟩
  cases hfirst : Rule.first? rules text with
  | none =>
    rw [ofTextWith, hfirst] at h
    cases h
  | some expression =>
    rw [ofTextWith, hfirst] at h
    obtain ⟨rule, hrule, hgives⟩ := exclusive_rules.first?_eq_some_iff.mp hfirst
    exact readsCard_of_mem hends hrule hgives h

end Expression

/-! ### Commands that need the current card -/

namespace Desk

variable {desk : Desk} {command : Command} {raw : String} {line : List Char}

theorem placeOf?_zero (position : Int) : placeOf? 0 position = none := by
  unfold placeOf?
  split_ifs with hnonneg hlt hwithin
  · omega
  · rfl
  · omega
  · rfl

theorem currentPlace?_of_cardless (hcards : desk.stack.cards = []) : desk.currentPlace? = none := by
  rw [currentPlace?, hcards]
  exact placeOf?_zero _

theorem currentCard?_of_cardless (hcards : desk.stack.cards = []) : desk.currentCard? = none := by
  rw [currentCard?, Stack.cardAt?, elementAt?, ← currentPlace?, currentPlace?_of_cardless hcards,
    Option.bind_none]

/-- The commands that cannot be carried out without a current card. -/
def needsCard (desk : Desk) : Command → Bool
  | .put _ _ => !desk.stack.cantModify
  | .get _ => true
  | .answer expression | .find expression =>
    (Expression.ofTextWith Expression.rules (trim expression.toList)).isOfCard
  | .nothing | .beep | .go _ | .message => false

theorem withValue_of_isOfCard (hcards : desk.stack.cards = []) {expression : String}
    (h : (Expression.ofTextWith Expression.rules (trim expression.toList)).isOfCard = true)
    (next : String → Outcome) :
    desk.withValue .standard expression next = (.error .noSuchPosition, desk) := by
  have hvalue : desk.evaluateWith Grammar.standard.expressions expression =
      .error .noSuchPosition :=
    Expression.value_of_isOfCard (currentCard?_of_cardless hcards) h
  rw [withValue, hvalue]

theorem exists_withValue_eq {expression : String}
    (h : (Expression.ofTextWith Expression.rules (trim expression.toList)).isOfCard = false)
    (desk : Desk) :
    ∃ value, ∀ next, desk.withValue .standard expression next = next value := by
  obtain ⟨value, hvalue⟩ := Expression.exists_value_eq_ok h desk
  have hevaluated : desk.evaluateWith Grammar.standard.expressions expression = .ok value := hvalue
  exact ⟨value, fun _ ↦ withValue_of_ok hevaluated⟩

/-- A put fails whether or not its expression has a value. -/
theorem put_of_cardless (hcards : desk.stack.cards = []) (hmodify : desk.stack.cantModify = false)
    (expression name : String) :
    desk.put .standard expression name = (.error .noSuchPosition, desk) := by
  rw [put, hmodify, if_neg Bool.false_ne_true]
  cases h : (Expression.ofTextWith Expression.rules (trim expression.toList)).isOfCard with
  | true => exact withValue_of_isOfCard hcards h _
  | false =>
    obtain ⟨value, hvalue⟩ := exists_withValue_eq h desk
    rw [hvalue, writeField, currentPlace?_of_cardless hcards]

theorem perform_of_needsCard (hcards : desk.stack.cards = []) (hneeds : desk.needsCard command)
    (line : String) :
    desk.perform .standard line command = (.error .noSuchPosition, desk) := by
  cases command with
  | put expression name =>
    exact put_of_cardless hcards ((Bool.not_eq_true' _).mp hneeds) expression name
  | get name =>
    show desk.get name = _
    rw [get, currentCard?_of_cardless hcards]
  | answer expression => exact withValue_of_isOfCard hcards hneeds _
  | find expression => exact withValue_of_isOfCard hcards hneeds _
  | nothing | beep | go | message => cases hneeds

theorem go_of_cardless (hcards : desk.stack.cards = []) {going : Going} {destination : Destination}
    (hdestination : going.destination = .ok destination) (line : String) :
    desk.go line (some going) = desk.report destination.failureMessage := by
  have hresolve : desk.resolve destination = (none, desk) := by
    unfold resolve
    rw [if_pos (List.isEmpty_iff.mpr hcards)]
  unfold go
  dsimp only
  rw [hdestination]
  dsimp only
  rw [hresolve]

theorem exists_findText_eq_ok_of_cardless (hcards : desk.stack.cards = []) (query : String) :
    ∃ answer, (desk.findText query).1 = .ok answer := by
  have hsearch : (desk.log .find query).stack.searchFields? query = none := by
    rw [stack_log, Stack.searchFields?, hcards]
    rfl
  unfold findText
  dsimp only
  rw [hsearch]
  exact ⟨_, rfl⟩

theorem exists_perform_eq_ok_of_cardless (hcards : desk.stack.cards = [])
    (hneeds : desk.needsCard command = false) (line : String)
    (hread : ∀ going, command = .go (some going) →
      ∃ destination, going.destination = .ok destination) :
    ∃ answer, (desk.perform .standard line command).1 = .ok answer := by
  cases command with
  | nothing | beep | message => exact ⟨_, rfl⟩
  | go going? =>
    cases going? with
    | none => exact ⟨_, rfl⟩
    | some going =>
      obtain ⟨destination, hdestination⟩ := hread going rfl
      show ∃ answer, (desk.go line (some going)).1 = .ok answer
      rw [go_of_cardless hcards hdestination]
      exact ⟨_, rfl⟩
  | put expression name =>
    have hcant : desk.stack.cantModify = true := (Bool.not_eq_false' _).mp hneeds
    show ∃ answer, (desk.put .standard expression name).1 = .ok answer
    rw [put, if_pos hcant]
    exact ⟨_, rfl⟩
  | get name => cases hneeds
  | answer expression =>
    obtain ⟨value, hvalue⟩ := exists_withValue_eq hneeds desk
    show ∃ answer, (desk.answer .standard expression).1 = .ok answer
    rw [answer, hvalue]
    exact ⟨_, rfl⟩
  | find expression =>
    obtain ⟨value, hvalue⟩ := exists_withValue_eq hneeds desk
    show ∃ answer, (desk.find .standard expression).1 = .ok answer
    rw [find, hvalue]
    exact exists_findText_eq_ok_of_cardless hcards value

/-! ### Lines that need the current card -/

/-- A line that asks for the current card: it gets a field, puts into one although the stack may be
modified, or answers or finds something of the card. -/
inductive AsksForCard (desk : Desk) : List Char → Prop
  | put {expression name line : List Char} (hput : SpellsPut expression name line)
      (hmodify : desk.stack.cantModify = false) : AsksForCard desk line
  | get {name line : List Char} (hget : SpellsGet name line) : AsksForCard desk line
  | answer {expression line : List Char} (hanswer : SpellsAsking "answer" expression line)
      (hreads : Expression.ReadsCard expression) : AsksForCard desk line
  | find {expression line : List Char} (hfind : SpellsAsking "find" expression line)
      (hreads : Expression.ReadsCard expression) : AsksForCard desk line

theorem said_put_iff {text title : String} : Command.said raw = .put text title ↔
    ∃ expression name, SpellsPut expression name (strip raw).toList ∧
      text = String.ofList (trim expression) ∧ title = String.ofList name := by
  rw [said_eq_iff put_mem_rules rfl, put?_eq_some_iff (getLast?_strip_ne raw)]
  simp only [Command.put.injEq]

theorem said_get_iff {title : String} : Command.said raw = .get title ↔
    ∃ name, SpellsGet name (strip raw).toList ∧ title = String.ofList name := by
  rw [said_eq_iff get_mem_rules rfl, get?_eq_some_iff (endsSolid_strip raw)]
  simp only [Command.get.injEq]

theorem said_answer_iff {text : String} : Command.said raw = .answer text ↔
    ∃ expression, SpellsAsking "answer" expression (strip raw).toList ∧
      text = String.ofList expression := by
  rw [said_eq_iff answer_mem_rules rfl, answer?_eq_some_iff (endsSolid_strip raw)]
  simp only [Command.answer.injEq]

theorem said_find_iff {text : String} : Command.said raw = .find text ↔
    ∃ expression, SpellsAsking "find" expression (strip raw).toList ∧
      text = String.ofList expression := by
  rw [said_eq_iff find_mem_rules rfl, find?_eq_some_iff (endsSolid_strip raw)]
  simp only [Command.find.injEq]

theorem isOfCard_iff {keyword : String} {expression : List Char}
    (hasking : SpellsAsking keyword expression (strip raw).toList) :
    (Expression.ofTextWith Expression.rules (trim (String.ofList expression).toList)).isOfCard =
      true ↔ Expression.ReadsCard expression := by
  obtain ⟨hstarts, hends⟩ := hasking.isSolid (endsSolid_strip raw)
  rw [String.toList_ofList, trim_eq_self hstarts hends, Expression.readsCard_iff hends]

theorem needsCard_of_asksForCard (h : desk.AsksForCard (strip raw).toList) :
    desk.needsCard (Command.said raw) = true := by
  -- The cases are split for any line, as the stripped one would be computed.
  generalize hline : (strip raw).toList = line at h
  cases h with
  | @put expression name _ hput hmodify =>
    subst hline
    rw [said_put_iff.mpr ⟨expression, name, hput, rfl, rfl⟩, needsCard, hmodify]
    rfl
  | @get name _ hget =>
    subst hline
    rw [said_get_iff.mpr ⟨name, hget, rfl⟩, needsCard]
  | @answer expression _ hanswer hreads =>
    subst hline
    rw [said_answer_iff.mpr ⟨expression, hanswer, rfl⟩]
    exact (isOfCard_iff hanswer).mpr hreads
  | @find expression _ hfind hreads =>
    subst hline
    rw [said_find_iff.mpr ⟨expression, hfind, rfl⟩]
    exact (isOfCard_iff hfind).mpr hreads

theorem asksForCard_of_needsCard (h : desk.needsCard (Command.said raw) = true) :
    desk.AsksForCard (strip raw).toList := by
  cases hsaid : Command.said raw with
  | put text title =>
    rw [hsaid] at h
    obtain ⟨expression, name, hput, -⟩ := said_put_iff.mp hsaid
    exact .put hput ((Bool.not_eq_true' _).mp h)
  | get title =>
    obtain ⟨name, hget, -⟩ := said_get_iff.mp hsaid
    exact .get hget
  | answer text =>
    obtain ⟨expression, hanswer, rfl⟩ := said_answer_iff.mp hsaid
    rw [hsaid] at h
    exact .answer hanswer ((isOfCard_iff hanswer).mp h)
  | find text =>
    obtain ⟨expression, hfind, rfl⟩ := said_find_iff.mp hsaid
    rw [hsaid] at h
    exact .find hfind ((isOfCard_iff hfind).mp h)
  | nothing | beep | go | message =>
    rw [hsaid] at h
    cases h

/-- The lines that ask for the current card are those that say a command that needs it. -/
theorem asksForCard_iff (desk : Desk) (raw : String) :
    desk.AsksForCard (strip raw).toList ↔ desk.needsCard (Command.said raw) = true :=
  ⟨needsCard_of_asksForCard, asksForCard_of_needsCard⟩

theorem needsCard_receive (desk : Desk) (raw : String) (command : Command) :
    (desk.receive raw).needsCard command = desk.needsCard command := by
  unfold needsCard
  rw [stack_receive]

theorem isEmpty_strip_of_needsCard (h : desk.needsCard (Command.said raw)) :
    (strip raw).isEmpty = false := by
  rw [Bool.eq_false_iff]
  intro hempty
  have hsaid : Command.said raw = .nothing := by
    rw [Command.said, String.isEmpty_iff.mp hempty]
    rfl
  rw [hsaid] at h
  cases h

theorem execute_of_asksForCard (hcards : desk.stack.cards = [])
    (hasks : desk.AsksForCard (strip raw).toList) :
    desk.execute raw = (.error .noSuchPosition, {
      stack := desk.stack
      session := { desk.session.log .command raw with
        commandHistory := desk.session.commandHistory ++ [raw]
        historyIndex := none } }) := by
  have hneeds := needsCard_of_asksForCard hasks
  have hheard : (desk.receive raw).needsCard (Command.said raw) = true :=
    (desk.needsCard_receive raw _).trans hneeds
  have hcardless : (desk.receive raw).stack.cards = [] := by rw [stack_receive, hcards]
  rw [execute_of_said (Eq.refl (Command.said raw)), perform_of_needsCard hcardless hheard, receive,
    isEmpty_strip_of_needsCard hneeds]
  rfl

theorem exists_execute_eq_ok_of_cardless (hcards : desk.stack.cards = [])
    (hshort : ∀ negative digits, SpellsCardNumber negative digits (strip raw).toList →
      digits.length ≤ digitLimit)
    (hasks : ¬ desk.AsksForCard (strip raw).toList) :
    ∃ answer, (desk.execute raw).1 = .ok answer := by
  rw [asksForCard_iff, Bool.not_eq_true, ← desk.needsCard_receive raw] at hasks
  have hheard : (desk.receive raw).stack.cards = [] := by rw [stack_receive, hcards]
  rw [execute_of_said rfl]
  refine exists_perform_eq_ok_of_cardless hheard hasks (strip raw) fun going hsaid ↦ ?_
  exact exists_destination hshort (eq_ofLine?_of_ofLineWith hsaid).symm

/-- Without cards no destination leads anywhere. -/
theorem execute_of_destination_of_cardless (hcards : desk.stack.cards = [])
    {destination : Destination} (hspells : SpellsDestination destination (strip raw).toList) :
    (desk.execute raw).1 = .ok destination.failureMessage ∧
      (desk.execute raw).2.session.vars.result = destination.failureMessage ∧
      desk.Unmoved (desk.execute raw).2 := by
  obtain ⟨going, hgoing, hdestination⟩ :=
    Destination.ofLine?_eq_some_iff_going.mp (ofLine?_strip_eq_some_iff.mpr hspells)
  have hheard : (desk.staying raw [] desk.session.recentCards desk.session.vars).stack.cards = [] :=
    hcards
  rw [execute_of_isSome_go? (isSome_go?_of_ofLine? hgoing), hgoing,
    go_of_cardless hheard hdestination]
  exact ⟨rfl, rfl, unmoved_staying desk raw [] rfl⟩

/-- Assumes: a stack without cards, any session, and a line on which no card number has more digits
than are read. The line fails exactly if it asks for the current card, and all that it leaves behind
is then that it was logged and remembered, and that the recall cursor is gone. Every other line is
answered. A line that says where to go is answered that it cannot, which is also the result, and
it moves nothing. -/
theorem execute_eq_error_iff_asksForCard (hcards : desk.stack.cards = [])
    (hshort : ∀ negative digits, SpellsCardNumber negative digits (strip raw).toList →
      digits.length ≤ digitLimit) :
    (∀ failure after, desk.execute raw = (.error failure, after) ↔
      desk.AsksForCard (strip raw).toList ∧ failure = .noSuchPosition ∧
        after = {
          stack := desk.stack
          session := { desk.session.log .command raw with
            commandHistory := desk.session.commandHistory ++ [raw]
            historyIndex := none } }) ∧
      (¬ desk.AsksForCard (strip raw).toList →
        ∃ answer, (desk.execute raw).1 = .ok answer) ∧
      ∀ destination, SpellsDestination destination (strip raw).toList →
        (desk.execute raw).1 = .ok destination.failureMessage ∧
          (desk.execute raw).2.session.vars.result = destination.failureMessage ∧
          desk.Unmoved (desk.execute raw).2 := by
  refine ⟨fun failure after ↦ ⟨fun hexecute ↦ ?_, ?_⟩,
    exists_execute_eq_ok_of_cardless hcards hshort,
    fun destination ↦ execute_of_destination_of_cardless hcards⟩
  · by_cases hasks : desk.AsksForCard (strip raw).toList
    · rw [execute_of_asksForCard hcards hasks] at hexecute
      cases hexecute
      exact ⟨hasks, rfl, rfl⟩
    · obtain ⟨answer, hanswer⟩ := exists_execute_eq_ok_of_cardless hcards hshort hasks
      rw [hexecute] at hanswer
      cases hanswer
  · rintro ⟨hasks, rfl, rfl⟩
    exact execute_of_asksForCard hcards hasks

/-- A desk without cards whose session is at a position and remembers a recent card. -/
def cardless : Desk :=
  ⟨{ Stack.starter with cards := [] }, { currentCardIndex := 3, recentCards := [101] }⟩

theorem execute_eq_error_iff_asksForCard_cardless :
    cardless.stack.cards = [] ∧
      (cardless.execute "find the Name of this card").1 = .error .noSuchPosition ∧
      (∃ answer, (cardless.execute "find the name").1 = .ok answer) ∧
      (cardless.execute "go recent").1 = .ok "No recent card" ∧
      (cardless.execute "go recent").2.session.recentCards = [101] := by
  have hshort {line : List Char} (hline : line.length ≤ digitLimit) (negative : Bool)
      (digits : List Char) (h : SpellsCardNumber negative digits line) :
      digits.length ≤ digitLimit :=
    h.length_le.trans hline
  obtain ⟨hfails, -, -⟩ := @execute_eq_error_iff_asksForCard cardless
    "find the Name of this card" rfl (hshort (by decide +kernel))
  obtain ⟨-, hanswers, -⟩ := @execute_eq_error_iff_asksForCard cardless
    "find the name" rfl (hshort (by decide +kernel))
  obtain ⟨-, -, hgoes⟩ := @execute_eq_error_iff_asksForCard cardless
    "go recent" rfl (hshort (by decide +kernel))
  have hasks := (cardless.asksForCard_iff "find the Name of this card").mpr (by decide +kernel)
  have hspells : SpellsDestination (.toward .recent) (strip "go recent").toList :=
    ofLine?_strip_eq_some_iff.mp (by decide +kernel)
  obtain ⟨hanswer, -, hunmoved⟩ := hgoes _ hspells
  refine ⟨rfl, ?_, hanswers ?_, hanswer, hunmoved.recentCards⟩
  · rw [(hfails _ _).mpr ⟨hasks, rfl, rfl⟩]
  · rw [asksForCard_iff]
    decide +kernel

end Desk

end Cardfile
