import Cardfile.Proofs.Command.Putting
import Cardfile.Proofs.Desk.Permission
import Cardfile.Proofs.Stack.Search

/-!
# Lines that write

A line that puts takes effect as the expression and the name it spells say, however it is split
(`Desk.execute_of_spellsPut`, `Desk.put_unambiguous`). It writes one text, that of the first field
with the name on the current card (`Desk.Finds`, `Desk.put_eq`).

`Desk.frame_execute` says that nothing else is ever written by a line, that no line selects a tool
(`Desk.selectedTool_perform`), and that only `go` and `find` lines touch the current card, the
recent cards and the field that is open (`Desk.stance_perform`).
-/

set_option autoImplicit false
set_option relaxedAutoImplicit false

namespace Cardfile

open Text Command

/-- A line says a command exactly if the rule for commands of that kind gives it. -/
theorem Command.said_eq_iff {rule : Rule Command} {command : Command} {raw : String}
    (hrule : rule ∈ rules) (hform : rule.form = command.form) :
    Command.said raw = command ↔ rule.recognise (strip raw).toList = some command :=
  ofLineWith_eq_iff hrule hform

/-! ### Finding a field -/

theorem Card.findField?_eq_bind (card : Card) (name : String) :
    card.findField? name = (card.fieldPlace? name).bind fun place ↦ card.fields[place]? :=
  List.find?_eq_bind_findIdx?_getElem?

/-- A session without its field pointer, log, remembered commands and variables. -/
def Session.stance (session : Session) : Session :=
  { session with
    currentFieldName := none
    messageLog := []
    commandHistory := []
    historyIndex := none
    vars := {}
    eventsLogged := 0 }

theorem Session.of_stance_eq {session other : Session} (h : session.stance = other.stance) :
    session.currentCardIndex = other.currentCardIndex ∧
      session.recentCards = other.recentCards ∧
      session.editingFieldId = other.editingFieldId ∧
      session.selectedTool = other.selectedTool :=
  ⟨(congrArg Session.currentCardIndex h :), (congrArg Session.recentCards h :),
    (congrArg Session.editingFieldId h :), (congrArg Session.selectedTool h :)⟩

namespace Desk

variable {desk other : Desk} {name second value : String} {place : Nat × Nat} {card : Card}
  {field : TextField} {raw : String}

/-- The first field with a name on the current card, with the place of the card in the stack and
that of the field on the card. -/
structure Finds (desk : Desk) (name : String) (place : Nat × Nat) (card : Card)
    (field : TextField) : Prop where
  current : desk.currentPlace? = some place.1
  cardAt : desk.stack.cards[place.1]? = some card
  fieldAt : card.fields[place.2]? = some field
  named : sameName field.name name = true
  first : ∀ earlier < place.2, ∀ field, card.fields[earlier]? = some field →
    sameName field.name name = false

namespace Finds

theorem currentCard?_eq (h : desk.Finds name place card field) : desk.currentCard? = some card := by
  show desk.currentPlace?.bind (fun place ↦ desk.stack.cards[place]?) = some card
  rw [h.current, Option.bind_some, h.cardAt]

theorem fieldPlace?_eq (h : desk.Finds name place card field) :
    card.fieldPlace? name = some place.2 :=
  Card.fieldPlace?_eq_some_iff.mpr ⟨⟨field, h.fieldAt, h.named⟩, h.first⟩

theorem findField?_eq (h : desk.Finds name place card field) :
    card.findField? name = some field := by
  rw [Card.findField?_eq_bind, h.fieldPlace?_eq, Option.bind_some, h.fieldAt]

theorem congr (h : desk.Finds name place card field) (hstack : other.stack = desk.stack)
    (hcurrent : other.currentPlace? = desk.currentPlace?) : other.Finds name place card field :=
  { h with
    current := hcurrent.trans h.current
    cardAt := by rw [hstack]; exact h.cardAt }

/-- The one text is written, the field is pointed at and the text is left in `it`. -/
theorem writeField_eq (h : desk.Finds name place card field) (value : String) :
    desk.writeField name value = (.ok value,
      (({ stack := desk.stack.writtenAt place value
          session := { desk.session with currentFieldName := some field.name } } : Desk).log
        .setField field.name).setVariables value "") := by
  unfold writeField
  rw [h.current, h.currentCard?_eq]
  dsimp only
  rw [h.fieldPlace?_eq, h.findField?_eq]
  rfl

end Finds

theorem finds_of_places {current fieldPlace : Nat} (hcurrent : desk.currentPlace? = some current)
    (hcard : desk.currentCard? = some card) (hplace : card.fieldPlace? name = some fieldPlace)
    (hfield : card.findField? name = some field) :
    desk.Finds name (current, fieldPlace) card field := by
  have hat := getElem?_of_currentPlace? hcurrent hcard
  obtain ⟨⟨found, hfound, hnamed⟩, hfirst⟩ := Card.fieldPlace?_eq_some_iff.mp hplace
  rw [Card.findField?_eq_bind, hplace, Option.bind_some, hfound] at hfield
  obtain rfl := Option.some.inj hfield
  exact ⟨hcurrent, hat, hfound, hnamed, hfirst⟩

theorem exists_finds (hcard : desk.currentCard? = some card)
    (hfield : card.findField? name = some field) : ∃ place, desk.Finds name place card field := by
  obtain ⟨current, hcurrent⟩ := exists_currentPlace? hcard
  have hbind := hfield
  rw [Card.findField?_eq_bind] at hbind
  obtain ⟨fieldPlace, hplace, -⟩ := Option.bind_eq_some_iff.mp hbind
  exact ⟨_, finds_of_places hcurrent hcard hplace hfield⟩

/-- Where no field is found nothing is written. -/
theorem stack_writeField (desk : Desk) (name value : String) :
    (desk.writeField name value).2.stack = desk.stack ∨ ∃ place card field,
      desk.Finds name place card field ∧
        (desk.writeField name value).2.stack = desk.stack.writtenAt place value := by
  unfold writeField
  split
  · next current card hcurrent hcard =>
    dsimp only
    split
    · next fieldPlace field hplace hfield =>
      exact Or.inr ⟨_, card, field, finds_of_places hcurrent hcard hplace hfield, rfl⟩
    · exact Or.inl rfl
  · exact Or.inl rfl

theorem put_eq {grammar : Grammar} {expression : String} (hcan : desk.stack.cantModify = false)
    (hvalue : desk.evaluateWith grammar.expressions expression = .ok value)
    (hfinds : desk.Finds name place card field) :
    desk.put grammar expression name = (.ok value,
      (({ stack := desk.stack.writtenAt place value
          session := { desk.session with currentFieldName := some field.name } } : Desk).log
        .setField field.name).setVariables value "") := by
  rw [put, if_neg (by simp [hcan]), withValue_of_ok hvalue]
  exact hfinds.writeField_eq value

theorem stack_put (desk : Desk) (grammar : Grammar) (expression name : String) :
    (desk.put grammar expression name).2.stack = desk.stack ∨
      desk.stack.cantModify = false ∧ ∃ value place card field,
        desk.evaluateWith grammar.expressions expression = .ok value ∧
          desk.Finds name place card field ∧
          (desk.put grammar expression name).2.stack = desk.stack.writtenAt place value := by
  unfold put withValue
  split_ifs with hcant
  · exact Or.inl rfl
  · split
    · next value hvalue =>
      rcases desk.stack_writeField name value with hstack | ⟨place, card, field, hfinds, hstack⟩
      · exact Or.inl hstack
      · exact Or.inr
          ⟨Bool.eq_false_iff.mpr hcant, value, place, card, field, hvalue, hfinds, hstack⟩
    · exact Or.inl rfl

/-! ### Lines that put -/

theorem currentPlace?_receive (desk : Desk) (raw : String) :
    (desk.receive raw).currentPlace? = desk.currentPlace? := by
  unfold receive
  split_ifs <;> rfl

@[simp] theorem stack_receive (desk : Desk) (raw : String) :
    (desk.receive raw).stack = desk.stack := by
  unfold receive
  split_ifs <;> rfl

theorem evaluateWith_receive (desk : Desk) (raw : String) (table : List (Rule Expression))
    (text : String) :
    (desk.receive raw).evaluateWith table text = desk.evaluateWith table text := by
  unfold receive
  split_ifs <;> rfl

theorem perform_put (desk : Desk) (grammar : Grammar) (line expression name : String) :
    desk.perform grammar line (.put expression name) = desk.put grammar expression name :=
  rfl

theorem said_eq_put_iff {expression : String} : Command.said raw = .put expression name ↔
    put? (strip raw).toList = some (.put expression name) := by
  rw [said_eq_iff put_mem_rules rfl]

theorem execute_of_said {command : Command} (h : Command.said raw = command) (desk : Desk) :
    desk.execute raw = (desk.receive raw).perform .standard (strip raw) command := by
  rw [← h]
  rfl

theorem execute_of_said_put {expression : String} (h : Command.said raw = .put expression name)
    (desk : Desk) : desk.execute raw = (desk.receive raw).put .standard expression name := by
  rw [execute_of_said h, perform_put]

/-- Blanks at the ends of an expression make no difference. -/
theorem put_trim (desk : Desk) (grammar : Grammar) (expression : List Char) (name : String) :
    desk.put grammar (String.ofList (trim expression)) name =
      desk.put grammar (String.ofList expression) name := by
  have hvalue : desk.evaluateWith grammar.expressions (String.ofList (trim expression)) =
      desk.evaluateWith grammar.expressions (String.ofList expression) := by
    unfold evaluateWith
    rw [String.toList_ofList, String.toList_ofList, trim_trim]
  unfold put withValue
  rw [hvalue]

/-- However a line that puts is split, it takes effect as the expression and the name say. -/
theorem execute_of_spellsPut {expression name : List Char}
    (h : SpellsPut expression name (strip raw).toList) (desk : Desk) :
    desk.execute raw =
      (desk.receive raw).put .standard (String.ofList expression) (String.ofList name) := by
  have hsaid : Command.said raw = .put (String.ofList (trim expression)) (String.ofList name) := by
    rw [said_eq_put_iff, put?_eq_some_iff (getLast?_strip_ne raw)]
    exact ⟨expression, name, h, rfl⟩
  rw [execute_of_said_put hsaid, put_trim]

/-- The lines that put are those of the grammar. Whatever the splits of such a line, they agree in
the expression, blanks at its ends apart, and in the name; these the command is given, and on every
desk it evaluates that expression and looks that name up. -/
theorem put_unambiguous (raw : String) :
    ((put? (strip raw).toList).isSome = true ↔
        ∃ expression name, SpellsPut expression name (strip raw).toList) ∧
      (∀ expression name second other, SpellsPut expression name (strip raw).toList →
        SpellsPut second other (strip raw).toList →
          trim expression = trim second ∧ name = other) ∧
      ∀ expression name, SpellsPut expression name (strip raw).toList →
        put? (strip raw).toList =
            some (.put (String.ofList (trim expression)) (String.ofList name)) ∧
          ∀ desk : Desk, desk.execute raw =
            (desk.receive raw).put .standard (String.ofList expression) (String.ofList name) := by
  have hput := @put?_eq_some_iff _ (getLast?_strip_ne raw)
  refine ⟨⟨fun hsome ↦ ?_, ?_⟩, fun _ _ _ _ h hother ↦ h.unique hother, fun expression name h ↦
    ⟨hput.mpr ⟨expression, name, h, rfl⟩, execute_of_spellsPut h⟩⟩
  · obtain ⟨command, hcommand⟩ := Option.isSome_iff_exists.mp hsome
    obtain ⟨expression, name, h, -⟩ := hput.mp hcommand
    exact ⟨expression, name, h⟩
  · rintro ⟨expression, name, h⟩
    exact Option.isSome_of_eq_some (hput.mpr ⟨expression, name, h, rfl⟩)

/-- A line with a clause in its expression, and with two blanks before that. -/
def innerClauseLine : String :=
  "put  it into field \"x\" into field \"Body\""

theorem put_unambiguous_innerClauseLine :
    SpellsPut " it into field \"x\"".toList "Body".toList (strip innerClauseLine).toList ∧
      SpellsPut "it into field \"x\"".toList "Body".toList (strip innerClauseLine).toList ∧
      trim " it into field \"x\"".toList = trim "it into field \"x\"".toList ∧
      starter.execute innerClauseLine = (starter.receive innerClauseLine).put .standard
        (String.ofList "it into field \"x\"".toList) (String.ofList "Body".toList) := by
  have hspells (gap expression : List Char) (hgap : IsGap gap)
      (hexpression : IsExpression expression)
      (hline : (strip innerClauseLine).toList = "put".toList ++ (gap ++ expression ++ [' '] ++
        ("into".toList ++ [' '] ++
          ([] ++ ("field".toList ++ [' '] ++ ('"' :: ("Body".toList ++ ['"']))))))) :
      SpellsPut expression "Body".toList (strip innerClauseLine).toList := by
    rw [hline]
    exact .intro rfl hgap hexpression isGap_space
      (.intro rfl isGap_space (.intro (Or.inl rfl) rfl isGap_space (by decide +kernel)))
  have hwide := hspells [' '] " it into field \"x\"".toList isGap_space
    ⟨by decide, by decide +kernel⟩ (by decide +kernel)
  have hnarrow := hspells [' ', ' '] "it into field \"x\"".toList
    ⟨by decide, List.forall_mem_cons.mpr ⟨rfl, isGap_space.2⟩⟩ ⟨by decide, by decide +kernel⟩
    (by decide +kernel)
  obtain ⟨-, hunique, heffect⟩ := put_unambiguous innerClauseLine
  exact ⟨hwide, hnarrow, (hunique _ _ _ _ hwide hnarrow).1, (heffect _ _ hnarrow).2 starter⟩

/-! ### What a line leaves alone -/

theorem stance_receive (desk : Desk) (raw : String) :
    (desk.receive raw).session.stance = desk.session.stance := by
  unfold receive
  split_ifs <;> rfl

theorem stance_writeField (desk : Desk) (name value : String) :
    (desk.writeField name value).2.session.stance = desk.session.stance := by
  unfold writeField
  split
  · dsimp only
    split <;> rfl
  · rfl

theorem stance_withValue {grammar : Grammar} {expression : String} {next : String → Outcome}
    (hnext : ∀ value, (next value).2.session.stance = desk.session.stance) :
    (desk.withValue grammar expression next).2.session.stance = desk.session.stance := by
  unfold withValue
  split
  · exact hnext _
  · rfl

/-- Only the commands that may move touch the current card, the recent cards, the open field or the
tool. -/
theorem stance_perform (desk : Desk) (grammar : Grammar) (line : String) {command : Command}
    (hgo : ∀ going?, command ≠ .go going?) (hfind : ∀ expression, command ≠ .find expression) :
    (desk.perform grammar line command).2.session.stance = desk.session.stance := by
  cases command with
  | nothing | beep | message => rfl
  | go going? => exact absurd rfl (hgo going?)
  | find expression => exact absurd rfl (hfind expression)
  | put expression name =>
    rw [perform_put]
    unfold put
    split_ifs
    · rfl
    · exact stance_withValue fun value ↦ desk.stance_writeField name value
  | get name =>
    show (desk.get name).2.session.stance = desk.session.stance
    unfold get
    split
    · rfl
    · split <;> rfl
  | answer expression => exact stance_withValue fun value ↦ rfl

theorem stance_execute (hgo : go? (strip raw).toList = none)
    (hfind : find? (strip raw).toList = none) (desk : Desk) :
    (desk.execute raw).2.session.stance = desk.session.stance := by
  have hkeeps : ((desk.receive raw).perform .standard (strip raw)
      (Command.said raw)).2.session.stance = (desk.receive raw).session.stance := by
    refine stance_perform _ _ _ (fun going? hsaid ↦ ?_) fun expression hsaid ↦ ?_
    · have hsome := (said_eq_iff go_mem_rules rfl).mp hsaid
      simp [hgo] at hsome
    · have hsome := (said_eq_iff find_mem_rules rfl).mp hsaid
      simp [hfind] at hsome
  rw [execute_of_said rfl, hkeeps, stance_receive]

/-! ### Tools -/

theorem selectedTool_leaveField (desk : Desk) :
    desk.leaveField.session.selectedTool = desk.session.selectedTool := by
  unfold leaveField
  split_ifs <;> rfl

theorem selectedTool_moveTo (desk : Desk) (target : Int) :
    (desk.moveTo target).2.session.selectedTool = desk.session.selectedTool := by
  unfold moveTo
  split_ifs
  · rfl
  · rfl
  · split
    · exact desk.selectedTool_leaveField
    · rfl

theorem selectedTool_resolve (desk : Desk) (destination : Destination) :
    (desk.resolve destination).2.session.selectedTool = desk.session.selectedTool := by
  unfold resolve
  split_ifs
  · rfl
  · cases destination with
    | number n => rfl
    | name name => rfl
    | toward direction =>
      cases direction with
      | recent =>
        show desk.session.popRecent.2.selectedTool = desk.session.selectedTool
        unfold Session.popRecent
        split <;> rfl
      | next | previous | first | last => rfl

theorem selectedTool_go (desk : Desk) (line : String) (going? : Option Going) :
    (desk.go line going?).2.session.selectedTool = desk.session.selectedTool := by
  unfold go
  split
  · rfl
  · split
    · rfl
    · next destination _ =>
      dsimp only
      split
      · exact desk.selectedTool_resolve destination
      · exact (selectedTool_moveTo _ _).trans (desk.selectedTool_resolve destination)

theorem selectedTool_findText (desk : Desk) (query : String) :
    (desk.findText query).2.session.selectedTool = desk.session.selectedTool := by
  unfold findText
  dsimp only
  split
  · rfl
  · next target _ =>
    have hmoved := (desk.log .find query).selectedTool_moveTo target
    split <;> next hmove =>
      rw [hmove] at hmoved
      exact hmoved

/-- No command selects a tool. -/
theorem selectedTool_perform (desk : Desk) (grammar : Grammar) (line : String)
    (command : Command) :
    (desk.perform grammar line command).2.session.selectedTool = desk.session.selectedTool := by
  by_cases hgo : ∃ going?, command = .go going?
  · obtain ⟨going?, rfl⟩ := hgo
    exact desk.selectedTool_go line going?
  by_cases hfind : ∃ expression, command = .find expression
  · obtain ⟨expression, rfl⟩ := hfind
    show (desk.find grammar expression).2.session.selectedTool = desk.session.selectedTool
    unfold find withValue
    split
    · exact desk.selectedTool_findText _
    · rfl
  rw [not_exists] at hgo hfind
  exact (Session.of_stance_eq (desk.stance_perform grammar line hgo hfind)).2.2.2

/-! ### Frames -/

/-- What a line that puts makes of the stack: the first field with the name on the current card
gets the value that the expression has before. -/
inductive Puts (desk : Desk) (raw : String) : Stack → Prop
  | intro {expression name value : String} {place : Nat × Nat} {card : Card} {field : TextField}
      (hcan : desk.stack.cantModify = false)
      (hput : put? (strip raw).toList = some (.put expression name))
      (hfinds : desk.Finds name place card field)
      (hvalue : desk.evaluate expression = .ok value) :
    Puts desk raw (desk.stack.writtenAt place value)

theorem Puts.isSome_put? {stack : Stack} (h : desk.Puts raw stack) :
    (put? (strip raw).toList).isSome = true := by
  obtain ⟨-, hput, -, -⟩ := h
  exact Option.isSome_of_eq_some hput

theorem finds_receive :
    (desk.receive raw).Finds name place card field ↔ desk.Finds name place card field :=
  ⟨fun h ↦ h.congr (desk.stack_receive raw).symm (desk.currentPlace?_receive raw).symm,
    fun h ↦ h.congr (desk.stack_receive raw) (desk.currentPlace?_receive raw)⟩

theorem stack_execute_of_puts {stack : Stack} (h : desk.Puts raw stack) :
    (desk.execute raw).2.stack = stack := by
  obtain ⟨hcan, hput, hfinds, hvalue⟩ := h
  rename_i expression name value place card field
  have hreceived : (desk.receive raw).evaluateWith Grammar.standard.expressions expression =
      .ok value := (desk.evaluateWith_receive raw _ _).trans hvalue
  rw [execute_of_said_put (said_eq_put_iff.mpr hput),
    put_eq (by simpa using hcan) hreceived (finds_receive.mpr hfinds), stack_receive]
  rfl

theorem stack_execute (desk : Desk) (raw : String) :
    (desk.execute raw).2.stack = desk.stack ∨ desk.Puts raw (desk.execute raw).2.stack := by
  cases hsaid : Command.said raw with
  | put expression name =>
    rw [execute_of_said_put hsaid]
    rcases (desk.receive raw).stack_put .standard expression name with hstack | ⟨hcan, value, place,
      card, field, hvalue, hfinds, hstack⟩
    · exact Or.inl (hstack.trans (desk.stack_receive raw))
    · rw [hstack, stack_receive]
      rw [stack_receive] at hcan
      exact Or.inr (.intro hcan (said_eq_put_iff.mp hsaid) (finds_receive.mp hfinds)
        ((desk.evaluateWith_receive raw _ _).symm.trans hvalue))
  | nothing | beep | go | get | answer | find | message =>
    -- Whatever else is said, the desk only browses, and that leaves the stack alone.
    refine Or.inl ?_
    obtain ⟨events, hbrowses⟩ := desk.exists_browses_execute raw
    cases hbrowses with
    | remains h => exact h.stack fun hput ↦ by simp [MayPut, hsaid] at hput
    | moves h => exact h.stack

/-- A line changes the stack only by putting, and then in one text alone. No line selects a tool,
and only `go` and `find` lines change the current card, the recent cards or the field that is
open. -/
theorem frame_execute (desk : Desk) (raw : String) :
    ((desk.execute raw).2.stack = desk.stack ∨ desk.Puts raw (desk.execute raw).2.stack) ∧
      (∀ stack, desk.Puts raw stack → (desk.execute raw).2.stack = stack) ∧
      (desk.execute raw).2.session.selectedTool = desk.session.selectedTool ∧
      (go? (strip raw).toList = none → find? (strip raw).toList = none →
        (desk.execute raw).2.session.currentCardIndex = desk.session.currentCardIndex ∧
          (desk.execute raw).2.session.recentCards = desk.session.recentCards ∧
          (desk.execute raw).2.session.editingFieldId = desk.session.editingFieldId) := by
  refine ⟨desk.stack_execute raw, fun stack ↦ stack_execute_of_puts, ?_, fun hgo hfind ↦ ?_⟩
  · rw [execute_of_said rfl, selectedTool_perform]
    exact (Session.of_stance_eq (desk.stance_receive raw)).2.2.2
  · obtain ⟨hindex, hrecent, hediting, -⟩ := Session.of_stance_eq (stance_execute hgo hfind desk)
    exact ⟨hindex, hrecent, hediting⟩

theorem frame_execute_numberOfCards :
    (starter.execute "put the number of cards into field \"BODY\"").2.stack =
        starter.stack.writtenAt (0, 1) "3" ∧
      (starter.execute "put the number of cards into field \"BODY\"").2.session.selectedTool =
        .browse ∧
      (starter.execute "put the number of cards into field \"BODY\"").2.session.recentCards =
        [] := by
  obtain ⟨-, hwritten, htool, hstill⟩ :=
    starter.frame_execute "put the number of cards into field \"BODY\""
  have hfinds : starter.Finds "BODY" (0, 1) (Stack.starter.cards[0])
      (Stack.starter.cards[0].fields[1]) :=
    ⟨rfl, rfl, rfl, by decide +kernel, by decide +kernel⟩
  have hput : put? (strip "put the number of cards into field \"BODY\"").toList =
      some (.put "the number of cards" "BODY") := by
    decide +kernel
  have hputs : starter.Puts "put the number of cards into field \"BODY\""
      (starter.stack.writtenAt (0, 1) "3") :=
    .intro rfl hput hfinds (by decide +kernel)
  exact ⟨hwritten _ hputs, htool,
    (hstill (by decide +kernel) (by decide +kernel)).2.1⟩

end Desk

end Cardfile
