import Cardfile.Proofs.Command.Quoting
import Cardfile.Proofs.Desk.Writing

/-!
# Quoted literals on a desk

A line with a quoted literal for its expression takes the literal as it is, or it is sent as a
message; which of the two is decided by whether there is a line end in the literal
(`Desk.takesLiteral_run`).

What is put is what is read: a literal put into a field is the text that a `get` line reads, under
any name that differs in letter case only and after any lines that do not put
(`Desk.getLine_of_putLine`).
-/

set_option autoImplicit false
set_option relaxedAutoImplicit false

namespace Cardfile

open Text Command

/-! ### What the lines say -/

namespace Command

variable {text name : String}

/-- A line that starts with the keyword of a rule says what the rule gives, or it is a message. -/
theorem said_of_recognise {rule : Rule Command} {line : String} {command : Command} {broken : Prop}
    [Decidable broken] (hrule : rule ∈ rules) (hform : rule.form = command.form)
    (hkeyword : rule.form ∈ keywords)
    (hstarts : (takeWord? rule.form.toList line.toList).isSome = true) (hstrip : strip line = line)
    (hrecognise : rule.recognise line.toList = if broken then none else some command) :
    Command.said line = if broken then .message else command := by
  split_ifs at hrecognise ⊢
  · rw [Command.said, hstrip]
    exact ofLineWith_eq_message hrule (mayBe_of_takeWord? hkeyword hstarts) hrecognise
  · rw [said_eq_iff hrule hform, hstrip]
    exact hrecognise

theorem said_answerLine (text : String) : Command.said (answerLine text) =
    if '\n' ∈ text.toList then .message else .answer (inQuotes text) :=
  said_of_recognise answer_mem_rules rfl (by decide)
    (Option.isSome_of_eq_some (takeWord?_answerLine text)) (strip_answerLine text)
    (answer?_answerLine text)

theorem said_findLine (text : String) : Command.said (findLine text) =
    if '\n' ∈ text.toList then .message else .find (inQuotes text) :=
  said_of_recognise find_mem_rules rfl (by decide)
    (Option.isSome_of_eq_some (takeWord?_findLine text)) (strip_findLine text)
    (find?_findLine text)

theorem said_putLine (hname : '"' ∉ name.toList) (viaCard : Bool) (text : String) :
    Command.said (putLine viaCard text name) =
      if '\n' ∈ text.toList then .message else .put (inQuotes text) name :=
  said_of_recognise put_mem_rules rfl (by decide)
    (Option.isSome_of_eq_some (takeWord?_putLine viaCard text name))
    (strip_putLine viaCard text name) (put?_putLine hname viaCard text)

theorem said_getLine (hname : '"' ∉ name.toList) (viaCard : Bool) :
    Command.said (getLine viaCard name) = .get name := by
  rw [said_eq_iff get_mem_rules rfl, strip_getLine]
  exact get?_getLine hname viaCard

end Command

namespace Desk

variable {desk last : Desk} {text name second value : String} {place : Nat × Nat} {card : Card}
  {field : TextField}

/-- What stands between double quotes is the value on every desk. -/
theorem evaluateWith_inQuotes (desk : Desk) (text : String) :
    desk.evaluateWith Grammar.standard.expressions (inQuotes text) = .ok text := by
  show (Expression.ofTextWith Expression.rules (trim (inQuotes text).toList)).value desk = .ok text
  rw [trim_inQuotes, ofTextWith_inQuotes]
  rfl

theorem withValue_inQuotes (desk : Desk) (text : String) (next : String → Outcome) :
    desk.withValue .standard (inQuotes text) next = next text :=
  withValue_of_ok (desk.evaluateWith_inQuotes text)

/-! ### What is put is what is read -/

/-- A text that was written is found under every name that differs in letter case only. -/
theorem Finds.write (h : desk.Finds name place card field)
    (hsame : caseFold second = caseFold name)
    (hstack : last.stack = desk.stack.writtenAt place value)
    (hcurrent : last.currentPlace? = desk.currentPlace?) :
    last.Finds second place (card.writeText place.2 value) { field with text := value } where
  current := hcurrent.trans h.current
  cardAt := by
    rw [hstack]
    simp [Stack.writtenAt, Stack.modifyCard, h.cardAt]
  fieldAt := by simp [Card.writeText, h.fieldAt]
  named := by
    rw [sameName_iff, hsame]
    exact sameName_iff.mp h.named
  first earlier hearlier other hother := by
    rw [Card.writeText, List.getElem?_modify_ne _ _ (by omega)] at hother
    have hfirst := h.first earlier hearlier other hother
    rwa [sameName, hsame]

theorem Finds.get_eq (h : desk.Finds name place card field) :
    desk.get name = (.ok field.text, (desk.mapSession fun session ↦
      { session with currentFieldName := some field.name }).setVariables field.text "") := by
  unfold get
  rw [h.currentCard?_eq]
  dsimp only
  rw [h.findField?_eq]

/-- Lines that do not put keep the stack. -/
theorem stack_run_of_no_put (desk : Desk) {lines : List String}
    (hlines : ∀ line ∈ lines, put? (strip line).toList = none) :
    (desk.run (lines.map .execute)).stack = desk.stack := by
  induction lines generalizing desk with
  | nil => rfl
  | cons line rest ih =>
    have hline : (desk.operate (.execute line)).stack = desk.stack := by
      rw [operate]
      refine (desk.stack_execute line).resolve_right fun hputs ↦ ?_
      have hput := hputs.isSome_put?
      simp [hlines line List.mem_cons_self] at hput
    have hrest : ∀ line ∈ rest, put? (strip line).toList = none := fun line hmem ↦
      hlines line (List.mem_cons_of_mem _ hmem)
    rw [List.map_cons, run, List.foldl_cons, ← run, ih _ hrest, hline]

theorem execute_putLine (hcan : desk.stack.cantModify = false) (htext : '\n' ∉ text.toList)
    (hname : '"' ∉ name.toList) (hfinds : desk.Finds name place card field) (viaCard : Bool) :
    (desk.execute (putLine viaCard text name)).1 = .ok text ∧
      (desk.execute (putLine viaCard text name)).2.stack = desk.stack.writtenAt place text ∧
      (desk.execute (putLine viaCard text name)).2.session.vars = ⟨text, ""⟩ := by
  have hsaid : Command.said (putLine viaCard text name) = .put (inQuotes text) name := by
    rw [said_putLine hname, if_neg htext]
  rw [execute_of_said_put hsaid, put_eq (by simpa using hcan) (evaluateWith_inQuotes _ text)
    (finds_receive.mpr hfinds), stack_receive]
  exact ⟨rfl, rfl, rfl⟩

theorem execute_getLine (hname : '"' ∉ name.toList) (hfinds : desk.Finds name place card field)
    (viaCard : Bool) : (desk.execute (getLine viaCard name)).1 = .ok field.text ∧
      (desk.execute (getLine viaCard name)).2.session.vars = ⟨field.text, ""⟩ := by
  have hexecute : desk.execute (getLine viaCard name) =
      (desk.receive (getLine viaCard name)).get name :=
    execute_of_said (said_getLine hname viaCard) desk
  rw [hexecute, (finds_receive.mpr hfinds).get_eq]
  exact ⟨rfl, rfl⟩

/-- Assumes: a stack that can be modified, and a field on the current card. A literal on a single
line that is put into the field is answered and left in `it`. After any lines that do not put, back
on the card, it is what is read under every name that differs in letter case only. -/
theorem getLine_of_putLine (desk : Desk) (text name second : String)
    (hcan : desk.stack.cantModify = false)
    (hcard : desk.currentCard? = some card) (hfield : card.findField? name = some field)
    (htext : '\n' ∉ text.toList) (hname : '"' ∉ name.toList) (hsecond : '"' ∉ second.toList)
    (hsame : caseFold second = caseFold name) (viaCard viaSecond : Bool) :
    (desk.execute (putLine viaCard text name)).1 = .ok text ∧
      (desk.execute (putLine viaCard text name)).2.session.vars = ⟨text, ""⟩ ∧
      ∀ lines : List String, (∀ line ∈ lines, put? (strip line).toList = none) →
        ((desk.execute (putLine viaCard text name)).2.run
          (lines.map .execute)).currentPlace? = desk.currentPlace? →
        (((desk.execute (putLine viaCard text name)).2.run (lines.map .execute)).execute
            (getLine viaSecond second)).1 = .ok text ∧
          (((desk.execute (putLine viaCard text name)).2.run (lines.map .execute)).execute
            (getLine viaSecond second)).2.session.vars.it = text := by
  obtain ⟨place, hfinds⟩ := exists_finds hcard hfield
  obtain ⟨hanswer, hstack, hvars⟩ := execute_putLine hcan htext hname hfinds viaCard
  refine ⟨hanswer, hvars, fun lines hlines hcurrent ↦ ?_⟩
  have hkept := (stack_run_of_no_put _ hlines).trans hstack
  obtain ⟨hread, hleft⟩ := execute_getLine hsecond (hfinds.write hsame hkept hcurrent) viaSecond
  exact ⟨hread, congrArg Variables.it hleft⟩

/-- The literal may read like a command. -/
theorem getLine_of_putLine_commandText :
    ((((starter.execute (putLine false "\" into field \"x" "Body")).2.run
      (["go next", "find \"put\"", "go previous"].map .execute)).execute
        (getLine true "bODY")).1 = .ok "\" into field \"x") := by
  obtain ⟨-, -, hread⟩ := getLine_of_putLine starter "\" into field \"x" "Body" "bODY" rfl rfl rfl
    (by decide +kernel) (by decide +kernel) (by decide +kernel) (by decide +kernel) false true
  exact (hread ["go next", "find \"put\"", "go previous"] (by decide +kernel)
    (by decide +kernel)).1

/-! ### Literals that are taken as they are -/

/-- Every line that takes an expression takes a literal as it is. -/
structure TakesLiteral (desk : Desk) (text : String) : Prop where
  answers : (desk.execute (answerLine text)).1 = .ok ("answer \"" ++ text ++ "\" (simulated)")
  leaves : (desk.execute (answerLine text)).2.session.vars.it = "OK"
  finds : (desk.execute (findLine text)).1 = .ok
    (if (desk.stack.searchFields? text).isSome then "found \"" ++ text ++ "\""
      else "Couldn't find \"" ++ text ++ "\"")
  logs : ∃ later, desk.session.Logs (⟨.command, findLine text⟩ :: ⟨.find, text⟩ :: later)
    (desk.execute (findLine text)).2.session
  puts : desk.stack.cantModify = false → ∀ name card field, '"' ∉ name.toList →
    desk.currentCard? = some card → card.findField? name = some field → ∀ viaCard,
      ∃ place, desk.Finds name place card field ∧
        (desk.execute (putLine viaCard text name)).2.stack = desk.stack.writtenAt place text

/-- A line that is sent as a message. -/
def Sends (desk : Desk) (line : String) : Prop :=
  desk.execute line = (.ok ("sent line: " ++ line), (desk.receive line).setVariables "" line)

theorem sends_of_said {line : String} (hstrip : strip line = line)
    (hsaid : Command.said line = .message) (desk : Desk) : desk.Sends line := by
  rw [Sends, execute_of_said hsaid, hstrip]
  rfl

theorem execute_answerLine (desk : Desk) (htext : '\n' ∉ text.toList) :
    desk.execute (answerLine text) = (.ok ("answer \"" ++ text ++ "\" (simulated)"),
      (desk.receive (answerLine text)).setVariables "OK" "") := by
  have hsaid : Command.said (answerLine text) = .answer (inQuotes text) := by
    rw [said_answerLine, if_neg htext]
  rw [execute_of_said hsaid]
  exact withValue_inQuotes _ text _

theorem execute_findLine (desk : Desk) (htext : '\n' ∉ text.toList) :
    desk.execute (findLine text) = (desk.receive (findLine text)).findText text := by
  have hsaid : Command.said (findLine text) = .find (inQuotes text) := by
    rw [said_findLine, if_neg htext]
  rw [execute_of_said hsaid]
  exact withValue_inQuotes _ text _

theorem exists_logs_findText (desk : Desk) (query : String) :
    ∃ later, desk.session.Logs (⟨.find, query⟩ :: later) (desk.findText query).2.session := by
  have hlogged : desk.session.Logs [⟨.find, query⟩] (desk.log .find query).session :=
    Session.Logs.refl.log .find query
  unfold findText
  dsimp only
  split
  · exact ⟨[], hlogged.quiet rfl rfl⟩
  · next target _ =>
    obtain ⟨later, hmoved⟩ : ∃ later, (desk.log .find query).Browses 3 none False later
        ((desk.log .find query).moveTo target).2 :=
      exists_browses_moveTo _ _
    have hlogs := hlogged.trans hmoved.logs
    split <;> next hmove =>
      rw [hmove] at hlogs
      exact ⟨later, hlogs.quiet rfl rfl⟩

theorem takesLiteral (hfits : desk.session.Fits desk.stack) (htext : '\n' ∉ text.toList) :
    desk.TakesLiteral text where
  answers := by rw [execute_answerLine desk htext]
  leaves := by
    rw [execute_answerLine desk htext]
    rfl
  finds := by
    rw [execute_findLine desk htext, findText_fst (fits_receive hfits _), stack_receive]
  logs := by
    obtain ⟨later, hlater⟩ := (desk.receive (findLine text)).exists_logs_findText text
    rw [execute_findLine desk htext]
    have hreceived : desk.Remains none False [⟨.command, findLine text⟩]
        (desk.receive (findLine text)) := desk.remains_receive (findLine text)
    exact ⟨later, hreceived.logs.trans hlater⟩
  puts hcan name card field hname hcard hfield viaCard := by
    obtain ⟨place, hfinds⟩ := exists_finds hcard hfield
    exact ⟨place, hfinds, (execute_putLine hcan htext hname hfinds viaCard).2.1⟩

/-- Assumes: a fresh desk, and any operations after it. A literal is taken as it is, quotes and
blanks included, exactly if there is no line end in it. A line with any other literal is sent as a
message: the rules for commands are narrower than the expressions they take. -/
theorem takesLiteral_run {base : Stack} {start : Desk} (hopen : open? base = some start)
    (operations : List Operation) (text : String) :
    ((start.run operations).TakesLiteral text ↔ '\n' ∉ text.toList) ∧
      ('\n' ∈ text.toList → (start.run operations).Sends (answerLine text) ∧
        (start.run operations).Sends (findLine text) ∧
        ∀ name, '"' ∉ name.toList → ∀ viaCard,
          (start.run operations).Sends (putLine viaCard text name)) := by
  have hfits := (reached_run hopen operations).session
  generalize start.run operations = desk at hfits ⊢
  have hsends (hbreak : '\n' ∈ text.toList) : desk.Sends (answerLine text) :=
    sends_of_said (strip_answerLine text) (by rw [said_answerLine, if_pos hbreak]) desk
  refine ⟨⟨fun htakes hbreak ↦ ?_, takesLiteral hfits⟩, fun hbreak ↦ ⟨hsends hbreak, ?_, ?_⟩⟩
  · -- A message leaves nothing in `it`.
    have hleaves := htakes.leaves
    rw [hsends hbreak] at hleaves
    exact absurd hleaves (by decide : ("" : String) ≠ "OK")
  · exact sends_of_said (strip_findLine text) (by rw [said_findLine, if_pos hbreak]) desk
  · intro name hname viaCard
    exact sends_of_said (strip_putLine viaCard text name)
      (by rw [said_putLine hname, if_pos hbreak]) desk

theorem takesLiteral_run_quotes :
    (starter.run [.execute "go next"]).TakesLiteral "say \"hi\" " ∧
      (starter.run [.execute "go next"]).Sends (findLine "a\nb") := by
  obtain ⟨htakes, -⟩ :=
    takesLiteral_run open?_starter [.execute "go next"] "say \"hi\" "
  obtain ⟨-, hsends⟩ := takesLiteral_run open?_starter [.execute "go next"] "a\nb"
  exact ⟨htakes.mpr (by decide +kernel), (hsends (by decide +kernel)).2.1⟩

/-- A literal of two lines is not taken. -/
theorem not_takesLiteral_twoLines :
    (starter.execute "answer \"a\nb\"").1 = .ok "sent line: answer \"a\nb\"" ∧
      ¬ starter.TakesLiteral "a\nb" := by
  refine ⟨by decide +kernel, fun htakes ↦ ?_⟩
  have hanswers : (starter.execute (answerLine "a\nb")).1 ≠
      .ok ("answer \"" ++ "a\nb" ++ "\" (simulated)") := by
    decide +kernel
  exact hanswers htakes.answers

end Desk

end Cardfile
