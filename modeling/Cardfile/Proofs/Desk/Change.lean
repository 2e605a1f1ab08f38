import Cardfile.Desk.Edit
import Cardfile.Desk.Execution
import Cardfile.Proofs.Session.Fit
import Mathlib.Logic.Relation

/-!
# The elementary changes of a desk

Apart from setting a property and merging a snapshot, every operation of a desk is a chain of
elementary changes (`Desk.Change`), each of which touches one part of the stack or the session
under a condition that the operation has checked. What each elementary change keeps, every such
operation keeps (`Changes.keeps`); so the chains are found once, one lemma for each operation, and
an invariant needs one case for each change.
-/

set_option autoImplicit false
set_option relaxedAutoImplicit false

namespace Cardfile

namespace Desk

/-- One elementary change. A desk comes to stand only at a card that is there, points only at a
field of the card it stands at, and remembers only cards of its stack. -/
inductive Change : Desk → Desk → Prop
  | log (desk : Desk) (kind : EventKind) (detail : String) : Change desk (desk.log kind detail)
  | setVars (desk : Desk) (vars : Variables) :
    Change desk (desk.mapSession fun session ↦ { session with vars := vars })
  | remember (desk : Desk) (line : String) :
    Change desk (desk.mapSession fun session ↦ session.rememberCommand line)
  | previousLine (desk : Desk) :
    Change desk (desk.mapSession fun session ↦ session.historyPrevious.2)
  | nextLine (desk : Desk) : Change desk (desk.mapSession fun session ↦ session.historyNext.2)
  | selectTool (desk : Desk) (tool : Tool) :
    Change desk (desk.mapSession fun session ↦ { session with selectedTool := tool })
  | setEditing (desk : Desk) (id? : Option Int) :
    Change desk (desk.mapSession fun session ↦ { session with editingFieldId := id? })
  | popRecent (desk : Desk) : Change desk (desk.mapSession fun session ↦ session.popRecent.2)
  | pushRecent (desk : Desk) (card : Card) (hcard : card ∈ desk.stack.cards) :
    Change desk (desk.mapSession fun session ↦ session.pushRecent card.id)
  | standAt (desk : Desk) (position : Int) (card : Card) (hnonneg : 0 ≤ position)
      (hlt : position < desk.stack.cards.length)
      (hcard : desk.stack.cardAt? position = some card) :
    Change desk (desk.mapSession fun session ↦
      { session with currentCardIndex := position, currentFieldName := card.firstFieldName? })
  | pointAt (desk : Desk) (card : Card) (name : String) (field : TextField)
      (hcard : desk.currentCard? = some card) (hfield : card.findField? name = some field) :
    Change desk (desk.mapSession fun session ↦
      { session with currentFieldName := some field.name })
  | writeText (desk : Desk) (place fieldPlace : Nat) (text : String) :
    Change desk { desk with
      stack := desk.stack.modifyCard place fun card ↦ card.writeText fieldPlace text }
  | writeScript (desk : Desk) (place buttonPlace : Nat) (script : String) :
    Change desk { desk with
      stack := desk.stack.modifyCard place fun card ↦ card.writeScript buttonPlace script }
  | rename (desk : Desk) (place : Nat) (name : String) :
    Change desk { desk with
      stack := desk.stack.modifyCard place fun card ↦ { card with name := name } }

/-- A chain of elementary changes. -/
abbrev Changes : Desk → Desk → Prop :=
  Relation.ReflTransGen Change

/-- What each elementary change keeps, a chain of them keeps. -/
theorem Changes.keeps {motive : Desk → Prop}
    (hchange : ∀ before after, Change before after → motive before → motive after)
    {before after : Desk} (h : Changes before after) (hbefore : motive before) : motive after := by
  induction h with
  | refl => exact hbefore
  | tail _ hlast ih => exact hchange _ _ hlast ih

theorem Changes.trans {first second third : Desk} (h : Changes first second)
    (hlast : Changes second third) : Changes first third :=
  Relation.ReflTransGen.trans h hlast

/-! ### Moving -/

@[simp] theorem stack_mapSession (desk : Desk) (change : Session → Session) :
    (desk.mapSession change).stack = desk.stack :=
  rfl

@[simp] theorem stack_log (desk : Desk) (kind : EventKind) (detail : String) :
    (desk.log kind detail).stack = desk.stack :=
  stack_mapSession ..

theorem changes_leaveField (desk : Desk) : Changes desk desk.leaveField := by
  unfold leaveField
  split_ifs with hediting
  · exact (Relation.ReflTransGen.single (.log ..)).tail (.setEditing _ none)
  · exact .refl

@[simp] theorem stack_leaveField (desk : Desk) : desk.leaveField.stack = desk.stack := by
  unfold leaveField
  split_ifs <;> simp

theorem changes_arrive {desk : Desk} {old new : Card} {target : Int}
    (hold : old ∈ desk.stack.cards) (hnonneg : 0 ≤ target)
    (hlt : target < desk.stack.cards.length) (hnew : desk.stack.cardAt? target = some new) :
    Changes desk (desk.arrive old new target) := by
  have hpushed : Changes desk
      (desk.leaveField.mapSession fun session ↦ session.pushRecent old.id) :=
    desk.changes_leaveField.tail (.pushRecent _ old (by simpa using hold))
  have hstanding := (hpushed.tail (.log _ .closeCard old.name)).tail
    (.standAt _ target new hnonneg (by simpa using hlt) (by simpa using hnew))
  exact (hstanding.tail (.log _ .openCard new.name)).tail (.setVars _ {})

theorem changes_moveTo (desk : Desk) (target : Int) : Changes desk (desk.moveTo target).2 := by
  unfold moveTo
  split_ifs with hrange hhere
  · exact .refl
  · exact .refl
  · rw [not_or] at hrange
    cases hold : desk.currentCard? with
    | none => exact .refl
    | some old =>
      cases hnew : desk.stack.cardAt? target with
      | none => exact .refl
      | some new =>
        exact changes_arrive (Stack.mem_of_cardAt? hold) (by omega) (by omega) hnew

theorem changes_resolve (desk : Desk) (destination : Destination) :
    Changes desk (desk.resolve destination).2 := by
  unfold resolve
  split_ifs with hempty
  · exact .refl
  · cases destination with
    | number n => exact .refl
    | name name => exact .refl
    | toward direction =>
      cases direction with
      | recent => exact .single (.popRecent desk)
      | next | previous | first | last => exact .refl

/-! ### Executing a line -/

theorem changes_receive (desk : Desk) (raw : String) : Changes desk (desk.receive raw) := by
  unfold receive
  split_ifs with hblank
  · exact .single (.log ..)
  · exact (Relation.ReflTransGen.single (.log ..)).tail (.remember ..)

theorem changes_report (desk : Desk) (message : String) :
    Changes desk (desk.report message).2 :=
  .single (.setVars ..)

theorem changes_setVariables (desk : Desk) (it result : String) :
    Changes desk (desk.setVariables it result) :=
  .single (.setVars ..)

theorem changes_withValue {desk : Desk} {grammar : Grammar} {expression : String}
    {next : String → Outcome} (h : ∀ value, Changes desk (next value).2) :
    Changes desk (desk.withValue grammar expression next).2 := by
  unfold withValue
  cases desk.evaluateWith grammar.expressions expression with
  | ok value => exact h value
  | error failure => exact .refl

theorem changes_go (desk : Desk) (line : String) (going? : Option Going) :
    Changes desk (desk.go line going?).2 := by
  cases going? with
  | none => exact .refl
  | some going =>
    unfold go
    dsimp only
    cases going.destination with
    | error failure => exact .refl
    | ok destination =>
      have hresolve := desk.changes_resolve destination
      dsimp only
      cases (desk.resolve destination).1 with
      | none => exact hresolve.trans (changes_report ..)
      | some target => exact hresolve.trans (changes_moveTo _ target)

theorem changes_writeField (desk : Desk) (name value : String) :
    Changes desk (desk.writeField name value).2 := by
  unfold writeField
  cases hplace : desk.currentPlace? with
  | none => exact .refl
  | some place =>
    cases hcard : desk.currentCard? with
    | none => exact .refl
    | some card =>
      dsimp only
      cases hfieldPlace : card.fieldPlace? name with
      | none => exact desk.changes_report _
      | some fieldPlace =>
        cases hfield : card.findField? name with
        | none => exact desk.changes_report _
        | some field =>
          have hpointed := Relation.ReflTransGen.single (Change.pointAt desk card name field hcard
            hfield)
          have hwritten := hpointed.tail (.writeText _ place fieldPlace value)
          exact (hwritten.tail (.log _ .setField field.name)).trans
            (changes_setVariables _ value "")

theorem changes_put (desk : Desk) (grammar : Grammar) (expression name : String) :
    Changes desk (desk.put grammar expression name).2 := by
  unfold put
  split_ifs with hcant
  · exact desk.changes_report _
  · exact changes_withValue fun value ↦ desk.changes_writeField name value

theorem changes_get (desk : Desk) (name : String) : Changes desk (desk.get name).2 := by
  unfold get
  cases hcard : desk.currentCard? with
  | none => exact .refl
  | some card =>
    dsimp only
    cases hfield : card.findField? name with
    | none => exact desk.changes_setVariables "" ""
    | some field =>
      exact (Relation.ReflTransGen.single (.pointAt desk card name field hcard hfield)).trans
        (changes_setVariables _ field.text "")

theorem changes_findText (desk : Desk) (query : String) :
    Changes desk (desk.findText query).2 := by
  have hlogged : Changes desk (desk.log .find query) := .single (.log ..)
  unfold findText
  dsimp only
  cases (desk.log .find query).stack.searchFields? query with
  | none => exact hlogged.tail (.setVars ..)
  | some target =>
    have hmoved := hlogged.trans ((desk.log .find query).changes_moveTo target)
    dsimp only
    rcases hmove : (desk.log .find query).moveTo target with ⟨outcome, arrived⟩
    rw [hmove] at hmoved
    cases outcome with
    | error failure => exact hmoved
    | ok moved => exact hmoved.trans (arrived.changes_setVariables query "")

theorem changes_perform (desk : Desk) (grammar : Grammar) (line : String) (command : Command) :
    Changes desk (desk.perform grammar line command).2 := by
  cases command with
  | nothing => exact .refl
  | beep => exact .single (.setVars desk {})
  | go going? => exact desk.changes_go line going?
  | put expression name => exact desk.changes_put grammar expression name
  | get name => exact desk.changes_get name
  | answer expression => exact changes_withValue fun value ↦ desk.changes_setVariables "OK" ""
  | find expression => exact changes_withValue desk.changes_findText
  | message => exact desk.changes_setVariables "" line

theorem execute_eq (desk : Desk) (raw : String) :
    desk.execute raw = (desk.receive raw).perform .standard (Text.strip raw)
      (Command.ofLineWith Grammar.standard.commands (Text.strip raw).toList) :=
  rfl

theorem changes_execute (desk : Desk) (raw : String) : Changes desk (desk.execute raw).2 := by
  rw [execute_eq]
  exact (desk.changes_receive raw).trans (changes_perform ..)

/-! ### Direct edits -/

theorem currentCard?_of_openable {desk : Desk} {name : String} {field : TextField}
    (h : desk.openable name = .ok field) :
    ∃ card, desk.currentCard? = some card ∧ card.findField? name = some field := by
  unfold openable at h
  cases hcard : desk.currentCard? with
  | none => simp [hcard] at h
  | some card =>
    cases hfield : card.findField? name with
    | none => simp [hcard, hfield] at h
    | some found =>
      simp only [hcard, hfield] at h
      split_ifs at h
      cases h
      exact ⟨card, rfl, hfield⟩

theorem currentCard?_leaveField (desk : Desk) :
    desk.leaveField.currentCard? = desk.currentCard? := by
  unfold leaveField
  split_ifs <;> rfl

theorem changes_openField (desk : Desk) (name : String) :
    Changes desk (desk.openField name).2 := by
  unfold openField
  cases hopenable : desk.openable name with
  | error refusal => exact .refl
  | ok field =>
    obtain ⟨card, hcard, hfield⟩ := currentCard?_of_openable hopenable
    have hpointed := desk.changes_leaveField.tail
      (.pointAt _ card name field (by rwa [currentCard?_leaveField]) hfield)
    exact (hpointed.tail (.setEditing _ (some field.id))).tail (.log _ .openField field.name)

theorem changes_editFieldText (desk : Desk) (text : String) :
    Changes desk (desk.editFieldText text).2 := by
  unfold editFieldText
  cases desk.session.editingFieldId with
  | none => exact .refl
  | some id =>
    cases desk.currentPlace? with
    | none => exact .refl
    | some place =>
      cases desk.currentCard? with
      | none => exact .refl
      | some card =>
        dsimp only
        cases card.fields.findIdx? fun field ↦ field.id == id with
        | none => exact .refl
        | some fieldPlace =>
          cases card.fields.find? fun field ↦ field.id == id with
          | none => exact .refl
          | some field =>
            exact (Relation.ReflTransGen.single (.writeText desk place fieldPlace text)).tail
              (.log _ .setField field.name)

theorem changes_closeField (desk : Desk) : Changes desk desk.closeField.2 := by
  unfold closeField
  split_ifs with hediting
  · exact desk.changes_leaveField
  · exact .refl

theorem changes_editScript (desk : Desk) (buttonId : Int) (script : String) :
    Changes desk (desk.editScript buttonId script).2 := by
  unfold editScript
  rcases desk.stack.buttonPlace? buttonId with _ | ⟨place, buttonPlace⟩
  · exact .refl
  · cases desk.stack.findButton? buttonId with
    | none => exact .refl
    | some button =>
      exact (Relation.ReflTransGen.single (.writeScript desk place buttonPlace script)).tail
        (.log _ .scriptEdited button.name)

theorem renameCard_eq {desk : Desk} {place : Nat} {card : Card}
    (hplace : desk.currentPlace? = some place) (hcard : desk.currentCard? = some card)
    (name : String) :
    desk.renameCard name =
      if Text.IsShort card.id then
        (.ok (), (desk.withCardName place name).log .setProperty
          ("name of card " ++ Text.decimal card.id))
      else (.error .numberTooLong, desk.withCardName place name) := by
  unfold renameCard Text.writeWhole?
  rw [hplace, hcard]
  dsimp only
  split_ifs <;> rfl

/-- A renaming that fails logs nothing. -/
theorem session_renameCard_of_failed {desk after : Desk} {name : String} {failure : Failure}
    (h : desk.renameCard name = (.error failure, after)) : after.session = desk.session := by
  unfold renameCard at h
  split at h
  · dsimp only at h
    split at h
    · cases h
      rfl
    · cases h
  · cases h
    rfl

theorem changes_renameCard (desk : Desk) (name : String) :
    Changes desk (desk.renameCard name).2 := by
  unfold renameCard
  cases desk.currentPlace? with
  | none => exact .refl
  | some place =>
    cases desk.currentCard? with
    | none => exact .refl
    | some card =>
      have hrenamed : Changes desk (desk.withCardName place name) := .single (.rename desk place name)
      dsimp only
      cases Text.writeWhole? card.id with
      | none => exact hrenamed
      | some id => exact hrenamed.tail (.log ..)

theorem changes_selectTool (desk : Desk) (name : String) :
    Changes desk (desk.selectTool name).2 := by
  unfold selectTool
  cases Tool.ofName? (Text.caseFold (Text.strip name)) with
  | none => exact .refl
  | some tool => exact .single (.selectTool desk tool)

theorem changes_historyPrevious (desk : Desk) : Changes desk desk.historyPrevious.2 :=
  .single (.previousLine desk)

theorem changes_historyNext (desk : Desk) : Changes desk desk.historyNext.2 :=
  .single (.nextLine desk)

/-! ### What the changes keep -/

variable {before after : Desk}

theorem Change.skeleton_eq (h : Change before after) :
    after.stack.skeleton = before.stack.skeleton := by
  cases h with
  | writeText place fieldPlace text =>
    exact Stack.skeleton_modifyCard _ _ fun card ↦ card.skeleton_writeText fieldPlace text
  | writeScript place buttonPlace script =>
    exact Stack.skeleton_modifyCard _ _ fun card ↦ card.skeleton_writeScript buttonPlace script
  | rename place name => exact Stack.skeleton_modifyCard _ _ fun card ↦ card.skeleton_rename name
  | _ => rfl

/-- An elementary change sets no property. -/
theorem Change.properties_eq (h : Change before after) :
    after.stack.userLevel = before.stack.userLevel ∧
      after.stack.scriptTextFont = before.stack.scriptTextFont ∧
      after.stack.scriptTextSize = before.stack.scriptTextSize ∧
      after.stack.cantModify = before.stack.cantModify := by
  cases h <;> exact ⟨rfl, rfl, rfl, rfl⟩

theorem Changes.scriptTextFont_eq (h : Changes before after) :
    after.stack.scriptTextFont = before.stack.scriptTextFont :=
  h.keeps (motive := fun desk ↦ desk.stack.scriptTextFont = before.stack.scriptTextFont)
    (fun _ _ hchange hsame ↦ hchange.properties_eq.2.1.trans hsame) rfl

theorem Change.fits (h : Change before after) (hfits : before.session.Fits before.stack) :
    after.session.Fits after.stack := by
  refine Session.Fits.congr h.skeleton_eq.symm ?_
  cases h with
  | log kind detail => exact hfits.log kind detail
  | setVars vars => exact hfits.setVars vars
  | remember line => exact hfits.rememberCommand line
  | previousLine => exact hfits.historyPrevious
  | nextLine => exact hfits.historyNext
  | selectTool tool => exact hfits.selectTool tool
  | setEditing id? => exact hfits.setEditing id?
  | popRecent => exact hfits.popRecent
  | pushRecent card hcard => exact hfits.pushRecent hcard
  | standAt position card hnonneg hlt hcard =>
    exact hfits.standAt hnonneg hlt hcard card.pointedAt_firstFieldName?
  | pointAt card name field hcard hfield =>
    exact hfits.standAt hfits.index_nonneg hfits.index_lt hcard
      (Card.pointedAt_of_findField? hfield)
  | writeText | writeScript | rename => exact hfits

end Desk

end Cardfile
