import Cardfile.Proofs.Service.Intent
import Cardfile.Proofs.Snapshot.Restore
import Cardfile.Proofs.Snapshot.Storable
import Cardfile.Proofs.Snapshot.Unchanged
import Cardfile.Service.Basic

/-!
# Restarting a service

A service that has lost its desk makes a new one from what its store holds (`Service.restarted`).
Requests keep a service whose store answers durable (`Service.IsDurable`): as long as the font of
the desk is a text, the new desk has the snapshot of the lost one. Every change of what a snapshot
keeps is committed, and a request that is not committed changes nothing of that.

A font with half of a surrogate pair in it is taken, but it cannot be written, so nothing is stored
while the desk has it. `Service.restarted_run` says that this is the only reason for a restart to
lose anything that a snapshot keeps.
-/

set_option autoImplicit false
set_option relaxedAutoImplicit false

namespace Cardfile

/-- A desk that is like the starter one in everything that no snapshot keeps. -/
structure Desk.IsFresh (desk : Desk) : Prop where
  stack : desk.stack.unsaved = Stack.starter.unsaved
  session : desk.session = {
    currentCardIndex := desk.session.currentCardIndex
    currentFieldName := desk.session.currentFieldName }

theorem Desk.isFresh_starter : starter.IsFresh :=
  ⟨rfl, rfl⟩

theorem Desk.isFresh_merge (snapshot : Snapshot) : (starter.merge snapshot).IsFresh :=
  ⟨Stack.starter.unsaved_merge snapshot, rfl⟩

namespace Service

variable {service other : Service} {desk after : Desk}

/-- The service after requests, one after another. -/
def run (service : Service) (requests : List Request) : Service :=
  requests.foldl (fun service request ↦ (service.respond request).2) service

/-- The desk that the service would make if it lost its own. -/
def restarted (service : Service) : Desk :=
  { service with desk := none }.startRestored.1

/-! ### What a restart makes -/

/-- The snapshot that the store holds. -/
def stored? (service : Service) : Option Snapshot :=
  (service.store.loadSnapshot service.settings Stack.starter.name).1

theorem restarted_eq (service : Service) :
    service.restarted = service.stored?.elim Desk.starter Desk.starter.merge := by
  unfold restarted startRestored
  dsimp only
  rw [Desk.restore_eq]
  rfl

/-- What a restart makes depends on the keys of the store alone. -/
theorem restarted_congr (hget : service.store.Accepts .get)
    (hsettings : other.settings = service.settings) (hstore : service.store.Alike other.store) :
    other.restarted = service.restarted := by
  have hstored : other.stored? = service.stored? := by
    rw [stored?, stored?, Store.loadSnapshot_fst (hstore.accepts hget), Store.loadSnapshot_fst hget,
      hsettings, hstore.value?]
  rw [restarted_eq, restarted_eq, hstored]

theorem isFresh_restarted (service : Service) : service.restarted.IsFresh := by
  rw [restarted_eq]
  cases service.stored? with
  | none => exact Desk.isFresh_starter
  | some snapshot => exact Desk.isFresh_merge snapshot

theorem storable_restarted (service : Service) : service.restarted.Storable := by
  rw [restarted_eq]
  cases hstored : service.stored? with
  | none => exact Desk.storable_starter
  | some snapshot => exact Desk.storable_starter.merge (Store.isWritable_of_loadSnapshot hstored)

/-- No text gives a font with half of a surrogate pair in it. -/
theorem plain_restarted (service : Service) :
    ∃ font, service.restarted.stack.scriptTextFont = .plain font := by
  rw [restarted_eq]
  cases hstored : service.stored? with
  | none => exact ⟨"Monaco", rfl⟩
  | some snapshot =>
    show ∃ font, (Stack.starter.merge snapshot).scriptTextFont = .plain font
    rcases Stack.starter.scriptTextFont_merge snapshot with hsame | hsaved
    · exact ⟨"Monaco", hsame⟩
    · rw [hsaved]
      exact (Store.isWritable_of_loadSnapshot hstored).scriptTextFont

/-- Assumes: a store that answers and holds the text of the snapshot of a desk that can be stored.
The restarted desk has the same snapshot. -/
theorem snapshot_restarted_of_value? (hget : service.store.Accepts .get) (hdesk : desk.Storable)
    (hfont : ∃ font, desk.stack.scriptTextFont = .plain font)
    (hvalue : service.store.value? (service.settings.snapshotKey Stack.starter.name) =
      some desk.snapshot.toJson.compact) : service.restarted.snapshot = desk.snapshot := by
  have hstored : service.stored? = some desk.snapshot :=
    Store.loadSnapshot_of_value? hget (hdesk.isWritable hfont) hvalue
  rw [restarted_eq, hstored]
  exact hdesk.reached.snapshot_merge Desk.open?_starter (by decide) (by decide) (by decide)

/-! ### Durable services -/

/-- A service whose store answers, and whose desk would be restored by a restart as far as a
snapshot keeps it, unless the font of that desk is no text. -/
structure IsDurable (service : Service) : Prop where
  accepts : ∀ command, service.store.Accepts command
  storable : ∀ desk, service.desk = some desk → desk.Storable
  restored : ∀ desk, service.desk = some desk →
    (∃ font, desk.stack.scriptTextFont = .plain font) → service.restarted.snapshot = desk.snapshot

theorem isDurable_of_desk_eq_none (hnone : service.desk = none)
    (haccepts : ∀ command, service.store.Accepts command) : service.IsDurable where
  accepts := haccepts
  storable desk hdesk := by
    rw [hnone] at hdesk
    cases hdesk
  restored desk hdesk := by
    rw [hnone] at hdesk
    cases hdesk

namespace IsDurable

/-- Only the desk, the settings and the keys of the store matter. -/
theorem congr (h : service.IsDurable) (hdesk : other.desk = service.desk)
    (hsettings : other.settings = service.settings) (hstore : service.store.Alike other.store) :
    other.IsDurable where
  accepts command := hstore.accepts (h.accepts command)
  storable := hdesk ▸ h.storable
  restored desk hfound hfont := by
    rw [hdesk] at hfound
    rw [restarted_congr (h.accepts .get) hsettings hstore]
    exact h.restored desk hfound hfont

theorem withStore (h : service.IsDurable) {store : Store} (hstore : service.store.Alike store) :
    { service with store := store }.IsDurable :=
  h.congr rfl rfl hstore

theorem setDesk (h : service.IsDurable) (hdesk : service.desk = some desk)
    (hafter : after.Storable) (hsame : after.snapshot = desk.snapshot) :
    (service.setDesk after).IsDurable where
  accepts := h.accepts
  storable found hfound := by
    cases hfound
    exact hafter
  restored found hfound hfont := by
    cases hfound
    have hfonts : after.stack.scriptTextFont = desk.stack.scriptTextFont :=
      congrArg Snapshot.scriptTextFont hsame
    rw [hfonts] at hfont
    rw [hsame]
    exact h.restored desk hdesk hfont

/-- The desk is there after the start, and it is the one that a restart would make if it was not
there before. -/
theorem startRestored (h : service.IsDurable) :
    service.startRestored.2.IsDurable ∧
      service.startRestored.2.desk = some service.startRestored.1 := by
  cases hdesk : service.desk with
  | some desk =>
    have hstart : service.startRestored = (desk, service) := by
      rw [Service.startRestored, hdesk]
    rw [hstart]
    exact ⟨h, hdesk⟩
  | none =>
    have hstart : service.startRestored = (service.restarted, { service with
        desk := some service.restarted
        store := (service.store.loadSnapshot service.settings Stack.starter.name).2 }) := by
      rw [Service.startRestored, hdesk]
      dsimp only
      rw [Desk.restore_eq, restarted_eq]
      rfl
    have hstore := service.store.alike_loadSnapshot service.settings Stack.starter.name
    rw [hstart]
    refine ⟨⟨fun command ↦ hstore.accepts (h.accepts command), ?_, ?_⟩, rfl⟩
    · rintro _ ⟨⟩
      exact service.storable_restarted
    · rintro _ ⟨⟩ -
      exact congrArg Desk.snapshot (restarted_congr (h.accepts .get) rfl hstore)

end IsDurable

/-! ### Commits -/

theorem broadcast_snd (service : Service) (desk : Desk) (events : List Event) :
    (service.broadcast desk events).2.desk = service.desk ∧
      (service.broadcast desk events).2.store = service.store ∧
      (service.broadcast desk events).2.settings = service.settings := by
  unfold broadcast
  split <;> exact ⟨rfl, rfl, rfl⟩

/-- A commit saves the desk; the feed and the watchers have no part in the keys of the store. -/
theorem commit_spec (service : Service) (desk : Desk) (mark : Nat) :
    (service.commit desk mark).desk = some desk ∧
      (service.commit desk mark).settings = service.settings ∧
      (desk.save service.settings service.store).2.Alike (service.commit desk mark).store := by
  unfold commit
  dsimp only
  obtain ⟨hdesk, hstore, hsettings⟩ := broadcast_snd { service with
    desk := some desk
    store := (Feed.publish (desk.save service.settings service.store).2 desk.stack.name
      (desk.session.eventsSince mark)).2 } desk (desk.session.eventsSince mark)
  rw [hdesk, hstore, hsettings]
  exact ⟨rfl, rfl, Feed.alike_publish _ _ _⟩

/-- A service stays durable when it gets a new desk and saves it. -/
theorem IsDurable.save (h : service.IsDurable) (hdesk : desk.Storable) :
    { service with
      desk := some desk
      store := (desk.save service.settings service.store).2 }.IsDurable where
  accepts command number := by
    show (service.store.saveSnapshot service.settings desk.stack.name desk.snapshot).2.outage
      number command = false
    rw [Store.outage_saveSnapshot (h.accepts .set), h.accepts command number]
  storable := by
    rintro _ ⟨⟩
    exact hdesk
  restored := by
    rintro _ ⟨⟩ hfont
    -- A halved font cannot be written, but then nothing is to be shown.
    obtain ⟨saved, hsaved, hholds⟩ := Store.saveSnapshot_eq (h.accepts .set)
      (hdesk.isWritable hfont) service.settings desk.stack.name
    have hname : Stack.starter.name = desk.stack.name :=
      (congrArg Stack.name hdesk.reached.stack.skeleton).symm
    have hstore : (desk.save service.settings service.store).2 = saved := by
      rw [Desk.save, hsaved]
    rw [hstore]
    refine snapshot_restarted_of_value? (fun number ↦ ?_) hdesk hfont ?_
    · rw [hholds.outage, h.accepts .get number]
    · rw [hname]
      exact hholds.value?_self

theorem IsDurable.commit (h : service.IsDurable) (hdesk : desk.Storable) (mark : Nat) :
    (service.commit desk mark).IsDurable := by
  obtain ⟨hcommitted, hsettings, hstore⟩ := service.commit_spec desk mark
  exact (h.save hdesk).congr hcommitted hsettings hstore

/-! ### Actions -/

namespace IsDurable

theorem execute (h : service.IsDurable) (hdesk : service.desk = some desk) (line : String) :
    (service.execute desk line).2.IsDurable := by
  have hstore := Lock.alike_run (h.accepts .set) (h.accepts .delete) service.settings
    desk.stack.name none (desk.execute line)
  have hresult := Lock.run_fst service.store service.settings desk.stack.name none
    (desk.execute line)
  have hafter : (desk.execute line).2.Storable :=
    (h.storable desk hdesk).changes (desk.changes_execute line)
  have hquiet := desk.failsQuietly_execute line
  unfold Service.execute
  rcases hrun : Lock.run service.store service.settings desk.stack.name none
    (fun held ↦ (desk.execute line, held)) with ⟨outcome, store⟩
  rw [hrun] at hstore hresult
  rcases hexecute : desk.execute line with ⟨failure | answer, after⟩
  all_goals
    rw [hexecute] at hresult hafter hquiet
    rcases hresult with rfl | rfl
  -- If the lock is taken, the line is not executed; if it fails, the snapshot is as before.
  · exact h.withStore hstore
  · exact (h.withStore hstore).setDesk hdesk hafter (hquiet failure rfl)
  · exact h.withStore hstore
  · exact (h.withStore hstore).commit hafter desk.session.eventsLogged

theorem edit {α : Type} (h : service.IsDurable) {outcome : Except Refusal α × Desk}
    (hafter : outcome.2.Storable) : (service.edit desk outcome).2.IsDurable := by
  rcases outcome with ⟨refusal | result, after⟩
  · exact h
  · exact h.commit hafter desk.session.eventsLogged

theorem adjust (h : service.IsDurable) {outcome : Bool × Desk} (hafter : outcome.2.Storable)
    (refusal : Response) : (service.adjust desk outcome refusal).2.IsDurable := by
  rcases outcome with ⟨_ | _, after⟩
  · exact h
  · exact h.commit hafter desk.session.eventsLogged

theorem setProperty (h : service.IsDurable) (hdesk : desk.Storable) (name : String)
    {value : PropertyValue} (hvalue : value.IsShort) :
    (service.setProperty desk name value).2.IsDurable := by
  have hafter := hdesk.setProperty name hvalue
  unfold Service.setProperty
  rcases hset : desk.setProperty name value with ⟨failure | accepted, after⟩
  · exact h
  · rw [hset] at hafter
    exact h.adjust hafter _

theorem rename (h : service.IsDurable) (hdesk : desk.Storable) (name : String) :
    (service.rename desk name).2.IsDurable := by
  have hafter := hdesk.changes (desk.changes_renameCard name)
  have hnamed := hdesk.renameCard_eq_ok name
  unfold Service.rename
  rcases hrename : desk.renameCard name with ⟨failure | _, after⟩
  -- A name that is given without an event is not saved, but the ids of the cards are short.
  · rw [hrename] at hnamed
    cases hnamed
  · rw [hrename] at hafter
    exact h.commit hafter desk.session.eventsLogged

theorem editScript (h : service.IsDurable) (hdesk : desk.Storable) (buttonId : Int)
    (script : String) : (service.editScript desk buttonId script).2.IsDurable := by
  have hafter := hdesk.changes (desk.changes_editScript buttonId script)
  unfold Service.editScript
  rcases hedit : desk.editScript buttonId script with ⟨refusal | _, after⟩
  · exact h
  · rw [hedit] at hafter
    exact h.commit hafter desk.session.eventsLogged

theorem selectTool (h : service.IsDurable) (hdesk : service.desk = some desk) (name : String) :
    (service.selectTool desk name).2.IsDurable := by
  have hafter := (h.storable desk hdesk).changes (desk.changes_selectTool name)
  have hsame := desk.snapshot_selectTool name
  unfold Service.selectTool
  rcases hselect : desk.selectTool name with ⟨_ | _, after⟩
  · exact h
  · rw [hselect] at hafter hsame
    exact h.setDesk hdesk hafter hsame

theorem readEvents (h : service.IsDurable) (desk : Desk) (count : Int) :
    (service.readEvents desk count).2.IsDurable := by
  unfold Service.readEvents
  split_ifs with hcount
  · exact h
  · exact h.withStore (Feed.alike_latest service.store desk.stack.name count)

theorem withName (h : service.IsDurable) (name : WideText)
    {answer : String → Response × Service} (hanswer : ∀ text, (answer text).2.IsDurable) :
    (service.withName name answer).2.IsDurable := by
  cases name with
  | plain text => exact hanswer text
  | halved codes => exact h

/-- Assumes: a durable service, and an action that sets no property to a long number. -/
theorem act (h : service.IsDurable) (hdesk : service.desk = some desk) {action : Action}
    (hvalue : ∀ name value, action = .setProperty name value → value.IsShort) :
    (service.act desk action).2.IsDurable := by
  have hstorable := h.storable desk hdesk
  cases action with
  | showView => exact h
  | listCards => exact h
  | execute line => exact h.execute hdesk line
  | setUserLevel level => exact h.adjust (hstorable.setUserLevel level) _
  | setProperty name value =>
    exact h.withName name fun text ↦ h.setProperty hstorable text (hvalue name value rfl)
  | renameCard name => exact h.rename hstorable name
  | openField name =>
    exact h.withName name fun text ↦ h.edit (hstorable.changes (desk.changes_openField text))
  | editField text => exact h.edit (hstorable.changes (desk.changes_editFieldText text))
  | closeField => exact h.edit (hstorable.changes desk.changes_closeField)
  | editScript buttonId script => exact h.editScript hstorable buttonId script
  | selectTool name => exact h.withName name fun text ↦ h.selectTool hdesk text
  | previousLine =>
    exact h.setDesk hdesk (hstorable.changes desk.changes_historyPrevious)
      desk.snapshot_historyPrevious
  | nextLine =>
    exact h.setDesk hdesk (hstorable.changes desk.changes_historyNext) desk.snapshot_historyNext
  | readEvents count => exact h.readEvents desk count

/-! ### Requests -/

theorem release (h : service.IsDurable) : service.release.IsDurable :=
  h.withStore service.store.alike_close

theorem respond (h : service.IsDurable) (request : Request) :
    (service.respond request).2.IsDurable := by
  show (service.fulfil request.intent).2.IsDurable
  obtain ⟨hstarted, hdesk⟩ := h.startRestored
  cases hintent : request.intent with
  | answered response => exact h
  | rejected response => exact hstarted.release
  | order action =>
    refine (hstarted.act hdesk fun name value haction ↦ ?_).release
    rw [haction] at hintent
    exact isShort_of_intent hintent

theorem run (h : service.IsDurable) (requests : List Request) :
    (service.run requests).IsDurable := by
  induction requests generalizing service with
  | nil => exact h
  | cons request rest ih => exact ih (h.respond request)

end IsDurable

/-- Assumes: a service without a desk, whose store never fails, whatever it holds. After any
requests, the desk that a restart would make has the snapshot of the desk that is there exactly if
the font of that desk is a text, and it is fresh in everything that no snapshot keeps. -/
theorem restarted_run (hnone : service.desk = none)
    (haccepts : ∀ command, service.store.Accepts command) (requests : List Request)
    (hdesk : (service.run requests).desk = some desk) :
    ((service.run requests).restarted.snapshot = desk.snapshot ↔
        ∃ font, desk.stack.scriptTextFont = .plain font) ∧
      (service.run requests).restarted.IsFresh := by
  have hdurable := (isDurable_of_desk_eq_none hnone haccepts).run requests
  refine ⟨⟨fun hsame ↦ ?_, hdurable.restored desk hdesk⟩, isFresh_restarted _⟩
  obtain ⟨font, hfont⟩ := plain_restarted (service.run requests)
  have hfonts : (service.run requests).restarted.stack.scriptTextFont = desk.stack.scriptTextFont :=
    congrArg Snapshot.scriptTextFont hsame
  exact ⟨font, by rw [← hfonts, hfont]⟩

/-- Names the current card. -/
def namingCard : Request where
  method := "PUT"
  path := "/stack/card/name"
  body := some "\x7b\"name\":\"Start\"\x7d"

/-- Sets the font to half of a surrogate pair. -/
def halvingFont : Request where
  method := "POST"
  path := "/stack/property"
  body := some "\x7b\"name\":\"scriptTextFont\",\"value\":\"\\ud800\"\x7d"

/-- A service whose store holds a text that is no snapshot. -/
def withBrokenText : Service where
  store := { data := [("cardstack:snapshot:Home", "[")] }

theorem restarted_run_namingCard :
    withBrokenText.desk = none ∧ (∀ command, withBrokenText.store.Accepts command) ∧
      (withBrokenText.run [namingCard]).desk = some (Desk.starter.renameCard "Start").2 ∧
      (withBrokenText.run [namingCard]).restarted.snapshot =
        (Desk.starter.renameCard "Start").2.snapshot ∧
      (withBrokenText.run [namingCard]).restarted.IsFresh := by
  have haccepts : ∀ command, withBrokenText.store.Accepts command := fun _ _ ↦ rfl
  have hdesk : (withBrokenText.run [namingCard]).desk =
      some (Desk.starter.renameCard "Start").2 := by
    decide +kernel
  obtain ⟨hrestored, hfresh⟩ := restarted_run rfl haccepts [namingCard] hdesk
  exact ⟨rfl, haccepts, hdesk, hrestored.mpr ⟨"Monaco", rfl⟩, hfresh⟩

/-- While the font is halved, a new name of a card is not stored. -/
theorem not_restored_halvingFont :
    ({} : Service).desk = none ∧ (∀ command, ({} : Service).store.Accepts command) ∧
      (run {} [halvingFont, namingCard]).desk.map (·.stack.cards.map (·.name)) =
        some ["Start", "Notes", "Index"] ∧
      (run {} [halvingFont, namingCard]).restarted.stack.cards.map (·.name) =
        ["Welcome", "Notes", "Index"] := by
  refine ⟨rfl, fun _ _ ↦ rfl, ?_, ?_⟩
  · decide +kernel
  · decide +kernel

end Service

end Cardfile
