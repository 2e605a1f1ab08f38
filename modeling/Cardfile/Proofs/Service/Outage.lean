import Cardfile.Proofs.Service.Front
import Cardfile.Proofs.Service.Restart
import Cardfile.Proofs.Store.Outage

/-!
# Services whose store fails

What clients and watchers see of a service does not depend on whether its store works
(`Service.observations_unfailing`), apart from the events that are read back from the store.

The front of a service (`Service.front`) is the service with an empty store that never fails. Two
services with stores that fail in different ways are not compared with each other but with their
common front: a service that nothing hinders answers as its front does and goes on to a service with
the front that its own front goes on to (`Service.ShowsAs`, `Service.Unhindered.observe_front`).

What could hinder a service is a lock that is never freed, and a snapshot that is found where none
was saved. `Service.Unhindered` excludes both, and every turn keeps it
(`Service.Unhindered.take`): a lock section runs its body whether it took the lock or the store
failed, and as deleting works it frees whatever it took (`Lock.run_of_unlocked`); a snapshot is
loaded only before there is a desk, when nothing can have been saved.
-/

set_option autoImplicit false
set_option relaxedAutoImplicit false

namespace Cardfile

/-! ### Observations -/

/-- Whether an intent is to read events back from the store. -/
def Service.Intent.readsEvents : Service.Intent → Bool
  | .order (.readEvents _) => true
  | _ => false

def Turn.readsEvents : Turn → Bool
  | .request asked => asked.intent.readsEvents
  | _ => false

namespace Service

/-- What is seen of a turn: the response if it was a request, the updates that were sent, and the
desk afterwards. -/
structure Observation where
  response : Option Response
  sent : List (WatcherId × Update)
  desk : Option Desk

def responseTo? (service : Service) : Turn → Option Response
  | .request request => some (service.respond request).1
  | _ => none

def observe (service : Service) (turn : Turn) : Observation where
  response := service.responseTo? turn
  sent := (service.take turn).sent.drop service.sent.length
  desk := (service.take turn).desk

def observations : Service → List Turn → List Observation
  | _, [] => []
  | service, turn :: rest => service.observe turn :: (service.take turn).observations rest

/-- The same service with a store that never fails. -/
def unfailing (service : Service) : Service :=
  { service with
    store := { service.store with outage := fun _ _ ↦ false, closingFails := fun _ ↦ false } }

/-! ### Fronts -/

variable {service other : Service} {desk : Desk}

/-- Two answers of which a client sees the same. -/
def ShowsAs (answer shown : Response × Service) : Prop :=
  answer.1 = shown.1 ∧ answer.2.front = shown.2.front

/-- Whether the lock was taken or could not be asked for, the line is executed. -/
theorem execute_of_unlocked (h : service.store.Unlocked (Lock.key desk.stack.name))
    (line : String) :
    ∃ store, service.execute desk line =
      match desk.execute line with
      | (.error failure, after) =>
        (failureResponse failure, { service with desk := some after, store := store })
      | (.ok answer, after) =>
        (answerResponse answer after,
          { service with store := store }.commit after desk.session.eventsLogged) := by
  obtain ⟨store, hrun, -⟩ := Lock.run_of_unlocked h service.settings none (desk.execute line)
  refine ⟨store, ?_⟩
  unfold execute
  rw [hrun]
  rcases desk.execute line with ⟨failure | answer, after⟩ <;> rfl

theorem unlocked_front (service : Service) (key : String) : service.front.store.Unlocked key :=
  ⟨fun _ ↦ rfl, rfl⟩

theorem showsAs_execute (h : service.store.Unlocked (Lock.key desk.stack.name)) (line : String) :
    ShowsAs (service.execute desk line) (service.front.execute desk line) := by
  obtain ⟨store, hexecute⟩ := execute_of_unlocked h line
  obtain ⟨shown, hshown⟩ :=
    execute_of_unlocked (service.unlocked_front (Lock.key desk.stack.name)) line
  rw [hexecute, hshown]
  rcases desk.execute line with ⟨failure | answer, after⟩
  · exact ⟨rfl, rfl⟩
  · refine ⟨rfl, ?_⟩
    dsimp only
    rw [front_commit, front_commit { service.front with store := shown }]
    rfl

/-- Every action but reading events shows the front alone, whatever the stores are. -/
theorem showsAs_act (h : service.store.Unlocked (Lock.key desk.stack.name)) {action : Action}
    (haction : ∀ count, action ≠ .readEvents count) :
    ShowsAs (service.act desk action) (service.front.act desk action) := by
  have hsame : service.front = service.front.front := rfl
  have hanswers : AnswersAs (fun _ _ ↦ True) (service.act desk action)
      (service.front.act desk action) := by
    refine answersAs_act (fun _ _ ↦ True) hsame trivial (fun _ _ ↦ trivial) (fun line _ ↦ ?_)
      fun count hread ↦ ?_
    · obtain ⟨hresponse, hfront⟩ := showsAs_execute h line
      exact ⟨hresponse, hfront, trivial⟩
    · exact absurd hread (haction count)
  exact ⟨hanswers.response, hanswers.front⟩

/-! ### Unhindered services -/

/-- A service whose lock is free, on whose store deleting works, and that has saved nothing if its
desk is still to be made. -/
structure Unhindered (service : Service) : Prop where
  keys : service.settings.snapshotKey Stack.starter.name ≠ Lock.key Stack.starter.name
  unlocked : service.store.Unlocked (Lock.key Stack.starter.name)
  unsaved : service.desk = none →
    service.store.value? (service.settings.snapshotKey Stack.starter.name) = none
  named : ∀ desk, service.desk = some desk → desk.stack.name = Stack.starter.name

namespace Unhindered

theorem of_some (h : service.Unhindered) (hsettings : other.settings = service.settings)
    (hunlocked : other.store.Unlocked (Lock.key Stack.starter.name))
    (hdesk : other.desk = some desk) (hname : desk.stack.name = Stack.starter.name) :
    other.Unhindered where
  keys := hsettings ▸ h.keys
  unlocked := hunlocked
  unsaved hnone := by
    rw [hdesk] at hnone
    cases hnone
  named found hfound := by
    rw [hdesk] at hfound
    cases hfound
    exact hname

theorem front (h : service.Unhindered) : service.front.Unhindered where
  keys := h.keys
  unlocked := service.unlocked_front _
  unsaved _ := rfl
  named := h.named

/-- The desk that is made is the starter one, since nothing can have been saved of it. -/
theorem startRestored_of_none (h : service.Unhindered) (hnone : service.desk = none) :
    service.startRestored = (Desk.starter, { service with
      desk := some Desk.starter
      store := (service.store.loadSnapshot service.settings Stack.starter.name).2 }) := by
  have hload : (service.store.loadSnapshot service.settings Desk.starter.stack.name).1 = none :=
    Store.loadSnapshot_of_free (h.unsaved hnone)
  rw [Service.startRestored_of_none hnone, Desk.restore_eq, hload]
  rfl

theorem startRestored (h : service.Unhindered) :
    service.startRestored.2.Unhindered ∧
      service.startRestored.2.desk = some service.startRestored.1 := by
  cases hdesk : service.desk with
  | some desk =>
    rw [startRestored_of_some hdesk]
    exact ⟨h, hdesk⟩
  | none =>
    have hload := service.store.alike_loadSnapshot service.settings Stack.starter.name
    rw [h.startRestored_of_none hdesk]
    exact ⟨h.of_some rfl (h.unlocked.alike hload) rfl rfl, rfl⟩

theorem front_startRestored (h : service.Unhindered) :
    service.startRestored.1 = service.front.startRestored.1 ∧
      service.startRestored.2.front = service.front.startRestored.2.front := by
  cases hdesk : service.desk with
  | some desk =>
    have hfront : service.front.desk = some desk := hdesk
    rw [startRestored_of_some hdesk, startRestored_of_some hfront]
    exact ⟨rfl, rfl⟩
  | none =>
    have hfront : service.front.desk = none := hdesk
    rw [h.startRestored_of_none hdesk, h.front.startRestored_of_none hfront]
    exact ⟨rfl, rfl⟩

theorem release (h : service.Unhindered) : service.release.Unhindered where
  keys := h.keys
  unlocked := h.unlocked.alike service.store.alike_close
  unsaved hnone := (service.store.alike_close.value? _).trans (h.unsaved hnone)
  named := h.named

theorem act (h : service.Unhindered) (hdesk : service.desk = some desk) (action : Action) :
    (service.act desk action).2.Unhindered := by
  have hname := h.named desk hdesk
  have hafter (operation : Operation) :
      (desk.operate operation).stack.name = Stack.starter.name :=
    (congrArg Stack.name (desk.skeleton_operate operation)).trans hname
  have hlock (outcome : Desk.Outcome) : (Lock.run service.store service.settings desk.stack.name
      none fun held ↦ (outcome, held)).2.Unlocked (Lock.key Stack.starter.name) := by
    rw [hname]
    obtain ⟨store, hrun, halike⟩ := Lock.run_of_unlocked h.unlocked service.settings none outcome
    rw [hrun]
    exact h.unlocked.alike halike
  have hlatest (count : Int) := h.unlocked.alike
    (Feed.alike_latest service.store desk.stack.name count)
  have hacted : service.Acted desk action (fun store ↦ store.Unlocked (Lock.key Stack.starter.name))
      (service.act desk action).2 :=
    acted_act h.unlocked hlock hlatest action
  generalize (service.act desk action).2 = after at hacted ⊢
  cases hacted with
  | kept store hstore => exact h.of_some rfl hstore hdesk hname
  | unlogged store hstore operation hquiet => exact h.of_some rfl hstore rfl (hafter operation)
  | failed store hstore line => exact h.of_some rfl hstore rfl (hafter (.execute line))
  | committed store hstore operation =>
    obtain ⟨hcommitted, hsettings, hsaved⟩ := commit_spec { service with store := store }
      (desk.operate operation) desk.session.eventsLogged
    have hkey : service.settings.snapshotKey (desk.operate operation).stack.name ≠
        Lock.key Stack.starter.name :=
      hafter operation ▸ h.keys
    exact h.of_some hsettings ((hstore.saveSnapshot hkey _).alike hsaved) hcommitted
      (hafter operation)

theorem fulfil (h : service.Unhindered) (intent : Intent) :
    (service.fulfil intent).2.Unhindered := by
  obtain ⟨hstarted, hdesk⟩ := h.startRestored
  cases intent with
  | answered response => exact h
  | rejected response => exact hstarted.release
  | order action => exact (hstarted.act hdesk action).release

theorem take (h : service.Unhindered) (turn : Turn) : (service.take turn).Unhindered := by
  cases turn with
  | request request => exact h.fulfil request.intent
  | join id =>
    obtain ⟨hstarted, hdesk⟩ := h.startRestored
    exact hstarted.of_some rfl hstarted.unlocked hdesk (hstarted.named _ hdesk)
  | leave id =>
    show (service.leave id).Unhindered
    unfold leave
    split
    · exact ⟨h.keys, h.unlocked, h.unsaved, h.named⟩
    · exact h
  | lose id => exact ⟨h.keys, h.unlocked, h.unsaved, h.named⟩

/-! ### What is seen -/

theorem showsAs_fulfil (h : service.Unhindered) {intent : Intent}
    (hreads : intent.readsEvents = false) :
    ShowsAs (service.fulfil intent) (service.front.fulfil intent) := by
  obtain ⟨hsame, hfront⟩ := h.front_startRestored
  cases intent with
  | answered response => exact ⟨rfl, rfl⟩
  | rejected response => exact ⟨rfl, hfront⟩
  | order action =>
    have haction (count : Int) : action ≠ .readEvents count := by
      rintro rfl
      cases hreads
    have hunlocked {other : Service} (hother : other.Unhindered) :
        other.startRestored.2.store.Unlocked (Lock.key other.startRestored.1.stack.name) := by
      obtain ⟨hstarted, hdesk⟩ := hother.startRestored
      rw [hstarted.named _ hdesk]
      exact hstarted.unlocked
    -- Both answers show as that of the common front.
    obtain ⟨hresponse, hafter⟩ := showsAs_act (hunlocked h) haction
    obtain ⟨hshown, hshownAfter⟩ := showsAs_act (hunlocked h.front) haction
    rw [hfront] at hresponse hafter
    rw [hsame] at hresponse hafter
    unfold Service.fulfil
    dsimp only
    rw [hsame]
    exact ⟨hresponse.trans hshown.symm, hafter.trans hshownAfter.symm⟩

theorem showsAs_respond (h : service.Unhindered) {request : Request}
    (hreads : request.intent.readsEvents = false) :
    ShowsAs (service.respond request) (service.front.respond request) := by
  obtain ⟨hresponse, hafter⟩ := h.showsAs_fulfil hreads
  refine ⟨?_, hafter⟩
  unfold Service.respond
  dsimp only
  rw [hresponse]

theorem front_take (h : service.Unhindered) {turn : Turn} (hreads : turn.readsEvents = false) :
    (service.take turn).front = (service.front.take turn).front := by
  cases turn with
  | request request => exact (h.showsAs_respond hreads).2
  | join id =>
    obtain ⟨hdesk, hfront⟩ := h.front_startRestored
    show (service.startRestored.2.watch service.startRestored.1.stack.name id).front =
      (service.front.startRestored.2.watch service.front.startRestored.1.stack.name id).front
    rw [← hdesk]
    exact congrArg (fun front : Service ↦ front.watch service.startRestored.1.stack.name id) hfront
  | leave id =>
    have hwatchers : service.front.watchers = service.watchers := rfl
    show (service.leave id).front = (service.front.leave id).front
    unfold leave
    rw [hwatchers]
    cases service.watchers.stackOf? id <;> rfl
  | lose id => rfl

theorem observe_front (h : service.Unhindered) {turn : Turn} (hreads : turn.readsEvents = false) :
    service.observe turn = service.front.observe turn := by
  have hfront := h.front_take hreads
  have hresponse : service.responseTo? turn = service.front.responseTo? turn := by
    cases turn with
    | request request =>
      exact congrArg some (h.showsAs_respond hreads).1
    | join | leave | lose => rfl
  have hsent : (service.take turn).front.sent = (service.front.take turn).front.sent := by
    rw [hfront]
  have hdesk : (service.take turn).front.desk = (service.front.take turn).front.desk := by
    rw [hfront]
  unfold observe
  rw [hresponse]
  exact congrArg₂ (fun sent desk ↦ Observation.mk _ (sent.drop service.sent.length) desk)
    hsent hdesk

theorem observations_front (h : service.Unhindered) {turns : List Turn}
    (hreads : ∀ turn ∈ turns, turn.readsEvents = false) :
    service.observations turns = service.front.observations turns := by
  induction turns generalizing service with
  | nil => rfl
  | cons turn rest ih =>
    have hturn := hreads turn List.mem_cons_self
    have hrest : ∀ later ∈ rest, later.readsEvents = false := fun later hlater ↦
      hreads later (List.mem_cons_of_mem turn hlater)
    rw [observations, observations, h.observe_front hturn, ih (h.take turn) hrest,
      ih (h.front.take turn) hrest, h.front_take hturn]

end Unhindered

theorem unhindered_of_empty (hdesk : service.desk = none) (hempty : service.store.data = [])
    (hdelete : service.store.Accepts .delete)
    (hkeys : service.settings.snapshotKey Stack.starter.name ≠ Lock.key Stack.starter.name) :
    service.Unhindered := by
  have hfree (key : String) : service.store.value? key = none := by
    rw [Store.value?, hempty]
    rfl
  refine ⟨hkeys, ⟨hdelete, hfree _⟩, fun _ ↦ hfree _, fun desk hsome ↦ ?_⟩
  rw [hdesk] at hsome
  cases hsome

/-- Assumes: a service without a desk, with an empty store that may fail in any pattern as long as
deleting works, and with separate keys for snapshots and locks; and any turns that read no events
back. All that is seen of them is as if the store never failed. -/
theorem observations_unfailing (hdesk : service.desk = none) (hempty : service.store.data = [])
    (hdelete : service.store.Accepts .delete)
    (hkeys : service.settings.snapshotKey Stack.starter.name ≠ Lock.key Stack.starter.name)
    {turns : List Turn} (hreads : ∀ turn ∈ turns, turn.readsEvents = false) :
    service.observations turns = service.unfailing.observations turns := by
  have hservice := unhindered_of_empty hdesk hempty hdelete hkeys
  have hunfailing : service.unfailing.Unhindered :=
    unhindered_of_empty hdesk hempty (fun _ ↦ rfl) hkeys
  rw [hservice.observations_front hreads, hunfailing.observations_front hreads]
  rfl

/-- A service whose store fails every other time, but not to delete. -/
def faltering : Service where
  store := {
    outage := fun number command ↦ number % 2 == 0 && command != .delete
    closingFails := fun number ↦ number % 2 == 0 }

theorem observations_unfailing_faltering :
    faltering.desk = none ∧ faltering.store.data = [] ∧ faltering.store.Accepts .delete ∧
      faltering.settings.snapshotKey Stack.starter.name ≠ Lock.key Stack.starter.name ∧
      (∀ turn ∈ turnSamples, turn.readsEvents = false) ∧
      faltering.observations turnSamples = faltering.unfailing.observations turnSamples := by
  have hdelete : faltering.store.Accepts .delete := fun number ↦ Bool.and_false _
  have hkeys : faltering.settings.snapshotKey Stack.starter.name ≠
      Lock.key Stack.starter.name := by
    decide
  have hreads : ∀ turn ∈ turnSamples, turn.readsEvents = false := by decide +kernel
  exact ⟨rfl, rfl, hdelete, hkeys, hreads,
    observations_unfailing rfl rfl hdelete hkeys hreads⟩

end Service

end Cardfile
