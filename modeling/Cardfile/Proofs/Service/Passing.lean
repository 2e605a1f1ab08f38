import Cardfile.Proofs.Desk.Failing
import Cardfile.Proofs.Service.Intent
import Cardfile.Proofs.Service.Outage
import Cardfile.Proofs.Store.Section
import Cardfile.Proofs.Store.Twins

/-!
# Requests that leave no trace

A request that is rejected as the client's fault, and a request that only reads, can be left out of
a run: nobody sees a difference in anything else (`Service.remaining_undisturbed`).

Such a request may still be the first one that needs the desk, so the shorter run may make its desk
later. A service trails another one (`Service.Trails`) if it differs from it in no more than that:
it may still have to make the desk that the other one has, and both stores hold the same. A request
that is passed over leads to a service that the one before trails (`Service.IsWorking.trails_take`),
since of its action nothing is left but calls to the store (`Service.Leaves`). Any other turn shows
the same on both and leads to services of which one trails the other again (`Service.Trails.take`):
if it needs the desk, both have the same one from there on.
-/

set_option autoImplicit false
set_option relaxedAutoImplicit false

namespace Cardfile

open Schema Service

namespace Service

/-! ### What is passed over -/

/-- A response that puts the blame on the client. -/
def Response.isRejection (response : Response) : Bool :=
  400 ≤ response.status && response.status < 500

/-- The routes that show something and change nothing. -/
def Route.isReading : Route → Bool
  | .health | .info | .view | .cards | .events => true
  | _ => false

def Request.isReading (request : Request) : Bool :=
  request.method == "GET" && (Route.ofPath? request.path).any (·.isReading)

/-- Whether a turn is a request that is rejected or only reads. -/
def passesOver (service : Service) : Turn → Bool
  | .request request => (service.respond request).1.isRejection || request.isReading
  | _ => false

/-- The turns that are not passed over, with what is seen of them. -/
def remaining : Service → List Turn → List (Turn × Observation)
  | _, [] => []
  | service, turn :: rest =>
    if service.passesOver turn then (service.take turn).remaining rest
    else (turn, service.observe turn) :: (service.take turn).remaining rest

/-- The run without the turns that are passed over in it. -/
def shortened (service : Service) (turns : List Turn) : List Turn :=
  (service.remaining turns).map (·.1)

/-- What clients and watchers see of a turn. -/
def Observation.outside (observation : Observation) :
    Option Response × List (WatcherId × Update) :=
  (observation.response, observation.sent)

variable {service behind twin other : Service} {desk : Desk}

/-! ### Twins -/

/-- Two services of which only the stores differ, and these are twins. -/
structure Twins (service twin : Service) : Prop where
  front : service.front = twin.front
  store : service.store.Twins twin.store

theorem store_commit (service : Service) (desk : Desk) (mark : Nat) :
    (service.commit desk mark).store =
      (Feed.publish (desk.save service.settings service.store).2 desk.stack.name
        (desk.session.eventsSince mark)).2 := by
  unfold commit
  dsimp only
  rw [(broadcast_snd ..).2.1]

namespace Twins

theorem settings (h : service.Twins twin) : twin.settings = service.settings :=
  (congrArg Service.settings h.front).symm

theorem commit (h : service.Twins twin) (after : Desk) (mark : Nat) :
    (service.commit after mark).store.Twins (twin.commit after mark).store := by
  have hsaved := (h.store.saveSnapshot service.settings after.stack.name after.snapshot).2
  rw [store_commit, store_commit, h.settings]
  exact (Store.Twins.publish _ _ hsaved).2

theorem execute (h : service.Twins twin) (desk : Desk) (line : String) :
    AnswersAs Store.Twins (service.execute desk line) (twin.execute desk line) := by
  obtain ⟨outcome, store, twinStore, hrun, htwin, hstore⟩ :=
    (h.store.lockRun service.settings desk.stack.name none (desk.execute line)).exists_eq
  have hunlocked : { service with store := store }.Twins { twin with store := twinStore } :=
    ⟨h.front, hstore⟩
  rw [← h.settings] at htwin
  unfold Service.execute
  rw [hrun, htwin]
  rcases outcome with _ | ⟨failure | answer, after⟩
  · exact answersAs_same hunlocked.front hunlocked.store _
  · exact answersAs_setDesk hunlocked.front hunlocked.store _ after
  · exact answersAs_committed hunlocked.front _ after _ (hunlocked.commit after _)

theorem readEvents (h : service.Twins twin) (desk : Desk) (count : Int) :
    AnswersAs Store.Twins (service.readEvents desk count) (twin.readEvents desk count) := by
  unfold Service.readEvents
  split_ifs
  · exact answersAs_same h.front h.store _
  · obtain ⟨entries, store, twinStore, hread, htwin, hstore⟩ :=
      (h.store.latest desk.stack.name count).exists_eq
    rw [hread, htwin]
    exact ⟨rfl, h.front, hstore⟩

theorem act (h : service.Twins twin) (desk : Desk) (action : Action) :
    AnswersAs Store.Twins (service.act desk action) (twin.act desk action) :=
  answersAs_act Store.Twins h.front h.store h.commit (fun line _ ↦ h.execute desk line)
    fun count _ ↦ h.readEvents desk count

end Twins

/-! ### Trailing -/

theorem startRestored_fst (service : Service) : service.startRestored.1 =
    service.desk.getD (Desk.starter.restore service.settings service.store).2.1 := by
  cases hdesk : service.desk with
  | some desk => rw [startRestored_of_some hdesk, Option.getD_some]
  | none => rw [startRestored_of_none hdesk, Option.getD_none]

/-- Starting changes nothing but the desk. -/
theorem exists_startRestored_snd (haccepts : ∀ command, service.store.Accepts command) :
    ∃ store, service.startRestored.2 =
        { service with desk := some service.startRestored.1, store := store } ∧
      service.store.Twins store := by
  cases hdesk : service.desk with
  | some desk =>
    rw [startRestored_of_some hdesk, ← hdesk]
    exact ⟨service.store, rfl, .refl haccepts⟩
  | none =>
    rw [startRestored_of_none hdesk]
    exact ⟨_, rfl, (Store.Twins.refl haccepts).of_loadSnapshot _ _⟩

/-- A service is where another one is, but its desk may still have to be made. -/
structure Trails (behind service : Service) : Prop where
  store : behind.store.Twins service.store
  settings : behind.settings = service.settings
  watchers : behind.watchers = service.watchers
  unreachable : behind.unreachable = service.unreachable
  sent : behind.sent = service.sent
  desk : ∀ desk, behind.desk = some desk → service.desk = some desk
  start : behind.startRestored.1 = service.startRestored.1

namespace Trails

theorem refl (haccepts : ∀ command, service.store.Accepts command) : service.Trails service :=
  ⟨.refl haccepts, rfl, rfl, rfl, rfl, fun _ ↦ id, rfl⟩

theorem trans (h : behind.Trails service) (hother : service.Trails other) :
    behind.Trails other where
  store := h.store.trans hother.store
  settings := h.settings.trans hother.settings
  watchers := h.watchers.trans hother.watchers
  unreachable := h.unreachable.trans hother.unreachable
  sent := h.sent.trans hother.sent
  desk desk hdesk := hother.desk desk (h.desk desk hdesk)
  start := h.start.trans hother.start

end Trails

theorem restore_eq_of_twins {store twin : Store} (h : store.Twins twin) (settings : Settings) :
    (Desk.starter.restore settings store).2.1 = (Desk.starter.restore settings twin).2.1 := by
  have hload := (h.loadSnapshot settings Desk.starter.stack.name).1
  rw [Desk.restore_eq, Desk.restore_eq, hload]

theorem Twins.trails (h : service.Twins twin) : service.Trails twin := by
  obtain ⟨hfront, hstore⟩ := h
  obtain ⟨desk, store, settings, watchers, unreachable, sent⟩ := service
  obtain ⟨twinDesk, twinStore, twinSettings, twinWatchers, twinUnreachable, twinSent⟩ := twin
  simp only [Service.front, Service.mk.injEq] at hfront
  obtain ⟨rfl, -, rfl, rfl, rfl, rfl⟩ := hfront
  refine ⟨hstore, rfl, rfl, rfl, rfl, fun _ ↦ id, ?_⟩
  rw [startRestored_fst, startRestored_fst]
  dsimp only
  rw [restore_eq_of_twins hstore]

/-- The service that trails and the one that it trails start into twins. -/
theorem Trails.startRestored (h : behind.Trails service) :
    behind.startRestored.2.Twins service.startRestored.2 := by
  obtain ⟨store, hstarted, hstore⟩ := exists_startRestored_snd h.store.accepts
  obtain ⟨other, hother, hotherStore⟩ := exists_startRestored_snd h.store.twin_accepts
  rw [hstarted, hother]
  refine ⟨?_, (hstore.symm.trans h.store).trans hotherStore⟩
  simp only [front, Service.mk.injEq]
  exact ⟨congrArg some h.start, trivial, h.settings, h.watchers, h.unreachable, h.sent⟩

theorem Twins.release (h : service.Twins twin) : service.release.Twins twin.release :=
  ⟨h.front, h.store.close⟩

/-! ### Turns that remain -/

/-- Two answers with one response, after which the one service trails the other. -/
structure Trails.Answers (answer shown : Response × Service) : Prop where
  response : answer.1 = shown.1
  trails : answer.2.Trails shown.2

namespace Trails

theorem fulfil (h : behind.Trails service) (intent : Intent) :
    Answers (behind.fulfil intent) (service.fulfil intent) := by
  have hstarted := h.startRestored
  cases intent with
  | answered response => exact ⟨rfl, h⟩
  | rejected response => exact ⟨rfl, hstarted.release.trails⟩
  | order action =>
    obtain ⟨hresponse, hfront, hstore⟩ := hstarted.act behind.startRestored.1 action
    have hafter : (behind.startRestored.2.act behind.startRestored.1 action).2.Twins
        (service.startRestored.2.act behind.startRestored.1 action).2 :=
      ⟨hfront, hstore⟩
    unfold Service.fulfil
    dsimp only
    rw [← h.start]
    exact ⟨hresponse, hafter.release.trails⟩

theorem respond (h : behind.Trails service) (request : Request) :
    Answers (behind.respond request) (service.respond request) := by
  obtain ⟨hresponse, hafter⟩ := h.fulfil request.intent
  refine ⟨?_, hafter⟩
  unfold Service.respond
  dsimp only
  rw [hresponse]

/-- Who watches makes no difference to the desk. -/
theorem withWatchers (h : behind.Trails service) {watchers others : Watchers}
    {unreachable unreached : List WatcherId} (hwatchers : watchers = others)
    (hunreachable : unreachable = unreached) :
    { behind with watchers := watchers, unreachable := unreachable }.Trails
      { service with watchers := others, unreachable := unreached } where
  store := h.store
  settings := h.settings
  watchers := hwatchers
  unreachable := hunreachable
  sent := h.sent
  desk := h.desk
  start := by
    have hstart := h.start
    rw [startRestored_fst, startRestored_fst] at hstart ⊢
    exact hstart

theorem take (h : behind.Trails service) (turn : Turn) :
    (behind.take turn).Trails (service.take turn) := by
  cases turn with
  | request request => exact (h.respond request).trails
  | join id =>
    have hstarted := h.startRestored.trails
    show (behind.startRestored.2.watch behind.startRestored.1.stack.name id).Trails
      (service.startRestored.2.watch service.startRestored.1.stack.name id)
    rw [h.start]
    exact hstarted.withWatchers
      (congrArg (·.connect service.startRestored.1.stack.name id) hstarted.watchers)
      (congrArg (·.filter (· != id)) hstarted.unreachable)
  | leave id =>
    show (behind.leave id).Trails (service.leave id)
    unfold leave
    rw [h.watchers]
    cases service.watchers.stackOf? id with
    | some stackName =>
      exact h.withWatchers (congrArg (·.disconnect stackName id) h.watchers) h.unreachable
    | none => exact h
  | lose id => exact h.withWatchers h.watchers (congrArg (id :: ·) h.unreachable)

theorem outside_observe (h : behind.Trails service) (turn : Turn) :
    (behind.observe turn).outside = (service.observe turn).outside := by
  have hsent := (h.take turn).sent
  have hresponse : behind.responseTo? turn = service.responseTo? turn := by
    cases turn with
    | request request => exact congrArg some (h.respond request).response
    | join | leave | lose => rfl
  unfold observe Observation.outside
  rw [hresponse, hsent, h.sent]

end Trails

/-! ### Turns that are passed over -/

section Rejections

theorem isRejection_viewResponse (desk : Desk) : (viewResponse desk).isRejection = false := by
  unfold viewResponse
  cases desk.view? <;> rfl

theorem isRejection_answerResponse (answer : String) (desk : Desk) :
    (answerResponse answer desk).isRejection = false := by
  unfold answerResponse
  cases desk.view? <;> rfl

theorem isRejection_recallResponse (desk : Desk) (line : Except Failure (Option String)) :
    (recallResponse desk line).isRejection = false := by
  cases line <;> rfl

/-- A renaming that fails may have named the card, but it is the service that takes the blame. -/
theorem isRejection_rename (desk : Desk) (name : String) :
    (service.rename desk name).1.isRejection = false := by
  unfold rename
  rcases desk.renameCard name with ⟨failure | _, after⟩
  · rfl
  · exact isRejection_viewResponse after

/-- Nothing is left of what led from a service to another one but calls to the store. -/
def Leaves (service after : Service) : Prop :=
  ∃ store, after = { service with store := store } ∧ service.store.Twins store

theorem leaves_self (haccepts : ∀ command, service.store.Accepts command) :
    service.Leaves service :=
  ⟨service.store, rfl, .refl haccepts⟩

theorem leaves_withName (name : WideText) {answer : String → Response × Service}
    (hanswer : ∀ text, (answer text).1.isRejection = true → service.Leaves (answer text).2)
    (h : (service.withName name answer).1.isRejection = true) :
    service.Leaves (service.withName name answer).2 := by
  cases name with
  | plain text => exact hanswer text h
  | halved codes => cases h

variable (haccepts : ∀ command, service.store.Accepts command)

include haccepts

theorem leaves_edit {α : Type} {outcome : Except Refusal α × Desk}
    (h : (service.edit desk outcome).1.isRejection = true) :
    service.Leaves (service.edit desk outcome).2 := by
  rcases outcome with ⟨refusal | result, after⟩
  · exact leaves_self haccepts
  · rw [edit, isRejection_viewResponse] at h
    cases h

theorem leaves_adjust {outcome : Bool × Desk} {refusal : Response}
    (h : (service.adjust desk outcome refusal).1.isRejection = true) :
    service.Leaves (service.adjust desk outcome refusal).2 := by
  rcases outcome with ⟨_ | _, after⟩
  · exact leaves_self haccepts
  · rw [adjust, isRejection_viewResponse] at h
    cases h

theorem leaves_setProperty {name : String} {value : PropertyValue}
    (h : (service.setProperty desk name value).1.isRejection = true) :
    service.Leaves (service.setProperty desk name value).2 := by
  revert h
  unfold setProperty
  rcases desk.setProperty name value with ⟨failure | accepted, after⟩
  · exact fun h ↦ nomatch h
  · exact leaves_adjust haccepts

theorem leaves_editScript {buttonId : Int} {script : String}
    (h : (service.editScript desk buttonId script).1.isRejection = true) :
    service.Leaves (service.editScript desk buttonId script).2 := by
  revert h
  unfold editScript
  rcases desk.editScript buttonId script with ⟨refusal | _, after⟩
  · exact fun _ ↦ leaves_self haccepts
  · dsimp only
    cases after.stack.findButton? buttonId <;> exact fun h ↦ nomatch h

theorem leaves_selectTool {name : String}
    (h : (service.selectTool desk name).1.isRejection = true) :
    service.Leaves (service.selectTool desk name).2 := by
  revert h
  unfold selectTool
  rcases desk.selectTool name with ⟨_ | _, after⟩
  · exact fun _ ↦ leaves_self haccepts
  · dsimp only
    rw [isRejection_viewResponse]
    exact fun h ↦ nomatch h

theorem leaves_readEvents (desk : Desk) (count : Int) :
    service.Leaves (service.readEvents desk count).2 := by
  unfold readEvents
  split_ifs
  · exact leaves_self haccepts
  · exact ⟨_, rfl, (Store.Twins.refl haccepts).of_latest _ _⟩

/-- A line that is executed does not fail, so its answer is no rejection. -/
theorem leaves_execute (hfits : desk.session.Fits desk.stack) {line : String}
    (hlength : line.length ≤ lineLimit)
    (h : (service.execute desk line).1.isRejection = true) :
    service.Leaves (service.execute desk line).2 := by
  have hworks := haccepts .set service.store.calls.length
  unfold execute at h ⊢
  by_cases hbound : (service.store.value? (Lock.key desk.stack.name)).isSome = true
  · rw [Lock.run_of_busy hworks hbound]
    exact ⟨_, rfl, (Store.Twins.refl haccepts).of_calls _⟩
  · obtain ⟨answer, hanswer⟩ :=
      Desk.exists_execute_eq_ok_of_length_le hfits (hlength.trans (by decide))
    have hexecute : desk.execute line = (.ok answer, (desk.execute line).2) := by rw [← hanswer]
    rw [Lock.run_of_taken hworks (Option.not_isSome_iff_eq_none.mp hbound), hexecute] at h
    dsimp only at h
    rw [isRejection_answerResponse] at h
    cases h

theorem leaves_act (hfits : desk.session.Fits desk.stack) {action : Action}
    (hlength : ∀ line, action = .execute line → line.length ≤ lineLimit)
    (h : (service.act desk action).1.isRejection = true) :
    service.Leaves (service.act desk action).2 := by
  cases action with
  | showView => exact leaves_self haccepts
  | listCards => exact leaves_self haccepts
  | execute line => exact leaves_execute haccepts hfits (hlength line rfl) h
  | setUserLevel level => exact leaves_adjust haccepts h
  | setProperty name value =>
    exact leaves_withName name (fun _ ↦ leaves_setProperty haccepts) h
  | renameCard name =>
    rw [act, isRejection_rename] at h
    cases h
  | openField name => exact leaves_withName name (fun _ ↦ leaves_edit haccepts) h
  | editField text => exact leaves_edit haccepts h
  | closeField => exact leaves_edit haccepts h
  | editScript buttonId script => exact leaves_editScript haccepts h
  | selectTool name => exact leaves_withName name (fun _ ↦ leaves_selectTool haccepts) h
  | previousLine =>
    rw [act, recallLine, isRejection_recallResponse] at h
    cases h
  | nextLine =>
    rw [act, recallLine, isRejection_recallResponse] at h
    cases h
  | readEvents count => exact leaves_readEvents haccepts desk count

theorem leaves_act_of_isReading {request : Request} {action : Action}
    (hreading : request.isReading = true) (haction : request.intent = .order action) (desk : Desk) :
    service.Leaves (service.act desk action).2 := by
  obtain ⟨hmethod, hroute⟩ := Bool.and_eq_true_iff.mp hreading
  obtain ⟨route, hpath, hshows⟩ := (Option.any_eq_true _ _).mp hroute
  have hget : request.method = "GET" := by simpa using hmethod
  cases route with
  | health | info =>
    rw [intent_of_route hpath hget] at haction
    cases haction
  | view | cards =>
    rw [intent_of_route hpath hget] at haction
    cases haction
    exact leaves_self haccepts
  | events =>
    rw [intent_of_route hpath hget] at haction
    obtain ⟨count, -, rfl⟩ := Checked.map_eq_valid_iff.mp (ofChecked_eq_order_iff.mp haction)
    exact leaves_readEvents haccepts desk count
  | _ => cases hshows

end Rejections

/-- A service whose store works, and whose desk fits its stack. -/
structure IsWorking (service : Service) : Prop where
  accepts : ∀ command, service.store.Accepts command
  fits : ∀ desk, service.desk = some desk → desk.session.Fits desk.stack

theorem isWorking_of_some (haccepts : ∀ command, service.store.Accepts command)
    (hdesk : service.desk = some desk) (hfits : desk.session.Fits desk.stack) :
    service.IsWorking := by
  refine ⟨haccepts, fun found hfound ↦ ?_⟩
  rw [hdesk] at hfound
  cases hfound
  exact hfits

namespace IsWorking

theorem fits_startRestored (h : service.IsWorking) :
    service.startRestored.1.session.Fits service.startRestored.1.stack := by
  cases hdesk : service.desk with
  | some desk =>
    rw [startRestored_of_some hdesk]
    exact h.fits desk hdesk
  | none =>
    rw [startRestored_of_none hdesk]
    exact ((Desk.reached_open? Desk.open?_starter).step
      (Desk.starter.step_restore service.settings service.store)).session

theorem startRestored (h : service.IsWorking) :
    service.startRestored.2.IsWorking ∧
      service.startRestored.2.desk = some service.startRestored.1 := by
  obtain ⟨store, hstarted, hstore⟩ := exists_startRestored_snd h.accepts
  have hfits := h.fits_startRestored
  rw [hstarted]
  exact ⟨isWorking_of_some hstore.twin_accepts rfl hfits, rfl⟩

theorem release (h : service.IsWorking) : service.release.IsWorking :=
  ⟨((Store.Twins.refl h.accepts).of_close).twin_accepts, h.fits⟩

theorem act (h : service.IsWorking) (hdesk : service.desk = some desk) (action : Action) :
    (service.act desk action).2.IsWorking := by
  have hsame := Store.Twins.refl h.accepts
  have hlock (outcome : Desk.Outcome) :=
    (hsame.lockRun service.settings desk.stack.name none outcome).2.accepts
  have hlatest (count : Int) := (hsame.of_latest desk.stack.name count).twin_accepts
  have hfits := h.fits desk hdesk
  have hacted : service.Acted desk action (fun store ↦ ∀ command, store.Accepts command)
      (service.act desk action).2 :=
    acted_act h.accepts hlock hlatest action
  generalize (service.act desk action).2 = after at hacted ⊢
  cases hacted with
  | kept store hstore => exact ⟨hstore, h.fits⟩
  | unlogged store hstore operation hquiet =>
    exact isWorking_of_some hstore rfl (Desk.fits_operate hfits operation)
  | failed store hstore line =>
    exact isWorking_of_some hstore rfl (Desk.fits_operate hfits (.execute line))
  | committed store hstore operation =>
    have hunlocked : { service with store := store }.Twins { service with store := store } :=
      ⟨rfl, .refl hstore⟩
    exact isWorking_of_some (hunlocked.commit (desk.operate operation) _).accepts
      (commit_spec ..).1 (Desk.fits_operate hfits operation)

theorem fulfil (h : service.IsWorking) (intent : Intent) :
    (service.fulfil intent).2.IsWorking := by
  obtain ⟨hstarted, hdesk⟩ := h.startRestored
  cases intent with
  | answered response => exact h
  | rejected response => exact hstarted.release
  | order action => exact (hstarted.act hdesk action).release

theorem take (h : service.IsWorking) (turn : Turn) : (service.take turn).IsWorking := by
  cases turn with
  | request request => exact h.fulfil request.intent
  | join id => exact ⟨h.startRestored.1.accepts, h.startRestored.1.fits⟩
  | leave id =>
    show (service.leave id).IsWorking
    unfold leave
    split <;> exact ⟨h.accepts, h.fits⟩
  | lose id => exact ⟨h.accepts, h.fits⟩

/-- An answer that leaves nothing leads to a service that the one before trails. -/
theorem trails_of_leaves (h : service.IsWorking) {after : Service}
    (hleaves : service.startRestored.2.Leaves after) : service.Trails after.release := by
  obtain ⟨store, hstarted, hstore⟩ := exists_startRestored_snd h.accepts
  obtain ⟨left, rfl, hleft⟩ := hleaves
  rw [hstarted] at hleft ⊢
  have hreleased := (hstore.trans hleft).of_close
  refine ⟨hreleased, rfl, rfl, rfl, rfl, fun desk hdesk ↦ ?_, rfl⟩
  show some service.startRestored.1 = some desk
  rw [startRestored_of_some hdesk]

theorem trails_take (h : service.IsWorking) {turn : Turn}
    (hpasses : service.passesOver turn = true) : service.Trails (service.take turn) := by
  cases turn with
  | join | leave | lose => cases hpasses
  | request request =>
    obtain ⟨hstarted, hdesk⟩ := h.startRestored
    show service.Trails (service.fulfil request.intent).2
    have hpasses : (service.respond request).1.isRejection = true ∨ request.isReading = true :=
      Bool.or_eq_true_iff.mp hpasses
    have hhead : (service.respond request).1.isRejection =
        (service.fulfil request.intent).1.isRejection := by
      unfold respond
      dsimp only
      split_ifs <;> rfl
    rw [hhead] at hpasses
    cases hintent : request.intent with
    | answered response => exact .refl h.accepts
    | rejected response => exact h.trails_of_leaves (leaves_self hstarted.accepts)
    | order action =>
      rw [hintent] at hpasses
      refine h.trails_of_leaves ?_
      rcases hpasses with hrejected | hreading
      · refine leaves_act hstarted.accepts h.fits_startRestored (fun line hline ↦ ?_) hrejected
        exact length_le_of_intent (hline ▸ hintent)
      · exact leaves_act_of_isReading hstarted.accepts hreading hintent _

end IsWorking

/-! ### Whole runs -/

/-- The end of a run, and that of a shorter run. If the shorter one has a desk, it is the same. -/
structure EndsAs (short full : Service) : Prop where
  sent : short.sent = full.sent
  data : short.store.data = full.store.data
  streams : short.store.streams = full.store.streams
  desk : ∀ desk, short.desk = some desk → full.desk = some desk

theorem Trails.endsAs (h : behind.Trails service) : behind.EndsAs service :=
  ⟨h.sent, h.store.data.symm, h.store.streams.symm, h.desk⟩

theorem Trails.undisturbed (turns : List Turn) (hworking : service.IsWorking)
    (h : behind.Trails service) :
    (behind.observations (service.shortened turns)).map (·.outside) =
        (service.remaining turns).map (·.2.outside) ∧
      (behind.live (service.shortened turns)).Trails (service.live turns) := by
  induction turns generalizing behind service with
  | nil => exact ⟨rfl, h⟩
  | cons turn rest ih =>
    have hafter := hworking.take turn
    unfold shortened remaining
    cases hpasses : service.passesOver turn with
    | true => exact ih hafter (h.trans (hworking.trails_take hpasses))
    | false =>
      -- Both runs take the turn.
      obtain ⟨hseen, hend⟩ := ih hafter (h.take turn)
      exact ⟨congrArg₂ List.cons (h.outside_observe turn) hseen, hend⟩

/-- Assumes: a service whose store works, and whose desk, if it has one, fits its stack. Whatever
turns it takes, if the requests that are rejected or only read are left out, the same is seen of
every other turn, and the run ends with the same updates sent, the same keys and streams in the
store, and the same desk if there is one. -/
theorem remaining_undisturbed (haccepts : ∀ command, service.store.Accepts command)
    (hfits : ∀ desk, service.desk = some desk → desk.session.Fits desk.stack)
    (turns : List Turn) :
    (service.observations (service.shortened turns)).map (·.outside) =
        (service.remaining turns).map (·.2.outside) ∧
      (service.live (service.shortened turns)).EndsAs (service.live turns) := by
  obtain ⟨hseen, hend⟩ := Trails.undisturbed turns ⟨haccepts, hfits⟩ (.refl haccepts)
  exact ⟨hseen, hend.endsAs⟩

/-- A card is shown before there is a desk, a tool is unknown, a level out of range and a path not
served; the other three turns remain. -/
def idleTurns : List Turn :=
  [.request ⟨"GET", "/stack", [], none⟩, .join "first",
    .request ⟨"POST", "/stack/tool", [], some "\x7b\"tool\":\"hammer\"\x7d"⟩, .request goingOn,
    .request ⟨"POST", "/stack/user_level", [], some "\x7b\"level\":9\x7d"⟩,
    .request ⟨"DELETE", "/stack", [], none⟩, .request ⟨"GET", "/stack/history/previous", [], none⟩,
    .request ⟨"GET", "/stack/events", [], none⟩]

theorem remaining_undisturbed_idleTurns :
    (∀ command, Store.Accepts {} command) ∧ (({} : Service).shortened idleTurns).length = 3 ∧
      (({} : Service).observations (({} : Service).shortened idleTurns)).map (·.outside) =
        (({} : Service).remaining idleTurns).map (·.2.outside) ∧
      (({} : Service).live (({} : Service).shortened idleTurns)).EndsAs
        (({} : Service).live idleTurns) := by
  have haccepts : ∀ command, Store.Accepts {} command := fun _ _ ↦ rfl
  have hfits : ∀ desk, ({} : Service).desk = some desk → desk.session.Fits desk.stack :=
    fun desk hdesk ↦ nomatch hdesk
  exact ⟨haccepts, by decide +kernel, remaining_undisturbed haccepts hfits idleTurns⟩

end Service

end Cardfile
