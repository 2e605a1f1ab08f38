import Cardfile.Proofs.Desk.Failing
import Cardfile.Proofs.Service.Intent
import Cardfile.Proofs.Service.Turn
import Cardfile.Proofs.Service.Watching

/-!
# Log, feed and watchers

Every event that the desk logs reaches the feed and the watchers, once and in order
(`Service.relayed_live`), although the log itself keeps only the latest ones.

Three accounts are followed: the log (`Service.session`), the stream of the stack (`Service.feed`)
and the messages to those who watch it and can be reached (`Service.audience`). Between two states
of a service `Service.Relays` says that all three went on by the same events. A commit takes the
events of an operation off the log by their number. They are few enough to be there still, so it
takes all of them and nothing else (`Service.exists_serves_commit`). An action that logs and does
not commit would lose events; only a line that fails does so, and no line that fits into a body
fails (`Service.exists_serves_act`). So every turn relays what it logs
(`Service.exists_relays_take`), and every run does by induction on its turns
(`Service.exists_lived`), with `Service.IsServing` as the invariant.

The history of a run is no free choice: there is no other list of events that its turns log one
after another (`Service.Logged.unique`).
-/

set_option autoImplicit false
set_option relaxedAutoImplicit false

namespace Cardfile

namespace Service

/-! ### What is followed -/

/-- The session of the desk, a new one if there is no desk yet. -/
def session (service : Service) : Session :=
  (service.desk.map (·.session)).getD {}

/-- The entries of the stream of the starter stack. -/
def feed (service : Service) : List StreamEntry :=
  service.store.stream (Feed.key Stack.starter.name)

/-- The watchers of the starter stack that can be reached. -/
def audience (service : Service) : List WatcherId :=
  service.reachable Stack.starter.name

/-- A service whose store works, whose desk comes from the starter one, and whose watchers are
listed once. -/
structure IsServing (service : Service) : Prop where
  accepts : ∀ command, service.store.Accepts command
  reached : ∀ desk, service.desk = some desk → desk.Reached Stack.starter
  nodup : (service.watchers.of Stack.starter.name).Nodup

/-- The update reports some events, and the desk as it stands. -/
def Reports (service : Service) (events : List Event) (update : Update) : Prop :=
  ∃ desk, service.desk = some desk ∧ desk.update? events = some update

/-- Between two states of a service the events were logged, appended to the feed, and received by
everyone in the audience. -/
structure Relays (before after : Service) (events : List Event) : Prop where
  logs : before.session.Logs events after.session
  appended : ∃ entries, after.feed = before.feed ++ entries ∧ entries.map (·.event) = events
  sent : ∃ messages, after.sent = before.sent ++ messages ∧
    (∀ message ∈ messages, after.Reports events message.2) ∧
    ∀ id ∈ before.audience, (receivedBy id messages).flatMap (·.events) = events

/-- As `Relays`, with an audience that stays. No turn relays more events than the log can hold. -/
structure Serves (before after : Service) (events : List Event) : Prop
    extends Relays before after events where
  few : events.length ≤ 5
  serving : after.IsServing
  audience_eq : after.audience = before.audience

variable {service before middle after : Service} {desk : Desk} {events : List Event}

theorem session_of_some (h : service.desk = some desk) : service.session = desk.session := by
  rw [session, h]
  rfl

/-- Nothing was logged, appended or sent, and the audience has stayed. -/
structure Settled (before after : Service) : Prop where
  log : after.session.messageLog = before.session.messageLog
  count : after.session.eventsLogged = before.session.eventsLogged
  feed : after.feed = before.feed
  sent : after.sent = before.sent
  audience_eq : after.audience = before.audience
  serving : after.IsServing

theorem relays_nil (hlog : after.session.messageLog = before.session.messageLog)
    (hcount : after.session.eventsLogged = before.session.eventsLogged)
    (hfeed : after.feed = before.feed) (hsent : after.sent = before.sent) :
    before.Relays after [] where
  logs := Session.Logs.refl.quiet hlog hcount
  appended := ⟨[], by rw [hfeed, List.append_nil], rfl⟩
  sent := ⟨[], by rw [hsent, List.append_nil], by simp, fun _ _ ↦ rfl⟩

theorem Settled.serves (h : before.Settled after) : before.Serves after [] :=
  { relays_nil h.log h.count h.feed h.sent with
    few := Nat.zero_le 5
    serving := h.serving
    audience_eq := h.audience_eq }

theorem Settled.trans_serves (hfirst : before.Settled middle) (h : middle.Serves after events) :
    before.Serves after events where
  logs := (Session.Logs.refl.quiet hfirst.log hfirst.count).trans h.logs
  appended := hfirst.feed ▸ h.appended
  sent := by
    rw [← hfirst.sent, ← hfirst.audience_eq]
    exact h.sent
  few := h.few
  serving := h.serving
  audience_eq := h.audience_eq.trans hfirst.audience_eq

/-! ### Starting and stopping -/

theorem IsServing.withStore (h : service.IsServing) {store : Store}
    (hstore : service.store.SameStreams store) : { service with store := store }.IsServing where
  accepts command := hstore.accepts (h.accepts command)
  reached := h.reached
  nodup := h.nodup

theorem IsServing.setDesk (h : service.IsServing) (hdesk : desk.Reached Stack.starter) :
    (service.setDesk desk).IsServing where
  accepts := h.accepts
  reached found hfound := by
    cases hfound
    exact hdesk
  nodup := h.nodup

theorem settled_withStore (h : service.IsServing) {store : Store}
    (hstore : service.store.SameStreams store) :
    service.Settled { service with store := store } :=
  ⟨rfl, rfl, hstore.stream _, rfl, rfl, h.withStore hstore⟩

theorem settled_startRestored (h : service.IsServing) :
    service.Settled service.startRestored.2 ∧
      service.startRestored.2.desk = some service.startRestored.1 := by
  cases hdesk : service.desk with
  | some desk =>
    rw [startRestored_of_some hdesk]
    exact ⟨⟨rfl, rfl, rfl, rfl, rfl, h⟩, hdesk⟩
  | none =>
    have hstore := service.store.sameStreams_loadSnapshot service.settings Stack.starter.name
    have hreached := (Desk.reached_open? Desk.open?_starter).step
      (Desk.starter.step_restore service.settings service.store)
    obtain ⟨hlog, hcount⟩ :=
      (Desk.starter.logsAtMost_restore service.settings service.store).eq_of_zero
    have hsession : service.session = {} := by
      rw [session, hdesk]
      rfl
    rw [startRestored_of_none hdesk]
    refine ⟨⟨?_, ?_, hstore.stream _, rfl, rfl, (h.withStore hstore).setDesk hreached⟩, rfl⟩
    · rw [hsession]
      exact hlog
    · rw [hsession]
      exact hcount

theorem Serves.release (h : before.Serves after events) : before.Serves after.release events where
  logs := h.logs
  appended := by
    have hfeed : after.release.feed = after.feed := after.store.sameStreams_close.stream _
    rw [hfeed]
    exact h.appended
  sent := h.sent
  few := h.few
  serving := h.serving.withStore after.store.sameStreams_close
  audience_eq := h.audience_eq

/-! ### Commits -/

/-- A commit appends the events since the mark to the feed and sends them to the reachable
watchers. -/
theorem exists_commit_eq (haccepts : service.store.Accepts .append) {mark : Nat} {update : Update}
    (hsince : desk.session.eventsSince mark = events)
    (hupdate : desk.update? events = some update) :
    ∃ published entries, service.commit desk mark = { service with
        desk := some desk
        store := published
        watchers := (service.watchers.broadcast desk.stack.name update fun id ↦
          !service.unreachable.contains id).watchers
        sent := service.sent ++ (service.reachable desk.stack.name).map fun id ↦ (id, update) } ∧
      published.outage = service.store.outage ∧
      published.stream (Feed.key desk.stack.name) =
        service.store.stream (Feed.key desk.stack.name) ++ entries ∧
      entries.map (·.event) = events := by
  have hsaved := service.store.sameStreams_saveSnapshot service.settings desk.stack.name
    desk.snapshot
  obtain ⟨ids, published, entries, hpublish, houtage, hstream, hentries⟩ :=
    Feed.publish_eq desk.stack.name events (hsaved.accepts haccepts)
  refine ⟨published, entries, ?_, houtage.trans hsaved.outage, ?_, hentries⟩
  · unfold commit
    dsimp only
    rw [hsince, Desk.save, hpublish, broadcast_eq hupdate]
    rfl
  · rw [hstream, hsaved.stream]

theorem exists_update?_eq (hfits : desk.session.Fits desk.stack) (events : List Event) :
    ∃ update, desk.update? events = some update ∧ update.events = events := by
  obtain ⟨card, hcard⟩ := Desk.exists_currentCard? hfits
  rw [Desk.update?, hcard]
  exact ⟨_, rfl, rfl⟩

/-- Whoever was reached once is reached again. -/
theorem audience_eq_of_watchers
    (hwatchers : after.watchers.of Stack.starter.name = before.audience)
    (hunreachable : after.unreachable = before.unreachable) : after.audience = before.audience := by
  rw [audience, reachable, hwatchers, hunreachable]
  exact List.filter_eq_self.mpr fun id hid ↦ (List.mem_filter.mp hid).2

/-- What is committed is exactly the events of the operation. -/
theorem exists_serves_commit (h : service.IsServing) (hdesk : service.desk = some desk)
    (operation : Operation) : ∃ events, service.Serves
      (service.commit (desk.operate operation) desk.session.eventsLogged) events := by
  have hreached := h.reached desk hdesk
  have hafter : (desk.operate operation).Reached Stack.starter :=
    hreached.step (desk.step_operate operation)
  obtain ⟨events, hfew, hlogs⟩ := desk.logsAtMost_operate operation
  generalize desk.operate operation = after at hafter hlogs ⊢
  have hsince : after.session.eventsSince desk.session.eventsLogged = events :=
    hlogs.eventsSince_eq (by rw [hreached.session.length_messageLog]; exact Nat.min_le_left ..)
      (hfew.trans (by decide))
  obtain ⟨update, hupdate, hreported⟩ := exists_update?_eq hafter.session events
  obtain ⟨published, entries, hcommit, houtage, hstream, hentries⟩ :=
    exists_commit_eq (h.accepts .append) hsince hupdate
  rw [hafter.name_eq] at hcommit hstream
  rw [hcommit]
  have haudience : service.audience.Nodup := h.nodup.filter _
  have hwatchers : (service.watchers.broadcast Stack.starter.name update fun id ↦
      !service.unreachable.contains id).watchers.of Stack.starter.name = service.audience := by
    rw [Watchers.of_broadcast, if_pos rfl]
    rfl
  refine ⟨events, ⟨?_, ⟨entries, hstream, hentries⟩, _, rfl, ?_, fun id hid ↦ ?_⟩, hfew,
    ⟨?_, ?_, ?_⟩, audience_eq_of_watchers hwatchers rfl⟩
  · rw [session_of_some hdesk]
    exact hlogs
  · intro message hmessage
    obtain ⟨id, -, rfl⟩ := List.mem_map.mp hmessage
    exact ⟨after, rfl, hupdate⟩
  · show (receivedBy id (service.audience.map fun id ↦ (id, update))).flatMap _ = events
    rw [receivedBy_map haudience hid, List.flatMap_singleton, hreported]
  · intro command number
    show published.outage number command = false
    rw [houtage, h.accepts command number]
  · rintro _ ⟨⟩
    exact hafter
  · exact hwatchers ▸ haudience

/-! ### Actions and requests -/

/-- Assumes: an action that executes no line longer than a body may say. -/
theorem exists_serves_act (h : service.IsServing) (hdesk : service.desk = some desk)
    {action : Action}
    (hline : ∀ line, action = .execute line → line.length ≤ lineLimit) :
    ∃ events, service.Serves (service.act desk action).2 events := by
  have hreached := h.reached desk hdesk
  have hacted : service.Acted desk action (fun store ↦ service.store.SameStreams store)
      (service.act desk action).2 :=
    acted_act (.refl service.store)
      (Lock.sameStreams_run service.store service.settings desk.stack.name none)
      (Feed.sameStreams_latest service.store desk.stack.name) action
  generalize (service.act desk action).2 = after at hacted ⊢
  cases hacted with
  | kept store hstore => exact ⟨[], (settled_withStore h hstore).serves⟩
  | unlogged store hstore operation hquiet =>
    obtain ⟨hlog, hcount⟩ := hquiet.eq_of_zero
    have hafter := hreached.step (desk.step_operate operation)
    have hserving := (h.withStore hstore).setDesk hafter
    refine ⟨[], Settled.serves ⟨?_, ?_, hstore.stream _, rfl, rfl, hserving⟩⟩
    · rw [session_of_some hdesk]
      exact hlog
    · rw [session_of_some hdesk]
      exact hcount
  | failed store hstore line haction failure hfailure =>
    obtain ⟨answer, hanswer⟩ := Desk.exists_execute_eq_ok_of_length_le hreached.session
      ((hline line haction).trans (by decide))
    rw [hanswer] at hfailure
    cases hfailure
  | committed store hstore operation =>
    obtain ⟨events, hserves⟩ := exists_serves_commit (h.withStore hstore) hdesk operation
    exact ⟨events, (settled_withStore h hstore).trans_serves hserves⟩

theorem exists_serves_respond (h : service.IsServing) (request : Request) :
    ∃ events, service.Serves (service.respond request).2 events := by
  show ∃ events, service.Serves (service.fulfil request.intent).2 events
  obtain ⟨hstarted, hdesk⟩ := settled_startRestored h
  cases hintent : request.intent with
  | answered response => exact ⟨[], Settled.serves ⟨rfl, rfl, rfl, rfl, rfl, h⟩⟩
  | rejected response => exact ⟨[], hstarted.serves.release⟩
  | order action =>
    have hline : ∀ line, action = .execute line → line.length ≤ lineLimit := fun line haction ↦
      length_le_of_intent (hintent.trans (congrArg Intent.order haction))
    obtain ⟨events, hserves⟩ := exists_serves_act hstarted.serving hdesk hline
    exact ⟨events, (hstarted.trans_serves hserves).release⟩

/-! ### Turns -/

theorem exists_relays_take (h : service.IsServing) (turn : Turn) :
    ∃ events, events.length ≤ 5 ∧ service.Relays (service.take turn) events ∧
      (service.take turn).IsServing := by
  cases turn with
  | request request =>
    obtain ⟨events, hserves⟩ := exists_serves_respond h request
    exact ⟨events, hserves.few, hserves.toRelays, hserves.serving⟩
  | join id =>
    obtain ⟨hstarted, hdesk⟩ := settled_startRestored h
    have hname := (hstarted.serving.reached _ hdesk).name_eq
    refine ⟨[], Nat.zero_le 5,
      relays_nil hstarted.log hstarted.count hstarted.feed hstarted.sent,
      hstarted.serving.accepts, hstarted.serving.reached, ?_⟩
    show ((service.startRestored.2.watchers.connect
      service.startRestored.1.stack.name id).of Stack.starter.name).Nodup
    rw [hname]
    exact Watchers.nodup_connect hstarted.serving.nodup id
  | leave id =>
    show ∃ events, _ ∧ service.Relays (service.leave id) events ∧ (service.leave id).IsServing
    unfold leave
    split
    · next stackName _ =>
      exact ⟨[], Nat.zero_le 5, relays_nil rfl rfl rfl rfl, h.accepts, h.reached,
        Watchers.nodup_disconnect h.nodup stackName id⟩
    · exact ⟨[], Nat.zero_le 5, relays_nil rfl rfl rfl rfl, h⟩
  | lose id =>
    exact ⟨[], Nat.zero_le 5, relays_nil rfl rfl rfl rfl, h.accepts, h.reached, h.nodup⟩

/-- Whoever joins is in the audience. -/
theorem mem_audience_join (h : service.IsServing) (id : WatcherId) :
    id ∈ (service.join id).audience := by
  obtain ⟨hstarted, hdesk⟩ := settled_startRestored h
  have hname := (hstarted.serving.reached _ hdesk).name_eq
  refine mem_reachable.mpr ⟨?_, ?_⟩
  · show id ∈ (service.startRestored.2.watchers.connect
      service.startRestored.1.stack.name id).of Stack.starter.name
    rw [hname]
    exact Watchers.mem_connect_self ..
  · show id ∉ service.startRestored.2.unreachable.filter (· != id)
    simp

/-- Whoever is in the audience stays until leaving or being lost. -/
theorem mem_audience_take (h : service.IsServing) {id : WatcherId} (hid : id ∈ service.audience)
    {turn : Turn} (hleave : turn ≠ .leave id) (hlose : turn ≠ .lose id) :
    id ∈ (service.take turn).audience := by
  cases turn with
  | request request =>
    obtain ⟨events, hserves⟩ := exists_serves_respond h request
    show id ∈ (service.respond request).2.audience
    rw [hserves.audience_eq]
    exact hid
  | join other =>
    obtain ⟨hstarted, hdesk⟩ := settled_startRestored h
    have hname := (hstarted.serving.reached _ hdesk).name_eq
    rw [← hstarted.audience_eq] at hid
    obtain ⟨hmem, hreachable⟩ := mem_reachable.mp hid
    refine mem_reachable.mpr ⟨?_, fun hunreachable ↦ ?_⟩
    · show id ∈ (service.startRestored.2.watchers.connect
        service.startRestored.1.stack.name other).of Stack.starter.name
      rw [hname]
      exact Watchers.mem_connect hmem other
    · exact hreachable (List.mem_filter.mp hunreachable).1
  | leave other =>
    obtain ⟨hmem, hreachable⟩ := mem_reachable.mp hid
    have hne : id ≠ other := fun heq ↦ hleave (heq ▸ rfl)
    show id ∈ (service.leave other).audience
    unfold leave
    split
    · next stackName _ =>
      exact mem_reachable.mpr ⟨Watchers.mem_disconnect hmem hne stackName, hreachable⟩
    · exact hid
  | lose other =>
    obtain ⟨hmem, hreachable⟩ := mem_reachable.mp hid
    have hne : id ≠ other := fun heq ↦ hlose (heq ▸ rfl)
    exact mem_reachable.mpr ⟨hmem, List.not_mem_cons_of_ne_of_not_mem hne hreachable⟩

/-! ### Runs -/

/-- The events that the desk logs in turns, one after another. -/
inductive Logged : Service → List Turn → List Event → Prop
  | nil (service : Service) : Logged service [] []
  | cons {service : Service} {turn : Turn} {rest : List Turn} {events later : List Event}
      (h : service.session.Logs events (service.take turn).session)
      (hrest : Logged (service.take turn) rest later) :
    Logged service (turn :: rest) (events ++ later)

/-- What turns log, append to the feed, and send to someone who stays for all of them. -/
structure Lived (service : Service) (turns : List Turn) (history : List Event) : Prop where
  serving : (service.live turns).IsServing
  logged : service.Logged turns history
  logs : service.session.Logs history (service.live turns).session
  appended : ∃ entries, (service.live turns).feed = service.feed ++ entries ∧
    entries.map (·.event) = history
  sent : ∃ messages, (service.live turns).sent = service.sent ++ messages ∧
    ∀ id ∈ service.audience, (∀ turn ∈ turns, turn ≠ .leave id ∧ turn ≠ .lose id) →
      (receivedBy id messages).flatMap (·.events) = history

theorem exists_lived (h : service.IsServing) (turns : List Turn) :
    ∃ history, service.Lived turns history := by
  induction turns generalizing service with
  | nil =>
    exact ⟨[], h, .nil service, .refl, ⟨[], (List.append_nil _).symm, rfl⟩,
      ⟨[], (List.append_nil _).symm, fun _ _ _ ↦ rfl⟩⟩
  | cons turn rest ih =>
    obtain ⟨events, -, hrelays, hserving⟩ := exists_relays_take h turn
    obtain ⟨hlogs, ⟨entries, hfeed, hentries⟩, messages, hsent, -, hreceived⟩ := hrelays
    obtain ⟨later, hrest, hlogged, hlogsRest, ⟨more, hfeedRest, hmore⟩, others, hsentRest,
      hreceivedRest⟩ := ih hserving
    refine ⟨events ++ later, hrest, .cons hlogs hlogged, hlogs.trans hlogsRest,
      ⟨entries ++ more, ?_, by rw [List.map_append, hentries, hmore]⟩,
      messages ++ others, ?_, fun id hid hstays ↦ ?_⟩
    · show ((service.take turn).live rest).feed = _
      rw [hfeedRest, hfeed, List.append_assoc]
    · show ((service.take turn).live rest).sent = _
      rw [hsentRest, hsent, List.append_assoc]
    · obtain ⟨hleave, hlose⟩ := hstays turn List.mem_cons_self
      have hstaysRest : ∀ later ∈ rest, later ≠ .leave id ∧ later ≠ .lose id :=
        fun later hlater ↦ hstays later (List.mem_cons_of_mem turn hlater)
      rw [receivedBy_append, List.flatMap_append, hreceived id hid,
        hreceivedRest id (mem_audience_take h hid hleave hlose) hstaysRest]

theorem IsServing.length_messageLog_le (h : service.IsServing) :
    service.session.messageLog.length ≤ Session.messageLogLimit := by
  cases hdesk : service.desk with
  | none =>
    rw [session, hdesk]
    exact Nat.zero_le _
  | some desk =>
    rw [session_of_some hdesk, (h.reached desk hdesk).session.length_messageLog]
    exact Nat.min_le_left ..

/-- There is no other account of what was logged: no turn logs more than the log can hold. -/
theorem Logged.unique {turns : List Turn} {history other : List Event} (h : service.IsServing)
    (hlogged : service.Logged turns history) (hother : service.Logged turns other) :
    other = history := by
  induction hlogged generalizing other with
  | nil =>
    cases hother
    rfl
  | @cons service turn rest events later hlogs _ ih =>
    cases hother with
    | cons hlogsOther hrestOther =>
      obtain ⟨known, hfew, hrelays, hserving⟩ := exists_relays_take h turn
      have hlimit : known.length ≤ Session.messageLogLimit := hfew.trans (by decide)
      rw [ih hserving hrestOther, hrelays.logs.unique hlogsOther h.length_messageLog_le hlimit,
        hrelays.logs.unique hlogs h.length_messageLog_le hlimit]

theorem isServing_of_desk_eq_none (hnone : service.desk = none)
    (haccepts : ∀ command, service.store.Accepts command)
    (hnodup : (service.watchers.of Stack.starter.name).Nodup) : service.IsServing where
  accepts := haccepts
  reached desk hdesk := by
    rw [hnone] at hdesk
    cases hdesk
  nodup := hnodup

/-! ### Reading the feed -/

theorem respond_readingEvents (h : service.IsServing) {count : Nat} (hpos : 1 ≤ count)
    (hle : count ≤ 200) :
    (service.respond (readingEvents count)).1 =
      eventsResponse Stack.starter.name (Session.lastOf count service.feed) := by
  have hlimit : Text.IsShort 200 := by decide
  have hshort : Text.IsShort (count : Int) := Text.isShort_of_natAbs_le hlimit (by omega)
  obtain ⟨hstarted, hdesk⟩ := settled_startRestored h
  have hname := (hstarted.serving.reached _ hdesk).name_eq
  have hlatest := Feed.latest_eq (hstarted.serving.accepts .readLatest) Stack.starter.name count
  have hget : (readingEvents count).method ≠ "HEAD" := by
    show "GET" ≠ "HEAD"
    decide
  have hrange : ¬ ((count : Int) < 1 ∨ eventCountLimit < (count : Int)) := by
    rw [eventCountLimit]
    omega
  unfold respond
  dsimp only
  rw [if_neg hget, intent_readingEvents hshort]
  show (service.startRestored.2.readEvents service.startRestored.1 count).1 = _
  rw [readEvents, if_neg hrange, hname]
  dsimp only
  rw [hlatest]
  show eventsResponse _ (Session.lastOf count service.startRestored.2.feed) = _
  rw [hstarted.feed]

/-! ### The relay -/

/-- How the log, the feed and the watchers agree after turns. -/
structure Relayed (service : Service) (turns : List Turn) (history : List Event) : Prop where
  logged : service.Logged turns history
  only : ∀ other, service.Logged turns other → other = history
  messageLog : (service.live turns).session.messageLog =
    Session.lastOf Session.messageLogLimit history
  streamed : (service.live turns).feed.map (·.event) = history
  read : ∀ count, 1 ≤ count → count ≤ 200 → ∃ entries,
    ((service.live turns).respond (readingEvents count)).1 =
      eventsResponse Stack.starter.name entries ∧
    entries.map (·.event) = Session.lastOf count history
  /-- Someone who joined, and neither left nor was lost since, received the events of the entries
  that were appended since. -/
  received : ∀ earlier id during, turns = earlier ++ .join id :: during →
    (∀ turn ∈ during, turn ≠ .leave id ∧ turn ≠ .lose id) →
    (receivedBy id ((service.live turns).sent.drop (service.live earlier).sent.length)).flatMap
        (·.events) =
      ((service.live turns).feed.drop (service.live earlier).feed.length).map (·.event)
  /-- The messages of a next turn report its events, and the desk right after it. -/
  reported : ∀ turn, ∃ events,
    (service.live turns).session.Logs events ((service.live turns).take turn).session ∧
    ∀ message ∈ ((service.live turns).take turn).sent.drop (service.live turns).sent.length,
      ∃ desk card, ((service.live turns).take turn).desk = some desk ∧
        desk.currentCard? = some card ∧ message.2 = {
          stackName := desk.stack.name
          cardIndex := desk.session.currentCardIndex
          cardId := card.id
          cardName := card.name
          vars := desk.session.vars
          events := events }

theorem exists_reported (h : service.IsServing) (turn : Turn) : ∃ events,
    service.session.Logs events (service.take turn).session ∧
    ∀ message ∈ (service.take turn).sent.drop service.sent.length,
      ∃ desk card, (service.take turn).desk = some desk ∧
        desk.currentCard? = some card ∧ message.2 = {
          stackName := desk.stack.name
          cardIndex := desk.session.currentCardIndex
          cardId := card.id
          cardName := card.name
          vars := desk.session.vars
          events := events } := by
  obtain ⟨events, -, ⟨hlogs, -, messages, hsent, hreports, -⟩, -⟩ := exists_relays_take h turn
  refine ⟨events, hlogs, fun message hmessage ↦ ?_⟩
  rw [hsent, List.drop_left] at hmessage
  obtain ⟨desk, hdesk, hupdate⟩ := hreports message hmessage
  obtain ⟨card, hcard, hmade⟩ := Option.map_eq_some_iff.mp hupdate
  exact ⟨desk, card, hdesk, hcard, hmade.symm⟩

theorem received_since_join (h : service.IsServing) {id : WatcherId} {during : List Turn}
    (hstays : ∀ turn ∈ during, turn ≠ .leave id ∧ turn ≠ .lose id) :
    (receivedBy id (((service.take (.join id)).live during).sent.drop
        service.sent.length)).flatMap (·.events) =
      (((service.take (.join id)).live during).feed.drop service.feed.length).map (·.event) := by
  obtain ⟨hstarted, -⟩ := settled_startRestored h
  have hsent : (service.take (.join id)).sent = service.sent := hstarted.sent
  have hfeed : (service.take (.join id)).feed = service.feed := hstarted.feed
  obtain ⟨-, -, -, hserving⟩ := exists_relays_take h (.join id)
  obtain ⟨history, -, -, -, ⟨entries, hentries, hevents⟩, messages, hmessages, hreceived⟩ :=
    exists_lived hserving during
  rw [hmessages, hentries, hsent, hfeed, List.drop_left, List.drop_left, hevents,
    hreceived id (mem_audience_join h id) hstays]

/-- Assumes: a service without a desk, whose store never fails and has an empty stream, and whose
watchers are listed once. Whatever turns it lives through, the log, the feed and the watchers agree
on one history: the events that the desk has logged, once each and in order. -/
theorem relayed_live (hnone : service.desk = none)
    (haccepts : ∀ command, service.store.Accepts command) (hempty : service.feed = [])
    (hnodup : (service.watchers.of Stack.starter.name).Nodup) (turns : List Turn) :
    ∃ history, service.Relayed turns history := by
  have hserving := isServing_of_desk_eq_none hnone haccepts hnodup
  obtain ⟨history, hlived, hlogged, hlogs, ⟨entries, hfeed, hentries⟩, -⟩ :=
    exists_lived hserving turns
  have hstreamed : (service.live turns).feed.map (·.event) = history := by
    rw [hfeed, hempty, List.nil_append, hentries]
  refine ⟨history, hlogged, fun other hother ↦ hlogged.unique hserving hother, ?_, hstreamed,
    fun count hpos hle ↦ ⟨_, respond_readingEvents hlived hpos hle, ?_⟩,
    fun earlier id during hturns hstays ↦ ?_, exists_reported hlived⟩
  · have hfresh : service.session = {} := by
      rw [session, hnone]
      rfl
    rw [hlogs.messageLog_eq hserving.length_messageLog_le, hfresh]
    rfl
  · rw [← hstreamed, Session.lastOf, Session.lastOf, List.map_drop, List.length_map]
  · obtain ⟨known, hearlier, -⟩ := exists_lived hserving earlier
    rw [hturns, live_append]
    exact received_since_join hearlier hstays

theorem relayed_live_turnSamples :
    ({} : Service).desk = none ∧ (∀ command, ({} : Service).store.Accepts command) ∧
      ({} : Service).feed = [] ∧ (({} : Service).watchers.of Stack.starter.name).Nodup ∧
      ∃ history, ({} : Service).Relayed turnSamples history ∧
        history = [⟨.command, "go next"⟩, ⟨.closeCard, "Welcome"⟩, ⟨.openCard, "Notes"⟩,
          ⟨.command, "go next"⟩, ⟨.closeCard, "Notes"⟩, ⟨.openCard, "Index"⟩] := by
  have haccepts : ∀ command, ({} : Service).store.Accepts command := fun _ _ ↦ rfl
  have hnodup : (({} : Service).watchers.of Stack.starter.name).Nodup := List.nodup_nil
  obtain ⟨history, hrelayed⟩ := relayed_live rfl haccepts rfl hnodup turnSamples
  refine ⟨rfl, haccepts, rfl, hnodup, history, hrelayed, ?_⟩
  rw [← hrelayed.streamed]
  decide +kernel

end Service

end Cardfile
