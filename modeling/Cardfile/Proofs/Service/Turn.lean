import Cardfile.Proofs.Desk.Logging
import Cardfile.Proofs.Store.Streams
import Cardfile.Service.Basic

/-!
# Turns of a service

A service lives through turns: it answers requests, and watchers come, go and are lost, in any order
(`Service.live`).

Whatever an action does to a service, it leaves the desk alone, changes a part of it that is not
logged, or commits one operation of the desk; a line that fails is the one exception
(`Service.Acted`). Before that it may have used the store, for the lock or to read events. So what
every action does is stated for any property of stores that the lock and the reading keep
(`Service.acted_act`).
-/

set_option autoImplicit false
set_option relaxedAutoImplicit false

namespace Cardfile

open Service

/-- What happens to a service. -/
inductive Turn where
  | request (request : Request)
  | join (id : WatcherId)
  | leave (id : WatcherId)
  | lose (id : WatcherId)

namespace Service

/-- The service after a turn. -/
def take (service : Service) : Turn → Service
  | .request request => (service.respond request).2
  | .join id => service.join id
  | .leave id => service.leave id
  | .lose id => service.lose id

/-- The service after turns, one after another. -/
def live (service : Service) (turns : List Turn) : Service :=
  turns.foldl take service

/-- Goes to the next card. -/
def goingOn : Request where
  method := "POST"
  path := "/stack/command"
  body := some "\x7b\"line\":\"go next\"\x7d"

/-- Turns of many kinds. The second line of the same kind meets a watcher who is gone. -/
def turnSamples : List Turn :=
  [.join "first", .request goingOn, .join "second", .lose "first", .request goingOn,
    .leave "second", .request ⟨"GET", "/stack", [], none⟩]

theorem live_append (service : Service) (turns later : List Turn) :
    service.live (turns ++ later) = (service.live turns).live later :=
  List.foldl_append

/-! ### Starting -/

theorem startRestored_of_some {service : Service} {desk : Desk} (h : service.desk = some desk) :
    service.startRestored = (desk, service) := by
  rw [startRestored, h]

theorem startRestored_of_none {service : Service} (h : service.desk = none) :
    service.startRestored =
      ((Desk.starter.restore service.settings service.store).2.1, { service with
        desk := some (Desk.starter.restore service.settings service.store).2.1
        store := (service.store.loadSnapshot service.settings Stack.starter.name).2 }) := by
  rw [startRestored, h]
  dsimp only
  rw [Desk.restore_eq]
  rfl

/-! ### Actions -/

/-- What an action leaves of a service with a desk. The store is as the action left it before it
committed anything. -/
inductive Acted (service : Service) (desk : Desk) (action : Action) (kept : Store → Prop) :
    Service → Prop
  | kept (store : Store) (hstore : kept store) :
    Acted service desk action kept { service with store := store }
  | unlogged (store : Store) (hstore : kept store) (operation : Operation)
      (hquiet : Desk.LogsAtMost 0 desk (desk.operate operation)) :
    Acted service desk action kept
      { service with desk := some (desk.operate operation), store := store }
  | failed (store : Store) (hstore : kept store) (line : String) (haction : action = .execute line)
      (failure : Failure) (hfailure : (desk.execute line).1 = .error failure) :
    Acted service desk action kept
      { service with desk := some (desk.operate (.execute line)), store := store }
  | committed (store : Store) (hstore : kept store) (operation : Operation) :
    Acted service desk action kept
      ({ service with store := store }.commit (desk.operate operation) desk.session.eventsLogged)

section Acting

variable {service : Service} {desk : Desk} {action : Action} {kept : Store → Prop}

theorem acted_same (hstore : kept service.store) : service.Acted desk action kept service :=
  .kept service.store hstore

theorem acted_edit {α : Type} (hstore : kept service.store) {outcome : Except Refusal α × Desk}
    (operation : Operation) (hafter : outcome.2 = desk.operate operation) :
    service.Acted desk action kept (service.edit desk outcome).2 := by
  rcases outcome with ⟨refusal | result, after⟩
  · exact acted_same hstore
  · obtain rfl : after = desk.operate operation := hafter
    exact .committed service.store hstore operation

theorem acted_adjust (hstore : kept service.store) {outcome : Bool × Desk}
    (operation : Operation) (hafter : outcome.2 = desk.operate operation) (refusal : Response) :
    service.Acted desk action kept (service.adjust desk outcome refusal).2 := by
  rcases outcome with ⟨_ | _, after⟩
  · exact acted_same hstore
  · obtain rfl : after = desk.operate operation := hafter
    exact .committed service.store hstore operation

theorem acted_setProperty (hstore : kept service.store) (name : String) (value : PropertyValue) :
    service.Acted desk action kept (service.setProperty desk name value).2 := by
  unfold Service.setProperty
  rcases hset : desk.setProperty name value with ⟨failure | accepted, after⟩
  · exact acted_same hstore
  · have hafter : after = desk.operate (.setProperty name value) := (congrArg Prod.snd hset).symm
    exact acted_adjust hstore (.setProperty name value) hafter _

theorem acted_withName (hstore : kept service.store) (name : WideText)
    {answer : String → Response × Service}
    (hanswer : ∀ text, service.Acted desk action kept (answer text).2) :
    service.Acted desk action kept (service.withName name answer).2 := by
  cases name with
  | plain text => exact hanswer text
  | halved codes => exact acted_same hstore

theorem acted_execute (line : String)
    (hlock : ∀ outcome : Desk.Outcome, kept (Lock.run service.store service.settings
      desk.stack.name none fun held ↦ (outcome, held)).2) :
    service.Acted desk (.execute line) kept (service.execute desk line).2 := by
  have hstore := hlock (desk.execute line)
  have hresult := Lock.run_fst service.store service.settings desk.stack.name none
    (desk.execute line)
  unfold Service.execute
  rcases hrun : Lock.run service.store service.settings desk.stack.name none
    (fun held ↦ (desk.execute line, held)) with ⟨outcome, store⟩
  rw [hrun] at hstore hresult
  rcases hexecute : desk.execute line with ⟨failure | answer, after⟩
  all_goals
    rw [hexecute] at hresult
    obtain rfl : desk.operate (.execute line) = after := congrArg Prod.snd hexecute
    rcases hresult with rfl | rfl
  -- If the lock is taken, the line is not executed.
  · exact .kept store hstore
  · exact .failed store hstore line rfl failure (by rw [hexecute])
  · exact .kept store hstore
  · dsimp only
    exact .committed store hstore (.execute line)

/-- Whatever the lock and the feed keep of the store, an action keeps until it commits. -/
theorem acted_act (hstore : kept service.store)
    (hlock : ∀ outcome : Desk.Outcome, kept (Lock.run service.store service.settings
      desk.stack.name none fun held ↦ (outcome, held)).2)
    (hlatest : ∀ count, kept (Feed.latest service.store desk.stack.name count).2)
    (action : Action) :
    service.Acted desk action kept (service.act desk action).2 := by
  have hset (operation : Operation) (hquiet : Desk.LogsAtMost 0 desk (desk.operate operation)) :
      service.Acted desk action kept (service.setDesk (desk.operate operation)) :=
    .unlogged service.store hstore operation hquiet
  cases action with
  | showView => exact acted_same hstore
  | listCards => exact acted_same hstore
  | execute line => exact acted_execute line hlock
  | setUserLevel level => exact acted_adjust hstore (.setUserLevel level) rfl _
  | setProperty name value =>
    exact acted_withName hstore name fun text ↦ acted_setProperty hstore text value
  | renameCard name =>
    show service.Acted desk _ kept (service.rename desk name).2
    rw [Service.rename]
    rcases hrename : desk.renameCard name with ⟨failure | _, after⟩
    · have hquiet := Desk.logsAtMost_renameCard_of_failed hrename
      obtain rfl : desk.operate (.renameCard name) = after := congrArg Prod.snd hrename
      exact hset (.renameCard name) hquiet
    · obtain rfl : desk.operate (.renameCard name) = after := congrArg Prod.snd hrename
      exact .committed service.store hstore (.renameCard name)
  | openField name =>
    exact acted_withName hstore name fun text ↦ acted_edit hstore (.openField text) rfl
  | editField text => exact acted_edit hstore (.editFieldText text) rfl
  | closeField => exact acted_edit hstore .closeField rfl
  | editScript buttonId script =>
    show service.Acted desk _ kept (service.editScript desk buttonId script).2
    rw [Service.editScript]
    rcases hedit : desk.editScript buttonId script with ⟨refusal | _, after⟩
    · exact acted_same hstore
    · obtain rfl : desk.operate (.editScript buttonId script) = after := congrArg Prod.snd hedit
      exact .committed service.store hstore (.editScript buttonId script)
  | selectTool name =>
    refine acted_withName hstore name fun text ↦ ?_
    rw [Service.selectTool]
    have hquiet := desk.logsAtMost_selectTool text
    rcases hselect : desk.selectTool text with ⟨_ | _, after⟩
    · exact acted_same hstore
    · obtain rfl : desk.operate (.selectTool text) = after := congrArg Prod.snd hselect
      exact hset (.selectTool text) hquiet
  | previousLine => exact hset .historyPrevious desk.logsAtMost_historyPrevious
  | nextLine => exact hset .historyNext desk.logsAtMost_historyNext
  | readEvents count =>
    show service.Acted desk _ kept (service.readEvents desk count).2
    rw [Service.readEvents]
    split_ifs with hcount
    · exact acted_same hstore
    · exact .kept _ (hlatest count)

end Acting

end Service

end Cardfile
