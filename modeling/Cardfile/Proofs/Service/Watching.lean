import Cardfile.Proofs.Store.Keys
import Cardfile.Service.Basic
import Mathlib.Data.List.Nodup

/-!
# Who watches a stack

Connecting and disconnecting change the watchers of one stack only, and no watcher is listed twice.
A row of offers loses those that an update cannot be delivered to, one by one, and nobody else
(`Watchers.of_offerEach`). So a broadcast reaches every watcher of the stack that can be reached
(`Service.broadcast_eq`), and each of them receives the update once (`Service.receivedBy_map`).
-/

set_option autoImplicit false
set_option relaxedAutoImplicit false

namespace Cardfile

namespace Watchers

variable {watchers : Watchers} {stackName : String} {id other : WatcherId}

theorem of_withGroup_self (watchers : Watchers) (stackName : String) (group : List WatcherId) :
    (watchers.withGroup stackName group).of stackName = group := by
  have hothers : (watchers.groups.filter fun entry ↦ entry.1 != stackName).lookup stackName =
      none :=
    lookup_unbindKey_self stackName watchers.groups
  unfold withGroup of
  dsimp only
  cases group with
  | nil => rw [List.isEmpty_nil, if_pos rfl, hothers, Option.getD_none]
  | cons first rest =>
    rw [List.isEmpty_cons, if_neg Bool.false_ne_true, List.lookup_cons_self, Option.getD_some]

theorem of_withGroup_of_ne {otherName : String} (h : otherName ≠ stackName) (watchers : Watchers)
    (group : List WatcherId) :
    (watchers.withGroup stackName group).of otherName = watchers.of otherName := by
  have hothers : (watchers.groups.filter fun entry ↦ entry.1 != stackName).lookup otherName =
      watchers.groups.lookup otherName :=
    lookup_unbindKey_of_ne h watchers.groups
  unfold withGroup of
  dsimp only
  split_ifs with hempty
  · rw [hothers]
  · rw [lookup_cons_eq, if_neg h, hothers]

/-! ### Connecting -/

theorem of_connect (watchers : Watchers) (stackName : String) (id : WatcherId) :
    (watchers.connect stackName id).of stackName =
      if id ∈ watchers.of stackName then watchers.of stackName
      else watchers.of stackName ++ [id] := by
  simp only [connect, of_withGroup_self, List.contains_iff_mem]

theorem nodup_connect (h : (watchers.of stackName).Nodup) (id : WatcherId) :
    ((watchers.connect stackName id).of stackName).Nodup := by
  rw [of_connect]
  split_ifs with hmem
  · exact h
  · exact h.append (List.nodup_singleton id) (by simpa using hmem)

theorem mem_connect_self (watchers : Watchers) (stackName : String) (id : WatcherId) :
    id ∈ (watchers.connect stackName id).of stackName := by
  rw [of_connect]
  split_ifs with hmem
  · exact hmem
  · exact List.mem_append_right _ List.mem_cons_self

theorem mem_connect (h : other ∈ watchers.of stackName) (id : WatcherId) :
    other ∈ (watchers.connect stackName id).of stackName := by
  rw [of_connect]
  split_ifs with hmem
  · exact h
  · exact List.mem_append_left _ h

/-! ### Disconnecting -/

theorem of_disconnect (watchers : Watchers) (leftName stackName : String) (id : WatcherId) :
    (watchers.disconnect leftName id).of stackName =
      if stackName = leftName then (watchers.of stackName).filter (· != id)
      else watchers.of stackName := by
  unfold disconnect
  split_ifs with hname
  · rw [hname, of_withGroup_self]
  · rw [of_withGroup_of_ne hname]

theorem nodup_disconnect (h : (watchers.of stackName).Nodup) (leftName : String)
    (id : WatcherId) : ((watchers.disconnect leftName id).of stackName).Nodup := by
  rw [of_disconnect]
  split_ifs with hname
  · exact h.filter _
  · exact h

theorem mem_disconnect (h : other ∈ watchers.of stackName) (hne : other ≠ id)
    (leftName : String) : other ∈ (watchers.disconnect leftName id).of stackName := by
  rw [of_disconnect]
  split_ifs with hname
  · exact List.mem_filter.mpr ⟨h, by simpa using hne⟩
  · exact h

/-! ### Broadcasts -/

variable {update : Update} {delivers : WatcherId → Bool}

/-- The watchers who were offered the update and whom it could not be delivered to are gone. -/
theorem of_offerEach (watchers : Watchers) (stackName otherName : String) (update : Update)
    (delivers : WatcherId → Bool) (ids : List WatcherId) :
    (watchers.offerEach stackName update delivers ids).watchers.of otherName =
      if otherName = stackName then
        (watchers.of otherName).filter fun other ↦ delivers other || !ids.contains other
      else watchers.of otherName := by
  induction ids generalizing watchers with
  | nil => simp [offerEach]
  | cons id rest ih =>
    by_cases hdelivers : delivers id = true
    · rw [offerEach, if_pos hdelivers, ih]
      congr 2
      funext other
      by_cases hother : other = id <;> simp [hother, hdelivers]
    · rw [offerEach, if_neg hdelivers, ih, of_disconnect]
      split_ifs with hname
      · rw [List.filter_filter]
        congr 1
        funext other
        by_cases hother : other = id <;> simp [hother, hdelivers]
      · rfl

/-- Everyone is offered the update once, in order, whoever is dropped in between. -/
theorem offers_offerEach (watchers : Watchers) (stackName : String) (update : Update)
    (delivers : WatcherId → Bool) (ids : List WatcherId) :
    (watchers.offerEach stackName update delivers ids).offers =
      ids.map fun id ↦ ⟨id, update, delivers id⟩ := by
  induction ids generalizing watchers with
  | nil => rfl
  | cons id rest ih =>
    by_cases hdelivers : delivers id = true <;> simp [offerEach, hdelivers, ih]

theorem reached_offerEach (watchers : Watchers) (stackName : String) (update : Update)
    (delivers : WatcherId → Bool) (ids : List WatcherId) :
    (watchers.offerEach stackName update delivers ids).reached = (ids.filter delivers).length := by
  induction ids generalizing watchers with
  | nil => rfl
  | cons id rest ih =>
    by_cases hdelivers : delivers id = true <;> simp [offerEach, hdelivers, ih]

theorem of_broadcast (watchers : Watchers) (stackName otherName : String) (update : Update)
    (delivers : WatcherId → Bool) :
    (watchers.broadcast stackName update delivers).watchers.of otherName =
      if otherName = stackName then (watchers.of otherName).filter delivers
      else watchers.of otherName := by
  rw [broadcast, of_offerEach]
  split_ifs with hname
  · apply List.filter_congr
    intro id hid
    simp [← hname, hid]
  · rfl

theorem delivered_broadcast (watchers : Watchers) (stackName : String) (update : Update)
    (delivers : WatcherId → Bool) :
    (watchers.broadcast stackName update delivers).offers.filter (·.delivered) =
      ((watchers.of stackName).filter delivers).map fun id ↦ ⟨id, update, true⟩ := by
  rw [broadcast, offers_offerEach, List.filter_map]
  apply List.map_congr_left
  intro id hid
  have hdelivers : delivers id = true := (List.mem_filter.mp hid).2
  rw [hdelivers]

end Watchers

namespace Service

variable {service : Service} {desk : Desk} {events : List Event} {id : WatcherId}

/-- The updates that were sent to a watcher. -/
def receivedBy (id : WatcherId) (sent : List (WatcherId × Update)) : List Update :=
  (sent.filter fun message ↦ message.1 == id).map (·.2)

theorem receivedBy_append (id : WatcherId) (sent later : List (WatcherId × Update)) :
    receivedBy id (sent ++ later) = receivedBy id sent ++ receivedBy id later := by
  rw [receivedBy, List.filter_append, List.map_append]
  rfl

/-- Of an update to a row of different watchers each of them receives one. -/
theorem receivedBy_map {ids : List WatcherId} (hnodup : ids.Nodup) (hmem : id ∈ ids)
    (update : Update) : receivedBy id (ids.map fun other ↦ (other, update)) = [update] := by
  have hone : ids.filter (fun other ↦ other == id) = [id] := by
    rw [List.filter_beq, List.count_eq_one_of_mem hnodup hmem]
    rfl
  rw [receivedBy, List.filter_map, List.map_map]
  show (ids.filter fun other ↦ other == id).map _ = _
  rw [hone]
  rfl

/-- The watchers that a broadcast reaches. -/
def reachable (service : Service) (stackName : String) : List WatcherId :=
  (service.watchers.of stackName).filter fun id ↦ !service.unreachable.contains id

theorem mem_reachable {stackName : String} : id ∈ service.reachable stackName ↔
    id ∈ service.watchers.of stackName ∧ id ∉ service.unreachable := by
  simp [reachable]

theorem broadcast_eq {update : Update} (hupdate : desk.update? events = some update)
    (service : Service) : (service.broadcast desk events).2 = { service with
      watchers := (service.watchers.broadcast desk.stack.name update fun id ↦
        !service.unreachable.contains id).watchers
      sent := service.sent ++
        (service.reachable desk.stack.name).map fun id ↦ (id, update) } := by
  unfold broadcast
  rw [hupdate]
  dsimp only
  rw [Watchers.delivered_broadcast, List.map_map]
  rfl

end Service

end Cardfile
