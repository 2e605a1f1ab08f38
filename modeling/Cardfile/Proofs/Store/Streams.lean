import Cardfile.Proofs.Session.History
import Cardfile.Proofs.Store.Keys
import Cardfile.Store.Persistence

/-!
# What calls do to the streams of a store

Appending an event changes one stream alone, and every other call leaves all streams as they were.
On a store whose calls work, publishing appends all events in order (`Feed.publish_eq`), and the
latest entries are read oldest first (`Feed.latest_eq`).
-/

set_option autoImplicit false
set_option relaxedAutoImplicit false

namespace Cardfile

namespace Store

/-- Two stores whose calls fail alike and that hold the same streams. -/
structure SameStreams (store other : Store) : Prop where
  outage : other.outage = store.outage
  stream : ∀ key, other.stream key = store.stream key

namespace SameStreams

variable {store next other : Store}

theorem refl (store : Store) : store.SameStreams store :=
  ⟨rfl, fun _ ↦ rfl⟩

theorem trans (h : store.SameStreams next) (hnext : next.SameStreams other) :
    store.SameStreams other :=
  ⟨hnext.outage.trans h.outage, fun key ↦ (hnext.stream key).trans (h.stream key)⟩

theorem accepts {command : StoreCommand} (h : store.SameStreams other)
    (haccepts : store.Accepts command) : other.Accepts command :=
  fun number ↦ by rw [h.outage, haccepts number]

end SameStreams

theorem sameStreams_call {α : Type} (store : Store) (call : StoreCall) {act : Store → α × Store}
    (hact : ∀ recorded : Store, recorded.SameStreams (act recorded).2) :
    store.SameStreams (store.call call act).2 := by
  have hrecorded : store.SameStreams { store with calls := store.calls ++ [call] } :=
    ⟨rfl, fun _ ↦ rfl⟩
  unfold Store.call
  dsimp only
  split
  · exact hrecorded
  · exact hrecorded.trans (hact _)

theorem sameStreams_get (store : Store) (key : String) : store.SameStreams (store.get key).2 :=
  store.sameStreams_call _ .refl

theorem sameStreams_set (store : Store) (key value : String) :
    store.SameStreams (store.set key value).2 :=
  store.sameStreams_call _ fun _ ↦ ⟨rfl, fun _ ↦ rfl⟩

theorem sameStreams_acquire (store : Store) (key value : String) (lifetime : Int) :
    store.SameStreams (store.acquire key value lifetime).2 := by
  refine store.sameStreams_call _ fun recorded ↦ ?_
  split
  · exact .refl recorded
  · exact ⟨rfl, fun _ ↦ rfl⟩

theorem sameStreams_delete (store : Store) (key : String) :
    store.SameStreams (store.delete key).2 :=
  store.sameStreams_call _ fun _ ↦ ⟨rfl, fun _ ↦ rfl⟩

theorem sameStreams_close (store : Store) : store.SameStreams store.close.2 := by
  unfold close
  dsimp only
  split <;> exact ⟨rfl, fun _ ↦ rfl⟩

theorem sameStreams_loadSnapshot (store : Store) (settings : Settings) (stackName : String) :
    store.SameStreams (store.loadSnapshot settings stackName).2 := by
  have hget := store.sameStreams_get (settings.snapshotKey stackName)
  unfold loadSnapshot
  split
  · next hcall => rwa [hcall] at hget
  · next hcall => rwa [hcall] at hget

theorem sameStreams_saveSnapshot (store : Store) (settings : Settings) (stackName : String)
    (snapshot : Snapshot) :
    store.SameStreams (store.saveSnapshot settings stackName snapshot).2 := by
  unfold saveSnapshot
  split
  · exact .refl store
  · next text _ =>
    have hset := store.sameStreams_set (settings.snapshotKey stackName) text
    split
    · next hcall => rwa [hcall] at hset
    · next hcall => rwa [hcall] at hset

end Store

theorem Lock.sameStreams_run {α : Type} (store : Store) (settings : Settings) (stackName : String)
    (lifetime : Option Int) (result : α) :
    store.SameStreams (run store settings stackName lifetime fun held ↦ (result, held)).2 := by
  have hacquire := store.sameStreams_acquire (key stackName) "1"
    (lifetime.getD settings.lockLifetime)
  unfold run
  split
  · next hcall =>
    rw [hcall] at hacquire
    exact hacquire.trans (Store.sameStreams_delete ..)
  · next hcall => rwa [hcall] at hacquire
  · next hcall => rwa [hcall] at hacquire

namespace Feed

/-- Assumes: a store that takes what is appended. All events are appended in order. -/
theorem publish_eq (stackName : String) (events : List Event) {store : Store}
    (h : store.Accepts .append) :
    ∃ ids after entries, publish store stackName events = (.ok ids, after) ∧
      after.outage = store.outage ∧
      after.stream (key stackName) = store.stream (key stackName) ++ entries ∧
      entries.map (·.event) = events := by
  induction events generalizing store with
  | nil => exact ⟨[], store, [], rfl, rfl, (List.append_nil _).symm, rfl⟩
  | cons event rest ih =>
    obtain ⟨id, next, happend, houtage, hstream⟩ : ∃ id next,
        store.append (key stackName) event = (.ok id, next) ∧ next.outage = store.outage ∧
          next.stream (key stackName) = store.stream (key stackName) ++ [⟨id, event⟩] := by
      refine ⟨_, _, Store.call_of_accepts h _, rfl, ?_⟩
      simp only [Store.stream, lookup_bindKey_self, Option.getD_some]
    have haccepts : next.Accepts .append := fun number ↦ by rw [houtage, h number]
    obtain ⟨ids, after, entries, hpublish, houtageRest, hstreamRest, hentries⟩ := ih haccepts
    refine ⟨id :: ids, after, ⟨id, event⟩ :: entries, ?_, houtageRest.trans houtage, ?_, ?_⟩
    · rw [publish, happend]
      dsimp only
      rw [hpublish]
      rfl
    · rw [hstreamRest, hstream, List.append_assoc, List.singleton_append]
    · rw [List.map_cons, hentries]

/-- Assumes: a store that answers. The latest entries come oldest first. -/
theorem latest_eq {store : Store} (h : store.Accepts .readLatest) (stackName : String)
    (count : Int) : (latest store stackName count).1 =
      .ok (Session.lastOf count.toNat (store.stream (key stackName))) := by
  have hread : (store.readLatest (key stackName) count).1 =
      .ok ((store.stream (key stackName)).reverse.take count.toNat) := by
    rw [Store.readLatest, Store.call_of_accepts h]
    rfl
  unfold latest
  dsimp only
  rw [hread, Except.map, Session.lastOf, List.take_reverse, List.reverse_reverse]

theorem sameStreams_latest (store : Store) (stackName : String) (count : Int) :
    store.SameStreams (latest store stackName count).2 := by
  unfold latest Store.readLatest
  exact store.sameStreams_call _ .refl

end Feed

end Cardfile
