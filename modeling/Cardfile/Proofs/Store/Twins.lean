import Cardfile.Proofs.Store.Keys
import Cardfile.Store.Persistence

/-!
# Stores that hold the same

Two stores are twins (`Store.Twins`) if all their calls work and they hold the same keys and
streams, whatever calls were made to them before. What is asked of twins is answered alike and
leaves them twins; a call that changes nothing leaves a store a twin of what it was.
-/

set_option autoImplicit false
set_option relaxedAutoImplicit false

namespace Cardfile

namespace Store

/-- Two stores whose calls all work and that hold the same. The calls and closings that they have
counted need not be the same. -/
structure Twins (store twin : Store) : Prop where
  accepts : ∀ command, store.Accepts command
  twin_accepts : ∀ command, twin.Accepts command
  data : twin.data = store.data
  streams : twin.streams = store.streams
  appended : twin.appended = store.appended

/-- A result and a store, and the same result with a twin of the store. -/
def TwinResults {α : Type} (result twin : α × Store) : Prop :=
  result.1 = twin.1 ∧ result.2.Twins twin.2

theorem TwinResults.exists_eq {α : Type} {result twin : α × Store} (h : TwinResults result twin) :
    ∃ value after twinAfter, result = (value, after) ∧ twin = (value, twinAfter) ∧
      after.Twins twinAfter :=
  ⟨result.1, result.2, twin.2, rfl, Prod.ext h.1.symm rfl, h.2⟩

namespace Twins

variable {store twin other : Store}

theorem refl (haccepts : ∀ command, store.Accepts command) : store.Twins store :=
  ⟨haccepts, haccepts, rfl, rfl, rfl⟩

theorem symm (h : store.Twins twin) : twin.Twins store :=
  ⟨h.twin_accepts, h.accepts, h.data.symm, h.streams.symm, h.appended.symm⟩

theorem trans (h : store.Twins twin) (hother : twin.Twins other) : store.Twins other :=
  ⟨h.accepts, hother.twin_accepts, hother.data.trans h.data, hother.streams.trans h.streams,
    hother.appended.trans h.appended⟩

theorem value? (h : store.Twins twin) (key : String) : twin.value? key = store.value? key := by
  rw [Store.value?, h.data, Store.value?]

theorem stream (h : store.Twins twin) (key : String) : twin.stream key = store.stream key := by
  rw [Store.stream, h.streams, Store.stream]

/-! ### Calls -/

theorem call {α : Type} (h : store.Twins twin) (call : StoreCall) {act : Store → α × Store}
    (hact : ∀ recorded recordedTwin : Store, recorded.Twins recordedTwin →
      TwinResults (act recorded) (act recordedTwin)) :
    TwinResults (store.call call act) (twin.call call act) := by
  obtain ⟨hresult, hafter⟩ := hact { store with calls := store.calls ++ [call] }
    { twin with calls := twin.calls ++ [call] } ⟨h.1, h.2, h.3, h.4, h.5⟩
  rw [call_of_accepts (h.accepts _), call_of_accepts (h.twin_accepts _)]
  exact ⟨congrArg Except.ok hresult, hafter⟩

theorem withKey (h : store.Twins twin) (key value : String) :
    (store.withKey key value).Twins (twin.withKey key value) :=
  { h with data := congrArg (bindKey key value) h.data }

theorem get (h : store.Twins twin) (key : String) : TwinResults (store.get key) (twin.get key) :=
  h.call _ fun _ _ hrecorded ↦ ⟨(hrecorded.value? key).symm, hrecorded⟩

theorem set (h : store.Twins twin) (key value : String) :
    TwinResults (store.set key value) (twin.set key value) :=
  h.call _ fun _ _ hrecorded ↦ ⟨rfl, hrecorded.withKey key value⟩

theorem acquire (h : store.Twins twin) (key value : String) (lifetime : Int) :
    TwinResults (store.acquire key value lifetime) (twin.acquire key value lifetime) := by
  refine h.call _ fun recorded _ hrecorded ↦ ?_
  rw [hrecorded.value?]
  split_ifs
  · exact ⟨rfl, hrecorded⟩
  · exact ⟨rfl, hrecorded.withKey key value⟩

theorem delete (h : store.Twins twin) (key : String) :
    TwinResults (store.delete key) (twin.delete key) :=
  h.call _ fun _ _ hrecorded ↦
    ⟨rfl, { hrecorded with data := congrArg (unbindKey key) hrecorded.data }⟩

theorem append (h : store.Twins twin) (key : String) (event : Event) :
    TwinResults (store.append key event) (twin.append key event) := by
  refine h.call _ fun recorded recordedTwin hrecorded ↦ ?_
  rw [hrecorded.stream, hrecorded.streams, hrecorded.appended]
  exact ⟨rfl, { hrecorded with streams := rfl, appended := rfl }⟩

theorem readLatest (h : store.Twins twin) (key : String) (count : Int) :
    TwinResults (store.readLatest key count) (twin.readLatest key count) :=
  h.call _ fun _ _ hrecorded ↦ ⟨by rw [hrecorded.stream], hrecorded⟩

theorem of_calls (h : store.Twins twin) (calls : List StoreCall) :
    store.Twins { twin with calls := calls } :=
  ⟨h.1, h.2, h.3, h.4, h.5⟩

theorem of_close (h : store.Twins twin) : store.Twins twin.close.2 := by
  unfold close
  dsimp only
  split_ifs <;> exact ⟨h.1, h.2, h.3, h.4, h.5⟩

theorem close (h : store.Twins twin) : store.close.2.Twins twin.close.2 :=
  h.of_close.symm.of_close.symm

/-! ### Snapshots -/

theorem loadSnapshot (h : store.Twins twin) (settings : Settings) (stackName : String) :
    TwinResults (store.loadSnapshot settings stackName)
      (twin.loadSnapshot settings stackName) := by
  obtain ⟨result, after, twinAfter, hcall, htwin, hafter⟩ :=
    (h.get (settings.snapshotKey stackName)).exists_eq
  unfold Store.loadSnapshot
  rw [hcall, htwin]
  rcases result with _ | _ | text <;> exact ⟨rfl, hafter⟩

theorem saveSnapshot (h : store.Twins twin) (settings : Settings) (stackName : String)
    (snapshot : Snapshot) :
    TwinResults (store.saveSnapshot settings stackName snapshot)
      (twin.saveSnapshot settings stackName snapshot) := by
  unfold Store.saveSnapshot
  cases snapshot.encode? with
  | none => exact ⟨rfl, h⟩
  | some text =>
    obtain ⟨result, after, twinAfter, hcall, htwin, hafter⟩ :=
      (h.set (settings.snapshotKey stackName) text).exists_eq
    dsimp only
    rw [hcall, htwin]
    cases result <;> exact ⟨rfl, hafter⟩

/-- Looking for a snapshot changes nothing. -/
theorem of_loadSnapshot (h : store.Twins twin) (settings : Settings) (stackName : String) :
    store.Twins (twin.loadSnapshot settings stackName).2 := by
  have hget : store.Twins (twin.get (settings.snapshotKey stackName)).2 := by
    rw [Store.get, call_of_accepts (h.twin_accepts .get)]
    exact h.of_calls _
  unfold Store.loadSnapshot
  split
  · next hcall => rwa [hcall] at hget
  · next hcall => rwa [hcall] at hget

/-! ### The lock and the feed -/

theorem lockRun {α : Type} (h : store.Twins twin) (settings : Settings) (stackName : String)
    (lifetime : Option Int) (result : α) :
    TwinResults (Lock.run store settings stackName lifetime fun held ↦ (result, held))
      (Lock.run twin settings stackName lifetime fun held ↦ (result, held)) := by
  obtain ⟨acquired, after, twinAfter, hcall, htwin, hafter⟩ :=
    (h.acquire (Lock.key stackName) "1" (lifetime.getD settings.lockLifetime)).exists_eq
  unfold Lock.run
  rw [hcall, htwin]
  rcases acquired with _ | _ | _
  · exact ⟨rfl, hafter⟩
  · exact ⟨rfl, hafter⟩
  · exact ⟨rfl, (hafter.delete (Lock.key stackName)).2⟩

theorem publish (stackName : String) (events : List Event) (h : store.Twins twin) :
    TwinResults (Feed.publish store stackName events) (Feed.publish twin stackName events) := by
  induction events generalizing store twin with
  | nil => exact ⟨rfl, h⟩
  | cons event rest ih =>
    obtain ⟨result, after, twinAfter, hcall, htwin, hafter⟩ :=
      (h.append (Feed.key stackName) event).exists_eq
    unfold Feed.publish
    rw [hcall, htwin]
    cases result with
    | error down => exact ⟨rfl, hafter⟩
    | ok id =>
      obtain ⟨hids, hfinal⟩ := ih hafter
      exact ⟨congrArg (Except.map (id :: ·)) hids, hfinal⟩

theorem latest (h : store.Twins twin) (stackName : String) (count : Int) :
    TwinResults (Feed.latest store stackName count) (Feed.latest twin stackName count) := by
  obtain ⟨hresult, hafter⟩ := h.readLatest (Feed.key stackName) count
  exact ⟨congrArg (Except.map List.reverse) hresult, hafter⟩

/-- Reading the feed changes nothing. -/
theorem of_latest (h : store.Twins twin) (stackName : String) (count : Int) :
    store.Twins (Feed.latest twin stackName count).2 := by
  show store.Twins (twin.readLatest (Feed.key stackName) count).2
  rw [Store.readLatest, call_of_accepts (h.twin_accepts .readLatest)]
  exact h.of_calls _

end Twins

end Store

end Cardfile
