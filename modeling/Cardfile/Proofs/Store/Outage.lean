import Cardfile.Proofs.Store.Keys
import Cardfile.Store.Persistence

/-!
# Stores that may fail

A key is unlocked (`Store.Unlocked`) if nothing is held under it and deleting works, whatever other
calls fail. Calls that concern other keys keep it unlocked, and so does a lock section on the key
itself: it always runs its body, and if it could take the lock it frees it again
(`Lock.run_of_unlocked`).
-/

set_option autoImplicit false
set_option relaxedAutoImplicit false

namespace Cardfile

namespace Store

/-- Nothing is held under a key, and what is bound to it can be deleted. -/
structure Unlocked (store : Store) (key : String) : Prop where
  delete : store.Accepts .delete
  free : store.value? key = none

variable {store other : Store} {key : String}

theorem Unlocked.alike (h : store.Unlocked key) (halike : store.Alike other) :
    other.Unlocked key :=
  ⟨halike.accepts h.delete, (halike.value? key).trans h.free⟩

/-- Setting one key leaves the others as they were, whether or not it works. -/
theorem Unlocked.set (h : store.Unlocked key) {name : String} (hname : name ≠ key)
    (value : String) : (store.set name value).2.Unlocked key := by
  have hrecorded : { store with
      calls := store.calls ++ [StoreCall.set name false none] }.Unlocked key :=
    ⟨h.delete, h.free⟩
  unfold Store.set Store.call
  dsimp only
  split
  · exact hrecorded
  · exact ⟨h.delete, (lookup_bindKey_of_ne hname.symm value store.data).trans h.free⟩

theorem Unlocked.saveSnapshot (h : store.Unlocked key) {settings : Settings} {stackName : String}
    (hname : settings.snapshotKey stackName ≠ key) (snapshot : Snapshot) :
    (store.saveSnapshot settings stackName snapshot).2.Unlocked key := by
  unfold Store.saveSnapshot
  split
  · exact h
  · next text _ =>
    have hset := h.set hname text
    split
    · next hcall => rwa [hcall] at hset
    · next hcall => rwa [hcall] at hset

/-- A free key is acquired unless the store fails. -/
theorem acquire_of_free (hfree : store.value? key = none) (value : String) (lifetime : Int) :
    (∃ down after, store.acquire key value lifetime = (.error down, after) ∧ store.Alike after) ∨
      ∃ held, store.acquire key value lifetime = (.ok true, held) ∧
        held.Holds store key value := by
  rw [acquire_eq, hfree]
  split_ifs with hdown hbound
  · exact Or.inl ⟨_, _, rfl, store.alike_asked key lifetime⟩
  · cases hbound
  · exact Or.inr ⟨_, rfl, store.holds_asked_withKey key value lifetime⟩

/-- Nothing is loaded from a store that holds nothing, and nothing from one that fails. -/
theorem loadSnapshot_of_free {settings : Settings} {stackName : String}
    (hfree : store.value? (settings.snapshotKey stackName) = none) :
    (store.loadSnapshot settings stackName).1 = none := by
  have hget : (store.get (settings.snapshotKey stackName)).1 = .ok none ∨
      ∃ down, (store.get (settings.snapshotKey stackName)).1 = .error down := by
    unfold Store.get Store.call
    dsimp only
    split
    · exact Or.inr ⟨_, rfl⟩
    · exact Or.inl (congrArg Except.ok hfree)
  unfold loadSnapshot
  rcases hcall : store.get (settings.snapshotKey stackName) with ⟨down | _ | text, after⟩
  · rfl
  · rfl
  · rw [hcall] at hget
    rcases hget with hnone | ⟨down, herror⟩
    · cases hnone
    · cases herror

end Store

/-- A section on an unlocked key runs its body, locked or not, and leaves all keys as they were. -/
theorem Lock.run_of_unlocked {α : Type} {store : Store} {stackName : String}
    (h : store.Unlocked (key stackName)) (settings : Settings) (lifetime : Option Int)
    (result : α) :
    ∃ after, run store settings stackName lifetime (fun held ↦ (result, held)) =
      (some result, after) ∧ store.Alike after := by
  unfold run
  rcases Store.acquire_of_free h.free "1" (lifetime.getD settings.lockLifetime) with
    ⟨down, after, hacquire, halike⟩ | ⟨held, hacquire, hheld⟩
  · rw [hacquire]
    exact ⟨after, rfl, halike⟩
  · rw [hacquire]
    exact ⟨_, rfl, hheld.alike_delete h.free h.delete⟩

end Cardfile
