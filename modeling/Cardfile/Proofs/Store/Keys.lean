import Cardfile.Store.Feed
import Cardfile.Store.Lock
import Mathlib.Data.List.Basic

/-!
# What calls do to the keys of a store

Binding or unbinding a key changes what the store holds under that key alone. A lock section leaves
out its body, or it runs the body while the lock key is bound and deletes that key afterwards
(`Lock.run_cases`). If the body leaves the store alone, every key is as it was, the lock key too
(`Lock.alike_run`). The feed uses streams and no keys
(`Feed.alike_publish`, `Feed.alike_latest`).
-/

set_option autoImplicit false
set_option relaxedAutoImplicit false

namespace Cardfile

/-! ### Association lists -/

section Keys

variable {α : Type} {key other : String}

theorem lookup_cons_eq (key name : String) (value : α) (rest : List (String × α)) :
    ((name, value) :: rest).lookup key = if key = name then some value else rest.lookup key := by
  by_cases h : key = name
  · rw [if_pos h, h, List.lookup_cons_self]
  · rw [if_neg h, List.lookup_cons, beq_false_of_ne h]

theorem lookup_bindKey_self (key : String) (value : α) (entries : List (String × α)) :
    (bindKey key value entries).lookup key = some value := by
  induction entries with
  | nil => exact List.lookup_cons_self
  | cons entry rest ih =>
    obtain ⟨name, old⟩ := entry
    by_cases hname : name = key
    · simp [bindKey, hname]
    · simp [bindKey, hname, lookup_cons_eq, Ne.symm hname, ih]

theorem lookup_bindKey_of_ne (h : other ≠ key) (value : α) (entries : List (String × α)) :
    (bindKey key value entries).lookup other = entries.lookup other := by
  induction entries with
  | nil => simp [bindKey, lookup_cons_eq, h]
  | cons entry rest ih =>
    obtain ⟨name, old⟩ := entry
    by_cases hname : name = key
    · subst hname
      simp [bindKey, lookup_cons_eq, h]
    · simp [bindKey, hname, lookup_cons_eq, ih]

theorem lookup_unbindKey_self (key : String) (entries : List (String × α)) :
    (unbindKey key entries).lookup key = none := by
  rw [List.lookup_eq_none_iff]
  intro entry hentry
  have hne : entry.1 ≠ key := by
    simpa using (List.mem_filter.mp hentry).2
  simpa using hne.symm

theorem lookup_unbindKey_of_ne (h : other ≠ key) (entries : List (String × α)) :
    (unbindKey key entries).lookup other = entries.lookup other := by
  induction entries with
  | nil => rfl
  | cons entry rest ih =>
    obtain ⟨name, value⟩ := entry
    by_cases hname : name = key
    · have hrest : unbindKey key ((name, value) :: rest) = unbindKey key rest := by
        simp [unbindKey, hname]
      rw [hrest, ih, lookup_cons_eq, if_neg (hname ▸ h)]
    · have hrest : unbindKey key ((name, value) :: rest) = (name, value) :: unbindKey key rest := by
        simp [unbindKey, hname]
      rw [hrest, lookup_cons_eq, lookup_cons_eq, ih]

end Keys

namespace Store

/-! ### Calls that work -/

/-- No call of a command fails. -/
def Accepts (store : Store) (command : StoreCommand) : Prop :=
  ∀ number, store.outage number command = false

theorem call_of_works {α : Type} {store : Store} {call : StoreCall}
    (h : store.outage store.calls.length call.command = false) (act : Store → α × Store) :
    store.call call act = (.ok (act { store with calls := store.calls ++ [call] }).1,
      (act { store with calls := store.calls ++ [call] }).2) := by
  rw [Store.call, h]
  rfl

theorem call_of_accepts {α : Type} {store : Store} {call : StoreCall}
    (h : store.Accepts call.command) (act : Store → α × Store) :
    store.call call act = (.ok (act { store with calls := store.calls ++ [call] }).1,
      (act { store with calls := store.calls ++ [call] }).2) :=
  call_of_works (h store.calls.length) act

theorem call_of_down {α : Type} {store : Store} {call : StoreCall}
    (h : store.outage store.calls.length call.command = true) (act : Store → α × Store) :
    store.call call act = (.error {}, { store with calls := store.calls ++ [call] }) := by
  rw [Store.call, h]
  rfl

/-- Two stores whose calls fail alike and that hold the same under every key. -/
structure Alike (store other : Store) : Prop where
  outage : other.outage = store.outage
  value? : ∀ key, other.value? key = store.value? key

namespace Alike

variable {store next other : Store}

theorem refl (store : Store) : store.Alike store :=
  ⟨rfl, fun _ ↦ rfl⟩

theorem trans (h : store.Alike next) (hnext : next.Alike other) : store.Alike other :=
  ⟨hnext.outage.trans h.outage, fun key ↦ (hnext.value? key).trans (h.value? key)⟩

theorem accepts {command : StoreCommand} (h : store.Alike other)
    (haccepts : store.Accepts command) : other.Accepts command :=
  fun number ↦ by rw [h.outage, haccepts number]

end Alike

/-- A call that leaves the keys alone does so whether or not it fails. -/
theorem alike_call {α : Type} (store : Store) (call : StoreCall) {act : Store → α × Store}
    (hact : ∀ recorded : Store, recorded.Alike (act recorded).2) :
    store.Alike (store.call call act).2 := by
  have hrecorded : store.Alike { store with calls := store.calls ++ [call] } :=
    ⟨rfl, fun _ ↦ rfl⟩
  unfold Store.call
  dsimp only
  split
  · exact hrecorded
  · exact hrecorded.trans (hact _)

theorem alike_get (store : Store) (key : String) : store.Alike (store.get key).2 :=
  store.alike_call _ .refl

theorem alike_close (store : Store) : store.Alike store.close.2 := by
  unfold close
  dsimp only
  split <;> exact ⟨rfl, fun _ ↦ rfl⟩

theorem get_fst {store : Store} (h : store.Accepts .get) (key : String) :
    (store.get key).1 = .ok (store.value? key) := by
  rw [get, call_of_accepts h]
  rfl

/-- A store after a key was set. -/
structure Holds (after before : Store) (key value : String) : Prop where
  outage : after.outage = before.outage
  value?_self : after.value? key = some value
  value?_of_ne : ∀ other, other ≠ key → after.value? other = before.value? other

theorem holds_withKey (store : Store) (key value : String) :
    (store.withKey key value).Holds store key value where
  outage := rfl
  value?_self := lookup_bindKey_self key value store.data
  value?_of_ne _ h := lookup_bindKey_of_ne h value store.data

theorem set_eq {store : Store} (h : store.Accepts .set) (key value : String) :
    ∃ after, store.set key value = (.ok (), after) ∧ after.Holds store key value := by
  have hafter :=
    holds_withKey { store with calls := store.calls ++ [.set key false none] } key value
  exact ⟨_, call_of_accepts h _, hafter.outage, hafter.value?_self, hafter.value?_of_ne⟩

/-- A store that was asked for a key, whatever came of it. -/
def asked (store : Store) (key : String) (lifetime : Int) : Store :=
  { store with calls := store.calls ++ [.set key true (some lifetime)] }

theorem alike_asked (store : Store) (key : String) (lifetime : Int) :
    store.Alike (store.asked key lifetime) :=
  ⟨rfl, fun _ ↦ rfl⟩

theorem acquire_eq (store : Store) (key value : String) (lifetime : Int) :
    store.acquire key value lifetime =
      if store.outage store.calls.length .set then (.error {}, store.asked key lifetime)
      else if (store.value? key).isSome then (.ok false, store.asked key lifetime)
      else (.ok true, (store.asked key lifetime).withKey key value) := by
  have hvalue : (store.asked key lifetime).value? key = store.value? key := rfl
  rw [← hvalue]
  cases hdown : store.outage store.calls.length .set with
  | true => exact call_of_down hdown _
  | false =>
    refine (call_of_works hdown _).trans ?_
    unfold asked
    rw [if_neg Bool.false_ne_true]
    split_ifs <;> rfl

theorem holds_asked_withKey (store : Store) (key value : String) (lifetime : Int) :
    ((store.asked key lifetime).withKey key value).Holds store key value where
  outage := rfl
  value?_self := lookup_bindKey_self key value store.data
  value?_of_ne _ h := lookup_bindKey_of_ne h value store.data

/-- A key is acquired exactly if nothing is held under it. -/
theorem acquire_cases {store : Store} (h : store.Accepts .set) (key value : String)
    (lifetime : Int) :
    (∃ after, store.acquire key value lifetime = (.ok false, after) ∧
        store.value? key ≠ none ∧ store.Alike after) ∨
      ∃ after, store.acquire key value lifetime = (.ok true, after) ∧ store.value? key = none ∧
        after.Holds store key value := by
  rw [acquire_eq, h, if_neg Bool.false_ne_true]
  split_ifs with hbound
  · exact Or.inl ⟨_, rfl, Option.isSome_iff_ne_none.mp hbound, store.alike_asked key lifetime⟩
  · exact Or.inr ⟨_, rfl, Option.not_isSome_iff_eq_none.mp hbound,
      store.holds_asked_withKey key value lifetime⟩

/-- A key stays held as long as the keys stay as they are. -/
theorem Holds.alike {before held after : Store} {key value : String}
    (h : held.Holds before key value) (halike : held.Alike after) :
    after.Holds before key value where
  outage := halike.outage.trans h.outage
  value?_self := (halike.value? key).trans h.value?_self
  value?_of_ne other hother := (halike.value? other).trans (h.value?_of_ne other hother)

/-- Deleting a key that was bound for a while leaves the keys as they were before. -/
theorem Holds.alike_delete {before held : Store} {key value : String}
    (h : held.Holds before key value) (hfree : before.value? key = none)
    (hdelete : before.Accepts .delete) : before.Alike (held.delete key).2 := by
  have haccepts : held.Accepts .delete := fun number ↦ by rw [h.outage, hdelete number]
  rw [delete, call_of_accepts haccepts]
  refine ⟨h.outage, fun other ↦ ?_⟩
  by_cases hother : other = key
  · -- The key was free before, so it is right to leave it unbound.
    subst hother
    rw [hfree]
    exact lookup_unbindKey_self other held.data
  · rw [← h.value?_of_ne other hother]
    exact lookup_unbindKey_of_ne hother held.data

end Store

/-! ### Lock sections -/

/-- A section leaves out its body, or runs it while it holds the key and then deletes the key. -/
theorem Lock.run_cases {α : Type} {store : Store} (hset : store.Accepts .set) (settings : Settings)
    (stackName : String) (lifetime : Option Int) (body : Store → α × Store) :
    (∃ after, run store settings stackName lifetime body = (none, after) ∧ store.Alike after) ∨
      ∃ held, run store settings stackName lifetime body =
          (some (body held).1, ((body held).2.delete (key stackName)).2) ∧
        store.value? (key stackName) = none ∧ held.Holds store (key stackName) "1" := by
  unfold run
  rcases store.acquire_cases hset (key stackName) "1" (lifetime.getD settings.lockLifetime) with
    ⟨after, hacquire, -, halike⟩ | ⟨held, hacquire, hfree, hheld⟩
  · rw [hacquire]
    exact Or.inl ⟨after, rfl, halike⟩
  · rw [hacquire]
    exact Or.inr ⟨held, rfl, hfree, hheld⟩

theorem Lock.alike_run {α : Type} {store : Store} (hset : store.Accepts .set)
    (hdelete : store.Accepts .delete) (settings : Settings) (stackName : String)
    (lifetime : Option Int) (result : α) :
    store.Alike (run store settings stackName lifetime fun held ↦ (result, held)).2 := by
  rcases run_cases hset settings stackName lifetime fun held ↦ (result, held) with
    ⟨after, hrun, halike⟩ | ⟨held, hrun, hfree, hheld⟩
  · rw [hrun]
    exact halike
  · rw [hrun]
    exact hheld.alike_delete hfree hdelete

theorem Lock.run_fst {α : Type} (store : Store) (settings : Settings) (stackName : String)
    (lifetime : Option Int) (result : α) :
    (run store settings stackName lifetime fun held ↦ (result, held)).1 = none ∨
      (run store settings stackName lifetime fun held ↦ (result, held)).1 = some result := by
  unfold run
  split
  · exact Or.inr rfl
  · exact Or.inl rfl
  · exact Or.inr rfl

/-! ### The feed -/

theorem Feed.alike_publish (stackName : String) (events : List Event) (store : Store) :
    store.Alike (publish store stackName events).2 := by
  induction events generalizing store with
  | nil => exact .refl store
  | cons event rest ih =>
    have happend : store.Alike (store.append (key stackName) event).2 :=
      store.alike_call _ fun _ ↦ ⟨rfl, fun _ ↦ rfl⟩
    rcases hcall : store.append (key stackName) event with ⟨_ | id, after⟩
    · rw [hcall] at happend
      rw [publish, hcall]
      exact happend
    · rw [hcall] at happend
      rw [publish, hcall]
      exact happend.trans (ih after)

theorem Feed.alike_latest (store : Store) (stackName : String) (count : Int) :
    store.Alike (latest store stackName count).2 := by
  unfold latest Store.readLatest
  exact store.alike_call _ fun recorded ↦ .refl recorded

end Cardfile
