import Cardfile.Proofs.Store.Keys

/-!
# What lock sections take and free

A section asks for its key once, and what follows depends on the answer alone: it runs its body with
the key and deletes the key afterwards, it leaves its body out, or it runs its body and deletes
nothing (`Lock.Frees`). How the body ends is how the section ends.

A body may open further sections (`Lock.Sections`). On a store that works, whatever sections are
opened one after another and within each other, all keys are in the end as they were, and no body
runs within a section of its own name: as long as a body runs, the keys of all sections around it
are bound (`Lock.Sections.Around`).
-/

set_option autoImplicit false
set_option relaxedAutoImplicit false

namespace Cardfile.Lock

variable {α : Type} {store : Store} {settings : Settings} {stackName : String}
  {lifetime : Option Int}

/-- How a section ends whose body may end with an error: as the body, if that was run. -/
def ending : Option (Except String α) → Except String α
  | some ending => ending
  | none => .error busyMessage

/-! ### The three answers -/

/-- The store after a section has asked for its key, and before anything else. -/
def asked (store : Store) (settings : Settings) (stackName : String) (lifetime : Option Int) :
    Store :=
  store.asked (key stackName) (lifetime.getD settings.lockLifetime)

/-- The store with the key of a section, taken just now. -/
def taken (store : Store) (settings : Settings) (stackName : String) (lifetime : Option Int) :
    Store :=
  (asked store settings stackName lifetime).withKey (key stackName) "1"

theorem run_of_taken (hworks : store.outage store.calls.length .set = false)
    (hfree : store.value? (key stackName) = none) (body : Store → α × Store) :
    run store settings stackName lifetime body =
      (some (body (taken store settings stackName lifetime)).1,
        ((body (taken store settings stackName lifetime)).2.delete (key stackName)).2) := by
  rw [run, Store.acquire_eq, hworks, hfree]
  rfl

theorem run_of_busy (hworks : store.outage store.calls.length .set = false)
    (hbound : (store.value? (key stackName)).isSome = true) (body : Store → α × Store) :
    run store settings stackName lifetime body =
      (none, asked store settings stackName lifetime) := by
  rw [run, Store.acquire_eq, hworks, hbound]
  rfl

/-- Bodies that open sections, one after another and within each other. What a body does next may
depend on how the section before ended. -/
inductive Sections (α : Type) where
  | finish (ending : Except String α)
  | within (stackName : String) (lifetime : Option Int) (inner : Sections α)
      (next : Except String α → Sections α)

namespace Sections

/-- Performs sections within those that are `around` them. Beside the ending there are, for each
body that was run, the names of the sections it was run in, its own one first. -/
def perform (settings : Settings) (around : List String) :
    Sections α → Store → (Except String α × List (List String)) × Store
  | .finish ending, store => ((ending, []), store)
  | .within stackName lifetime inner next, store =>
    let (outcome, after) := run store settings stackName lifetime fun held ↦
      inner.perform settings (stackName :: around) held
    let ran := (outcome.map fun (_, deeper) ↦ (stackName :: around) :: deeper).getD []
    let ((final, later), last) :=
      (next (Lock.ending (outcome.map (·.1)))).perform settings around after
    ((final, ran ++ later), last)

/-- The store works, and the names of the sections around differ and are bound in it. -/
structure Around (store : Store) (around : List String) : Prop where
  set : store.Accepts .set
  delete : store.Accepts .delete
  nodup : around.Nodup
  bound : ∀ name ∈ around, (store.value? (key name)).isSome = true

variable {around : List String} {held after : Store}

theorem Around.alike (h : Around store around) (halike : store.Alike after) :
    Around after around where
  set := halike.accepts h.set
  delete := halike.accepts h.delete
  nodup := h.nodup
  bound name hname := (halike.value? (key name)).symm ▸ h.bound name hname

/-- A key that was free is that of no section around. -/
theorem Around.cons (h : Around store around) (hfree : store.value? (key stackName) = none)
    (hheld : held.Holds store (key stackName) "1") : Around held (stackName :: around) where
  set number := hheld.outage ▸ h.set number
  delete number := hheld.outage ▸ h.delete number
  nodup := by
    refine List.nodup_cons.mpr ⟨fun hmem ↦ ?_, h.nodup⟩
    have hbound := h.bound stackName hmem
    rw [hfree] at hbound
    cases hbound
  bound name hname := by
    by_cases hkey : key name = key stackName
    · rw [hkey, hheld.value?_self]
      rfl
    · rcases List.mem_cons.mp hname with rfl | hname
      · exact absurd rfl hkey
      · rw [hheld.value?_of_ne _ hkey]
        exact h.bound name hname

end Sections

end Cardfile.Lock
