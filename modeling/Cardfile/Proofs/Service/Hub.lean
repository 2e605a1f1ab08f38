import Cardfile.Proofs.Service.Watching
import Mathlib.Data.List.Induction
import Mathlib.Data.Set.Card

/-!
# Watchers over time

Watchers connect to stacks and disconnect from them, and updates are broadcast to the watchers of a
stack (`Watchers.Call`). A watcher is live on a stack if it has connected there and has neither been
disconnected nor missed an update since (`Watchers.IsLive`). Each call does to the watchers of a
stack what it does to the live ones (`Watchers.mem_after_iff`), so after any calls those who are
kept for a stack are the live ones, each of them once, and stacks without any are not kept
(`Watchers.kept_run`).
-/

set_option autoImplicit false
set_option relaxedAutoImplicit false

namespace Cardfile.Watchers

variable {watchers : Watchers} {stackName : String} {id : WatcherId}

/-! ### Calls -/

/-- A call with its arguments. A broadcast comes with the watchers that it can be delivered to. -/
inductive Call where
  | connect (stackName : String) (id : WatcherId)
  | disconnect (stackName : String) (id : WatcherId)
  | broadcast (stackName : String) (update : Update) (delivers : WatcherId → Bool)

def after (watchers : Watchers) : Call → Watchers
  | .connect stackName id => watchers.connect stackName id
  | .disconnect stackName id => watchers.disconnect stackName id
  | .broadcast stackName update delivers => (watchers.broadcast stackName update delivers).watchers

def run (watchers : Watchers) (calls : List Call) : Watchers :=
  calls.foldl after watchers

theorem run_concat (watchers : Watchers) (calls : List Call) (call : Call) :
    watchers.run (calls ++ [call]) = (watchers.run calls).after call := by
  rw [run, run, List.foldl_concat]

/-! ### Live watchers -/

/-- A call that ends the watching of a stack by someone: it disconnects them from the stack, or it
broadcasts to the stack and cannot be delivered to them. -/
def Call.Ends (stackName : String) (id : WatcherId) : Call → Prop
  | .connect _ _ => False
  | .disconnect name other => name = stackName ∧ other = id
  | .broadcast name _ delivers => name = stackName ∧ delivers id = false

/-- Someone has connected to a stack, and no later call has ended that. -/
def IsLive (calls : List Call) (stackName : String) (id : WatcherId) : Prop :=
  ∃ earlier later, calls = earlier ++ .connect stackName id :: later ∧
    ∀ call ∈ later, ¬ call.Ends stackName id

theorem not_isLive_nil : ¬ IsLive [] stackName id := by
  rintro ⟨earlier, later, hcalls, -⟩
  simp at hcalls

theorem isLive_concat_iff {calls : List Call} {call : Call} :
    IsLive (calls ++ [call]) stackName id ↔
      call = .connect stackName id ∨ IsLive calls stackName id ∧ ¬ call.Ends stackName id := by
  constructor
  · rintro ⟨earlier, later, hcalls, hlater⟩
    rcases List.eq_nil_or_concat' later with rfl | ⟨later, last, rfl⟩
    · obtain ⟨-, hcall⟩ := List.append_inj' hcalls rfl
      exact Or.inl (List.singleton_inj.mp hcall)
    · rw [← List.cons_append, ← List.append_assoc] at hcalls
      obtain ⟨rfl, hcall⟩ := List.append_inj' hcalls rfl
      obtain rfl := List.singleton_inj.mp hcall
      obtain ⟨hlater, hcall⟩ := List.forall_mem_append.mp hlater
      exact Or.inr ⟨⟨earlier, later, rfl, hlater⟩, hcall call List.mem_cons_self⟩
  · rintro (rfl | ⟨⟨earlier, later, rfl, hlater⟩, hcall⟩)
    · exact ⟨calls, [], rfl, by simp⟩
    · refine ⟨earlier, later ++ [call], by simp, ?_⟩
      intro other hother
      rcases List.mem_append.mp hother with hmem | hmem
      · exact hlater other hmem
      · rw [List.mem_singleton.mp hmem]
        exact hcall

/-! ### One call -/

theorem of_connect_of_ne {otherName : String} (hname : stackName ≠ otherName)
    (watchers : Watchers) (id : WatcherId) :
    (watchers.connect otherName id).of stackName = watchers.of stackName := by
  rw [connect, of_withGroup_of_ne hname]

/-- After a call, someone watches a stack who has just connected there, or who has watched it before
and whose watching the call does not end. -/
theorem mem_after_iff (call : Call) : id ∈ (watchers.after call).of stackName ↔
    call = .connect stackName id ∨ id ∈ watchers.of stackName ∧ ¬ call.Ends stackName id := by
  cases call with
  | connect name other =>
    have hends : ¬ (Call.connect name other).Ends stackName id := not_false
    rw [and_iff_left hends]
    by_cases hname : name = stackName
    · subst hname
      have hcall : Call.connect name other = .connect name id ↔ id = other := by
        simp [eq_comm]
      rw [after, of_connect, hcall]
      split_ifs with hmem
      · constructor
        · exact Or.inr
        · rintro (rfl | hid)
          · exact hmem
          · exact hid
      · rw [List.mem_append, List.mem_singleton, or_comm]
    · rw [after, of_connect_of_ne (Ne.symm hname)]
      simp [hname]
  | disconnect name other =>
    rw [after, of_disconnect]
    by_cases hname : name = stackName
    · have hother : id ≠ other ↔ ¬ other = id := ne_comm
      simp [Call.Ends, hname, hother]
    · simp [Call.Ends, hname, Ne.symm hname]
  | broadcast name update delivers =>
    rw [after, of_broadcast]
    by_cases hname : name = stackName
    · simp [Call.Ends, hname]
    · simp [Call.Ends, hname, Ne.symm hname]

theorem nodup_after (h : ∀ stackName, (watchers.of stackName).Nodup) (call : Call)
    (stackName : String) : ((watchers.after call).of stackName).Nodup := by
  cases call with
  | connect name id =>
    by_cases hname : stackName = name
    · rw [hname]
      exact nodup_connect (h name) id
    · rw [after, of_connect_of_ne hname]
      exact h stackName
  | disconnect name id => exact nodup_disconnect (h stackName) name id
  | broadcast name update delivers =>
    rw [after, of_broadcast]
    split_ifs with hname
    · exact (h stackName).filter _
    · exact h stackName

/-- No stack is kept without watchers. -/
def IsTidy (watchers : Watchers) : Prop :=
  ∀ group ∈ watchers.groups, group.2 ≠ []

theorem IsTidy.withGroup (h : watchers.IsTidy) (stackName : String) (group : List WatcherId) :
    (watchers.withGroup stackName group).IsTidy := by
  intro kept hkept
  unfold Watchers.withGroup at hkept
  dsimp only at hkept
  split_ifs at hkept with hempty
  · exact h kept (List.mem_of_mem_filter hkept)
  · rcases List.mem_cons.mp hkept with rfl | hother
    · simpa using hempty
    · exact h kept (List.mem_of_mem_filter hother)

theorem IsTidy.offerEach (h : watchers.IsTidy) (stackName : String) (update : Update)
    (delivers : WatcherId → Bool) (ids : List WatcherId) :
    (watchers.offerEach stackName update delivers ids).watchers.IsTidy := by
  induction ids generalizing watchers with
  | nil => exact h
  | cons id rest ih =>
    rw [Watchers.offerEach]
    split_ifs with hdelivers
    · exact ih h
    · exact ih (h.withGroup stackName _)

theorem IsTidy.after (h : watchers.IsTidy) (call : Call) : (watchers.after call).IsTidy := by
  cases call with
  | connect name id => exact h.withGroup name _
  | disconnect name id => exact h.withGroup name _
  | broadcast name update delivers => exact h.offerEach name update delivers _

/-! ### Broadcasts -/

/-- What a broadcast does: it offers the update once to everyone who watches the stack and to nobody
else, counts those whom it was delivered to, and takes away exactly the others of them. -/
structure Broadcasts (watchers : Watchers) (stackName : String) (update : Update)
    (delivers : WatcherId → Bool) (delivery : Delivery) : Prop where
  once : (delivery.offers.map (·.watcher)).Nodup
  offered : ∀ id, id ∈ delivery.offers.map (·.watcher) ↔ id ∈ watchers.of stackName
  update : ∀ offer ∈ delivery.offers,
    offer.update = update ∧ offer.delivered = delivers offer.watcher
  reached : delivery.reached = (delivery.offers.filter (·.delivered)).length
  left : ∀ id, id ∈ delivery.watchers.of stackName ↔
    id ∈ watchers.of stackName ∧ delivers id = true
  others : ∀ otherName, otherName ≠ stackName →
    delivery.watchers.of otherName = watchers.of otherName

theorem broadcasts_broadcast (hnodup : (watchers.of stackName).Nodup) (update : Update)
    (delivers : WatcherId → Bool) :
    watchers.Broadcasts stackName update delivers
      (watchers.broadcast stackName update delivers) := by
  have hoffered : (watchers.broadcast stackName update delivers).offers.map (·.watcher) =
      watchers.of stackName := by
    rw [broadcast, offers_offerEach, List.map_map]
    exact List.map_id _
  exact {
    once := hoffered ▸ hnodup
    offered := by
      intro id
      rw [hoffered]
    update := by
      intro offer hoffer
      rw [broadcast, offers_offerEach] at hoffer
      obtain ⟨id, -, rfl⟩ := List.mem_map.mp hoffer
      exact ⟨rfl, rfl⟩
    reached := by
      rw [delivered_broadcast, List.length_map, broadcast, reached_offerEach]
    left := by
      intro id
      rw [of_broadcast, if_pos rfl, List.mem_filter]
    others := by
      intro otherName hname
      rw [of_broadcast, if_neg hname] }

/-! ### Runs -/

theorem mem_run_iff (calls : List Call) :
    id ∈ (run {} calls).of stackName ↔ IsLive calls stackName id := by
  induction calls using List.reverseRecOn with
  | nil => exact iff_of_false List.not_mem_nil not_isLive_nil
  | append_singleton calls call ih => rw [run_concat, mem_after_iff, ih, isLive_concat_iff]

theorem nodup_run (calls : List Call) (stackName : String) :
    ((run {} calls).of stackName).Nodup := by
  induction calls using List.reverseRecOn generalizing stackName with
  | nil => exact List.nodup_nil
  | append_singleton calls call ih =>
    rw [run_concat]
    exact nodup_after ih call stackName

theorem isTidy_run (calls : List Call) : (run {} calls).IsTidy := by
  induction calls using List.reverseRecOn with
  | nil =>
    intro group hgroup
    cases hgroup
  | append_singleton calls call ih =>
    rw [run_concat]
    exact ih.after call

/-- After any calls, the watchers of each stack are those who are live there, and as many of them
are counted. No stack without watchers is kept. A broadcast at this point offers its update once to
each live watcher of the stack, counts those it was delivered to, and takes away those it was not
delivered to, and nobody else on any stack. -/
theorem kept_run (calls : List Call) :
    (∀ stackName, (∀ id, id ∈ (run {} calls).of stackName ↔ IsLive calls stackName id) ∧
        (run {} calls).watching stackName = {id | IsLive calls stackName id}.ncard) ∧
      (∀ group ∈ (run {} calls).groups, group.2 ≠ []) ∧
      ∀ stackName update delivers, (run {} calls).Broadcasts stackName update delivers
        ((run {} calls).broadcast stackName update delivers) := by
  refine ⟨?_, isTidy_run calls, ?_⟩
  · intro stackName
    have hlive (id : WatcherId) :
        id ∈ (run {} calls).of stackName ↔ IsLive calls stackName id :=
      mem_run_iff calls
    refine ⟨hlive, ?_⟩
    have hset : {id | IsLive calls stackName id} = ((run {} calls).of stackName).toFinset := by
      ext id
      simp [hlive]
    rw [hset, Set.ncard_coe_finset, List.toFinset_card_of_nodup (nodup_run calls stackName),
      watching]
  · intro stackName update delivers
    exact broadcasts_broadcast (nodup_run calls stackName) update delivers

end Cardfile.Watchers
