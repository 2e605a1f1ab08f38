import Cardfile.Proofs.Store.Keys
import Mathlib.Logic.Function.Basic

/-!
# Clients that contend for a lock

Any number of clients run lock sections for one stack against one store, in any order of their
steps: they ask for the key, do the work of their bodies, and delete the key. In the meantime the
time passes, and once the lifetime of a key is over the key may go (`Lock.Scene.move`). The steps of
one client alone make up a lock section (`Lock.Scene.store_play_alone`).

A client that stays in its body longer than the lifetime of its key deletes a key in the end that
is no longer its own. If another client holds the lock by then, within its lifetime, it holds it
without a key from there on. That is the only way in which the lock fails to exclude others
(`Lock.Scene.excludes_iff_no_late_leave`): as long as no client leaves like that, the key of every
client within its lifetime is bound (`Lock.Scene.Guarded`).
-/

set_option autoImplicit false
set_option relaxedAutoImplicit false

namespace Cardfile.Lock

variable {settings : Settings} {stackName : String} {lifetime : Option Int} {client other : Nat}

/-! ### Scenes and moves -/

/-- A step of a body: it does anything to the store, but not to the lock key. -/
structure Deed (stackName : String) where
  act : Store → Store
  outage : ∀ store, (act store).outage = store.outage
  value? : ∀ store, (act store).value? (key stackName) = store.value? (key stackName)

inductive Move (stackName : String) where
  | enter (client : Nat) (lifetime : Option Int)
  | work (client : Nat) (deed : Deed stackName)
  | leave (client : Nat)
  /-- The key goes, if its lifetime is over. -/
  | expire
  | pass (span : Nat)

/-- The store, the time, when the lifetime of the key is over that was bound last, and the clients
that are in their bodies, each with the end of the lifetime it asked for. -/
structure Scene where
  store : Store := {}
  clock : Int := 0
  keyEnd : Int := 0
  inside : Nat → Option Int := fun _ ↦ none

namespace Scene

variable {scene : Scene}

/-- A client asks for the key with a lifetime. If it is taken, the client does not enter. -/
def enter (scene : Scene) (stackName : String) (client : Nat) (span : Int) : Scene :=
  match scene.store.acquire (key stackName) "1" span with
  | (.ok true, held) =>
    { scene with
      store := held
      keyEnd := scene.clock + span
      inside := Function.update scene.inside client (some (scene.clock + span)) }
  | (_, after) => { scene with store := after }

/-- A client ends its body, and deletes the key whoever has bound it. -/
def leave (scene : Scene) (stackName : String) (client : Nat) : Scene :=
  { scene with
    store := (scene.store.delete (key stackName)).2
    inside := Function.update scene.inside client none }

/-- The scene after a move. A client enters only from outside, and works and leaves only from
inside; other moves of clients come to nothing. -/
def move (settings : Settings) (scene : Scene) : Move stackName → Scene
  | .enter client lifetime =>
    if (scene.inside client).isSome then scene
    else scene.enter stackName client (lifetime.getD settings.lockLifetime)
  | .work client deed =>
    if (scene.inside client).isSome then { scene with store := deed.act scene.store } else scene
  | .leave client => if (scene.inside client).isSome then scene.leave stackName client else scene
  | .expire =>
    if scene.keyEnd ≤ scene.clock then
      { scene with store := scene.store.withoutKey (key stackName) }
    else scene
  | .pass span => { scene with clock := scene.clock + span }

def play (settings : Settings) (scene : Scene) (moves : List (Move stackName)) : Scene :=
  moves.foldl (move settings) scene

/-- The steps of one client, with none of others between them, lead to the store that a lock section
leads to. -/
theorem store_play_alone (hset : scene.store.Accepts .set) (houtside : scene.inside client = none)
    (deed : Deed stackName) :
    (scene.play settings [.enter client lifetime, .work client deed, .leave client]).store =
      (run scene.store settings stackName lifetime fun held ↦ ((), deed.act held)).2 := by
  simp only [play, List.foldl_cons, List.foldl_nil]
  rcases scene.store.acquire_cases hset (key stackName) "1" (lifetime.getD settings.lockLifetime)
    with ⟨after, hacquire, -, -⟩ | ⟨held, hacquire, -, -⟩
  · simp [move, enter, run, hacquire, houtside]
  · simp [move, enter, leave, run, hacquire, houtside]

/-! ### What is excluded -/

/-- A client is in its body, and the lifetime that it asked for is not over. -/
def Entitled (scene : Scene) (client : Nat) : Prop :=
  ∃ limit, scene.inside client = some limit ∧ scene.clock < limit

/-- While a client is entitled, nobody who asks for the key gets it. -/
def Excludes (scene : Scene) (stackName : String) : Prop :=
  ∀ client, scene.Entitled client → ∀ lifetime,
    (scene.store.acquire (key stackName) "1" lifetime).1 ≠ .ok true

/-- A client is in its body although the lifetime that it asked for is over, and another one is
entitled. -/
def Overstays (scene : Scene) (client : Nat) : Prop :=
  (∃ limit, scene.inside client = some limit ∧ limit ≤ scene.clock) ∧
    ∃ other, scene.Entitled other

/-! ### What one move keeps -/

/-- The store works, and the key of an entitled client is bound, with the end of its lifetime. So
there is no more than one of them. -/
structure Guarded (scene : Scene) (stackName : String) : Prop where
  set : scene.store.Accepts .set
  delete : scene.store.Accepts .delete
  bound : ∀ client, scene.Entitled client → (scene.store.value? (key stackName)).isSome = true
  inside_eq : ∀ client, scene.Entitled client → scene.inside client = some scene.keyEnd
  alone : ∀ client other, scene.Entitled client → scene.Entitled other → client = other

theorem Guarded.excludes (h : scene.Guarded stackName) : scene.Excludes stackName := by
  intro client hclient lifetime hacquired
  rcases scene.store.acquire_cases h.set (key stackName) "1" lifetime with
    ⟨after, hacquire, -, -⟩ | ⟨held, -, hfree, -⟩
  · rw [hacquire] at hacquired
    cases hacquired
  · have hbound := h.bound client hclient
    rw [hfree] at hbound
    cases hbound

/-- Without entitled clients there is nothing to guard. -/
theorem guarded_of_nobody (hset : scene.store.Accepts .set) (hdelete : scene.store.Accepts .delete)
    (hnobody : ∀ client, ¬scene.Entitled client) : scene.Guarded stackName where
  set := hset
  delete := hdelete
  bound client hclient := absurd hclient (hnobody client)
  inside_eq client hclient := absurd hclient (hnobody client)
  alone client _ hclient := absurd hclient (hnobody client)

theorem Guarded.withStore (h : scene.Guarded stackName) {store : Store}
    (houtage : store.outage = scene.store.outage)
    (hvalue : store.value? (key stackName) = scene.store.value? (key stackName)) :
    { scene with store := store }.Guarded stackName where
  set number := houtage ▸ h.set number
  delete number := houtage ▸ h.delete number
  bound client hclient := hvalue ▸ h.bound client hclient
  inside_eq := h.inside_eq
  alone := h.alone

theorem eq_some_of_update {inside : Nat → Option Int} {limit? : Option Int} {limit : Int}
    (h : Function.update inside client limit? other = some limit) :
    other = client ∧ limit? = some limit ∨ other ≠ client ∧ inside other = some limit := by
  by_cases hother : other = client
  · rw [hother, Function.update_self] at h
    exact Or.inl ⟨hother, h⟩
  · rw [Function.update_of_ne hother] at h
    exact Or.inr ⟨hother, h⟩

/-- A client that enters where nobody is entitled is the only one. -/
theorem guarded_of_entered {held : Store} {span : Int} (hset : held.Accepts .set)
    (hdelete : held.Accepts .delete) (hbound : held.value? (key stackName) = some "1")
    (hnobody : ∀ client, ¬scene.Entitled client) (client : Nat) :
    { scene with
      store := held
      keyEnd := scene.clock + span
      inside := Function.update scene.inside client
        (some (scene.clock + span)) }.Guarded stackName := by
  have hentered : ∀ other limit,
      Function.update scene.inside client (some (scene.clock + span)) other = some limit →
      scene.clock < limit → other = client ∧ scene.clock + span = limit := by
    intro other limit hinside hlimit
    rcases eq_some_of_update hinside with ⟨hother, hsame⟩ | ⟨-, hbefore⟩
    · exact ⟨hother, Option.some.inj hsame⟩
    · exact absurd ⟨limit, hbefore, hlimit⟩ (hnobody other)
  exact {
    set := hset
    delete := hdelete
    bound := fun _ _ ↦ Option.isSome_iff_exists.mpr ⟨"1", hbound⟩
    inside_eq := by
      rintro other ⟨limit, hinside, hlimit⟩
      rw [← (hentered other limit hinside hlimit).2] at hinside
      exact hinside
    alone := by
      rintro first second ⟨limit, hfirst, hlimit⟩ ⟨later, hsecond, hlater⟩
      rw [(hentered first limit hfirst hlimit).1, (hentered second later hsecond hlater).1] }

theorem Guarded.enter (h : scene.Guarded stackName) (client : Nat) (span : Int) :
    (scene.enter stackName client span).Guarded stackName := by
  unfold Scene.enter
  rcases scene.store.acquire_cases h.set (key stackName) "1" span with
    ⟨after, hacquire, -, halike⟩ | ⟨held, hacquire, hfree, hheld⟩
  · rw [hacquire]
    exact h.withStore halike.outage (halike.value? _)
  · rw [hacquire]
    refine guarded_of_entered (fun number ↦ hheld.outage ▸ h.set number)
      (fun number ↦ hheld.outage ▸ h.delete number) hheld.value?_self (fun other hother ↦ ?_) client
    have hbound := h.bound other hother
    rw [hfree] at hbound
    cases hbound

/-- Who is entitled after a client has left was so before, and is another client. -/
theorem entitled_of_leave (h : (scene.leave stackName client).Entitled other) :
    other ≠ client ∧ scene.Entitled other := by
  obtain ⟨limit, hinside, hlimit⟩ := h
  rcases eq_some_of_update hinside with ⟨-, hnone⟩ | ⟨hother, hbefore⟩
  · cases hnone
  · exact ⟨hother, limit, hbefore, hlimit⟩

theorem outage_leave (scene : Scene) (stackName : String) (client : Nat) :
    (scene.leave stackName client).store.outage = scene.store.outage := by
  show (scene.store.delete (key stackName)).2.outage = scene.store.outage
  unfold Store.delete Store.call
  dsimp only
  split <;> rfl

/-- A client that does not overstay leaves nobody entitled behind. -/
theorem Guarded.leave (h : scene.Guarded stackName) (hinside : (scene.inside client).isSome = true)
    (hstays : ¬scene.Overstays client) : (scene.leave stackName client).Guarded stackName := by
  have houtage := scene.outage_leave stackName client
  refine guarded_of_nobody (fun number ↦ houtage ▸ h.set number)
    (fun number ↦ houtage ▸ h.delete number) fun other hother ↦ ?_
  obtain ⟨hne, hbefore⟩ := entitled_of_leave hother
  obtain ⟨limit, hlimit⟩ := Option.isSome_iff_exists.mp hinside
  by_cases hover : limit ≤ scene.clock
  · exact hstays ⟨⟨limit, hlimit, hover⟩, other, hbefore⟩
  · exact hne (h.alone other client hbefore ⟨limit, hlimit, Int.not_le.mp hover⟩)

theorem Guarded.expire (h : scene.Guarded stackName) (hover : scene.keyEnd ≤ scene.clock) :
    { scene with store := scene.store.withoutKey (key stackName) }.Guarded stackName :=
  guarded_of_nobody h.set h.delete fun client hclient ↦ by
    obtain ⟨limit, hinside, hlimit⟩ := hclient
    have hsame := h.inside_eq client ⟨limit, hinside, hlimit⟩
    rw [hsame] at hinside
    obtain rfl := Option.some.inj hinside
    exact absurd hlimit (Int.not_lt.mpr hover)

theorem Guarded.pass (h : scene.Guarded stackName) (span : Nat) :
    { scene with clock := scene.clock + span }.Guarded stackName := by
  have hbefore : ∀ client, { scene with clock := scene.clock + span }.Entitled client →
      scene.Entitled client := by
    rintro client ⟨limit, hinside, hlimit⟩
    have hlimit : scene.clock + span < limit := hlimit
    exact ⟨limit, hinside, by omega⟩
  exact {
    set := h.set
    delete := h.delete
    bound := fun client hclient ↦ h.bound client (hbefore client hclient)
    inside_eq := fun client hclient ↦ h.inside_eq client (hbefore client hclient)
    alone := fun client other hclient hother ↦
      h.alone client other (hbefore client hclient) (hbefore other hother) }

/-- Of all moves only the leave of a client that overstays can end the guard. -/
theorem Guarded.move (h : scene.Guarded stackName) (settings : Settings) (move : Move stackName)
    (hstays : ∀ client, move = .leave client → ¬scene.Overstays client) :
    (scene.move settings move).Guarded stackName := by
  cases move with
  | enter client lifetime =>
    rw [Scene.move]
    split_ifs with hinside
    · exact h
    · exact h.enter client _
  | work client deed =>
    rw [Scene.move]
    split_ifs with hinside
    · exact h.withStore (deed.outage _) (deed.value? _)
    · exact h
  | leave client =>
    rw [Scene.move]
    split_ifs with hinside
    · exact h.leave hinside (hstays client rfl)
    · exact h
  | expire =>
    rw [Scene.move]
    split_ifs with hover
    · exact h.expire hover
    · exact h
  | pass span => exact h.pass span

/-! ### Whole runs -/

theorem outage_move (settings : Settings) (scene : Scene) (move : Move stackName) :
    (scene.move settings move).store.outage = scene.store.outage := by
  cases move with
  | enter client lifetime =>
    rw [Scene.move]
    split_ifs
    · rfl
    · unfold Scene.enter Store.acquire Store.call
      dsimp only
      split_ifs <;> rfl
  | work client deed =>
    rw [Scene.move]
    split_ifs
    · exact deed.outage _
    · rfl
  | leave client =>
    rw [Scene.move]
    split_ifs
    · exact scene.outage_leave stackName client
    · rfl
  | expire =>
    rw [Scene.move]
    split_ifs <;> rfl
  | pass span => rfl

theorem outage_play (settings : Settings) (scene : Scene) (moves : List (Move stackName)) :
    (scene.play settings moves).store.outage = scene.store.outage := by
  induction moves generalizing scene with
  | nil => rfl
  | cons move rest ih => exact (ih _).trans (scene.outage_move settings move)

theorem Guarded.play (h : scene.Guarded stackName) (settings : Settings)
    (moves : List (Move stackName))
    (hstays : ∀ before client later, moves = before ++ .leave client :: later →
      ¬(scene.play settings before).Overstays client) :
    (scene.play settings moves).Guarded stackName := by
  induction moves generalizing scene with
  | nil => exact h
  | cons move rest ih =>
    refine ih (h.move settings move fun client hmove ↦ ?_) fun before client later hrest ↦ ?_
    · exact hstays [] client rest (hmove ▸ rfl)
    · exact hstays (move :: before) client later (hrest ▸ rfl)

/-- After a client that overstays has left, another one is entitled without a key. -/
theorem not_excludes_of_overstays (settings : Settings) (stackName : String)
    (hset : scene.store.Accepts .set) (hdelete : scene.store.Accepts .delete)
    (h : scene.Overstays client) :
    ¬(scene.move settings (.leave client : Move stackName)).Excludes stackName := by
  obtain ⟨⟨limit, hinside, hover⟩, other, otherLimit, hother, hentitled⟩ := h
  have hne : other ≠ client := by
    rintro rfl
    obtain rfl : otherLimit = limit := Option.some.inj (hother.symm.trans hinside)
    omega
  have hstill : (scene.leave stackName client).Entitled other := by
    refine ⟨otherLimit, ?_, hentitled⟩
    show Function.update scene.inside client none other = some otherLimit
    rw [Function.update_of_ne hne, hother]
  have houtage := scene.outage_leave stackName client
  have hunbound : (scene.leave stackName client).store.value? (key stackName) = none := by
    show (scene.store.delete (key stackName)).2.value? (key stackName) = none
    rw [Store.delete, Store.call_of_accepts hdelete]
    exact lookup_unbindKey_self (key stackName) scene.store.data
  rw [Scene.move, if_pos (Option.isSome_iff_exists.mpr ⟨limit, hinside⟩)]
  intro hexcludes
  refine hexcludes other hstill 0 ?_
  rw [Store.acquire_eq, houtage, hset, hunbound]
  rfl

/-- Assumes: a store that can set and delete, and a scene in which no client is inside yet. All
along a run nobody gets the key while another client is entitled exactly if no client overstays
until it leaves. -/
theorem excludes_iff_no_late_leave (settings : Settings) (scene : Scene)
    (hset : scene.store.Accepts .set) (hdelete : scene.store.Accepts .delete)
    (hnobody : ∀ client, scene.inside client = none) (moves : List (Move stackName)) :
    (∀ before later, moves = before ++ later →
      (scene.play settings before).Excludes stackName) ↔
      ∀ before client later, moves = before ++ .leave client :: later →
        ¬(scene.play settings before).Overstays client := by
  constructor
  · rintro hexcludes before client later rfl hoverstays
    have houtage := scene.outage_play settings before
    refine not_excludes_of_overstays settings stackName (fun number ↦ houtage ▸ hset number)
      (fun number ↦ houtage ▸ hdelete number) hoverstays ?_
    have hafter := hexcludes (before ++ [.leave client]) later (by simp)
    rwa [play, List.foldl_append] at hafter
  · rintro hstays before later rfl
    -- The scene is guarded in the beginning, and each prefix of the run keeps it so.
    have hguarded : scene.Guarded stackName := guarded_of_nobody hset hdelete fun client h ↦ by
      obtain ⟨limit, hinside, -⟩ := h
      rw [hnobody] at hinside
      cases hinside
    refine (hguarded.play settings before fun first client rest hbefore ↦ ?_).excludes
    exact hstays first client (rest ++ later) (by rw [hbefore]; simp)

/-- The first client is still at work when its lifetime is over. The second one enters then. -/
def overtaken : List (Move "Home") :=
  [.enter 1 (some 100), .pass 100, .expire, .enter 2 (some 100)]

theorem entitled_overtaken : (({} : Scene).play {} overtaken).Entitled 2 :=
  ⟨200, by decide +kernel, by decide +kernel⟩

theorem overstays_overtaken : (({} : Scene).play {} overtaken).Overstays 1 :=
  ⟨⟨100, by decide +kernel, by decide +kernel⟩, 2, entitled_overtaken⟩

theorem excludes_iff_no_late_leave_overtaken :
    Store.Accepts {} .set ∧ Store.Accepts {} .delete ∧
      (∀ client, ({} : Scene).inside client = none) ∧
      ¬∀ before later, overtaken ++ [.leave 1] = before ++ later →
        (({} : Scene).play {} before).Excludes "Home" := by
  refine ⟨fun _ ↦ rfl, fun _ ↦ rfl, fun _ ↦ rfl, fun hexcludes ↦ ?_⟩
  have hstays := (excludes_iff_no_late_leave {} {} (fun _ ↦ rfl) (fun _ ↦ rfl) (fun _ ↦ rfl)
    (overtaken ++ [.leave 1])).mp hexcludes
  exact hstays overtaken 1 [] rfl overstays_overtaken

/-- The first client has left, and deleted the key of the second one. -/
def robbed : Scene :=
  ({} : Scene).play {} (overtaken ++ [.leave 1])

/-- The second client is still entitled, and a third one gets the key. -/
theorem not_excludes_robbed :
    robbed.Entitled 2 ∧ (robbed.store.acquire (key "Home") "1" 100).1 = .ok true ∧
      (robbed.move {} (.enter 3 (some 100) : Move "Home")).Entitled 3 :=
  ⟨⟨200, by decide +kernel, by decide +kernel⟩, by decide +kernel,
    200, by decide +kernel, by decide +kernel⟩

end Scene

end Cardfile.Lock
