import Cardfile.MessageBox
import Cardfile.Proofs.Service.Restart

/-!
# Conversations that follow one another

A message box with a store saves its desk after every line that it executes, so what its store
holds is always enough to make the desk again, as far as a snapshot keeps it (`IsKept`): the store
of a box is durable with that desk as the store of a service is. It follows that a conversation on
the store that an earlier one left behind starts where that one stopped
(`MessageBox.resumed_converse`), whatever the store held at first and wherever the lines ended.
-/

set_option autoImplicit false
set_option relaxedAutoImplicit false

namespace Cardfile

/-! ### Where a desk stands -/

/-- Two desks with one snapshot stand alike, except for the variables. -/
theorem Desk.status?_of_snapshot_eq {desk other : Desk} (h : other.snapshot = desk.snapshot) :
    other.status? =
      desk.status?.map fun standing ↦ { standing with vars := other.session.vars } := by
  have hindex : other.session.currentCardIndex = desk.session.currentCardIndex :=
    congrArg Snapshot.currentCardIndex h
  have hcards : other.stack.cards.map Card.snapshot = desk.stack.cards.map Card.snapshot :=
    congrArg Snapshot.cards h
  have hlength : other.stack.cards.length = desk.stack.cards.length := by
    simpa using congrArg List.length hcards
  have hname : other.currentCard?.map (·.name) = desk.currentCard?.map (·.name) := by
    have hnames : other.stack.cards.map (·.name) = desk.stack.cards.map (·.name) :=
      (savedAlike_of_snapshot_eq h).cardNames
    rw [currentCard?, currentCard?, Stack.cardAt?_map, Stack.cardAt?_map, hnames, hindex]
  unfold status?
  rw [hindex, hlength, Option.map_map]
  cases hother : other.currentCard? with
  | none =>
    rw [hother] at hname
    have hnone : desk.currentCard? = none := Option.map_eq_none_iff.mp hname.symm
    rw [hnone]
    rfl
  | some card =>
    rw [hother] at hname
    obtain ⟨found, hfound, hsame⟩ := Option.map_eq_some_iff.mp hname.symm
    rw [hfound]
    simp [hsame]

theorem Desk.Storable.exists_status? {desk : Desk} (h : desk.Storable) :
    ∃ standing, desk.status? = some standing := by
  obtain ⟨card, hcard, -⟩ := h.reached.session.pointed
  have hcurrent : desk.currentCard? = some card := hcard
  exact ⟨_, by rw [status?, hcurrent, Option.map_some]⟩

/-! ### The statuses that are shown -/

def Display.status? : Display → Option Status
  | .status standing => some standing
  | _ => none

def statuses (shown : List Display) : List Status :=
  shown.filterMap Display.status?

theorem getLast?_statuses_concat (shown : List Display) (standing : Status) :
    (statuses (shown ++ [.status standing])).getLast? = some standing := by
  simp [statuses, Display.status?]

/-- Prompts and the end of the input do not count. -/
theorem statuses_append_of_silent {silent : List Display} (h : statuses silent = [])
    (shown : List Display) : statuses (shown ++ silent) = statuses shown := by
  rw [statuses, List.filterMap_append]
  show statuses shown ++ statuses silent = statuses shown
  rw [h, List.append_nil]

namespace MessageBox

variable {box after : MessageBox} {settings : Settings} {store kept : Store}

/-! ### Entering lines -/

theorem enterAll_nil (box : MessageBox) :
    box.enterAll [] = ⟨[.prompt, .endOfInput], none, box⟩ :=
  rfl

section Equation

-- Else a whole execution is unfolded before the two sides are compared.
attribute [local irreducible] enter

theorem enterAll_cons (box : MessageBox) (line : String) (rest : List String) :
    box.enterAll (line :: rest) =
      if isFarewell line then ⟨[.prompt], none, box⟩
      else
        match box.enter line with
        | (.error failure, after) => ⟨[.prompt], some failure, after⟩
        | (.ok shown, after) =>
          { after.enterAll rest with shown := .prompt :: shown ++ (after.enterAll rest).shown } :=
  rfl

end Equation

/-! ### A box that is kept by its store -/

/-- A box whose store never fails, and from whose store its desk would be restored as far as a
snapshot keeps it. -/
structure IsKept (box : MessageBox) (settings : Settings) (kept : Store) : Prop where
  settings_eq : box.settings = settings
  store_eq : box.store = some kept
  durable : ({ desk := some box.desk, store := kept, settings := settings } : Service).IsDurable
  font : ∃ font, box.desk.stack.scriptTextFont = .plain font

/-- A box starts on the desk that a service without one makes from the same store. -/
theorem desk_start (settings : Settings) (store : Store) :
    (start settings (some store)).desk =
      ({ store := store, settings := settings } : Service).restarted :=
  rfl

theorem isKept_start (haccepts : ∀ command, store.Accepts command) (settings : Settings) :
    ∃ kept, (start settings (some store)).IsKept settings kept := by
  have hidle : ({ store := store, settings := settings } : Service).IsDurable :=
    Service.isDurable_of_desk_eq_none rfl haccepts
  obtain ⟨hdurable, -⟩ := hidle.startRestored
  refine ⟨_, rfl, rfl, hdurable, ?_⟩
  rw [desk_start]
  exact Service.plain_restarted _

namespace IsKept

theorem storable (h : box.IsKept settings kept) : box.desk.Storable :=
  h.durable.storable box.desk rfl

/-- What the store gives back to the next box. -/
theorem snapshot_start (h : box.IsKept settings kept) :
    (start settings (some kept)).desk.snapshot = box.desk.snapshot := by
  have hidle : ({ store := kept, settings := settings } : Service).restarted =
      ({ desk := some box.desk, store := kept, settings := settings } : Service).restarted :=
    Service.restarted_congr (h.durable.accepts .get) rfl (.refl kept)
  rw [desk_start, hidle]
  exact h.durable.restored box.desk rfl h.font

/-- A line that is executed changes the desk, and then the desk is saved. -/
theorem enter (h : box.IsKept settings kept) {line : String} {shown : List Display}
    (henter : box.enter line = (.ok shown, after)) :
    (∃ next, after.IsKept settings next) ∧
      ∃ front standing, after.desk.status? = some standing ∧
        shown = front ++ [.status standing] := by
  unfold MessageBox.enter at henter
  rcases hexecute : box.desk.execute line with ⟨failure | answer, changed⟩
  · rw [hexecute] at henter
    cases henter
  · rw [hexecute] at henter
    cases henter
    have hchanges : Desk.Changes box.desk changed := by
      have hexecuted := box.desk.changes_execute line
      rw [hexecute] at hexecuted
      exact hexecuted
    have hstorable := h.storable.changes hchanges
    obtain ⟨standing, hstanding⟩ := hstorable.exists_status?
    constructor
    · refine ⟨_, h.settings_eq, ?_, h.durable.save hstorable, ?_⟩
      · show box.store.map _ = _
        rw [h.store_eq, h.settings_eq]
        rfl
      · show ∃ font, changed.stack.scriptTextFont = .plain font
        rw [hchanges.scriptTextFont_eq]
        exact h.font
    · refine ⟨if answer.isEmpty then [] else [.answer answer], standing, hstanding, ?_⟩
      rw [statusDisplay, hstanding]
      rfl

/-- Assumes: a box that is kept, after a last status that says where its desk stands. As long as no
line fails, it is so after any lines. -/
theorem enterAll (h : box.IsKept settings kept) {front : List Display}
    (hfront : (statuses front).getLast? = box.desk.status?) {lines : List String}
    (hfailure : (box.enterAll lines).failure = none) :
    (∃ next, (box.enterAll lines).box.IsKept settings next) ∧
      (statuses (front ++ (box.enterAll lines).shown)).getLast? =
        (box.enterAll lines).box.desk.status? := by
  induction lines generalizing box kept front with
  | nil => exact ⟨⟨kept, h⟩, by rw [enterAll_nil, statuses_append_of_silent rfl, hfront]⟩
  | cons line rest ih =>
    rw [enterAll_cons] at hfailure ⊢
    by_cases hfarewell : isFarewell line = true
    · rw [if_pos hfarewell]
      exact ⟨⟨kept, h⟩, by rw [statuses_append_of_silent rfl, hfront]⟩
    · rw [if_neg hfarewell] at hfailure ⊢
      rcases henter : box.enter line with ⟨failure | shown, after⟩
      · rw [henter] at hfailure
        cases hfailure
      · rw [henter] at hfailure
        obtain ⟨⟨next, hnext⟩, answered, standing, hstanding, rfl⟩ := h.enter henter
        -- The status after this line is the last one before the rest.
        have hlast : (statuses ((front ++ .prompt :: answered) ++ [.status standing])).getLast? =
            after.desk.status? := by
          rw [getLast?_statuses_concat, hstanding]
        obtain ⟨hkept, hshown⟩ := ih hnext hlast hfailure
        refine ⟨hkept, ?_⟩
        rw [← hshown]
        simp only [List.append_assoc, List.cons_append]

end IsKept

/-! ### Lines after a farewell -/

theorem enterAll_append_farewell (box : MessageBox) (front : List String) {line : String}
    (hfarewell : isFarewell line = true) (rest : List String) :
    box.enterAll (front ++ line :: rest) = box.enterAll (front ++ [line]) := by
  induction front generalizing box with
  | nil =>
    show box.enterAll (line :: rest) = box.enterAll [line]
    rw [enterAll_cons, enterAll_cons, if_pos hfarewell, if_pos hfarewell]
  | cons first front ih =>
    show box.enterAll (first :: (front ++ line :: rest)) =
      box.enterAll (first :: (front ++ [line]))
    rw [enterAll_cons, enterAll_cons]
    by_cases hfirst : isFarewell first = true
    · rw [if_pos hfirst, if_pos hfirst]
    · rw [if_neg hfirst, if_neg hfirst]
      rcases box.enter first with ⟨failure | shown, after⟩
      · rfl
      · dsimp only
        rw [ih]

/-! ### The next conversation -/

/-- What a conversation leaves in a store, for the next one to start with: its last status, without
the variables, and the desk as far as a snapshot keeps it. -/
structure Leaves (settings : Settings) (conversation : Conversation) (kept : Store) : Prop where
  store_eq : conversation.box.store = some kept
  status : ∃ last, (statuses conversation.shown).getLast? = some last ∧
    ∀ lines, (statuses (converse settings (some kept) lines).shown).head? =
      some { last with vars := {} }
  saved : (start settings (some kept)).desk.stack.SavedAlike conversation.box.desk.stack

/-- Assumes: a store that never fails, whatever it holds, and lines of which none fails when it is
executed. The next conversation on the store starts where the one with these lines stopped, and of
the lines themselves, those after a farewell have no effect. -/
theorem resumed_converse (settings : Settings) (haccepts : ∀ command, store.Accepts command)
    {lines : List String} (hfailure : (converse settings (some store) lines).failure = none) :
    (∃ kept, Leaves settings (converse settings (some store) lines) kept) ∧
      ∀ front line rest, lines = front ++ line :: rest → isFarewell line = true →
        converse settings (some store) lines =
          converse settings (some store) (front ++ [line]) := by
  constructor
  · obtain ⟨first, hfirst⟩ := isKept_start haccepts settings
    obtain ⟨greeted, hgreeted⟩ := hfirst.storable.exists_status?
    have hwelcome : (statuses (start settings (some store)).welcome).getLast? =
        (start settings (some store)).desk.status? := by
      rw [welcome, statusDisplay, hgreeted]
      rfl
    obtain ⟨⟨kept, hkept⟩, hlast⟩ := hfirst.enterAll hwelcome hfailure
    have hsnapshot := hkept.snapshot_start
    have hvars : (start settings (some kept)).desk.session.vars = {} := by
      rw [desk_start, (Service.isFresh_restarted _).session]
    obtain ⟨last, hstanding⟩ := hkept.storable.exists_status?
    refine ⟨kept, hkept.store_eq, ⟨last, hlast.trans hstanding, fun more ↦ ?_⟩,
      Desk.savedAlike_of_snapshot_eq hsnapshot⟩
    have hagain := Desk.status?_of_snapshot_eq hsnapshot
    rw [hstanding, hvars] at hagain
    show (statuses (welcome _ ++ _)).head? = _
    rw [welcome, statusDisplay, hagain]
    rfl
  · intro front line rest hlines hfarewell
    subst hlines
    simp only [converse, enterAll_append_farewell _ front hfarewell rest]

/-- A store with part of a snapshot, in which the name and the texts of most cards are missing. -/
def partialStore : Store where
  data := [("cardstack:snapshot:Home",
    "\x7b\"user_level\":9,\"cards\":[\x7b\"id\":102,\"name\":\"Log\"\x7d]\x7d")]

/-- Lines of which one cannot be understood and one comes after a farewell. -/
def sampleLines : List String :=
  ["go next", "put \"done\" into field \"Body\"", "dance", " quit ", "go first"]

theorem resumed_converse_sampleLines :
    (∀ command, partialStore.Accepts command) ∧
      (converse {} (some partialStore) sampleLines).failure = none ∧
      (∃ kept, Leaves {} (converse {} (some partialStore) sampleLines) kept) ∧
      ∀ front line rest, sampleLines = front ++ line :: rest → isFarewell line = true →
        converse {} (some partialStore) sampleLines =
          converse {} (some partialStore) (front ++ [line]) := by
  have haccepts : ∀ command, partialStore.Accepts command := fun _ _ ↦ rfl
  have hfailure : (converse {} (some partialStore) sampleLines).failure = none := by
    decide +kernel
  exact ⟨haccepts, hfailure, resumed_converse {} haccepts hfailure⟩

end MessageBox

end Cardfile
