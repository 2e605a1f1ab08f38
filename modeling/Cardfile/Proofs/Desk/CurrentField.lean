import Cardfile.Desk.View
import Cardfile.Proofs.Desk.Writing
import Cardfile.Proofs.Snapshot.Restore

/-!
# The field that was addressed last

A command that puts or gets, and opening a field, address a field of the current card: they find it
by a name and leave its own name behind as the field pointer (`Desk.Addresses`, `Desk.PointsAt`).
Until another field is addressed, another card is gone to or a snapshot is restored, the pointer
leads back to that field, whatever else is done (`Desk.PointsAt.run`).

The current field is the one that the pointer leads to (`Desk.currentField_run`), with one
exception: a pointer with the empty name counts as none, and the first field of the card is current.
So a field without a name can be addressed, but becomes the current field only if it is the first.
-/

set_option autoImplicit false
set_option relaxedAutoImplicit false

namespace Cardfile

open Text

/-! ### Where the current field is -/

namespace Card

/-- The place of the field of a card that a pointer stands for. -/
def standingPlace? (card : Card) (pointer : Option String) : Option Nat :=
  (pointer.bind fun name ↦ if name.isEmpty then none else card.fieldPlace? name) <|>
    if card.fields.isEmpty then none else some 0

theorem standingPlace?_of_found {card : Card} {name : String} {place : Nat} (hname : name ≠ "")
    (hplace : card.fieldPlace? name = some place) :
    card.standingPlace? (some name) = some place := by
  simp [standingPlace?, hname, hplace]

theorem standingPlace?_of_fallback {card : Card} {pointer : Option String}
    (hpointer : ∀ name, pointer = some name → name = "" ∨ card.fieldPlace? name = none) :
    card.standingPlace? pointer = if card.fields.isEmpty then none else some 0 := by
  cases pointer with
  | none => rfl
  | some name => rcases hpointer name rfl with rfl | hnone <;> simp [standingPlace?, *]

theorem standing?_eq_bind (card : Card) (pointer : Option String) :
    card.standing? pointer =
      (card.standingPlace? pointer).bind fun place ↦ card.fields[place]? := by
  have hfallback : card.fields.head? =
      (if card.fields.isEmpty then none else some 0).bind fun place ↦ card.fields[place]? := by
    cases card.fields <;> rfl
  cases pointer with
  | none => exact hfallback
  | some name =>
    by_cases hname : name = ""
    · simpa [standing?, standingPlace?, hname] using hfallback
    · cases hplace : card.fieldPlace? name with
      | none =>
        have hnone : card.findField? name = none := by rw [findField?_eq_bind, hplace]; rfl
        simpa [standing?, standingPlace?, hname, hplace, hnone] using hfallback
      | some place =>
        obtain ⟨⟨field, hfield, -⟩, -⟩ := fieldPlace?_eq_some_iff.mp hplace
        have hfound : card.findField? name = some field := by
          rw [findField?_eq_bind, hplace, Option.bind_some, hfield]
        simp [standing?, standingPlace?_of_found hname hplace, hname, hfound, hfield]

end Card

/-- The field at a place, the first part of which is the place of its card. -/
def Stack.fieldAt? (stack : Stack) (place : Nat × Nat) : Option TextField :=
  stack.cards[place.1]?.bind fun card ↦ card.fields[place.2]?

namespace Desk

variable {desk after : Desk} {name : String} {place other : Nat × Nat} {card : Card}
  {field : TextField} {operation : Operation} {later : List Operation}

/-- The place of the current field. -/
def currentFieldPlace? (desk : Desk) : Option (Nat × Nat) := do
  let cardPlace ← desk.currentPlace?
  let card ← desk.stack.cards[cardPlace]?
  let fieldPlace ← card.standingPlace? desk.session.currentFieldName
  return (cardPlace, fieldPlace)

theorem currentFieldPlace?_eq {cardPlace : Nat} (hplace : desk.currentPlace? = some cardPlace)
    (hcard : desk.stack.cards[cardPlace]? = some card) :
    desk.currentFieldPlace? =
      (card.standingPlace? desk.session.currentFieldName).map fun fieldPlace ↦
        (cardPlace, fieldPlace) := by
  rw [currentFieldPlace?, hplace, Option.bind_eq_bind, Option.bind_some, hcard,
    Option.bind_eq_bind, Option.bind_some]
  cases card.standingPlace? desk.session.currentFieldName <;> rfl

theorem currentField?_eq_bind (desk : Desk) :
    desk.currentField? = desk.currentFieldPlace?.bind desk.stack.fieldAt? := by
  cases hcard : desk.currentCard? with
  | none =>
    have hbind : desk.currentPlace?.bind (fun place ↦ desk.stack.cards[place]?) = none := hcard
    cases hplace : desk.currentPlace? with
    | none => simp [currentField?, currentFieldPlace?, hcard, hplace]
    | some cardPlace =>
      rw [hplace, Option.bind_some] at hbind
      simp [currentField?, currentFieldPlace?, hcard, hplace, hbind]
  | some card =>
    obtain ⟨cardPlace, hplace, hat⟩ := Option.bind_eq_some_iff.mp hcard
    rw [currentField?_eq hcard, Card.standing?_eq_bind, currentFieldPlace?_eq hplace hat]
    simp [Option.bind_map, Function.comp_def, Stack.fieldAt?, hat]

/-! ### Pointing at a field -/

/-- The field pointer is the name of the field at a place, which is the first one with that name on
the current card. -/
structure PointsAt (desk : Desk) (place : Nat × Nat) (name : String) : Prop where
  pointer : desk.session.currentFieldName = some name
  finds : ∃ card field, desk.Finds name place card field ∧ field.name = name

/-- The first field with a name is also the first one with its own name. -/
theorem Finds.ownName (h : desk.Finds name place card field) :
    desk.Finds field.name place card field := by
  have hsame : caseFold field.name = caseFold name := sameName_iff.mp h.named
  exact { h with
    named := sameName_iff.mpr rfl
    first := by simpa only [sameName, hsame] using h.first }

/-- The fields before the one that is found have other names. -/
theorem Finds.name_ne_of_lt (h : desk.Finds name place card field) {earlier : Nat}
    {before : TextField} (hlt : earlier < place.2) (hbefore : card.fields[earlier]? = some before) :
    before.name ≠ name := by
  rintro rfl
  have hother := h.first earlier hlt before hbefore
  rw [sameName_iff.mpr rfl] at hother
  cases hother

/-- On the same card of a stack with the same skeleton, a name leads to the same place. -/
theorem Finds.transport (h : desk.Finds name place card field)
    (hskeleton : after.stack.skeleton = desk.stack.skeleton)
    (hindex : after.session.currentCardIndex = desk.session.currentCardIndex) :
    ∃ card found, after.Finds name place card found ∧ found.name = field.name := by
  have hcurrent : after.currentPlace? = desk.currentPlace? := by
    rw [currentPlace?, currentPlace?, Stack.length_cards_eq hskeleton, hindex]
  have hcards : after.stack.cards.map Card.skeleton = desk.stack.cards.map Card.skeleton :=
    congrArg Stack.cards hskeleton
  have hcard : (after.stack.cards[place.1]?).map Card.skeleton = some card.skeleton := by
    rw [← List.getElem?_map, hcards, List.getElem?_map, h.cardAt, Option.map_some]
  obtain ⟨found, hfound, hsame⟩ := Option.map_eq_some_iff.mp hcard
  have hnames (spot : Nat) :
      (found.fields[spot]?).map (·.name) = (card.fields[spot]?).map (·.name) := by
    rw [← List.getElem?_map, Card.fieldNames_eq hsame, List.getElem?_map]
  have hfield : (found.fields[place.2]?).map (·.name) = some field.name := by
    rw [hnames, h.fieldAt, Option.map_some]
  obtain ⟨twin, htwin, hname⟩ := Option.map_eq_some_iff.mp hfield
  refine ⟨found, twin, ⟨hcurrent.trans h.current, hfound, htwin, hname ▸ h.named, ?_⟩, hname⟩
  intro earlier hearlier before hbefore
  have hnamed : (card.fields[earlier]?).map (·.name) = some before.name := by
    rw [← hnames, hbefore, Option.map_some]
  obtain ⟨original, horiginal, hsameName⟩ := Option.map_eq_some_iff.mp hnamed
  rw [← hsameName]
  exact h.first earlier hearlier original horiginal

theorem PointsAt.transport (h : desk.PointsAt place name)
    (hskeleton : after.stack.skeleton = desk.stack.skeleton)
    (hindex : after.session.currentCardIndex = desk.session.currentCardIndex)
    (hpointer : after.session.currentFieldName = some name) : after.PointsAt place name := by
  obtain ⟨card, field, hfinds, hname⟩ := h.finds
  obtain ⟨other, found, hfound, hsame⟩ := hfinds.transport hskeleton hindex
  exact ⟨hpointer, other, found, hfound, hsame.trans hname⟩

/-! ### Addressing a field -/

/-- An operation that puts into, gets or opens the first field with a name on the current card. -/
inductive Addresses (desk : Desk) (place : Nat × Nat) (field : TextField) : Operation → Prop
  | put {line expression name : String} {card : Card}
      (hsaid : Command.said line = .put expression name) (hcan : desk.stack.cantModify = false)
      (hfinds : desk.Finds name place card field) :
    Addresses desk place field (.execute line)
  | get {line name : String} {card : Card} (hsaid : Command.said line = .get name)
      (hfinds : desk.Finds name place card field) :
    Addresses desk place field (.execute line)
  | opens {name : String} {card : Card} (hopenable : desk.openable name = .ok field)
      (hfinds : desk.Finds name place card field) :
    Addresses desk place field (.openField name)

theorem Addresses.exists_finds (h : desk.Addresses place field operation) :
    ∃ name card, desk.Finds name place card field := by
  cases h with
  | put _ _ hfinds => exact ⟨_, _, hfinds⟩
  | get _ hfinds => exact ⟨_, _, hfinds⟩
  | opens _ hfinds => exact ⟨_, _, hfinds⟩

/-- A line that finds a field addresses it. -/
theorem exists_addresses_of_foundBy? (h : desk.foundBy? operation = some name) :
    ∃ place field, desk.Addresses place field operation ∧ field.name = name := by
  cases operation with
  | execute line =>
    have hfound {called : String} (hnamed : desk.fieldName? called = some name) :
        ∃ place card field, desk.Finds called place card field ∧ field.name = name := by
      obtain ⟨field, hfield, hname⟩ := Option.map_eq_some_iff.mp hnamed
      obtain ⟨card, hcard, hfield⟩ := Option.bind_eq_some_iff.mp hfield
      obtain ⟨place, hfinds⟩ := Desk.exists_finds hcard hfield
      exact ⟨place, card, field, hfinds, hname⟩
    rw [foundBy?] at h
    cases hsaid : Command.said line with
    | put expression called =>
      rw [hsaid, found?] at h
      split_ifs at h with hcant
      obtain ⟨place, card, field, hfinds, hname⟩ := hfound h
      exact ⟨place, field, .put hsaid (Bool.eq_false_iff.mpr hcant) hfinds, hname⟩
    | get called =>
      rw [hsaid, found?] at h
      obtain ⟨place, card, field, hfinds, hname⟩ := hfound h
      exact ⟨place, field, .get hsaid hfinds, hname⟩
    | _ => simp [hsaid, found?] at h
  | _ => simp [foundBy?] at h

/-- A line that neither goes nor finds stays on the card. -/
theorem exists_remains_execute (desk : Desk) {line : String}
    (hgo : ∀ going?, Command.said line ≠ .go going?)
    (hfind : ∀ expression, Command.said line ≠ .find expression) :
    ∃ events, desk.Remains (desk.found? (Command.said line)) (desk.MayPut (Command.said line))
      events (desk.execute line).2 := by
  have hstance : (desk.execute line).2.session.stance = desk.session.stance := by
    rw [execute_of_said rfl, stance_perform _ _ _ hgo hfind, stance_receive]
  obtain ⟨events, hbrowses⟩ := desk.exists_browses_execute line
  cases hbrowses with
  | remains hremains => exact ⟨events, hremains⟩
  | moves hmoves => exact absurd (Session.of_stance_eq hstance).1 hmoves.index

/-- The pointer is left at the field, and the desk stays on its card. -/
theorem Addresses.pointer (h : desk.Addresses place field operation) :
    (desk.operate operation).session.currentFieldName = some field.name ∧
      (desk.operate operation).session.currentCardIndex = desk.session.currentCardIndex := by
  have hexecuted {line : String} (hgo : ∀ going?, Command.said line ≠ .go going?)
      (hfind : ∀ expression, Command.said line ≠ .find expression)
      (hfound : desk.found? (Command.said line) = some field.name) :
      (desk.operate (.execute line)).session.currentFieldName = some field.name ∧
        (desk.operate (.execute line)).session.currentCardIndex =
          desk.session.currentCardIndex := by
    have hoperate : desk.operate (.execute line) = (desk.execute line).2 := rfl
    obtain ⟨events, hremains⟩ := desk.exists_remains_execute hgo hfind
    rw [hoperate, hremains.pointer, hfound]
    exact ⟨rfl, hremains.index⟩
  cases h with
  | put hsaid hcan hfinds =>
    refine hexecuted (by simp [hsaid]) (by simp [hsaid]) ?_
    simp [hsaid, found?, hcan, fieldName?_eq hfinds.currentCard?_eq, hfinds.findField?_eq]
  | get hsaid hfinds =>
    refine hexecuted (by simp [hsaid]) (by simp [hsaid]) ?_
    simp [hsaid, found?, fieldName?_eq hfinds.currentCard?_eq, hfinds.findField?_eq]
  | opens hopenable hfinds =>
    have hopens := (openField_of_openable hopenable).2
    exact ⟨hopens.pointer, hopens.index⟩

theorem Addresses.pointsAt (h : desk.Addresses place field operation) :
    (desk.operate operation).PointsAt place field.name := by
  obtain ⟨name, card, hfinds⟩ := h.exists_finds
  obtain ⟨hpointer, hindex⟩ := h.pointer
  obtain ⟨found, twin, hfound, hname⟩ :=
    hfinds.ownName.transport (desk.skeleton_operate operation) hindex
  exact ⟨hpointer, found, twin, hfound, hname⟩

/-! ### What leaves the pointer at a field -/

/-- An operation that addresses no field but the one at a place, stays on the card and restores
nothing. -/
structure Spares (desk : Desk) (place : Nat × Nat) (operation : Operation) : Prop where
  others : ∀ other field, desk.Addresses other field operation → other = place
  stays : (desk.operate operation).session.currentCardIndex = desk.session.currentCardIndex
  restores : ∀ settings store, operation ≠ .restore settings store

theorem currentFieldName_leaveField (desk : Desk) :
    desk.leaveField.session.currentFieldName = desk.session.currentFieldName := by
  unfold leaveField
  split_ifs <;> rfl

theorem PointsAt.name_of_addresses (h : desk.PointsAt place name)
    (haddresses : desk.Addresses place field operation) : field.name = name := by
  obtain ⟨card, found, hfinds, hname⟩ := h.finds
  obtain ⟨called, other, hother⟩ := haddresses.exists_finds
  obtain rfl : other = card := Option.some.inj (hother.cardAt.symm.trans hfinds.cardAt)
  obtain rfl : field = found := Option.some.inj (hother.fieldAt.symm.trans hfinds.fieldAt)
  exact hname

theorem PointsAt.operate (h : desk.PointsAt place name) (hspares : desk.Spares place operation) :
    (desk.operate operation).PointsAt place name := by
  have hname {other : Nat × Nat} {field : TextField}
      (haddresses : desk.Addresses other field operation) : field.name = name := by
    obtain rfl := hspares.others other field haddresses
    exact h.name_of_addresses haddresses
  refine h.transport (desk.skeleton_operate operation) hspares.stays ?_
  have hstays := hspares.stays
  have hrestores := hspares.restores
  obtain ⟨events, hepisode⟩ := desk.exists_episode_operate operation
  generalize desk.operate operation = after at hepisode hstays ⊢
  cases hepisode with
  | browses hbrowses =>
    cases hbrowses with
    | remains hremains =>
      rw [hremains.pointer]
      cases hfound : desk.foundBy? operation with
      | none => exact h.pointer
      | some found =>
        obtain ⟨other, field, haddresses, rfl⟩ := exists_addresses_of_foundBy? hfound
        rw [hname haddresses]
        rfl
    | moves hmoves => exact absurd hstays hmoves.index
  | opens hopenable hopens =>
    obtain ⟨card, hcard, hfield⟩ := currentCard?_of_openable hopenable
    obtain ⟨other, hfinds⟩ := Desk.exists_finds hcard hfield
    rw [hopens.pointer, hname (.opens hopenable hfinds)]
  | closes => exact desk.currentFieldName_leaveField.trans h.pointer
  | merges settings store snapshot => exact absurd rfl (hrestores settings store)

theorem PointsAt.run (h : desk.PointsAt place name)
    (hspares : ∀ before next, before ++ [next] <+: later → (desk.run before).Spares place next) :
    (desk.run later).PointsAt place name := by
  induction later using List.reverseRecOn with
  | nil => exact h
  | append_singleton earlier last ih =>
    rw [run_concat]
    exact (ih fun before next hinitial ↦
      hspares before next (hinitial.trans (List.prefix_append _ _))).operate
        (hspares earlier last (List.prefix_refl _))

/-! ### The current field -/

theorem PointsAt.currentFieldPlace?_eq (h : desk.PointsAt place name) :
    desk.currentFieldPlace? = some (if name = "" then (place.1, 0) else place) := by
  obtain ⟨card, field, hfinds, -⟩ := h.finds
  rw [Desk.currentFieldPlace?_eq hfinds.current hfinds.cardAt, h.pointer]
  split_ifs with hname
  · have hfields : card.fields ≠ [] := List.ne_nil_of_mem (List.mem_of_getElem? hfinds.fieldAt)
    rw [Card.standingPlace?_of_fallback (by simp [hname])]
    simp [hfields]
  · rw [Card.standingPlace?_of_found hname hfinds.fieldPlace?_eq]
    rfl

/-- The current field is the one that the recorded name leads to, and the first field of the card
where no name is recorded, the recorded one is empty, or it leads nowhere. The view shows its
name. -/
structure FollowsPointer (desk : Desk) : Prop where
  field : desk.currentField? = desk.currentFieldPlace?.bind desk.stack.fieldAt?
  shown : ∀ view, desk.view? = some view →
    view.currentFieldName = desk.currentField?.map (·.name)
  recorded : ∀ name place card field, desk.session.currentFieldName = some name → name ≠ "" →
    desk.Finds name place card field → desk.currentFieldPlace? = some place
  fallback : ∀ card, desk.currentCard? = some card →
    (∀ name, desk.session.currentFieldName = some name →
      name = "" ∨ ∀ field ∈ card.fields, sameName field.name name = false) →
    desk.currentField? = card.fields.head?

theorem followsPointer (desk : Desk) : desk.FollowsPointer where
  field := desk.currentField?_eq_bind
  shown view hview := by
    obtain ⟨card, -, rfl⟩ := Option.map_eq_some_iff.mp hview
    rfl
  recorded name place card field hpointer hname hfinds := by
    rw [currentFieldPlace?_eq hfinds.current hfinds.cardAt, hpointer,
      Card.standingPlace?_of_found hname hfinds.fieldPlace?_eq]
    rfl
  fallback card hcard hpointer := by
    rw [currentField?_eq hcard, Card.standing?_eq_bind, Card.standingPlace?_of_fallback]
    · cases card.fields <;> rfl
    · intro name hname
      refine (hpointer name hname).imp_right fun hmissing ↦ ?_
      simpa [Card.fieldPlace?, List.findIdx?_eq_none_iff] using hmissing

/-- The field at a place, which has the name, is the current field, unless it has the empty name and
is not the first field of its card. Then that one is current, and the view shows another name. -/
structure ShowsAddressed (desk : Desk) (place : Nat × Nat) (name : String) : Prop where
  kept : (desk.stack.fieldAt? place).map (·.name) = some name
  current : desk.currentFieldPlace? = some (if name = "" then (place.1, 0) else place)
  current_iff : desk.currentFieldPlace? = some place ↔ name ≠ "" ∨ place.2 = 0
  shown_iff : ∃ view, desk.view? = some view ∧
    (view.currentFieldName = some name ↔ name ≠ "" ∨ place.2 = 0)

theorem PointsAt.showsAddressed (h : desk.PointsAt place name) :
    desk.ShowsAddressed place name := by
  obtain ⟨card, field, hfinds, hname⟩ := h.finds
  have hcurrent := h.currentFieldPlace?_eq
  have hat (fieldPlace : Nat) :
      desk.stack.fieldAt? (place.1, fieldPlace) = card.fields[fieldPlace]? := by
    rw [Stack.fieldAt?, hfinds.cardAt, Option.bind_some]
  have hfield : desk.stack.fieldAt? place = some field := (hat place.2).trans hfinds.fieldAt
  have hview : ∃ view, desk.view? = some view ∧
      view.currentFieldName = desk.currentField?.map (·.name) := by
    rw [view?, hfinds.currentCard?_eq]
    exact ⟨_, rfl, rfl⟩
  obtain ⟨view, hview, hshown⟩ := hview
  rw [desk.currentField?_eq_bind, hcurrent, Option.bind_some] at hshown
  refine ⟨by rw [hfield, Option.map_some, hname], hcurrent, ?_, view, hview, ?_⟩
  · rw [hcurrent]
    by_cases hnameless : name = ""
    · simp [hnameless, Prod.ext_iff, eq_comm]
    · simp [hnameless]
  · rw [hshown]
    by_cases hnameless : name = ""
    · by_cases hfirst : place.2 = 0
      · have hhead : desk.stack.fieldAt? (place.1, 0) = some field := hfirst ▸ hfield
        simp [hnameless, hfirst, hhead, hname.trans hnameless]
      · -- The field is the first one without a name, so the first field of the card has one.
        obtain ⟨hlt, -⟩ := List.getElem?_eq_some_iff.mp hfinds.fieldAt
        have hhead : card.fields[0]? = some card.fields[0] := List.getElem?_eq_getElem (by omega)
        have hnamed : card.fields[0].name ≠ "" :=
          hnameless ▸ hfinds.name_ne_of_lt (Nat.pos_of_ne_zero hfirst) hhead
        simp [hnameless, hfirst, hat, hhead, hnamed]
    · simp [hnameless, hfield, hname]

/-- On every desk the current field is the one that the field pointer leads to. After an operation
that addresses a field, and any others that spare it, that is the field addressed, unless it has the
empty name and is not the first field of its card. -/
theorem currentField_run (desk : Desk) :
    desk.FollowsPointer ∧ ∀ operation place field, desk.Addresses place field operation →
      ∀ later : List Operation,
        (∀ before next, before ++ [next] <+: later →
          ((desk.operate operation).run before).Spares place next) →
        ((desk.operate operation).run later).ShowsAddressed place field.name :=
  ⟨desk.followsPointer, fun _ _ _ haddresses _ hspares ↦
    (haddresses.pointsAt.run hspares).showsAddressed⟩

/-- The field "Body" of the first card. -/
def welcomeBody : TextField :=
  { id := 1002, name := "Body", text := "Type commands into the message box, e.g. go next" }

/-- The open field is written, and then read under its name in other letters. -/
def writtenThenRead : List Operation :=
  [.editFieldText "Milk", .execute "get field \"BODY\""]

theorem currentField_run_writtenThenRead :
    starter.Addresses (0, 1) welcomeBody (.openField "body") ∧
      (∀ before next, before ++ [next] <+: writtenThenRead →
        ((starter.operate (.openField "body")).run before).Spares (0, 1) next) ∧
      ((starter.operate (.openField "body")).run writtenThenRead).currentFieldPlace? =
        some (0, 1) := by
  have hfinds : starter.Finds "body" (0, 1) Stack.welcomeCard welcomeBody :=
    finds_of_places rfl rfl (by decide +kernel) (by decide +kernel)
  have haddresses : starter.Addresses (0, 1) welcomeBody (.openField "body") :=
    .opens (by decide +kernel) hfinds
  have hspares : ∀ before next, before ++ [next] <+: writtenThenRead →
      ((starter.operate (.openField "body")).run before).Spares (0, 1) next := by
    intro before next hinitial
    rcases before with _ | ⟨first, _ | ⟨second, rest⟩⟩ <;>
      simp [writtenThenRead, List.cons_prefix_cons] at hinitial
    · subst hinitial
      exact ⟨by rintro _ _ ⟨⟩, by decide +kernel, by rintro _ _ ⟨⟩⟩
    · obtain ⟨rfl, rfl⟩ := hinitial
      refine ⟨fun other field haddressed ↦ ?_, by decide +kernel, by rintro _ _ ⟨⟩⟩
      have hsaid : Command.said "get field \"BODY\"" = .get "BODY" := by decide +kernel
      cases haddressed with
      | put hput => cases hsaid.symm.trans hput
      | get hget hfound =>
        obtain rfl := Command.get.inj (hsaid.symm.trans hget)
        have hcurrent : ((starter.operate (.openField "body")).run
            [.editFieldText "Milk"]).currentPlace? = some 0 := by decide +kernel
        have hplace : ((starter.operate (.openField "body")).run
            [.editFieldText "Milk"]).currentCard?.bind (·.fieldPlace? "BODY") = some 1 := by
          decide +kernel
        rw [hfound.currentCard?_eq, Option.bind_some, hfound.fieldPlace?_eq] at hplace
        rw [hfound.current] at hcurrent
        exact Prod.ext (Option.some.inj hcurrent) (Option.some.inj hplace)
  have hshows := (currentField_run starter).2 _ _ _ haddresses _ hspares
  exact ⟨haddresses, hspares, hshows.current_iff.mpr (Or.inl (by decide))⟩

/-- A fresh desk whose only card has a field without a name behind another one. -/
def nameless : Desk where
  stack :=
    { name := "Names"
      backgrounds := [{ id := 1 }]
      cards := [{
        id := 1
        name := "Only"
        backgroundId := 1
        fields := [
          { id := 1, name := "A", text := "first" },
          { id := 2, name := "", text := "second" }] }] }
  session := { currentFieldName := some "A" }

/-- The field without a name is opened and its name recorded, but the first field stays current. -/
theorem currentFieldPlace?_nameless :
    open? nameless.stack = some nameless ∧
      nameless.Addresses (0, 1) { id := 2, name := "", text := "second" } (.openField "") ∧
      (nameless.operate (.openField "")).session.currentFieldName = some "" ∧
      (nameless.operate (.openField "")).currentFieldPlace? = some (0, 0) ∧
      (nameless.operate (.openField "")).currentField? =
        some { id := 1, name := "A", text := "first" } ∧
      (nameless.operate (.openField "")).view?.bind (·.currentFieldName) = some "A" := by
  have hfinds : nameless.Finds "" (0, 1) _ { id := 2, name := "", text := "second" } :=
    finds_of_places rfl rfl (by decide +kernel) (by decide +kernel)
  exact ⟨rfl, .opens (by decide +kernel) hfinds, by decide +kernel, by decide +kernel,
    by decide +kernel, by decide +kernel⟩

end Desk

end Cardfile
