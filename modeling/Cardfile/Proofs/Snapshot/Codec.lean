import Cardfile.Proofs.Json.RoundTrip
import Cardfile.Proofs.Schema.Bounds
import Cardfile.Proofs.Store.Keys
import Cardfile.Store.Persistence

/-!
# Snapshots through a store

A snapshot whose font is a text and whose numbers are short (`Snapshot.IsWritable`) is decoded from
its text exactly as it was encoded (`Snapshot.decode_compact`), and every snapshot that is decoded
is of that kind (`Snapshot.isWritable_of_decode`). So a store that answers takes such a snapshot and
gives it back, and keeps every other key as it was (`Store.loadSnapshot_saveSnapshot`).
-/

set_option autoImplicit false
set_option relaxedAutoImplicit false

namespace Cardfile

open Schema Text Json

/-! ### Documents of snapshots -/

theorem FieldSnapshot.ofJson_toJson (field : FieldSnapshot) :
    ofJson field.toJson = .valid field :=
  rfl

theorem CardSnapshot.ofJson_toJson (card : CardSnapshot) : ofJson card.toJson = .valid card := by
  have hmembers : ofJson card.toJson =
      mk <$> .valid card.id <*> .valid card.name <*>
        (listOf FieldSnapshot.ofJson (.list (card.fields.map FieldSnapshot.toJson))).under
          (.key "fields") :=
    rfl
  rw [hmembers, listOf_map FieldSnapshot.ofJson_toJson]
  rfl

/-- A font with half of a surrogate pair in it is read back from its document, too. -/
theorem Snapshot.ofJson_toJson (snapshot : Snapshot) :
    ofJson snapshot.toJson = .valid snapshot := by
  have hfont : wideText (.ofWide snapshot.scriptTextFont) = .valid snapshot.scriptTextFont := by
    cases snapshot.scriptTextFont <;> rfl
  have hfield : nullable anyText (.ofText? snapshot.currentFieldName) =
      .valid snapshot.currentFieldName := by
    cases snapshot.currentFieldName <;> rfl
  have hmembers : ofJson snapshot.toJson =
      mk <$> .valid snapshot.userLevel <*>
        (wideText (.ofWide snapshot.scriptTextFont)).under (.key "script_text_font") <*>
        .valid snapshot.scriptTextSize <*> .valid snapshot.currentCardIndex <*>
        (nullable anyText (.ofText? snapshot.currentFieldName)).under
          (.key "current_field_name") <*>
        (listOf CardSnapshot.ofJson (.list (snapshot.cards.map CardSnapshot.toJson))).under
          (.key "cards") :=
    rfl
  rw [hmembers, hfont, hfield, listOf_map CardSnapshot.ofJson_toJson]
  rfl

/-! ### Snapshots that can be written -/

/-- Snapshots that have a text and whose numbers are read whatever their value: the font is a text
of characters, and no number has more than `digitLimit` digits. -/
structure Snapshot.IsWritable (snapshot : Snapshot) : Prop where
  scriptTextFont : ∃ font, snapshot.scriptTextFont = .plain font
  userLevel : IsShort snapshot.userLevel
  scriptTextSize : IsShort snapshot.scriptTextSize
  currentCardIndex : IsShort snapshot.currentCardIndex
  cardIds : ∀ card ∈ snapshot.cards, IsShort card.id
  fieldIds : ∀ card ∈ snapshot.cards, ∀ field ∈ card.fields, IsShort field.id

theorem arePortable_map {α : Type} {write : α → Json} {room : Nat} {items : List α}
    (h : ∀ item ∈ items, IsPortable room (write item)) : ArePortable room (items.map write) := by
  induction items with
  | nil => trivial
  | cons item rest ih =>
    exact ⟨h item List.mem_cons_self, ih fun other hother ↦ h other (List.mem_cons_of_mem _ hother)⟩

theorem FieldSnapshot.isPortable_toJson {field : FieldSnapshot} (h : IsShort field.id)
    (room : Nat) : IsPortable (room + 1) field.toJson :=
  ⟨h, trivial, trivial⟩

theorem CardSnapshot.isPortable_toJson {card : CardSnapshot} (h : IsShort card.id)
    (hfields : ∀ field ∈ card.fields, IsShort field.id) (room : Nat) :
    IsPortable (room + 3) card.toJson := by
  refine ⟨h, trivial, ?_, trivial⟩
  exact arePortable_map fun field hfield ↦ field.isPortable_toJson (hfields field hfield) room

theorem Snapshot.IsWritable.isPortable_toJson {snapshot : Snapshot} (h : snapshot.IsWritable)
    (room : Nat) : IsPortable (room + 5) snapshot.toJson := by
  have hfont : IsPortable (room + 4) (.ofWide snapshot.scriptTextFont) := by
    obtain ⟨font, hfont⟩ := h.scriptTextFont
    rw [hfont]
    trivial
  have hfield : IsPortable (room + 4) (.ofText? snapshot.currentFieldName) := by
    cases snapshot.currentFieldName <;> trivial
  have hcards : IsPortable (room + 4) (.list (snapshot.cards.map CardSnapshot.toJson)) :=
    arePortable_map fun card hcard ↦
      card.isPortable_toJson (h.cardIds card hcard) (h.fieldIds card hcard) room
  exact ⟨h.userLevel, hfont, h.scriptTextSize, h.currentCardIndex, hfield, hcards, trivial⟩

def Snapshot.escaped : Snapshot where
  scriptTextSize := 0
  currentFieldName := some ""
  cards := [⟨-7, "a \"b\" \\ c\n", [⟨1, "\x00\t\x1f\x7f"⟩, ⟨1, "é 😀"⟩]⟩]

theorem Snapshot.isWritable_escaped : escaped.IsWritable where
  scriptTextFont := ⟨"Monaco", rfl⟩
  userLevel := by decide
  scriptTextSize := by decide
  currentCardIndex := by decide
  cardIds := by decide
  fieldIds := by decide

/-! ### Texts of snapshots -/

theorem Snapshot.decode_compact {snapshot : Snapshot} (h : snapshot.IsWritable) :
    decode snapshot.toJson.compact = .valid snapshot := by
  have hread : Json.read dialect snapshot.toJson.compact = .ok snapshot.toJson :=
    read_compact rfl (h.isPortable_toJson 195)
  rw [decode, hread]
  exact snapshot.ofJson_toJson

theorem Snapshot.IsWritable.encode?_eq {snapshot : Snapshot} (h : snapshot.IsWritable) :
    snapshot.encode? = some snapshot.toJson.compact := by
  obtain ⟨font, hfont⟩ := h.scriptTextFont
  rw [encode?, hfont]
  rfl

/-- The text of a snapshot is never taken for a missing one. -/
theorem Snapshot.isEmpty_compact (snapshot : Snapshot) :
    snapshot.toJson.compact.isEmpty = false := by
  have hfirst : ∃ more, snapshot.toJson.compact = String.ofList ('{' :: more) := ⟨_, rfl⟩
  obtain ⟨more, hmore⟩ := hfirst
  simp [hmore]

/-! ### Decoded snapshots -/

section Decoded

variable {dialect : Dialect} {json : Json}

theorem FieldSnapshot.isShort_of_ofJson {field : FieldSnapshot} (hjson : IsWithin dialect json)
    (h : ofJson json = .valid field) : IsShort field.id := by
  obtain ⟨members, rfl, hmembers⟩ := record_eq_valid_iff.mp h
  obtain ⟨_, text, hbuild, -, rfl⟩ := Checked.seq_eq_valid_iff.mp hmembers
  obtain ⟨id, hid, rfl⟩ := Checked.map_eq_valid_iff.mp hbuild
  exact isShort_required hjson hid

theorem CardSnapshot.isShort_of_ofJson {card : CardSnapshot} (hjson : IsWithin dialect json)
    (h : ofJson json = .valid card) :
    IsShort card.id ∧ ∀ field ∈ card.fields, IsShort field.id := by
  obtain ⟨members, rfl, hmembers⟩ := record_eq_valid_iff.mp h
  simp only [Checked.seq_eq_valid_iff, Checked.map_eq_valid_iff] at hmembers
  obtain ⟨_, fields, ⟨_, name, ⟨id, hid, rfl⟩, -, rfl⟩, hfields, rfl⟩ := hmembers
  refine ⟨isShort_required hjson hid, fun field hfield ↦ ?_⟩
  rcases withDefault_eq_valid hfields with rfl | ⟨listed, hlisted, hfields⟩
  · cases hfield
  · obtain ⟨items, rfl, hitems⟩ := exists_of_listOf_eq_valid hfields
    obtain ⟨item, hitem, hread⟩ := hitems field hfield
    exact field.isShort_of_ofJson (areWithin_iff.mp (isWithin_member? hjson hlisted) item hitem)
      hread

/-- Assumes: a value that was read where half of a surrogate pair cannot be read. -/
theorem Snapshot.isWritable_of_ofJson {snapshot : Snapshot}
    (hdialect : dialect.admitsHalfPairs = false) (hjson : IsWithin dialect json)
    (h : ofJson json = .valid snapshot) : snapshot.IsWritable := by
  obtain ⟨members, rfl, hmembers⟩ := record_eq_valid_iff.mp h
  simp only [Checked.seq_eq_valid_iff, Checked.map_eq_valid_iff] at hmembers
  obtain ⟨_, cards, ⟨_, field, ⟨_, index, ⟨_, size, ⟨_, font, ⟨level, hlevel, rfl⟩, hfont, rfl⟩,
    hsize, rfl⟩, hindex, rfl⟩, -, rfl⟩, hcards, rfl⟩ := hmembers
  have hcard : ∀ card ∈ cards, IsShort card.id ∧ ∀ field ∈ card.fields, IsShort field.id := by
    intro card hcard
    rcases withDefault_eq_valid hcards with rfl | ⟨listed, hlisted, hcards⟩
    · cases hcard
    · obtain ⟨items, rfl, hitems⟩ := exists_of_listOf_eq_valid hcards
      obtain ⟨item, hitem, hread⟩ := hitems card hcard
      exact card.isShort_of_ofJson (areWithin_iff.mp (isWithin_member? hjson hlisted) item hitem)
        hread
  refine {
    scriptTextFont := ?_
    userLevel := isShort_withDefault hjson (by decide) hlevel
    scriptTextSize := isShort_withDefault hjson (by decide) hsize
    currentCardIndex := isShort_withDefault hjson (by decide) hindex
    cardIds := fun card h ↦ (hcard card h).1
    fieldIds := fun card h ↦ (hcard card h).2 }
  rcases withDefault_eq_valid hfont with rfl | ⟨written, hwritten, hfont⟩
  · exact ⟨"Monaco", rfl⟩
  · exact plain_of_wideText hdialect (isWithin_member? hjson hwritten) hfont

end Decoded

/-- What is decoded can be written again. -/
theorem Snapshot.isWritable_of_decode {text : String} {snapshot : Snapshot}
    (h : decode text = .valid snapshot) : snapshot.IsWritable := by
  unfold decode at h
  split at h
  · cases h
  · next json hread => exact isWritable_of_ofJson rfl (isWithin_readChars hread) h

/-! ### Saving and loading -/

namespace Store

variable {store : Store} {settings : Settings} {name : String} {snapshot : Snapshot}

theorem alike_loadSnapshot (store : Store) (settings : Settings) (name : String) :
    store.Alike (store.loadSnapshot settings name).2 := by
  have hget := store.alike_get (settings.snapshotKey name)
  unfold loadSnapshot
  rcases hcall : store.get (settings.snapshotKey name) with ⟨_ | _ | text, after⟩
  all_goals
    rw [hcall] at hget
    exact hget

theorem outage_saveSnapshot (hset : store.Accepts .set) (settings : Settings) (name : String)
    (snapshot : Snapshot) :
    (store.saveSnapshot settings name snapshot).2.outage = store.outage := by
  unfold saveSnapshot
  cases snapshot.encode? with
  | none => rfl
  | some text =>
    obtain ⟨saved, hsaved, hholds⟩ := set_eq hset (settings.snapshotKey name) text
    dsimp only
    rw [hsaved]
    exact hholds.outage

theorem saveSnapshot_eq (hset : store.Accepts .set) (hsnapshot : snapshot.IsWritable)
    (settings : Settings) (name : String) :
    ∃ saved, store.saveSnapshot settings name snapshot = (true, saved) ∧
      saved.Holds store (settings.snapshotKey name) snapshot.toJson.compact := by
  obtain ⟨saved, hsaved, hholds⟩ :=
    set_eq hset (settings.snapshotKey name) snapshot.toJson.compact
  refine ⟨saved, ?_, hholds⟩
  rw [saveSnapshot, hsnapshot.encode?_eq]
  dsimp only
  rw [hsaved]

theorem loadSnapshot_fst (hget : store.Accepts .get) :
    (store.loadSnapshot settings name).1 =
      (store.value? (settings.snapshotKey name)).bind fun text ↦
        if text.isEmpty then none else (Snapshot.decode text).value? := by
  have hvalue := get_fst hget (settings.snapshotKey name)
  unfold loadSnapshot
  rcases hcall : store.get (settings.snapshotKey name) with ⟨result, after⟩
  rw [hcall] at hvalue
  dsimp only at hvalue
  subst hvalue
  cases store.value? (settings.snapshotKey name) <;> rfl

/-- Whatever text is stored, a snapshot loaded from it can be saved. -/
theorem isWritable_of_loadSnapshot (h : (store.loadSnapshot settings name).1 = some snapshot) :
    snapshot.IsWritable := by
  unfold loadSnapshot at h
  split at h
  · split_ifs at h with hempty
    exact Snapshot.isWritable_of_decode (Checked.value?_eq_some_iff.mp h)
  · cases h

theorem loadSnapshot_of_value? (hget : store.Accepts .get) (hsnapshot : snapshot.IsWritable)
    (hvalue : store.value? (settings.snapshotKey name) = some snapshot.toJson.compact) :
    (store.loadSnapshot settings name).1 = some snapshot := by
  rw [loadSnapshot_fst hget, hvalue, Option.bind_some, snapshot.isEmpty_compact,
    Snapshot.decode_compact hsnapshot]
  rfl

/-- Assumes: a store that accepts reads and writes of keys, and a snapshot whose font is a text and
whose numbers are short. The store takes the snapshot and gives back exactly that one, and all
other keys stay as they were. -/
theorem loadSnapshot_saveSnapshot (hget : store.Accepts .get) (hset : store.Accepts .set)
    (hsnapshot : snapshot.IsWritable) (settings : Settings) (name : String) :
    ∃ saved loaded, store.saveSnapshot settings name snapshot = (true, saved) ∧
      saved.loadSnapshot settings name = (some snapshot, loaded) ∧
      ∀ key, key ≠ settings.snapshotKey name →
        saved.value? key = store.value? key ∧ loaded.value? key = store.value? key := by
  obtain ⟨saved, hsaved, hholds⟩ := saveSnapshot_eq hset hsnapshot settings name
  have hget' : saved.Accepts .get := fun number ↦ by rw [hholds.outage, hget number]
  have hloaded := loadSnapshot_of_value? hget' hsnapshot hholds.value?_self
  refine ⟨saved, (saved.loadSnapshot settings name).2, hsaved, ?_, fun key hkey ↦ ?_⟩
  · rw [← hloaded]
  · have hsame := hholds.value?_of_ne key hkey
    exact ⟨hsame, ((saved.alike_loadSnapshot settings name).value? key).trans hsame⟩

/-- A snapshot with characters that are escaped, an empty field name and a negative id. -/
theorem loadSnapshot_saveSnapshot_escaped :
    Accepts {} .get ∧ Accepts {} .set ∧ Snapshot.escaped.IsWritable ∧
      ∃ saved loaded, Store.saveSnapshot {} {} "Home" Snapshot.escaped = (true, saved) ∧
        saved.loadSnapshot {} "Home" = (some Snapshot.escaped, loaded) ∧
        ∀ key, key ≠ Settings.snapshotKey {} "Home" →
          saved.value? key = Store.value? {} key ∧ loaded.value? key = Store.value? {} key :=
  ⟨fun _ ↦ rfl, fun _ ↦ rfl, Snapshot.isWritable_escaped,
    loadSnapshot_saveSnapshot (fun _ ↦ rfl) (fun _ ↦ rfl) Snapshot.isWritable_escaped {} "Home"⟩

end Store

end Cardfile
