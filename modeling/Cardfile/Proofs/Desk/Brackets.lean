import Cardfile.Proofs.Desk.OpenField
import Mathlib.Data.List.Chain

/-!
# Openings and closings take turns

Three operations close a field: closing it, opening another one, and moving to another card. Along
every run the fields are opened and closed in turn, and a field is open exactly if the last of these
events is an opening (`Desk.Bracketed`). One episode keeps that (`Desk.Bracketed.episode`), so every
run does (`Desk.bracketed_run`).
-/

set_option autoImplicit false
set_option relaxedAutoImplicit false

namespace Cardfile

/-! ### Openings and closings -/

/-- Events that tell of a field being opened or closed. -/
def EventKind.isBracket : EventKind → Bool
  | .openField | .closeField => true
  | _ => false

theorem EventKind.isBracket_eq_false {kind : EventKind} (h : kind.isPassage = false) :
    kind.isBracket = false := by
  cases kind <;> simp_all [isPassage, isBracket]

/-- The openings and closings of fields among some events. -/
def brackets (events : List Event) : List EventKind :=
  (events.map (·.kind)).filter EventKind.isBracket

theorem brackets_append (first second : List Event) :
    brackets (first ++ second) = brackets first ++ brackets second := by
  simp [brackets]

theorem brackets_eq_nil {events : List Event} (h : ∀ event ∈ events, event.kind.isPassage = false) :
    brackets events = [] := by
  rw [brackets, List.filter_eq_nil_iff]
  intro kind hkind
  obtain ⟨event, hevent, rfl⟩ := List.mem_map.mp hkind
  simp [EventKind.isBracket_eq_false (h event hevent)]

/-- Openings and closings in turn, the first of them an opening. -/
structure TakeTurns (kinds : List EventKind) : Prop where
  starts : ∀ kind ∈ kinds.head?, kind = .openField
  alternates : kinds.IsChain (· ≠ ·)

namespace TakeTurns

variable {kinds : List EventKind}

theorem opening (h : TakeTurns kinds) (hlast : kinds.getLast? ≠ some .openField) :
    TakeTurns (kinds ++ [.openField]) where
  starts := by
    cases kinds with
    | nil => simp
    | cons first rest => simpa using h.starts
  alternates := by
    rw [List.isChain_append]
    refine ⟨h.alternates, by simp, ?_⟩
    intro last hmem kind hkind heq
    simp at hkind
    subst hkind heq
    exact hlast hmem

theorem closing (h : TakeTurns kinds) (hlast : kinds.getLast? = some .openField) :
    TakeTurns (kinds ++ [.closeField]) where
  starts := by
    cases kinds with
    | nil => simp at hlast
    | cons first rest => simpa using h.starts
  alternates := by
    rw [List.isChain_append]
    refine ⟨h.alternates, by simp, ?_⟩
    simp [hlast]

end TakeTurns

namespace Desk

variable {desk after : Desk} {kinds : List EventKind} {events : List Event}

theorem brackets_closing (hopen : desk.session.editingFieldId.isSome) :
    brackets desk.closing = [.closeField] := by
  simp [closing, hopen, brackets, EventKind.isBracket]

/-- The openings and closings that led to a desk take turns, and a field is open exactly if the last
of them is an opening. -/
structure Bracketed (desk : Desk) (kinds : List EventKind) : Prop where
  turns : TakeTurns kinds
  isSome_iff : desk.session.editingFieldId.isSome ↔ kinds.getLast? = some .openField

namespace Bracketed

theorem congr (h : desk.Bracketed kinds)
    (hediting : after.session.editingFieldId = desk.session.editingFieldId) :
    after.Bracketed kinds :=
  ⟨h.turns, hediting ▸ h.isSome_iff⟩

/-- The open field is closed, if one is open. -/
theorem closing (h : desk.Bracketed kinds) (hclosed : after.session.editingFieldId = none) :
    after.Bracketed (kinds ++ brackets desk.closing) := by
  by_cases hopen : desk.session.editingFieldId.isSome
  · rw [brackets_closing hopen]
    exact ⟨h.turns.closing (h.isSome_iff.mp hopen), by simp [hclosed]⟩
  · have hclosing : brackets desk.closing = [] := by
      simp [Desk.closing, hopen, brackets]
    rw [hclosing, List.append_nil]
    exact ⟨h.turns, by rw [← h.isSome_iff]; simp [hclosed, hopen]⟩

theorem opening (h : desk.Bracketed kinds) (hclosed : desk.session.editingFieldId = none)
    (hopened : after.session.editingFieldId.isSome) :
    after.Bracketed (kinds ++ [.openField]) := by
  have hlast : kinds.getLast? ≠ some .openField := by
    rw [Ne, ← h.isSome_iff]
    simp [hclosed]
  exact ⟨h.turns.opening hlast, by simp [hopened]⟩

theorem episode {operation : Operation} (h : desk.Bracketed kinds)
    (hepisode : desk.Episode operation events after) :
    after.Bracketed (kinds ++ brackets events) := by
  cases hepisode with
  | browses hbrowses =>
    cases hbrowses with
    | remains hremains =>
      rw [brackets_eq_nil hremains.plain, List.append_nil]
      exact h.congr hremains.editing
    | moves hmoves =>
      have hcards (left right : String) :
          brackets [⟨.closeCard, left⟩, ⟨.openCard, right⟩] = [] := rfl
      rw [brackets_append, brackets_append, brackets_eq_nil hmoves.plain, hcards]
      simpa using h.closing hmoves.editing
  | opens hopenable hopens =>
    have hclosed := h.closing desk.editingFieldId_leaveField
    rw [brackets_append, ← List.append_assoc]
    exact hclosed.opening desk.editingFieldId_leaveField (by simp [hopens.editing])
  | closes => exact h.closing desk.editingFieldId_leaveField
  | merges settings store snapshot =>
    have hnil : brackets [] = [] := rfl
    rw [hnil, List.append_nil]
    exact h.congr rfl

end Bracketed

theorem bracketed_history {base : Stack} {start : Desk} (hopen : open? base = some start)
    (operations : List Operation) :
    (start.run operations).Bracketed (brackets (start.history operations)) := by
  induction operations using List.reverseRecOn with
  | nil =>
    obtain ⟨first, rest, -, rfl⟩ := open?_eq_some_iff.mp hopen
    exact ⟨⟨by simp [history, brackets], by simp [history, brackets]⟩,
      by simp [history, brackets, run]⟩
  | append_singleton operations operation ih =>
    have hepisode := episode_logged (reached_run hopen operations).session operation
    rw [run_concat, history_concat, brackets_append]
    exact ih.episode hepisode

theorem closeField_eq_error_iff (desk : Desk) :
    (∃ refusal, desk.closeField.1 = .error refusal) ↔ desk.session.editingFieldId = none := by
  unfold closeField
  by_cases hopen : desk.session.editingFieldId.isSome
  · have hne : desk.session.editingFieldId ≠ none := by
      simpa [Option.isSome_iff_ne_none] using hopen
    simp [hopen, hne]
  · have hnone : desk.session.editingFieldId = none := by simpa using hopen
    simp [hnone]

/-- What the openings and closings that led to a desk say about what it refuses, and the order of
events in a move that it makes while a field is open. -/
structure WellBracketed (desk : Desk) (kinds : List EventKind) : Prop
    extends Bracketed desk kinds where
  closeField_refused : (∃ refusal, desk.closeField.1 = .error refusal) ↔
    kinds.getLast? ≠ some .openField
  editFieldText_refused : ∀ text, (∃ refusal, (desk.editFieldText text).1 = .error refusal) ↔
    kinds.getLast? ≠ some .openField ∨ ¬ desk.OpenFieldHere
  moves : ∀ line, desk.session.editingFieldId.isSome →
    (desk.execute line).2.session.currentCardIndex ≠ desk.session.currentCardIndex →
    ∃ noted detail old new, (∀ event ∈ noted, event.kind.isPassage = false) ∧
      desk.logged (.execute line) =
        noted ++ [⟨.closeField, detail⟩, ⟨.closeCard, old⟩, ⟨.openCard, new⟩]

theorem exists_logged_of_move (hfits : desk.session.Fits desk.stack) {line : String}
    (hopen : desk.session.editingFieldId.isSome)
    (hmove : (desk.execute line).2.session.currentCardIndex ≠ desk.session.currentCardIndex) :
    ∃ noted detail old new, (∀ event ∈ noted, event.kind.isPassage = false) ∧
      desk.logged (.execute line) =
        noted ++ [⟨.closeField, detail⟩, ⟨.closeCard, old⟩, ⟨.openCard, new⟩] := by
  have hepisode := episode_logged hfits (.execute line)
  have hoperate : (desk.execute line).2 = desk.operate (.execute line) := rfl
  rw [hoperate] at hmove
  generalize desk.logged (.execute line) = events at hepisode ⊢
  generalize desk.operate (.execute line) = after at hepisode hmove
  cases hepisode with
  | browses hbrowses =>
    cases hbrowses with
    | remains hremains => exact absurd hremains.index hmove
    | @moves noted old new _ hmoves =>
      refine ⟨noted, desk.session.currentFieldName.getD "", old.name, new.name, hmoves.plain, ?_⟩
      rw [Desk.closing, if_pos hopen, List.append_assoc]
      rfl

/-- Assumes: a fresh desk. After any operations the history is what has been logged, its openings
and closings take turns, a field is open exactly if the last of them is an opening, and only then it
can be edited and closed, edited moreover only on its card. A move that closes a field says so
before it closes the card. -/
theorem wellBracketed_run {base : Stack} {start : Desk} (hopen : open? base = some start)
    (operations : List Operation) :
    start.session.Logs (start.history operations) (start.run operations).session ∧
      (start.run operations).WellBracketed (brackets (start.history operations)) := by
  have hfits := (reached_run hopen operations).session
  have hbracketed := bracketed_history hopen operations
  have hclosed : (start.run operations).session.editingFieldId = none ↔
      (brackets (start.history operations)).getLast? ≠ some .openField := by
    rw [Ne, ← hbracketed.isSome_iff]
    simp
  obtain ⟨card, hcard⟩ := exists_currentCard? hfits
  refine ⟨logs_history hopen operations, hbracketed, ?_, fun text ↦ ?_, fun line ↦
    exists_logged_of_move hfits⟩
  · rw [closeField_eq_error_iff, hclosed]
  · rw [← hclosed]
    simp only [editFieldText_eq_error_iff hcard]
    constructor
    · rintro ⟨refusal, ⟨hnone, -⟩ | ⟨hgone, -⟩⟩
      · exact Or.inl hnone
      · exact Or.inr hgone
    · rintro (hnone | hgone)
      · exact ⟨_, Or.inl ⟨hnone, rfl⟩⟩
      · exact ⟨_, Or.inr ⟨hgone, rfl⟩⟩

theorem wellBracketed_run_opened :
    open? Stack.starter = some starter ∧
      brackets (starter.history Operation.samples) = [.openField, .closeField] ∧
      (starter.run [.openField "Body"]).session.editingFieldId.isSome ∧
      ∃ noted detail old new, (∀ event ∈ noted, event.kind.isPassage = false) ∧
        (starter.run [.openField "Body"]).logged (.execute "go next") =
          noted ++ [⟨.closeField, detail⟩, ⟨.closeCard, old⟩, ⟨.openCard, new⟩] := by
  have hwell := (wellBracketed_run open?_starter [.openField "Body"]).2
  exact ⟨open?_starter, by decide +kernel, by decide +kernel,
    hwell.moves "go next" (by decide +kernel) (by decide +kernel)⟩

end Desk

end Cardfile
