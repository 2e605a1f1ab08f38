import Cardfile.Proofs.Json.Bounds
import Cardfile.Proofs.Schema.Checked

/-!
# What passes a reader

Whatever form a whole number is written in, a reader of one gives a short one
(`Schema.isShort_wholeNumber`), and so does each reader of a member that is one.
-/

set_option autoImplicit false
set_option relaxedAutoImplicit false

namespace Cardfile.Schema

open Json Text

variable {dialect : Dialect} {n : Int}

theorem isShort_wholeOfText {text : String} (h : wholeOfText text = .valid n) : IsShort n := by
  unfold wholeOfText at h
  split at h
  · next hread =>
    cases h
    exact isShort_readLoosely hread
  · cases h
  · cases h

theorem isShort_wholeOfReal {x : Binary64} (h : wholeOfReal x = .valid n) : IsShort n := by
  unfold wholeOfReal at h
  split at h
  · split at h
    · cases h
    · split_ifs at h with hrange
      · cases h
        rw [Bool.and_eq_true, decide_eq_true_iff, decide_eq_true_iff] at hrange
        have hbound : IsShort (Int.pow 2 63) := by decide
        exact isShort_of_natAbs_le hbound (by omega)
      · cases h
  · cases h

/-- Assumes: a value that was read from a text. -/
theorem isShort_wholeNumber {json : Json} (hjson : IsWithin dialect json)
    (h : wholeNumber json = .valid n) : IsShort n := by
  cases json with
  | whole m =>
    cases h
    exact hjson
  | bool flag =>
    cases h
    cases flag <;> decide
  | real x => exact isShort_wholeOfReal h
  | text t => exact isShort_wholeOfText h
  | null => cases h
  | halved codes => cases h
  | list items => cases h
  | record members => cases h

/-- Where half of a surrogate pair cannot be read, every text has characters. -/
theorem plain_of_wideText {json : Json} {text : WideText}
    (hdialect : dialect.admitsHalfPairs = false) (hjson : IsWithin dialect json)
    (h : wideText json = .valid text) : ∃ characters, text = .plain characters := by
  cases json with
  | text characters =>
    cases h
    exact ⟨characters, rfl⟩
  | halved codes => exact absurd hjson (by simp [IsWithin, hdialect])
  | _ => cases h

/-! ### Members -/

section Members

variable {members : List (String × Json)} {key : String}

theorem isWithin_member? (hmembers : MembersWithin dialect members) {json : Json}
    (h : Json.member? members key = some json) : IsWithin dialect json := by
  obtain ⟨front, back, hsplit, -⟩ := List.lookup_eq_some_iff.mp h
  have hmember : (key, json) ∈ members := by
    rw [← List.mem_reverse, hsplit]
    exact List.mem_append_right front List.mem_cons_self
  exact membersWithin_iff.mp hmembers (key, json) hmember

theorem isShort_required (hmembers : MembersWithin dialect members)
    (h : required members key wholeNumber = .valid n) : IsShort n := by
  obtain ⟨json, hmember, hread⟩ := required_eq_valid_iff.mp h
  exact isShort_wholeNumber (isWithin_member? hmembers hmember) hread

theorem isShort_withDefault (hmembers : MembersWithin dialect members) {default : Int}
    (hdefault : IsShort default) (h : withDefault members key wholeNumber default = .valid n) :
    IsShort n := by
  rcases withDefault_eq_valid h with rfl | ⟨json, hmember, hread⟩
  · exact hdefault
  · exact isShort_wholeNumber (isWithin_member? hmembers hmember) hread

end Members

end Cardfile.Schema
