import Cardfile.Json.Reader
import Cardfile.Proofs.Text.Decimal

/-!
# What a read value can hold

Whatever is read in a dialect (`Json.isWithin_readChars`), its whole numbers are short, and none of
its texts holds half of a surrogate pair unless the dialect admits that.
-/

set_option autoImplicit false
set_option relaxedAutoImplicit false

namespace Cardfile

theorem Except.exists_of_map_eq_ok {ε α β : Type} {f : α → β} {outcome : Except ε α} {result : β}
    (h : outcome.map f = .ok result) : ∃ value, outcome = .ok value ∧ f value = result := by
  cases outcome with
  | error e => cases h
  | ok value => exact ⟨value, rfl, Except.ok.inj h⟩

theorem Except.exists_of_bind_eq_ok {ε α β : Type} {next : α → Except ε β} {outcome : Except ε α}
    {result : β} (h : (outcome >>= next) = .ok result) :
    ∃ value, outcome = .ok value ∧ next value = .ok result := by
  cases outcome with
  | error e => cases h
  | ok value => exact ⟨value, rfl, h⟩

namespace Json

open Text

variable {dialect : Dialect}

mutual

/-- What a dialect lets a value hold. -/
def IsWithin (dialect : Dialect) : Json → Prop
  | .whole n => IsShort n
  | .halved _ => dialect.admitsHalfPairs = true
  | .list items => AreWithin dialect items
  | .record members => MembersWithin dialect members
  | _ => True

def AreWithin (dialect : Dialect) : List Json → Prop
  | [] => True
  | item :: rest => IsWithin dialect item ∧ AreWithin dialect rest

def MembersWithin (dialect : Dialect) : List (String × Json) → Prop
  | [] => True
  | (_, value) :: rest => IsWithin dialect value ∧ MembersWithin dialect rest

end

theorem areWithin_iff {items : List Json} :
    AreWithin dialect items ↔ ∀ item ∈ items, IsWithin dialect item := by
  induction items with
  | nil => simp [AreWithin]
  | cons item rest ih => simp [AreWithin, ih]

theorem membersWithin_iff {members : List (String × Json)} :
    MembersWithin dialect members ↔ ∀ member ∈ members, IsWithin dialect member.2 := by
  induction members with
  | nil => simp [MembersWithin]
  | cons member rest ih => simp [MembersWithin, ih]

/-! ### Parts -/

theorem isWithin_readNumber {input rest : List Char} {value : Json}
    (h : readNumber dialect input = .ok (value, rest)) : IsWithin dialect value := by
  unfold readNumber at h
  split at h
  split at h
  · cases h
  · next digits afterWhole _ _ =>
    dsimp only at h
    split_ifs at h with hlong hwhole
    · cases h
      have hlength : digits.length ≤ digitLimit := by
        simpa [hwhole] using hlong
      -- A whole number has no other digits than those that were counted.
      have hfraction : (takeFraction afterWhole).1 = [] := by
        simpa using (Bool.and_eq_true_iff.mp hwhole).1
      rw [hfraction, List.append_nil]
      exact isShort_filterMap digitValue?_le hlength _
    · cases h
      trivial

theorem isWithin_readText {input rest : List Char} {text : WideText}
    (h : readText dialect input = .ok (text, rest)) : IsWithin dialect (.ofWide text) := by
  obtain ⟨⟨units, tail⟩, -, h⟩ := Except.exists_of_bind_eq_ok h
  dsimp only at h
  split at h
  · cases h
    trivial
  · split_ifs at h with hhalves
    cases h
    exact hhalves

theorem isWithin_literal? {input : List Char} {found : Json × List Char}
    (h : literal? input = some found) : IsWithin dialect found.1 := by
  obtain ⟨⟨word, value⟩, hmem, h⟩ := List.exists_of_findSome?_eq_some h
  dsimp only at h
  split_ifs at h
  cases h
  simp only [literals, List.mem_cons, Prod.mk.injEq, List.not_mem_nil, or_false] at hmem
  rcases hmem with ⟨-, rfl⟩ | ⟨-, rfl⟩ | ⟨-, rfl⟩ | ⟨-, rfl⟩ | ⟨-, rfl⟩ | ⟨-, rfl⟩ <;> trivial

theorem membersWithin_addMember {key : WideText} {value : Json} {members : List (String × Json)}
    (hkey : IsWithin dialect (.ofWide key)) (hvalue : IsWithin dialect value)
    (hmembers : MembersWithin dialect members) :
    MembersWithin dialect (addMember key value members) := by
  rw [membersWithin_iff] at hmembers ⊢
  intro member hmember
  cases key with
  | plain name =>
    rcases List.mem_cons.mp hmember with rfl | hold
    · exact hvalue
    · exact hmembers member hold
  | halved codes =>
    rcases List.mem_append.mp hmember with hold | hlast
    · exact hmembers member hold
    · obtain rfl := List.mem_singleton.mp hlast
      exact hkey

/-! ### Values -/

/-- What is read with some fuel is within the dialect. -/
structure ReadsWithin (dialect : Dialect) (fuel : Nat) : Prop where
  value : ∀ {room : Nat} {input rest : List Char} {value : Json},
    readValue dialect fuel room input = .ok (value, rest) → IsWithin dialect value
  items : ∀ {room : Nat} {input rest : List Char} {items : List Json},
    readItems dialect fuel room input = .ok (items, rest) → AreWithin dialect items
  members : ∀ {room : Nat} {input rest : List Char} {members : List (String × Json)},
    readMembers dialect fuel room input = .ok (members, rest) → MembersWithin dialect members

section Parts

variable {fuel room : Nat} {input rest : List Char}

theorem ReadsWithin.isWithin_readValue (hreads : ReadsWithin dialect fuel) {value : Json}
    (h : readValue dialect (fuel + 1) room input = .ok (value, rest)) : IsWithin dialect value := by
  unfold readValue at h
  split at h
  · cases h
  · cases h
  · obtain ⟨⟨text, tail⟩, htext, h⟩ := Except.exists_of_map_eq_ok h
    cases h
    exact isWithin_readText htext
  · next less start hfuel =>
    obtain rfl := Nat.succ.inj hfuel
    split at h
    · split_ifs at h
      cases h
      trivial
    · cases h
      trivial
    · cases h
    · obtain ⟨⟨items, tail⟩, hitem, h⟩ := Except.exists_of_map_eq_ok h
      cases h
      exact hreads.items hitem
  · next less start hfuel =>
    obtain rfl := Nat.succ.inj hfuel
    split at h
    · split_ifs at h
      cases h
      trivial
    · cases h
      trivial
    · cases h
    · obtain ⟨⟨members, tail⟩, hmember, h⟩ := Except.exists_of_map_eq_ok h
      cases h
      exact hreads.members hmember
  · split at h
    · next found hfound =>
      cases h
      exact isWithin_literal? hfound
    · exact isWithin_readNumber h

theorem ReadsWithin.areWithin_readItems (hreads : ReadsWithin dialect fuel) {items : List Json}
    (h : readItems dialect (fuel + 1) room input = .ok (items, rest)) :
    AreWithin dialect items := by
  rw [readItems] at h
  obtain ⟨⟨item, after⟩, hitem, h⟩ := Except.exists_of_bind_eq_ok h
  dsimp only at h
  split at h
  · cases h
    exact ⟨hreads.value hitem, trivial⟩
  · obtain ⟨⟨more, tail⟩, hmore, h⟩ := Except.exists_of_bind_eq_ok h
    cases h
    exact ⟨hreads.value hitem, hreads.items hmore⟩
  · cases h

theorem ReadsWithin.membersWithin_readMembers (hreads : ReadsWithin dialect fuel)
    {members : List (String × Json)}
    (h : readMembers dialect (fuel + 1) room input = .ok (members, rest)) :
    MembersWithin dialect members := by
  unfold readMembers at h
  split at h
  · cases h
  · next less start hfuel =>
    obtain rfl := Nat.succ.inj hfuel
    obtain ⟨⟨key, afterKey⟩, hkey, h⟩ := Except.exists_of_bind_eq_ok h
    dsimp only at h
    split at h
    · obtain ⟨⟨value, after⟩, hread, h⟩ := Except.exists_of_bind_eq_ok h
      dsimp only at h
      split at h
      · cases h
        exact membersWithin_addMember (isWithin_readText hkey) (hreads.value hread) trivial
      · obtain ⟨⟨more, tail⟩, hmore, h⟩ := Except.exists_of_bind_eq_ok h
        cases h
        exact membersWithin_addMember (isWithin_readText hkey) (hreads.value hread)
          (hreads.members hmore)
      · cases h
    · cases h
  · cases h

end Parts

theorem readsWithin (dialect : Dialect) (fuel : Nat) : ReadsWithin dialect fuel := by
  induction fuel with
  | zero =>
    refine ⟨fun {room input rest value} h ↦ ?_, fun {room input rest items} h ↦ ?_,
      fun {room input rest members} h ↦ ?_⟩
    · rw [readValue] at h
      cases h
    · rw [readItems] at h
      cases h
    · rw [readMembers] at h
      cases h
  | succ fuel ih =>
    exact ⟨ih.isWithin_readValue, ih.areWithin_readItems, ih.membersWithin_readMembers⟩

theorem isWithin_readChars {input : List Char} {value : Json}
    (h : readChars dialect input = .ok value) : IsWithin dialect value := by
  obtain ⟨⟨read, tail⟩, hread, h⟩ := Except.exists_of_bind_eq_ok h
  dsimp only at h
  split at h
  · cases h
    exact (readsWithin dialect _).value hread
  · cases h

end Json

end Cardfile
