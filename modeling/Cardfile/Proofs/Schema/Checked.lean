import Cardfile.Schema.Reader

/-!
# When a reading is valid

A reading put together from several parts is valid exactly when all its parts are, and its value is
put together from theirs. A reader of a part with a default gives the default or what it reads.
-/

set_option autoImplicit false
set_option relaxedAutoImplicit false

namespace Cardfile.Schema

variable {α β : Type}

namespace Checked

theorem map_eq_valid_iff {build : α → β} {checked : Checked α} {result : β} :
    build <$> checked = .valid result ↔ ∃ value, checked = .valid value ∧ build value = result := by
  cases checked with
  | valid value =>
    change Checked.valid (build value) = .valid result ↔ _
    simp
  | invalid problems =>
    change Checked.invalid problems = .valid result ↔ _
    simp

theorem seq_eq_valid_iff {builder : Checked (α → β)} {checked : Checked α} {result : β} :
    builder <*> checked = .valid result ↔
      ∃ build value, builder = .valid build ∧ checked = .valid value ∧ build value = result := by
  cases builder with
  | valid build =>
    cases checked with
    | valid value =>
      change Checked.valid (build value) = .valid result ↔ _
      simp
    | invalid problems =>
      change Checked.invalid problems = .valid result ↔ _
      simp
  | invalid earlier =>
    cases checked with
    | valid value =>
      change Checked.invalid earlier = .valid result ↔ _
      simp
    | invalid later =>
      change Checked.invalid (earlier ++ later) = .valid result ↔ _
      simp

theorem under_eq_valid_iff {step : PathStep} {checked : Checked α} {value : α} :
    checked.under step = .valid value ↔ checked = .valid value := by
  cases checked <;> simp [under]

theorem andThen_eq_valid_iff {checked : Checked α} {next : α → Checked β} {result : β} :
    checked.andThen next = .valid result ↔
      ∃ value, checked = .valid value ∧ next value = .valid result := by
  cases checked <;> simp [andThen]

/-- A further condition that refuses some values leaves the others valid. -/
theorem andThen_unless_eq_valid_iff {refused : α → Prop} [DecidablePred refused] {flaw : Flaw}
    {checked : Checked α} {result : α} :
    (checked.andThen fun value ↦ if refused value then flawed flaw else .valid value) =
      .valid result ↔ checked = .valid result ∧ ¬ refused result := by
  rw [andThen_eq_valid_iff]
  constructor
  · rintro ⟨value, hvalue, hbound⟩
    by_cases hrefused : refused value
    · rw [if_pos hrefused] at hbound
      cases hbound
    · rw [if_neg hrefused] at hbound
      cases hbound
      exact ⟨hvalue, hrefused⟩
  · rintro ⟨hvalue, hrefused⟩
    exact ⟨result, hvalue, if_neg hrefused⟩

theorem value?_eq_some_iff {checked : Checked α} {value : α} :
    checked.value? = some value ↔ checked = .valid value := by
  cases checked <;> simp [value?]

end Checked

variable {members : List (String × Json)} {key : String} {reader : Reader α} {value : α}

theorem record_eq_valid_iff {build : List (String × Json) → Checked α} {json : Json} :
    record build json = .valid value ↔
      ∃ members, json = .record members ∧ build members = .valid value := by
  cases json <;> simp [record, recordOr, Checked.flawed]

theorem required_eq_valid_iff :
    required members key reader = .valid value ↔
      ∃ json, Json.member? members key = some json ∧ reader json = .valid value := by
  rw [required, Checked.under_eq_valid_iff]
  cases Json.member? members key <;> simp [Checked.flawed]

theorem withDefault_eq_valid {default : α}
    (h : withDefault members key reader default = .valid value) :
    value = default ∨
      ∃ json, Json.member? members key = some json ∧ reader json = .valid value := by
  unfold withDefault at h
  cases hmember : Json.member? members key with
  | none =>
    rw [hmember] at h
    cases h
    exact Or.inl rfl
  | some json =>
    rw [hmember] at h
    exact Or.inr ⟨json, rfl, Checked.under_eq_valid_iff.mp h⟩

/-! ### Lists -/

theorem itemsFrom_map {write : α → Json} {reader : Reader α}
    (h : ∀ item, reader (write item) = .valid item) (items : List α) (position : Nat) :
    itemsFrom reader position (items.map write) = .valid items := by
  induction items generalizing position with
  | nil => rfl
  | cons item rest ih =>
    rw [List.map_cons, itemsFrom, h item, ih (position + 1)]
    rfl

/-- A reader that undoes a writer does so for lists. -/
theorem listOf_map {write : α → Json} {reader : Reader α}
    (h : ∀ item, reader (write item) = .valid item) (items : List α) :
    listOf reader (.list (items.map write)) = .valid items :=
  itemsFrom_map h items 0

theorem mem_itemsFrom {items : List Json} {values : List α} {position : Nat}
    (h : itemsFrom reader position items = .valid values) (hvalue : value ∈ values) :
    ∃ item ∈ items, reader item = .valid value := by
  induction items generalizing position values with
  | nil =>
    cases h
    cases hvalue
  | cons item rest ih =>
    obtain ⟨_, more, hitem, hrest, rfl⟩ := Checked.seq_eq_valid_iff.mp h
    obtain ⟨first, hfirst, rfl⟩ := Checked.map_eq_valid_iff.mp hitem
    rcases List.mem_cons.mp hvalue with rfl | hmore
    · exact ⟨item, List.mem_cons_self, Checked.under_eq_valid_iff.mp hfirst⟩
    · obtain ⟨found, hfound, hread⟩ := ih hrest hmore
      exact ⟨found, List.mem_cons_of_mem item hfound, hread⟩

/-- Every value in a list that is read was read from an item. -/
theorem exists_of_listOf_eq_valid {json : Json} {values : List α}
    (h : listOf reader json = .valid values) :
    ∃ items, json = .list items ∧ ∀ value ∈ values, ∃ item ∈ items, reader item = .valid value := by
  cases json with
  | list items => exact ⟨items, rfl, fun _ hvalue ↦ mem_itemsFrom h hvalue⟩
  | _ => cases h

/-! ### Alternatives -/

theorem exists_of_firstOf_eq_valid {readers : List (String × Reader α)} {json : Json}
    (h : firstOf readers json = .valid value) :
    ∃ labelled ∈ readers, labelled.2 json = .valid value := by
  induction readers with
  | nil => cases h
  | cons labelled rest ih =>
    rw [firstOf] at h
    split at h
    · next hread =>
      cases h
      exact ⟨labelled, List.mem_cons_self, hread⟩
    · split at h
      · next hrest =>
        cases h
        obtain ⟨found, hfound, hread⟩ := ih hrest
        exact ⟨found, List.mem_cons_of_mem labelled hfound, hread⟩
      · cases h

/-! ### Bounds -/

section Bounds

variable {n : Int} {wholeReader : Reader Int} {json : Json}

theorem atLeast_eq_valid_iff {minimum : Int} :
    atLeast minimum wholeReader json = .valid n ↔ wholeReader json = .valid n ∧ minimum ≤ n := by
  rw [atLeast, Checked.andThen_unless_eq_valid_iff, Int.not_lt]

theorem atMost_eq_valid_iff {maximum : Int} :
    atMost maximum wholeReader json = .valid n ↔ wholeReader json = .valid n ∧ n ≤ maximum := by
  rw [atMost, Checked.andThen_unless_eq_valid_iff, Int.not_lt]

theorem above_eq_valid_iff {bound : Int} :
    above bound wholeReader json = .valid n ↔ wholeReader json = .valid n ∧ bound < n := by
  rw [above, Checked.andThen_unless_eq_valid_iff, Int.not_le]

end Bounds

end Cardfile.Schema
