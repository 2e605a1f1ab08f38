import Cardfile.Text.LooseNumeral
import Mathlib.Algebra.Group.Nat.Defs
import Mathlib.Data.List.Basic
import Mathlib.Tactic.SplitIfs

/-!
# Decimal numerals

The decimal digits of a number are ASCII digits without leading zeros, and their number is the
number they came from. A whole number is short (`IsShort`) when it has at most `digitLimit` digits;
every numeral of at most so many digits writes a short one.
-/

set_option autoImplicit false
set_option relaxedAutoImplicit false

namespace Cardfile.Text

/-! ### Digits and their values -/

theorem digitValue?_of_isDigit {c : Char} (h : c.isDigit = true) :
    digitValue? c = some (c.toNat - 48) := by
  have hbound : c.toNat < 128 := by
    have hnine : c.toNat ≤ 57 := by
      simp only [Char.isDigit, Bool.and_eq_true, decide_eq_true_eq] at h
      exact h.2
    omega
  simp [digitValue?, hbound, h]

theorem digitValue?_le {c : Char} {value : Nat} (h : digitValue? c = some value) : value ≤ 9 := by
  unfold digitValue? at h
  split_ifs at h with hascii hdigit
  · obtain rfl := Option.some.inj h
    simp only [Char.isDigit, Bool.and_eq_true, decide_eq_true_eq] at hdigit
    have hnine : c.toNat ≤ 57 := hdigit.2
    omega
  · obtain ⟨start, hstart, rfl⟩ := Option.map_eq_some_iff.mp h
    have hrange := List.find?_some hstart
    simp only [Bool.and_eq_true, decide_eq_true_eq] at hrange
    omega

theorem asciiDigitValue?_le {c : Char} {value : Nat} (h : asciiDigitValue? c = some value) :
    value ≤ 9 := by
  unfold asciiDigitValue? at h
  split_ifs at h with hdigit
  have hvalue := digitValue?_of_isDigit hdigit
  rw [h] at hvalue
  exact digitValue?_le hvalue

/-! ### The digits of a number -/

theorem foldl_digits {chars : List Char} (h : ∀ c ∈ chars, c.isDigit = true) (start : Nat) :
    (chars.filterMap digitValue?).foldl (fun number digit ↦ 10 * number + digit) start =
      Nat.ofDigitChars 10 chars start := by
  induction chars generalizing start with
  | nil => rfl
  | cons c rest ih =>
    have hvalue := digitValue?_of_isDigit (h c List.mem_cons_self)
    rw [List.filterMap_cons_some hvalue, List.foldl_cons, Nat.ofDigitChars_cons]
    exact ih (fun other hother ↦ h other (List.mem_cons_of_mem c hother)) _

theorem isDigit_of_mem_toDigits {n : Nat} : ∀ c ∈ Nat.toDigits 10 n, c.isDigit = true :=
  fun _ hc ↦ Nat.isDigit_of_mem_toDigits (by decide) (by decide) hc

theorem numberOfDigits_toDigits (n : Nat) :
    numberOfDigits ((Nat.toDigits 10 n).filterMap digitValue?) = n := by
  rw [numberOfDigits, foldl_digits isDigit_of_mem_toDigits, Nat.ofDigitChars_ten_toDigits]

/-- What a numeral starts with. -/
theorem exists_toDigits_cons (n : Nat) :
    ∃ c more, Nat.toDigits 10 n = c :: more ∧ c.isDigit = true := by
  obtain ⟨c, more, hdigits⟩ := List.exists_cons_of_ne_nil (Nat.toDigits_ne_nil (b := 10) (n := n))
  exact ⟨c, more, hdigits, isDigit_of_mem_toDigits c (hdigits ▸ List.mem_cons_self)⟩

theorem isDigit_ne {c d : Char} (hc : c.isDigit = true) (hd : d.isDigit = false) : c ≠ d := by
  rintro rfl
  exact Bool.false_ne_true (hd.symm.trans hc)

theorem decimalDigits_eq (n : Int) : decimalDigits n =
    if n < 0 then '-' :: Nat.toDigits 10 n.natAbs else Nat.toDigits 10 n.natAbs := by
  cases n with
  | ofNat n => rfl
  | negSucc n =>
    rw [if_pos (Int.negSucc_lt_zero n)]
    rfl

theorem withSign_natAbs (n : Int) : withSign (decide (n < 0)) n.natAbs = n := by
  by_cases hn : n < 0
  · rw [withSign, if_pos (decide_eq_true hn)]
    omega
  · rw [withSign, if_neg (by simpa using hn)]
    omega

/-- No leading zeros, but for zero itself. -/
theorem head?_toDigits {n : Nat} (hn : 0 < n) : (Nat.toDigits 10 n).head? ≠ some '0' := by
  induction n using Nat.strongRecOn with
  | ind n ih =>
    by_cases hsmall : n < 10
    · have hdigit : ∀ k < 10, 0 < k → k.digitChar ≠ '0' := by decide
      simpa [Nat.toDigits_of_lt_base hsmall] using hdigit n hsmall hn
    · have hten : 10 ≤ n := by omega
      rw [Nat.toDigits_of_base_le (by decide) hten,
        List.head?_append_of_ne_nil _ Nat.toDigits_ne_nil]
      exact ih (n / 10) (by omega) (by omega)

/-! ### Short numbers -/

theorem isShort_iff {n : Int} : IsShort n ↔ n.natAbs < 10 ^ digitLimit :=
  Nat.length_toDigits_le_iff (by decide) (by decide)

theorem isShort_of_natAbs_le {n bound : Int} (hbound : IsShort bound)
    (h : n.natAbs ≤ bound.natAbs) : IsShort n :=
  isShort_iff.mpr (Nat.lt_of_le_of_lt h (isShort_iff.mp hbound))

theorem isShort_neg {n : Int} : IsShort (-n) ↔ IsShort n := by
  rw [IsShort, Int.natAbs_neg, IsShort]

theorem isShort_withSign {negative : Bool} {magnitude : Nat} :
    IsShort (withSign negative magnitude) ↔ magnitude < 10 ^ digitLimit := by
  rw [isShort_iff]
  cases negative <;> simp [withSign]

theorem foldl_lt_pow {digits : List Nat} (h : ∀ digit ∈ digits, digit ≤ 9) (start : Nat) :
    digits.foldl (fun number digit ↦ 10 * number + digit) start <
      (start + 1) * 10 ^ digits.length := by
  induction digits generalizing start with
  | nil => simp
  | cons digit rest ih =>
    have hdigit := h digit List.mem_cons_self
    have hrest := ih (fun other hother ↦ h other (List.mem_cons_of_mem _ hother))
      (10 * start + digit)
    rw [List.foldl_cons, List.length_cons, Nat.pow_succ']
    calc rest.foldl (fun number digit ↦ 10 * number + digit) (10 * start + digit)
        < (10 * start + digit + 1) * 10 ^ rest.length := hrest
      _ ≤ ((start + 1) * 10) * 10 ^ rest.length := Nat.mul_le_mul_right _ (by omega)
      _ = (start + 1) * (10 * 10 ^ rest.length) := Nat.mul_assoc ..

/-- Assumes: digits of a decimal script, at most `digitLimit` of them. -/
theorem isShort_numberOfDigits {digits : List Nat} (hdigits : ∀ digit ∈ digits, digit ≤ 9)
    (hlength : digits.length ≤ digitLimit) (negative : Bool) :
    IsShort (withSign negative (numberOfDigits digits)) := by
  rw [isShort_withSign]
  calc numberOfDigits digits < (0 + 1) * 10 ^ digits.length := foldl_lt_pow hdigits 0
    _ = 10 ^ digits.length := by rw [Nat.zero_add, Nat.one_mul]
    _ ≤ 10 ^ digitLimit := Nat.pow_le_pow_right (by decide) hlength

/-- Assumes: characters read as decimal digits, at most `digitLimit` of them. -/
theorem isShort_filterMap {value? : Char → Option Nat}
    (hvalue : ∀ {c : Char} {value : Nat}, value? c = some value → value ≤ 9) {chars : List Char}
    (hlength : chars.length ≤ digitLimit) (negative : Bool) :
    IsShort (withSign negative (numberOfDigits (chars.filterMap value?))) := by
  refine isShort_numberOfDigits ?_ (Nat.le_trans (List.length_filterMap_le ..) hlength) negative
  intro digit hdigit
  obtain ⟨c, -, hc⟩ := List.mem_filterMap.mp hdigit
  exact hvalue hc

/-! ### Numerals that are read -/

theorem groupedDigits?_le {chars : List Char} {digits : List Nat}
    (h : groupedDigits? digitValue? chars = some digits) : ∀ digit ∈ digits, digit ≤ 9 := by
  induction chars using groupedDigits?.induct generalizing digits with
  | case1 => cases h
  | case2 c =>
    rw [groupedDigits?] at h
    obtain ⟨value, hvalue, rfl⟩ := Option.map_eq_some_iff.mp h
    simpa using digitValue?_le hvalue
  | case3 c rest ih =>
    rw [groupedDigits?] at h
    obtain ⟨value, hvalue, h⟩ := Option.bind_eq_some_iff.mp h
    obtain ⟨more, hmore, h⟩ := Option.bind_eq_some_iff.mp h
    cases h
    exact List.forall_mem_cons.mpr ⟨digitValue?_le hvalue, ih hmore⟩
  | case4 c rest hne hgroup ih =>
    rw [groupedDigits?] at h
    · obtain ⟨value, hvalue, h⟩ := Option.bind_eq_some_iff.mp h
      obtain ⟨more, hmore, h⟩ := Option.bind_eq_some_iff.mp h
      cases h
      exact List.forall_mem_cons.mpr ⟨digitValue?_le hvalue, ih hmore⟩
    · exact hne
    · exact hgroup

theorem isShort_readWhole? {text : String} {n : Int} (h : readWhole? text = some n) :
    IsShort n := by
  unfold readWhole? at h
  obtain ⟨digits, hdigits, h⟩ := Option.bind_eq_some_iff.mp h
  split_ifs at h with hlength
  obtain rfl := Option.some.inj h
  exact isShort_numberOfDigits (groupedDigits?_le hdigits) hlength _

theorem isShort_plainWhole? {text : List Char} {n : Int} (h : plainWhole? text = some n) :
    IsShort n := by
  unfold plainWhole? at h
  dsimp only at h
  split_ifs at h with hplain
  obtain rfl := Option.some.inj h
  have hlength : (takeMinus text).2.length ≤ digitLimit := by
    simpa using (Bool.and_eq_true_iff.mp hplain).2
  exact isShort_filterMap asciiDigitValue?_le hlength _

theorem isShort_readLoosely {text : String} {n : Int} (h : readLoosely text = .ok n) :
    IsShort n := by
  unfold readLoosely at h
  split at h
  · next hplain =>
    cases h
    exact isShort_plainWhole? hplain
  · split_ifs at h
    split at h
    · cases h
    · split at h
      · cases h
      · next hplain =>
        split_ifs at h
        · cases h
          exact isShort_plainWhole? hplain
        · cases h
          exact isShort_neg.mpr (isShort_plainWhole? hplain)

/-! ### Plain decimals -/

theorem isPlainMagnitude_toDigits (n : Nat) : isPlainMagnitude (Nat.toDigits 10 n) = true := by
  have hdigits : (Nat.toDigits 10 n).all Char.isDigit = true :=
    List.all_eq_true.mpr isDigit_of_mem_toDigits
  have hstart : (Nat.toDigits 10 n).length = 1 ∨ (Nat.toDigits 10 n).head? ≠ some '0' := by
    rcases Nat.eq_zero_or_pos n with rfl | hpos
    · exact Or.inl rfl
    · exact Or.inr (head?_toDigits hpos)
  simpa [isPlainMagnitude, hdigits] using hstart

theorem asciiDigitValue?_eq {c : Char} (h : c.isDigit = true) :
    asciiDigitValue? c = digitValue? c := by
  rw [asciiDigitValue?, if_pos h, digitValue?_of_isDigit h]

theorem readLoosely_decimal {n : Nat} (h : IsShort n) : readLoosely (decimal n) = .ok n := by
  have hsign : takeMinus (Nat.toDigits 10 n) = (false, Nat.toDigits 10 n) := by
    obtain ⟨c, more, hdigits, hc⟩ := exists_toDigits_cons n
    have hminus : c ≠ '-' := isDigit_ne hc (by decide)
    rw [hdigits]
    unfold takeMinus
    split
    · next hcons => exact absurd (List.cons.inj hcons).1 hminus
    · rfl
  have hvalues : (Nat.toDigits 10 n).filterMap asciiDigitValue? =
      (Nat.toDigits 10 n).filterMap digitValue? :=
    List.filterMap_congr fun c hc ↦ asciiDigitValue?_eq (isDigit_of_mem_toDigits c hc)
  have hplain : plainWhole? (decimal n).toList = some (n : Int) := by
    have htext : (decimal n).toList = Nat.toDigits 10 n := String.toList_ofList
    rw [htext, plainWhole?, hsign]
    dsimp only
    have hlength : (Nat.toDigits 10 n).length ≤ digitLimit := h
    rw [if_pos (by simpa [isPlainMagnitude_toDigits] using hlength), hvalues,
      numberOfDigits_toDigits]
    rfl
  rw [readLoosely, hplain]

end Cardfile.Text
