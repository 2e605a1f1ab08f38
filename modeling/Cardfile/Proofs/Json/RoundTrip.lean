import Cardfile.Json.Reader
import Cardfile.Json.Writer
import Cardfile.Proofs.Text.Decimal

/-!
# Reading back what was written

Compact text is read back as the value it was written for (`Json.read_compact`), as long as the
value is portable (`Json.IsPortable`): no part of it is a binary number or a text with half of a
surrogate pair, its whole numbers are short, and its containers do not lie too deep.

Inside a list or a record a value is followed by a comma or a closing bracket. Such an ending
(`Json.EndsValue`) continues no numeral, so the reader stops where the writer did.
-/

set_option autoImplicit false
set_option relaxedAutoImplicit false

namespace Cardfile.Json

open Text

/-! ### Endings -/

/-- What may follow a value: nothing, a comma or a closing bracket. -/
def EndsValue (rest : List Char) : Prop :=
  ∀ c ∈ rest.head?, c = ',' ∨ c = ']' ∨ c = '}'

theorem endsValue_nil : EndsValue [] := by
  simp [EndsValue]

theorem endsValue_cons {c : Char} {rest : List Char} (h : c = ',' ∨ c = ']' ∨ c = '}') :
    EndsValue (c :: rest) := by
  simpa [EndsValue] using h

theorem EndsValue.skipSpace_eq {rest : List Char} (h : EndsValue rest) : skipSpace rest = rest := by
  cases rest with
  | nil => rfl
  | cons c rest =>
    rcases h c rfl with rfl | rfl | rfl <;> rfl

/-! ### Numbers -/

variable {dialect : Dialect} {rest : List Char}

theorem takeDigits_append {digits : List Char} (hdigits : ∀ c ∈ digits, c.isDigit = true)
    (hrest : EndsValue rest) : takeDigits (digits ++ rest) = (digits, rest) := by
  have hstop : rest.takeWhile Char.isDigit = [] ∧ rest.dropWhile Char.isDigit = rest := by
    cases rest with
    | nil => exact ⟨rfl, rfl⟩
    | cons c rest => rcases hrest c rfl with rfl | rfl | rfl <;> exact ⟨rfl, rfl⟩
  rw [takeDigits, List.takeWhile_append_of_pos hdigits, List.dropWhile_append_of_pos hdigits,
    hstop.1, hstop.2, List.append_nil]

theorem takeWholePart_toDigits (n : Nat) (hrest : EndsValue rest) :
    takeWholePart (Nat.toDigits 10 n ++ rest) = (Nat.toDigits 10 n, rest) := by
  by_cases hn : n = 0
  · subst hn
    rw [Nat.toDigits_zero]
    rfl
  · have hhead := head?_toDigits (Nat.pos_of_ne_zero hn)
    obtain ⟨c, more, hdigits⟩ := List.exists_cons_of_ne_nil (Nat.toDigits_ne_nil (b := 10) (n := n))
    have hc : c ≠ '0' := by
      rintro rfl
      exact hhead (by rw [hdigits, List.head?_cons])
    have hwhole : takeWholePart (Nat.toDigits 10 n ++ rest) =
        takeDigits (Nat.toDigits 10 n ++ rest) := by
      rw [hdigits, List.cons_append, takeWholePart]
      simpa using hc
    rw [hwhole, takeDigits_append isDigit_of_mem_toDigits hrest]

theorem EndsValue.takeFraction_eq (h : EndsValue rest) : takeFraction rest = ([], rest) := by
  cases rest with
  | nil => rfl
  | cons c rest => rcases h c rfl with rfl | rfl | rfl <;> rfl

theorem EndsValue.takeExponent_eq (h : EndsValue rest) : takeExponent rest = (none, rest) := by
  cases rest with
  | nil => rfl
  | cons c rest => rcases h c rfl with rfl | rfl | rfl <;> rfl

theorem readNumber_decimalDigits {n : Int} (hshort : IsShort n) (hrest : EndsValue rest) :
    readNumber dialect (decimalDigits n ++ rest) = .ok (.whole n, rest) := by
  obtain ⟨c, more, hdigits, hc⟩ := exists_toDigits_cons n.natAbs
  unfold readNumber
  split
  rename_i negative unsigned hsign
  have hsplit : (negative, unsigned) = (decide (n < 0), Nat.toDigits 10 n.natAbs ++ rest) := by
    rw [← hsign, decimalDigits_eq, hdigits]
    by_cases hn : n < 0
    · simp [hn]
    · have hminus := isDigit_ne hc (d := '-') rfl
      simp [hn, hminus]
  obtain ⟨rfl, rfl⟩ := Prod.mk.inj hsplit
  have hlength : (c :: more).length ≤ digitLimit := hdigits ▸ hshort
  have hvalue : numberOfDigits ((c :: more).filterMap digitValue?) = n.natAbs := by
    rw [← hdigits, numberOfDigits_toDigits]
  rw [takeWholePart_toDigits n.natAbs hrest, hdigits]
  dsimp only
  rw [hrest.takeFraction_eq]
  dsimp only
  rw [hrest.takeExponent_eq]
  dsimp only
  rw [List.append_nil, hvalue, withSign_natAbs, if_neg]
  · rfl
  · rw [Bool.and_eq_true, decide_eq_true_iff]
    exact fun hlong ↦ absurd hlength (Nat.not_le.mpr hlong.2)

/-! ### Texts -/

/-- A unit stands for a character as itself or by the code of it. -/
inductive StandsFor : TextUnit → Char → Prop
  | char (c : Char) : StandsFor (.char c) c
  | code (c : Char) : StandsFor (.code c.toNat) c

theorem isSurrogate_toNat (c : Char) : isSurrogate c.toNat = false := by
  have hvalid : c.toNat < 0xD800 ∨ 0xDFFF < c.toNat ∧ c.toNat < 0x110000 := c.valid
  simp only [isSurrogate, isHighSurrogate, isLowSurrogate, Bool.or_eq_false_iff,
    Bool.and_eq_false_iff, decide_eq_false_iff_not]
  omega

theorem charsOfUnits?_code (c : Char) (units : List TextUnit) :
    charsOfUnits? (.code c.toNat :: units) = (charsOfUnits? units).map (c :: ·) := by
  have hsurrogate := isSurrogate_toNat c
  have hhigh : isHighSurrogate c.toNat = false := by
    rw [isSurrogate, Bool.or_eq_false_iff] at hsurrogate
    exact hsurrogate.1
  -- Two codes side by side are looked at together.
  rcases units with _ | ⟨other | low, units⟩
  · simp [charsOfUnits?, hsurrogate]
  · simp [charsOfUnits?, hsurrogate]
  · simp [charsOfUnits?, hsurrogate, hhigh]

theorem charsOfUnits?_eq {units : List TextUnit} {chars : List Char}
    (h : List.Forall₂ StandsFor units chars) : charsOfUnits? units = some chars := by
  induction h with
  | nil => rfl
  | cons hunit hrest ih =>
    cases hunit with
    | char => rw [charsOfUnits?, ih, Option.map_some]
    | code => rw [charsOfUnits?_code, ih, Option.map_some]

theorem codeEscape?_hexDigits : ∀ code < 32,
    hexDigits 4 code = ['0', '0', hexDigit (code / 16), hexDigit (code % 16)] ∧
      codeEscape? '0' '0' (hexDigit (code / 16)) (hexDigit (code % 16)) = some code := by
  decide

/-- How a character is written: by a letter, by its code, or as itself. -/
inductive Escape (c : Char) : List Char → Prop
  | letter (letter : Char) (hletter : letter ≠ 'u') (hescape : letterEscape? letter = some c) :
    Escape c ['\\', letter]
  | code (hcontrol : c.toNat < 32) : Escape c ('\\' :: 'u' :: hexDigits 4 c.toNat)
  | itself (hquote : c ≠ '"') (hbackslash : c ≠ '\\') (hprinted : ¬c.toNat < 32) : Escape c [c]

theorem escape_escapeChar (c : Char) : Escape c (escapeChar c) := by
  unfold escapeChar
  by_cases hquote : c = '"'
  · subst hquote
    exact .letter '"' (by decide) rfl
  rw [if_neg hquote]
  by_cases hbackslash : c = '\\'
  · subst hbackslash
    exact .letter '\\' (by decide) rfl
  rw [if_neg hbackslash]
  by_cases hline : c = '\n'
  · subst hline
    exact .letter 'n' (by decide) rfl
  rw [if_neg hline]
  by_cases hreturn : c = '\r'
  · subst hreturn
    exact .letter 'r' (by decide) rfl
  rw [if_neg hreturn]
  by_cases htab : c = '\t'
  · subst htab
    exact .letter 't' (by decide) rfl
  rw [if_neg htab]
  by_cases hback : c = '\x08'
  · subst hback
    exact .letter 'b' (by decide) rfl
  rw [if_neg hback]
  by_cases hfeed : c = '\x0c'
  · subst hfeed
    exact .letter 'f' (by decide) rfl
  rw [if_neg hfeed]
  by_cases hcontrol : c.toNat < 32
  · rw [if_pos hcontrol]
    exact .code hcontrol
  · rw [if_neg hcontrol]
    exact .itself hquote hbackslash hcontrol

/-- A written character is read as a unit that stands for it, wherever more text follows. -/
theorem readUnits_escapeChar (c : Char) : ∃ unit, StandsFor unit c ∧
    ∀ (opening : Nat) (next : Char) (tail : List Char),
      readUnits opening (escapeChar c ++ next :: tail) =
        (readUnits opening (next :: tail)).map fun (units, rest) ↦ (unit :: units, rest) := by
  have hescape := escape_escapeChar c
  generalize escapeChar c = written at hescape
  cases hescape with
  | letter letter hletter hescape =>
    refine ⟨_, .char c, fun opening next tail ↦ ?_⟩
    simp only [List.cons_append, List.nil_append]
    rw [readUnits, hescape]
    all_goals simp [hletter]
  | code hcontrol =>
    obtain ⟨hdigits, hcode⟩ := codeEscape?_hexDigits c.toNat hcontrol
    refine ⟨_, .code c, fun opening next tail ↦ ?_⟩
    rw [hdigits]
    simp only [List.cons_append, List.nil_append]
    rw [readUnits, hcode]
  | itself hquote hbackslash hprinted =>
    refine ⟨_, .char c, fun opening next tail ↦ ?_⟩
    rw [List.singleton_append, readUnits, if_neg hprinted]
    · exact hquote
    all_goals simp [hbackslash]

theorem readUnits_flatMap (chars rest : List Char) : ∃ units, List.Forall₂ StandsFor units chars ∧
    ∀ opening, readUnits opening (chars.flatMap escapeChar ++ '"' :: rest) = .ok (units, rest) := by
  induction chars with
  | nil => exact ⟨[], .nil, fun opening ↦ rfl⟩
  | cons c chars ih =>
    obtain ⟨units, hunits, hread⟩ := ih
    obtain ⟨unit, hunit, hreadUnit⟩ := readUnits_escapeChar c
    refine ⟨unit :: units, .cons hunit hunits, fun opening ↦ ?_⟩
    obtain ⟨next, tail, hnext⟩ :
        ∃ next tail, chars.flatMap escapeChar ++ '"' :: rest = next :: tail :=
      List.exists_cons_of_ne_nil (by simp)
    rw [List.flatMap_cons, List.append_assoc, hnext, hreadUnit, ← hnext, hread]
    rfl

/-- Assumes: a dialect without stand-ins. -/
theorem readText_flatMap (hdialect : dialect.hasStandIns = false) (text : String)
    (rest : List Char) :
    readText dialect (text.toList.flatMap escapeChar ++ '"' :: rest) =
      .ok (.plain text, rest) := by
  obtain ⟨units, hunits, hread⟩ := readUnits_flatMap text.toList rest
  rw [readText, hread]
  simp [hdialect, charsOfUnits?_eq hunits, bind, Except.bind]

/-! ### Values -/

mutual

/-- Values that are read back as they were written, with room for so many containers within each
other. -/
def IsPortable : Nat → Json → Prop
  | _, .whole n => IsShort n
  | _, .real _ => False
  | _, .halved _ => False
  | 0, .list _ => False
  | 0, .record _ => False
  | room + 1, .list items => ArePortable room items
  | room + 1, .record members => MembersPortable room members
  | _, _ => True

def ArePortable : Nat → List Json → Prop
  | _, [] => True
  | room, item :: rest => IsPortable room item ∧ ArePortable room rest

def MembersPortable : Nat → List (String × Json) → Prop
  | _, [] => True
  | room, (_, value) :: rest => IsPortable room value ∧ MembersPortable room rest

end

theorem literal?_digit {c : Char} (hc : c.isDigit = true) : literal? (c :: rest) = none := by
  have hn : 'n' ≠ c := (isDigit_ne hc rfl).symm
  have ht : 't' ≠ c := (isDigit_ne hc rfl).symm
  have hf : 'f' ≠ c := (isDigit_ne hc rfl).symm
  have hN : 'N' ≠ c := (isDigit_ne hc rfl).symm
  have hI : 'I' ≠ c := (isDigit_ne hc rfl).symm
  have hminus : '-' ≠ c := (isDigit_ne hc rfl).symm
  simp [literal?, literals, hn, ht, hf, hN, hI, hminus]

theorem literal?_minus {c : Char} (hc : c.isDigit = true) : literal? ('-' :: c :: rest) = none := by
  have hI : 'I' ≠ c := (isDigit_ne hc rfl).symm
  simp [literal?, literals, hI]

theorem isSpace_of_isDigit {c : Char} (hc : c.isDigit = true) : isSpace c = false := by
  have hspace : c ≠ ' ' := isDigit_ne hc (by decide)
  have htab : c ≠ '\t' := isDigit_ne hc (by decide)
  have hline : c ≠ '\n' := isDigit_ne hc (by decide)
  have hreturn : c ≠ '\r' := isDigit_ne hc (by decide)
  simp [isSpace, hspace, htab, hline, hreturn]

/-- A numeral starts with a digit or with a minus sign before one. -/
theorem exists_decimalDigits_cons (n : Int) : ∃ c more, decimalDigits n = c :: more ∧
    (c.isDigit = true ∨ c = '-') ∧ ∀ rest, literal? (c :: more ++ rest) = none := by
  obtain ⟨c, more, hdigits, hc⟩ := exists_toDigits_cons n.natAbs
  rw [decimalDigits_eq, hdigits]
  by_cases hn : n < 0
  · rw [if_pos hn]
    exact ⟨_, _, rfl, Or.inr rfl, fun rest ↦ literal?_minus hc⟩
  · rw [if_neg hn]
    exact ⟨_, _, rfl, Or.inl hc, fun rest ↦ literal?_digit hc⟩

theorem readValue_decimalDigits {n : Int} (hshort : IsShort n) (hrest : EndsValue rest)
    (fuel room : Nat) :
    readValue dialect (fuel + 1) room (decimalDigits n ++ rest) = .ok (.whole n, rest) := by
  have hnumber : readNumber dialect (decimalDigits n ++ rest) = .ok (.whole n, rest) :=
    readNumber_decimalDigits hshort hrest
  obtain ⟨c, more, hdigits, hc, hliteral⟩ := exists_decimalDigits_cons n
  have hfirst : c ≠ '"' ∧ c ≠ '[' ∧ c ≠ '{' := by
    rcases hc with hdigit | rfl
    · exact ⟨isDigit_ne hdigit (by decide), isDigit_ne hdigit (by decide),
        isDigit_ne hdigit (by decide)⟩
    · decide
  rw [hdigits, List.cons_append] at hnumber ⊢
  rw [readValue, ← List.cons_append, hliteral rest]
  · exact hnumber
  all_goals simp [hfirst]

/-- What a written value starts with is not taken for a space or for the end of a list. -/
theorem exists_write_cons {room : Nat} {value : Json} (h : IsPortable room value) :
    ∃ c more, write value = c :: more ∧ isSpace c = false ∧ c ≠ ']' := by
  cases value with
  | null => exact ⟨_, _, rfl, by decide⟩
  | bool flag => cases flag <;> exact ⟨_, _, rfl, by decide⟩
  | whole n =>
    obtain ⟨c, more, hdigits, hc, -⟩ := exists_decimalDigits_cons n
    refine ⟨c, more, hdigits, ?_⟩
    rcases hc with hdigit | rfl
    · exact ⟨isSpace_of_isDigit hdigit, isDigit_ne hdigit (by decide)⟩
    · decide
  | real x => simp [IsPortable] at h
  | text text => exact ⟨_, _, rfl, by decide⟩
  | halved codes => simp [IsPortable] at h
  | list items => cases items <;> exact ⟨_, _, rfl, by decide⟩
  | record members => cases members <;> exact ⟨_, _, rfl, by decide⟩

theorem skipSpace_cons {c : Char} {more : List Char} (hc : isSpace c = false) :
    skipSpace (c :: more) = c :: more :=
  List.dropWhile_cons_of_neg (by simp [hc])

theorem skipSpace_write {room : Nat} {value : Json} (h : IsPortable room value)
    (rest : List Char) : skipSpace (write value ++ rest) = write value ++ rest := by
  obtain ⟨c, more, hfirst, hspace, -⟩ := exists_write_cons h
  rw [hfirst, List.cons_append, skipSpace_cons hspace]

theorem readValue_list {c : Char} {more : List Char} (hspace : isSpace c = false) (hc : c ≠ ']')
    (fuel room : Nat) :
    readValue dialect (fuel + 1) (room + 1) ('[' :: c :: more) =
      (readItems dialect fuel room (c :: more)).map fun (items, tail) ↦ (.list items, tail) := by
  simp only [readValue, skipSpace_cons hspace]
  split
  all_goals simp_all

theorem readValue_record (fuel room : Nat) (more : List Char) :
    readValue dialect (fuel + 1) (room + 1) ('{' :: '"' :: more) =
      (readMembers dialect fuel room ('"' :: more)).map fun (members, tail) ↦
        (.record members, tail) :=
  rfl

theorem endsValue_writeItems (items : List Json) (rest : List Char) :
    EndsValue (writeItems items ++ rest) := by
  cases items <;> exact endsValue_cons (by simp)

theorem endsValue_writeMembers (members : List (String × Json)) (rest : List Char) :
    EndsValue (writeMembers members ++ rest) := by
  cases members <;> exact endsValue_cons (by simp)

/-- A list goes on as what follows its first item says. -/
theorem readItems_eq {fuel room : Nat} {input after : List Char} {item : Json}
    (hitem : readValue dialect fuel room input = .ok (item, after)) :
    readItems dialect (fuel + 1) room input =
      match skipSpace after with
      | ']' :: tail => .ok ([item], tail)
      | ',' :: more => do
        let (items, tail) ← readItems dialect fuel room (skipSpace more)
        .ok (item :: items, tail)
      | stop => unexpectedAt stop := by
  rw [readItems, hitem]
  rfl

/-- A record goes on as what follows its first member says. -/
theorem readMembers_eq (hdialect : dialect.hasStandIns = false) {fuel room : Nat} {key : String}
    {value : Json} {after : List Char} (hportable : IsPortable room value)
    (hvalue : readValue dialect fuel room (write value ++ after) = .ok (value, after)) :
    readMembers dialect (fuel + 1) room (writeText key ++ ':' :: (write value ++ after)) =
      match skipSpace after with
      | '}' :: tail => .ok ([(key, value)], tail)
      | ',' :: more => do
        let (members, tail) ← readMembers dialect fuel room (skipSpace more)
        .ok ((key, value) :: members, tail)
      | stop => unexpectedAt stop := by
  have hquote : writeText key ++ ':' :: (write value ++ after) =
      '"' :: (key.toList.flatMap escapeChar ++ '"' :: ':' :: (write value ++ after)) := by
    simp [writeText]
  have hspace : skipSpace (':' :: (write value ++ after)) = ':' :: (write value ++ after) :=
    skipSpace_cons rfl
  have hread : readValue dialect fuel room (skipSpace (write value ++ after)) =
      .ok (value, after) := by
    rw [skipSpace_write hportable, hvalue]
  rw [hquote, readMembers, readText_flatMap hdialect]
  dsimp only [bind, Except.bind]
  rw [hspace]
  change (readValue dialect fuel room (skipSpace (write value ++ after)) >>= _) = _
  rw [hread]
  rfl

mutual

/-- Assumes: a dialect without stand-ins, a portable value, enough fuel for its length, and an
ending that continues no numeral. The value is read and the ending is left. -/
theorem readValue_write (hdialect : dialect.hasStandIns = false) :
    ∀ (value : Json) {fuel room : Nat} {rest : List Char}, IsPortable room value →
      2 * (write value).length ≤ fuel → EndsValue rest →
      readValue dialect (fuel + 1) room (write value ++ rest) = .ok (value, rest)
  | .null, fuel, room, rest, _, _, _ => rfl
  | .bool true, fuel, room, rest, _, _, _ => rfl
  | .bool false, fuel, room, rest, _, _, _ => rfl
  | .whole n, fuel, room, rest, hportable, _, hrest =>
    readValue_decimalDigits hportable hrest fuel room
  | .text value, fuel, room, rest, _, _, _ => by
    have hwritten : write (.text value) ++ rest =
        '"' :: (value.toList.flatMap escapeChar ++ '"' :: rest) := by
      simp [write, writeText]
    rw [hwritten, readValue, readText_flatMap hdialect]
    rfl
  | .list [], fuel, room + 1, rest, _, _, _ => rfl
  | .list (item :: items), fuel, room + 1, rest, hportable, hfuel, hrest => by
    obtain ⟨c, more, hfirst, hspace, hc⟩ := exists_write_cons hportable.1
    have hitems : readItems dialect fuel room (write item ++ writeItems items ++ rest) =
        .ok (item :: items, rest) :=
      readItems_write hdialect (item :: items) rfl hportable (by
        simp only [write, List.length_cons, List.length_append] at hfuel ⊢
        omega)
    rw [write, List.cons_append, List.cons_append]
    rw [hfirst, List.cons_append, List.cons_append] at hitems ⊢
    rw [readValue_list hspace hc, hitems]
    rfl
  | .record [], fuel, room + 1, rest, _, _, _ => rfl
  | .record ((key, value) :: members), fuel, room + 1, rest, hportable, hfuel, hrest => by
    have hmembers : readMembers dialect fuel room
        (writeText key ++ ':' :: write value ++ writeMembers members ++ rest) =
          .ok ((key, value) :: members, rest) :=
      readMembers_write hdialect ((key, value) :: members) rfl hportable (by
        simp only [write, List.length_cons, List.length_append] at hfuel ⊢
        omega)
    have hquote : writeText key ++ ':' :: write value ++ writeMembers members ++ rest =
        '"' :: (key.toList.flatMap escapeChar ++ ['"'] ++ ':' :: write value ++
          writeMembers members ++ rest) :=
      rfl
    rw [hquote] at hmembers
    rw [write, List.cons_append, List.cons_append, List.cons_append, hquote, readValue_record,
      hmembers]
    rfl

theorem readItems_write (hdialect : dialect.hasStandIns = false) :
    ∀ (items : List Json) {written : List Char} {fuel room : Nat} {rest : List Char},
      writeItems items = ',' :: written → ArePortable room items → 2 * written.length + 2 ≤ fuel →
      readItems dialect fuel room (written ++ rest) = .ok (items, rest)
  | item :: items, written, fuel + 2, room, rest, hwritten, hportable, hfuel => by
    obtain rfl : written = write item ++ writeItems items := by
      simpa [writeItems, eq_comm] using hwritten
    have hitem : readValue dialect (fuel + 1) room (write item ++ (writeItems items ++ rest)) =
        .ok (item, writeItems items ++ rest) :=
      readValue_write hdialect item hportable.1 (by
        simp only [List.length_append] at hfuel
        omega) (endsValue_writeItems items rest)
    rw [List.append_assoc, readItems_eq hitem, (endsValue_writeItems items rest).skipSpace_eq]
    match items with
    | [] => rfl
    | next :: items =>
      have hitems : readItems dialect (fuel + 1) room (write next ++ writeItems items ++ rest) =
          .ok (next :: items, rest) :=
        readItems_write hdialect (next :: items) rfl hportable.2 (by
          simp only [writeItems, List.length_cons, List.length_append] at hfuel ⊢
          omega)
      have hspace : skipSpace (write next ++ writeItems items ++ rest) =
          write next ++ writeItems items ++ rest := by
        rw [List.append_assoc, skipSpace_write hportable.2.1]
      simp only [writeItems, List.cons_append]
      simp only [hspace, hitems]
      rfl

theorem readMembers_write (hdialect : dialect.hasStandIns = false) :
    ∀ (members : List (String × Json)) {written : List Char} {fuel room : Nat} {rest : List Char},
      writeMembers members = ',' :: written → MembersPortable room members →
      2 * written.length + 2 ≤ fuel →
      readMembers dialect fuel room (written ++ rest) = .ok (members, rest)
  | (key, value) :: members, written, fuel + 2, room, rest, hwritten, hportable, hfuel => by
    obtain rfl : written = writeText key ++ ':' :: write value ++ writeMembers members := by
      simpa [writeMembers, eq_comm] using hwritten
    have hvalue :
        readValue dialect (fuel + 1) room (write value ++ (writeMembers members ++ rest)) =
          .ok (value, writeMembers members ++ rest) :=
      readValue_write hdialect value hportable.1 (by
        simp only [List.length_append, List.length_cons] at hfuel
        omega) (endsValue_writeMembers members rest)
    rw [List.append_assoc, List.append_assoc, List.cons_append,
      readMembers_eq hdialect hportable.1 hvalue,
      (endsValue_writeMembers members rest).skipSpace_eq]
    match members with
    | [] => rfl
    | (other, next) :: members =>
      have hmembers : readMembers dialect (fuel + 1) room
          (writeText other ++ ':' :: write next ++ writeMembers members ++ rest) =
            .ok ((other, next) :: members, rest) :=
        readMembers_write hdialect ((other, next) :: members) rfl hportable.2 (by
          simp only [writeMembers, List.length_cons, List.length_append] at hfuel ⊢
          omega)
      have hspace : skipSpace (writeText other ++ ':' :: write next ++ writeMembers members ++ rest)
          = writeText other ++ ':' :: write next ++ writeMembers members ++ rest := rfl
      simp only [writeMembers, List.cons_append]
      simp only [hspace, hmembers]
      rfl

end

/-- Assumes: a dialect without stand-ins and a value that is portable within its nesting limit.
Reading what was written for the value gives it back. -/
theorem read_compact (hdialect : dialect.hasStandIns = false) {value : Json}
    (h : IsPortable dialect.nestingLimit value) : read dialect value.compact = .ok value := by
  have hvalue :
      readValue dialect (2 * (write value).length + 2) dialect.nestingLimit (write value) =
        .ok (value, []) := by
    simpa using readValue_write hdialect value h (Nat.le_succ _) endsValue_nil
  have hspace : skipSpace (write value) = write value := by
    simpa using skipSpace_write h []
  rw [read, compact, String.toList_ofList, readChars, hspace, hvalue]
  rfl

end Cardfile.Json
