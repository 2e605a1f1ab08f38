/-!
# Characters from bytes

UTF-8 is read byte by byte, so that it may stand among other characters; bytes that form no
character become a replacement character for each longest start of one. UTF-16 and UTF-32 are read
whole; a half of a surrogate pair that has lost the other becomes a stand-in.
-/

set_option autoImplicit false
set_option relaxedAutoImplicit false

namespace Cardfile.Text

def replacement : Char := '\uFFFD'

/-! ### UTF-8 -/

/-- Where a reading of UTF-8 stands: the bytes that the current character still lacks, its bits so
far, and the bounds of its next byte. -/
structure Utf8State where
  awaited : Nat := 0
  bits : Nat := 0
  lowest : Nat := 0x80
  highest : Nat := 0xBF
  deriving DecidableEq, Repr

namespace Utf8State

/-- What a byte gives that does not continue a character. -/
def start (byte : Nat) : List Char × Utf8State :=
  if byte < 0x80 then ([Char.ofNat byte], {})
  else if 0xC2 ≤ byte ∧ byte ≤ 0xDF then ([], { awaited := 1, bits := byte - 0xC0 })
  else if byte = 0xE0 then ([], { awaited := 2, lowest := 0xA0 })
  else if byte = 0xED then ([], { awaited := 2, bits := 0xD, highest := 0x9F })
  else if 0xE1 ≤ byte ∧ byte ≤ 0xEF then ([], { awaited := 2, bits := byte - 0xE0 })
  else if byte = 0xF0 then ([], { awaited := 3, lowest := 0x90 })
  else if 0xF1 ≤ byte ∧ byte ≤ 0xF3 then ([], { awaited := 3, bits := byte - 0xF0 })
  else if byte = 0xF4 then ([], { awaited := 3, bits := 4, highest := 0x8F })
  else ([replacement], {})

/-- What a reading gives that stops between two bytes. -/
def finish (state : Utf8State) : List Char :=
  if state.awaited = 0 then [] else [replacement]

/-- The characters that are complete or refuted with the next byte. -/
def step (state : Utf8State) (byte : Nat) : List Char × Utf8State :=
  if state.awaited ≠ 0 ∧ state.lowest ≤ byte ∧ byte ≤ state.highest then
    let bits := 64 * state.bits + (byte - 0x80)
    if state.awaited = 1 then ([Char.ofNat bits], {})
    else ([], { awaited := state.awaited - 1, bits := bits })
  else
    let (chars, next) := start byte
    (state.finish ++ chars, next)

end Utf8State

/-! ### UTF-16 and UTF-32 -/

def isHighSurrogate (unit : Nat) : Bool :=
  0xD800 ≤ unit && unit < 0xDC00

def isLowSurrogate (unit : Nat) : Bool :=
  0xDC00 ≤ unit && unit < 0xE000

def isSurrogate (unit : Nat) : Bool :=
  isHighSurrogate unit || isLowSurrogate unit

/-- The character of a surrogate pair. -/
def pairedChar (high low : Nat) : Char :=
  Char.ofNat (0x10000 + (high - 0xD800) * 1024 + (low - 0xDC00))

/-- The character that stands for half of a surrogate pair. A byte of its number is between F5 and
FC, and UTF-8 has no such byte; so where the bytes of UTF-8 are read as UTF-16 or UTF-32, it stands
for nothing else. -/
def standIn (half : Nat) : Char :=
  Char.ofNat (half - 0xD800 + 0xF500)

/-- The half of a surrogate pair that a stand-in stands for. -/
def halfOf? (c : Char) : Option Nat :=
  if 0xF500 ≤ c.toNat ∧ c.toNat < 0xFD00 then some (c.toNat - 0xF500 + 0xD800) else none

/-- The order in which the bytes of a number stand. -/
inductive ByteOrder where
  | mostFirst
  | leastFirst
  deriving DecidableEq, Repr

def ByteOrder.number (order : ByteOrder) (bytes : List Nat) : Nat :=
  (match order with
    | .mostFirst => bytes
    | .leastFirst => bytes.reverse).foldl (fun number byte ↦ 256 * number + byte) 0

/-- The numbers written by pairs of bytes; none if a byte is left over. -/
def numbersOfPairs? (order : ByteOrder) : List Nat → Option (List Nat)
  | [] => some []
  | a :: b :: rest => (numbersOfPairs? order rest).map (order.number [a, b] :: ·)
  | _ => none

/-- The numbers written by four bytes each; none if bytes are left over. -/
def numbersOfQuads? (order : ByteOrder) : List Nat → Option (List Nat)
  | [] => some []
  | a :: b :: c :: d :: rest =>
    (numbersOfQuads? order rest).map (order.number [a, b, c, d] :: ·)
  | _ => none

def charsOfUtf16 : List Nat → List Char
  | [] => []
  | high :: low :: rest =>
    if isHighSurrogate high && isLowSurrogate low then pairedChar high low :: charsOfUtf16 rest
    else
      (if isSurrogate high then standIn high else Char.ofNat high) :: charsOfUtf16 (low :: rest)
  | [unit] => [if isSurrogate unit then standIn unit else Char.ofNat unit]

/-- The character with a number; none if the number is too large for one. -/
def charOfUtf32? (code : Nat) : Option Char :=
  if isSurrogate code then some (standIn code)
  else if code < 0x110000 then some (Char.ofNat code)
  else none

def decodeUtf16? (order : ByteOrder) (bytes : List Nat) : Option (List Char) :=
  (numbersOfPairs? order bytes).map charsOfUtf16

def decodeUtf32? (order : ByteOrder) (bytes : List Nat) : Option (List Char) :=
  (numbersOfQuads? order bytes).bind fun codes ↦ codes.mapM charOfUtf32?

end Cardfile.Text
