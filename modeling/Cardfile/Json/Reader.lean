import Cardfile.Json.Value
import Cardfile.Text.Encoding
import Cardfile.Text.Hex
import Cardfile.Text.Numeral

/-!
# Reading JSON

`read` accepts strict JSON and the three names `NaN`, `Infinity` and `-Infinity`, within the
limits of a dialect. A refusal says where the text stops being JSON, as the number of characters
left from there.
-/

set_option autoImplicit false
set_option relaxedAutoImplicit false

namespace Cardfile.Json

open Text

/-- What a reader of JSON takes beyond the grammar, and where it stops. -/
structure Dialect where
  /-- How many containers may lie within each other. -/
  nestingLimit : Nat
  /-- Whether an empty container counts as one of them. -/
  countsEmpty : Bool := false
  /-- Whether the whole part of a fraction may have `digitLimit` digits at most, as any whole
  number may. -/
  limitsFractions : Bool
  /-- Whether a text may hold half of a surrogate pair. -/
  admitsHalfPairs : Bool
  /-- Whether stand-ins stand for halves of surrogate pairs. -/
  hasStandIns : Bool := false
  deriving DecidableEq, Repr

/-- Why a text is not read. -/
inductive Fault where
  /-- The text stops being JSON with this many characters left. -/
  | unexpected (remaining : Nat)
  /-- A number has more digits than are read. -/
  | numeralTooLong
  /-- A container that counts lies too deep. -/
  | tooDeep
  /-- An escape stands for half of a surrogate pair. -/
  | loneSurrogate
  deriving DecidableEq, Repr

def unexpectedAt {α : Type} (input : List Char) : Except Fault α :=
  .error (.unexpected input.length)

def isSpace (c : Char) : Bool :=
  c == ' ' || c == '\t' || c == '\n' || c == '\r'

def skipSpace (input : List Char) : List Char :=
  input.dropWhile isSpace

/-! ### Numbers -/

def takeDigits (input : List Char) : List Char × List Char :=
  (input.takeWhile Char.isDigit, input.dropWhile Char.isDigit)

/-- A single zero, or digits that do not start with one. -/
def takeWholePart : List Char → List Char × List Char
  | '0' :: rest => (['0'], rest)
  | input => takeDigits input

/-- A point with at least one digit after it; otherwise nothing is taken. -/
def takeFraction : List Char → List Char × List Char
  | '.' :: rest =>
    match takeDigits rest with
    | ([], _) => ([], '.' :: rest)
    | parts => parts
  | input => ([], input)

/-- An `e` with a signed row of digits; otherwise nothing is taken. -/
def takeExponent : List Char → Option Int × List Char
  | [] => (none, [])
  | c :: rest =>
    if c = 'e' ∨ c = 'E' then
      let (negative, unsigned) := takeSign rest
      match takeDigits unsigned with
      | ([], _) => (none, c :: rest)
      | (digits, tail) => (some (withSign negative (numberOfDigits (digits.filterMap digitValue?))),
          tail)
    else (none, c :: rest)

/-- The number at the start of a text. -/
def readNumber (dialect : Dialect) (input : List Char) : Except Fault (Json × List Char) :=
  let (negative, unsigned) :=
    match input with
    | '-' :: rest => (true, rest)
    | _ => (false, input)
  match takeWholePart unsigned with
  | ([], _) => unexpectedAt input
  | (digits, afterWhole) =>
    let (fraction, afterFraction) := takeFraction afterWhole
    let (exponent?, rest) := takeExponent afterFraction
    let magnitude := numberOfDigits ((digits ++ fraction).filterMap digitValue?)
    let isWhole := fraction.isEmpty && exponent?.isNone
    if (isWhole || dialect.limitsFractions) && digitLimit < digits.length then
      .error .numeralTooLong
    else if isWhole then .ok (.whole (withSign negative magnitude), rest)
    else .ok (.real (.ofDecimal negative magnitude (exponent?.getD 0 - fraction.length)), rest)

/-! ### Texts -/

/-- What stands in a text: a character, or the code unit of a four-digit escape. -/
inductive TextUnit where
  | char (c : Char)
  | code (unit : Nat)

def TextUnit.isStandIn : TextUnit → Bool
  | .char c => (halfOf? c).isSome
  | .code _ => false

def letterEscape? (c : Char) : Option Char :=
  if c = '"' ∨ c = '\\' ∨ c = '/' then some c
  else if c = 'b' then some '\x08'
  else if c = 'f' then some '\x0c'
  else if c = 'n' then some '\n'
  else if c = 'r' then some '\r'
  else if c = 't' then some '\t'
  else none

def codeEscape? (a b c d : Char) : Option Nat := do
  return ((← hexValue? a) * 4096 + (← hexValue? b) * 256 + (← hexValue? c) * 16 + (← hexValue? d))

/-- The units up to the closing quote. `opening` counts the characters left from the opening one,
where an unfinished text is reported. -/
def readUnits (opening : Nat) : List Char → Except Fault (List TextUnit × List Char)
  | [] => .error (.unexpected opening)
  | '"' :: rest => .ok ([], rest)
  | '\\' :: 'u' :: a :: b :: c :: d :: e :: rest =>
    match codeEscape? a b c d with
    | none => unexpectedAt ('u' :: a :: b :: c :: d :: e :: rest)
    | some unit =>
      (readUnits opening (e :: rest)).map fun (units, tail) ↦ (.code unit :: units, tail)
  | '\\' :: 'u' :: rest => unexpectedAt ('u' :: rest)
  | ['\\'] => .error (.unexpected opening)
  | '\\' :: c :: rest =>
    match letterEscape? c with
    | none => unexpectedAt ('\\' :: c :: rest)
    | some escaped =>
      (readUnits opening rest).map fun (units, tail) ↦ (.char escaped :: units, tail)
  | c :: rest =>
    if c.toNat < 32 then unexpectedAt (c :: rest)
    else (readUnits opening rest).map fun (units, tail) ↦ (.char c :: units, tail)

/-- The characters of a row of units: a high and a low surrogate side by side make one. -/
def charsOfUnits? : List TextUnit → Option (List Char)
  | [] => some []
  | .char c :: rest => (charsOfUnits? rest).map (c :: ·)
  | .code high :: .code low :: rest =>
    if isHighSurrogate high && isLowSurrogate low then
      (charsOfUnits? rest).map (pairedChar high low :: ·)
    else if isSurrogate high then none
    else (charsOfUnits? (.code low :: rest)).map (Char.ofNat high :: ·)
  | .code unit :: rest =>
    if isSurrogate unit then none else (charsOfUnits? rest).map (Char.ofNat unit :: ·)

/-- What a character of a text stands for. -/
def Dialect.codeOf (dialect : Dialect) (c : Char) : Nat :=
  if dialect.hasStandIns then (halfOf? c).getD c.toNat else c.toNat

/-- The code points of a row of units. -/
def codesOfUnits (dialect : Dialect) : List TextUnit → List Nat
  | [] => []
  | .char c :: rest => dialect.codeOf c :: codesOfUnits dialect rest
  | .code high :: .code low :: rest =>
    if isHighSurrogate high && isLowSurrogate low then
      (pairedChar high low).toNat :: codesOfUnits dialect rest
    else high :: codesOfUnits dialect (.code low :: rest)
  | .code unit :: rest => unit :: codesOfUnits dialect rest

/-- The text whose opening quote is just behind. -/
def readText (dialect : Dialect) (input : List Char) : Except Fault (WideText × List Char) := do
  let (units, rest) ← readUnits (input.length + 1) input
  let hasStandIn := dialect.hasStandIns && units.any TextUnit.isStandIn
  match if hasStandIn then none else charsOfUnits? units with
  | some chars => .ok (.plain (String.ofList chars), rest)
  | none =>
    if dialect.admitsHalfPairs then .ok (.halved (codesOfUnits dialect units), rest)
    else .error .loneSurrogate

/-- A member goes before the later ones. One whose key holds half of a surrogate pair can be asked
for by no name; what it shows is kept behind all others. -/
def addMember (key : WideText) (value : Json) (members : List (String × Json)) :
    List (String × Json) :=
  match key with
  | .plain name => (name, value) :: members
  | .halved codes => members ++ [("", .halved codes)]

/-! ### Values -/

/-- The words that stand for a value. -/
def literals : List (List Char × Json) :=
  [("null".toList, .null), ("true".toList, .bool true), ("false".toList, .bool false),
    ("NaN".toList, .real .notANumber), ("Infinity".toList, .real (.infinite false)),
    ("-Infinity".toList, .real (.infinite true))]

def literal? (input : List Char) : Option (Json × List Char) :=
  literals.findSome? fun (word, value) ↦
    if word.isPrefixOf input then some (value, input.drop word.length) else none

mutual

/-- The value at the start of a text, which may open as many containers within each other as there
is room. The fuel bounds the number of nested calls. -/
def readValue (dialect : Dialect) : Nat → Nat → List Char → Except Fault (Json × List Char)
  | 0, _, input => unexpectedAt input
  | _ + 1, _, [] => unexpectedAt []
  | _ + 1, _, '"' :: rest =>
    (readText dialect rest).map fun (value, tail) ↦ (.ofWide value, tail)
  | fuel + 1, room, '[' :: rest =>
    match skipSpace rest, room with
    | ']' :: tail, 0 => if dialect.countsEmpty then .error .tooDeep else .ok (.list [], tail)
    | ']' :: tail, _ => .ok (.list [], tail)
    | _, 0 => .error .tooDeep
    | start, room + 1 =>
      (readItems dialect fuel room start).map fun (items, tail) ↦ (.list items, tail)
  | fuel + 1, room, '{' :: rest =>
    match skipSpace rest, room with
    | '}' :: tail, 0 => if dialect.countsEmpty then .error .tooDeep else .ok (.record [], tail)
    | '}' :: tail, _ => .ok (.record [], tail)
    | _, 0 => .error .tooDeep
    | start, room + 1 =>
      (readMembers dialect fuel room start).map fun (members, tail) ↦ (.record members, tail)
  | _ + 1, _, input =>
    match literal? input with
    | some found => .ok found
    | none => readNumber dialect input

/-- One item or more, up to the closing bracket. -/
def readItems (dialect : Dialect) : Nat → Nat → List Char → Except Fault (List Json × List Char)
  | 0, _, input => unexpectedAt input
  | fuel + 1, room, input => do
    let (item, afterItem) ← readValue dialect fuel room input
    match skipSpace afterItem with
    | ']' :: tail => .ok ([item], tail)
    | ',' :: more =>
      let (items, tail) ← readItems dialect fuel room (skipSpace more)
      .ok (item :: items, tail)
    | stop => unexpectedAt stop

/-- One member or more, up to the closing brace. -/
def readMembers (dialect : Dialect) :
    Nat → Nat → List Char → Except Fault (List (String × Json) × List Char)
  | 0, _, input => unexpectedAt input
  | fuel + 1, room, '"' :: input => do
    let (key, afterKey) ← readText dialect input
    match skipSpace afterKey with
    | ':' :: start =>
      let (value, afterValue) ← readValue dialect fuel room (skipSpace start)
      match skipSpace afterValue with
      | '}' :: tail => .ok (addMember key value [], tail)
      | ',' :: more =>
        let (members, tail) ← readMembers dialect fuel room (skipSpace more)
        .ok (addMember key value members, tail)
      | stop => unexpectedAt stop
    | stop => unexpectedAt stop
  | _ + 1, _, input => unexpectedAt input

end

/-- Reads a whole text as one value, with space around it. -/
def readChars (dialect : Dialect) (input : List Char) : Except Fault Json := do
  let (value, rest) ←
    readValue dialect (2 * input.length + 2) dialect.nestingLimit (skipSpace input)
  match skipSpace rest with
  | [] => .ok value
  | stop => unexpectedAt stop

def read (dialect : Dialect) (input : String) : Except Fault Json :=
  readChars dialect input.toList

end Cardfile.Json
