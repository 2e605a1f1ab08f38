import Cardfile.Text.Blank
import Cardfile.Text.Digit

/-!
# Words, blanks and quoted names

The pieces from which command lines and expressions are recognised. Each takes its piece off the
front of a text and gives the rest, or nothing if the text does not start with that piece. A word
matches whatever its letter case.
-/

set_option autoImplicit false
set_option relaxedAutoImplicit false

namespace Cardfile.Command

open Text

/-- The letter by which a character is compared with a word: its ASCII lower case; the dotted and
the dotless i count as `i`, the long s as `s` and the kelvin sign as `k`. -/
def wordLetter (c : Char) : Char :=
  let code := c.toNat
  if 65 ≤ code && code ≤ 90 then Char.ofNat (code + 32)
  else if code == 0x130 || code == 0x131 then 'i'
  else if code == 0x17F then 's'
  else if code == 0x212A then 'k'
  else c

/-- Takes a word, given in lower case, off the front. -/
def takeWord? : List Char → List Char → Option (List Char)
  | [], text => some text
  | _ :: _, [] => none
  | letter :: word, c :: rest => if wordLetter c = letter then takeWord? word rest else none

/-- Takes one blank or more. -/
def takeBlanks? : List Char → Option (List Char)
  | [] => none
  | c :: rest => if isBlank c then some (rest.dropWhile isBlank) else none

/-- Takes a word and the blanks after it. -/
def takeWordAndBlanks? (word : String) (text : List Char) : Option (List Char) :=
  (takeWord? word.toList text).bind takeBlanks?

/-- Takes a word and the blanks after it, if they are there. -/
def skipWord (word : String) (text : List Char) : List Char :=
  (takeWordAndBlanks? word text).getD text

/-- Nothing is left, or a single line end. -/
def isEnd (text : List Char) : Bool :=
  text == [] || text == ['\n']

/-- The words and nothing else, with blanks between them. -/
def isPhrase : List String → List Char → Bool
  | [], text => isEnd text
  | [word], text => (takeWord? word.toList text).any isEnd
  | word :: more, text => (takeWordAndBlanks? word text).any (isPhrase more)

/-- A name between double quotes, free of quotes itself, and nothing after it. -/
def quotedName? : List Char → Option (List Char)
  | '"' :: rest =>
    match rest.dropWhile (· != '"') with
    | '"' :: tail => if isEnd tail then some (rest.takeWhile (· != '"')) else none
    | _ => none
  | _ => none

/-- A reference to a field of the current card: `field "name"` or `card field "name"`. -/
def fieldReference? (text : List Char) : Option (List Char) :=
  (takeWordAndBlanks? "field" (skipWord "card" text)).bind quotedName?

/-- The text without one line end at its end. -/
def dropLineEnd (text : List Char) : List Char :=
  if text.getLast? = some '\n' then text.dropLast else text

/-- The expression in a text of blanks, an expression of at least one character on a single line,
and the end. -/
def argument? (text : List Char) : Option (List Char) :=
  let line := dropLineEnd text
  if line.all isBlank then
    if 2 ≤ line.length && line.getLast? != some '\n' then some [] else none
  else if line.head?.any isBlank && !(line.dropWhile isBlank).contains '\n' then some (trim line)
  else none

/-- The expression in a text of blanks, an expression of at least one character on a single line,
and blanks. -/
def enclosed? (text : List Char) : Option (List Char) :=
  if text.all isBlank then
    if (text.drop 1).dropLast.any (· != '\n') then some [] else none
  else if text.head?.any isBlank && text.getLast?.any isBlank && !(trim text).contains '\n' then
    some (trim text)
  else none

end Cardfile.Command
