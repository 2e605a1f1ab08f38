import Cardfile.Text.Blank
import Cardfile.Text.Encoding
import Cardfile.Text.Quoted

/-!
# Texts with halves of surrogate pairs

JSON can spell half of a surrogate pair, and no character stands for that. A text with such halves
is known by its code points; any other is a plain text. Halves are neither blank nor printable.
-/

set_option autoImplicit false
set_option relaxedAutoImplicit false

namespace Cardfile

open Text

inductive WideText where
  | plain (text : String)
  /-- The code points of a text with half of a surrogate pair in it. -/
  | halved (codes : List Nat)
  deriving DecidableEq, Repr

namespace WideText

instance : Coe String WideText :=
  ⟨plain⟩

def plain? : WideText → Option String
  | plain text => some text
  | halved _ => none

def isEmpty : WideText → Bool
  | plain text => text.isEmpty
  | halved codes => codes.isEmpty

/-! ### Blanks -/

def isBlankCode (code : Nat) : Bool :=
  !isSurrogate code && isBlank (Char.ofNat code)

def isAllBlank : WideText → Bool
  | plain text => Text.isAllBlank text
  | halved codes => codes.all isBlankCode

/-- A text without the blanks at its ends. -/
def strip : WideText → WideText
  | plain text => plain (Text.strip text)
  | halved codes => halved (trimOf isBlankCode codes)

/-! ### The quoted display form -/

/-- One code point of a quoted text. -/
def showCode (quote : Char) (code : Nat) : List Char :=
  if isSurrogate code then '\\' :: 'u' :: hexDigits 4 code else showChar quote (Char.ofNat code)

def quoted : WideText → String
  | plain text => Text.quoted text
  | halved codes =>
    let quote := quoteFor (codes.map Char.ofNat)
    String.ofList (quote :: codes.flatMap (showCode quote) ++ [quote])

end WideText

end Cardfile
