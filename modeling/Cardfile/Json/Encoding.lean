import Cardfile.Text.Encoding

/-!
# The encoding of a JSON text

A JSON text starts with two ASCII characters or with one, so the zeros among its first four bytes
tell UTF-16 and UTF-32 from UTF-8, and the order of the bytes.
-/

set_option autoImplicit false
set_option relaxedAutoImplicit false

namespace Cardfile.Json

open Text

inductive Encoding where
  | utf8
  | utf16 (order : ByteOrder)
  | utf32 (order : ByteOrder)
  deriving DecidableEq, Repr

def Encoding.ofBytes : List Nat → Encoding
  | 0 :: b :: _ :: _ :: _ => if b = 0 then .utf32 .mostFirst else .utf16 .mostFirst
  | _ :: 0 :: c :: d :: _ => if c = 0 ∧ d = 0 then .utf32 .leastFirst else .utf16 .leastFirst
  | [0, _] => .utf16 .mostFirst
  | [_, 0] => .utf16 .leastFirst
  | _ => .utf8

/-- A text that came as UTF-8, read in the encoding that its bytes show: that encoding and the
characters. A byte order mark at the start of UTF-8 is dropped. None if the bytes are no text. -/
def decoded? (text : String) : Option (Encoding × List Char) :=
  match text.toList with
  | '\uFEFF' :: rest => some (.utf8, rest)
  | chars =>
    let bytes := (chars.flatMap String.utf8EncodeChar).map UInt8.toNat
    match Encoding.ofBytes bytes with
    | .utf8 => some (.utf8, chars)
    | .utf16 order => (decodeUtf16? order bytes).map (.utf16 order, ·)
    | .utf32 order => (decodeUtf32? order bytes).map (.utf32 order, ·)

end Cardfile.Json
