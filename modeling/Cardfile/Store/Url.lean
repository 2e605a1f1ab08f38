import Cardfile.Store.Host
import Cardfile.Text.Lower
import Cardfile.Text.Quoted

/-!
# Store URLs

A URL is a scheme, an authority up to the first `/`, `?` or `#`, a path, and a query behind a `?`.
What follows a `#` is no part of it, and tabs and line breaks do not count. The authority is a host
and a number behind a colon, after a user and an `@` if there is one.
-/

set_option autoImplicit false
set_option relaxedAutoImplicit false

namespace Cardfile

open Text

inductive StoreScheme where
  | plain
  | secure
  | socket
  deriving DecidableEq, Repr

/-- The text with which a URL of a scheme starts. -/
def StoreScheme.start : StoreScheme → String
  | .plain => "redis://"
  | .secure => "rediss://"
  | .socket => "unix://"

def StoreScheme.ofUrl? (url : List Char) : Option StoreScheme :=
  [StoreScheme.plain, .secure, .socket].find? fun scheme ↦ scheme.start.toList.isPrefixOf url

inductive UrlError where
  | unknownScheme
  | looseBracket
  | badHost (fault : Host.Fault) (host : String)
  | hiddenSeparator (authority : String)
  deriving DecidableEq, Repr

def UrlError.message : UrlError → String
  | .unknownScheme =>
    "Redis URL must specify one of the following schemes (redis://, rediss://, unix://)"
  | .looseBracket => "Invalid IPv6 URL"
  | .badHost .notFuture _ => "IPvFuture address is invalid"
  | .badHost .ipv4 _ => "An IPv4 address cannot be in brackets"
  | .badHost .noAddress host => Text.quoted host ++ " does not appear to be an IPv4 or IPv6 address"
  | .hiddenSeparator authority =>
    "netloc '" ++ authority ++ "' contains invalid characters under NFKC normalization"

structure StoreUrl where
  scheme : StoreScheme
  authority : List Char
  path : List Char
  query : List Char
  deriving DecidableEq, Repr

namespace StoreUrl

/-! ### The authority -/

/-- An authority without the user that ends at its last `@`. -/
def withoutUser (authority : List Char) : List Char :=
  (authority.reverse.takeWhile (· != '@')).reverse

/-- The host, perhaps in brackets, and what stands behind it and a colon. -/
def hostAndNumber (authority : List Char) : List Char × List Char :=
  match withoutUser authority with
  | '[' :: rest =>
    let (host, behind?) := splitAtFirst ']' rest
    (host, (behind?.getD []).drop 1)
  | plain =>
    let (host, number?) := splitAtFirst ':' plain
    (host, number?.getD [])

/-- Whether something stands before the brackets of a host, or behind them without a colon. -/
def hasTextBesideBrackets (plain : List Char) : Bool :=
  plain.contains '[' &&
    (plain.head? != some '[' || ((splitAtFirst ']' plain).2.getD []).head?.any (· != ':'))

/-- An authority with brackets has both kinds of them, and a host that may stand in brackets. -/
def checkBrackets (authority : List Char) : Except UrlError Unit :=
  if authority.contains '[' != authority.contains ']' then .error .looseBracket
  else if !authority.contains '[' then .ok ()
  else if hasTextBesideBrackets (withoutUser authority) then .error .looseBracket
  else
    let host := (hostAndNumber authority).1
    match Host.bracketFault? host with
    | some fault => .error (.badHost fault (String.ofList host))
    | none => .ok ()

/-- The characters outside ASCII that look like a separator of a URL or like a text with one. -/
def separatorTwins : List Char :=
  ['\u2047', '\u2048', '\u2049', '\u2100', '\u2101', '\u2105', '\u2106', '\u2A74', '\uFE13',
    '\uFE16', '\uFE55', '\uFE56', '\uFE5F', '\uFE6B', '\uFF03', '\uFF0F', '\uFF1A', '\uFF1F',
    '\uFF20']

def checkSeparators (authority : List Char) : Except UrlError Unit :=
  if authority.any separatorTwins.contains then
    .error (.hiddenSeparator (String.ofList authority))
  else .ok ()

/-! ### The whole -/

def isIgnored (c : Char) : Bool :=
  c == '\t' || c == '\r' || c == '\n'

def ofText (text : String) : Except UrlError StoreUrl := do
  let some scheme := StoreScheme.ofUrl? text.toList | .error .unknownScheme
  let body := (text.toList.drop scheme.start.length).filter fun c ↦ !isIgnored c
  let isEnd (c : Char) : Bool := c == '/' || c == '?' || c == '#'
  let authority := body.takeWhile fun c ↦ !isEnd c
  checkBrackets authority
  checkSeparators authority
  let rest := (splitAtFirst '#' (body.drop authority.length)).1
  let (path, query?) := splitAtFirst '?' rest
  return ⟨scheme, authority, path, query?.getD []⟩

/-- The host in lower case, but for a zone or whatever else follows a percent sign; none if it is
empty. -/
def host? (url : StoreUrl) : Option (List Char) :=
  let (host, rest) := (hostAndNumber url.authority).1.span (· != '%')
  let plain := unescape (lower host ++ rest)
  if (host ++ rest).isEmpty then none else some plain

/-- The digits behind the host. -/
def number (url : StoreUrl) : List Char :=
  (hostAndNumber url.authority).2

end StoreUrl

end Cardfile
