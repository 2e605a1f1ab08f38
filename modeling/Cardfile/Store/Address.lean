import Cardfile.Failure
import Cardfile.Settings
import Cardfile.Store.Url
import Cardfile.Store.VerifyFlag
import Cardfile.Text.RealNumeral

/-!
# Store addresses

A URL tells the host, its number and the database of a store; what it leaves out stays open. Its
parameters can name them too: a host and a number count where the URL has none, a database counts
before one in the path. Some parameters must be numbers, whether they are used or not.
-/

set_option autoImplicit false
set_option relaxedAutoImplicit false

namespace Cardfile

open Text

/-- The number behind a host: one from a URL is a number, one from a parameter is any text. -/
inductive HostNumber where
  | number (value : Nat)
  | written (text : String)
  deriving DecidableEq, Repr

/-- Where a store is, as far as its URL tells, and the text by which a parameter says whether its
answers are decoded; without one they are. -/
structure StoreAddress where
  host : Option String := none
  hostNumber : Option HostNumber := none
  database : Option Int := none
  decoding : Option String := none
  deriving DecidableEq, Repr

inductive AddressError where
  | badUrl (error : UrlError)
  | badParameter (name : String)
  | badNumber (written : String)
  | longNumber (digits : Nat)
  | numberOutOfRange
  | tooFewConnections
  /-- A parameter names the pool of connections itself. -/
  | poolNamed
  /-- Caching is asked for under a protocol that has none. -/
  | noCaching
  /-- A text was given for the cache. -/
  | notCache
  /-- A text was given for a part that must have this attribute. -/
  | noAttribute (name : String)
  deriving DecidableEq, Repr

def AddressError.message : AddressError → String
  | .badUrl error => error.message
  | .badParameter name => "Invalid value for '" ++ name ++ "' in connection URL."
  | .badNumber written => "Port could not be cast to integer value as " ++ quoted written
  | .longNumber digits => (Failure.numeralTooLong digits).message
  | .numberOutOfRange => "Port out of range 0-65535"
  | .tooFewConnections => "\"max_connections\" must be a positive integer"
  | .poolNamed => "ConnectionPool.__init__() got multiple values for argument 'self'"
  | .noCaching => "Client caching is only supported with RESP version 3"
  | .notCache => "Cache must implement CacheInterface"
  | .noAttribute name => "'str' object has no attribute '" ++ name ++ "'"

namespace StoreAddress

/-! ### Parameters -/

abbrev Parameters := List (String × String)

/-- The first value under each name. -/
def parametersOf (query : List Char) : Parameters :=
  ((queryPairs false query).foldl (fun found (name, value) ↦
    if found.any (·.1 == name) then found else found ++ [(name, value)]) []).map
      fun (name, value) ↦ (String.ofList name, String.ofList value)

def wholeParameters : List String :=
  ["db", "max_connections", "health_check_interval", "protocol", "socket_read_size",
    "ssl_min_version"]

def realParameters : List String :=
  ["socket_timeout", "socket_connect_timeout", "timeout"]

def flagListParameters : List String :=
  ["ssl_include_verify_flags", "ssl_exclude_verify_flags"]

/-- Whether a parameter with this name may have this value. -/
def isAllowed (parameter : String × String) : Bool :=
  let (name, value) := parameter
  if wholeParameters.contains name then (readWhole? value).isSome
  else if realParameters.contains name then isRealNumeral value
  else if flagListParameters.contains name then VerifyFlag.isList value
  else true

/-- The parameters, if all of them are allowed. -/
def readParameters (query : List Char) : Except AddressError Parameters :=
  let parameters := parametersOf query
  match parameters.find? fun parameter ↦ !isAllowed parameter with
  | some (name, _) => .error (.badParameter name)
  | none => .ok parameters

/-- The value of a parameter that is a whole number. -/
def wholeParameter? (parameters : Parameters) (name : String) : Option Int :=
  (parameters.lookup name).bind readWhole?

def isGiven (parameters : Parameters) (name : String) : Bool :=
  (parameters.lookup name).isSome

/-- The protocol version that has caching and notices, and that is spoken if none is named. -/
def latestProtocol : Int := 3

def speaksLatest (parameters : Parameters) : Bool :=
  (wholeParameter? parameters "protocol").getD latestProtocol = latestProtocol

/-- A cache, its settings or its maker cannot be given as text. -/
def checkCaching (parameters : Parameters) : Except AddressError Unit :=
  if !(isGiven parameters "cache" || isGiven parameters "cache_config") then .ok ()
  else if !speaksLatest parameters then .error .noCaching
  else if isGiven parameters "cache" then .error .notCache
  else if isGiven parameters "cache_factory" then .error (.noAttribute "get_cache")
  else .error (.noAttribute "get_cache_class")

/-- The settings of notices cannot be given as text. -/
def checkNoticeSettings (parameters : Parameters) : Except AddressError Unit :=
  if isGiven parameters "maint_notifications_config" then .error (.noAttribute "enabled")
  else .ok ()

/-- What handles notices cannot be given as text, where there are notices. -/
def checkNoticeHandler (parameters : Parameters) : Except AddressError Unit :=
  if speaksLatest parameters && isGiven parameters "oss_cluster_maint_notifications_handler" then
    .error (.noAttribute "config")
  else .ok ()

/-- Whether notices can come: not through a socket file, nor through a kind of connection that the
parameters name. A secure URL has its own kind. -/
def hasNotices (scheme : StoreScheme) (parameters : Parameters) : Bool :=
  match scheme with
  | .plain => !isGiven parameters "connection_class"
  | .secure => true
  | .socket => false

/-- What a pool of connections refuses. Where no notices can come, their settings are looked at
first, and nothing handles them. -/
def checkPool (scheme : StoreScheme) (parameters : Parameters) : Except AddressError Unit := do
  if isGiven parameters "self" then .error .poolNamed
  if (wholeParameter? parameters "max_connections").any (· < 0) then .error .tooFewConnections
  if hasNotices scheme parameters then
    checkCaching parameters
    checkNoticeSettings parameters
    checkNoticeHandler parameters
  else
    checkNoticeSettings parameters
    checkCaching parameters

/-! ### The address -/

def highestNumber : Nat := 65535

/-- The number written behind a host; none if it is left out or zero. -/
def readNumber (digits : List Char) : Except AddressError (Option Nat) :=
  if digits.all Char.isDigit then
    if digitLimit < digits.length then .error (.longNumber digits.length)
    else
      let number := numberOfDigits (digits.filterMap asciiDigitValue?)
      if highestNumber < number then .error .numberOutOfRange
      else .ok (if number = 0 then none else some number)
  else .error (.badNumber (String.ofList digits))

/-- The database that a path names; a path that is no number names none. -/
def databaseOfPath? (path : List Char) : Option Int :=
  readWhole? (String.ofList ((unescape path).filter (· != '/')))

/-- The address that parameters alone tell. -/
def ofParameters (parameters : Parameters) : StoreAddress where
  host := parameters.lookup "host"
  hostNumber := (parameters.lookup "port").map .written
  database := wholeParameter? parameters "db"
  decoding := parameters.lookup "decode_responses"

/-- An address with what a network URL tells beyond its parameters. -/
def onNetwork (address : StoreAddress) (url : StoreUrl) : Except AddressError StoreAddress := do
  let number ← readNumber url.number
  return { address with
    host := (url.host?.map String.ofList) <|> address.host
    hostNumber := (number.map .number) <|> address.hostNumber
    database := address.database <|> databaseOfPath? url.path }

def ofUrl (text : String) : Except AddressError StoreAddress := do
  let url ← (StoreUrl.ofText text).mapError .badUrl
  let parameters ← readParameters url.query
  let address ←
    if url.scheme = .socket then .ok (ofParameters parameters)
    else onNetwork (ofParameters parameters) url
  checkPool url.scheme parameters
  return address

end StoreAddress

/-- The address of the store: of the given URL, or of the one in the settings if none is given. -/
def Settings.storeAddress (settings : Settings) (url : Option String) :
    Except AddressError StoreAddress :=
  StoreAddress.ofUrl ((url.filter (!·.isEmpty)).getD settings.storeUrl)

end Cardfile
