import Cardfile.Text.Hex
import Cardfile.Text.Percent

/-!
# Hosts in brackets

A host that holds colons stands in brackets. Between them may stand an IPv6 address, perhaps with
a zone, or an address of a future version; an IPv4 address stands without brackets.
-/

set_option autoImplicit false
set_option relaxedAutoImplicit false

namespace Cardfile.Host

open Text

/-- One of the four numbers of an IPv4 address: up to 255, without leading zeros. -/
def isIpv4Number (digits : List Char) : Bool :=
  !digits.isEmpty && digits.length ≤ 3 && digits.all Char.isDigit &&
    (digits.length == 1 || digits.head? != some '0') &&
    (digits.foldl (fun number c ↦ 10 * number + (c.toNat - 48)) 0) ≤ 255

def isIpv4 (host : List Char) : Bool :=
  let numbers := host.splitOn '.'
  numbers.length == 4 && numbers.all isIpv4Number

/-- One of the eight groups of an IPv6 address. -/
def isIpv6Group (digits : List Char) : Bool :=
  !digits.isEmpty && digits.length ≤ 4 && digits.all fun c ↦ (hexValue? c).isSome

/-- The groups of an IPv6 address, of which an IPv4 address at the end makes two. -/
def ipv6Groups? (address : List Char) : Option (List (List Char)) :=
  let groups := address.splitOn ':'
  let last := groups.getLastD []
  if last.contains '.' then
    if isIpv4 last then some (groups.dropLast ++ [['0'], ['0']]) else none
  else some groups

/-- The groups on one side of a double colon; an empty side is written as one empty group. -/
def besideGap (groups : List (List Char)) : List (List Char) :=
  if groups = [[]] then [] else groups

/-- Eight groups, or fewer with a double colon in place of the others, which reads as an empty
group that is neither the first nor the last. -/
def areIpv6Groups (groups : List (List Char)) : Bool :=
  match groups.tail.dropLast.findIdx? (·.isEmpty) with
  | none => groups.length == 8 && groups.all isIpv6Group
  | some place =>
    let written := besideGap (groups.take (place + 1)) ++ besideGap (groups.drop (place + 2))
    written.length < 8 && written.all isIpv6Group

/-- An IPv6 address, with a zone behind a percent sign or without one. -/
def isIpv6 (host : List Char) : Bool :=
  let (address, zone?) := splitAtFirst '%' host
  (ipv6Groups? address).any areIpv6Groups &&
    zone?.all fun zone ↦ !zone.isEmpty && !zone.contains '%'

/-- A version in hexadecimal digits after a `v`, a point and more. -/
def isFutureAddress : List Char → Bool
  | 'v' :: rest =>
    let isHex (c : Char) : Bool := (hexValue? c).isSome
    !(rest.takeWhile isHex).isEmpty &&
      match rest.dropWhile isHex with
      | '.' :: _ :: _ => true
      | _ => false
  | _ => false

/-- What is wrong with a host in brackets. -/
inductive Fault where
  | notFuture
  | ipv4
  | noAddress
  deriving DecidableEq, Repr

def bracketFault? (host : List Char) : Option Fault :=
  if host.head? = some 'v' then (if isFutureAddress host then none else some .notFuture)
  else if isIpv4 host then some .ipv4
  else if isIpv6 host then none
  else some .noAddress

end Cardfile.Host
