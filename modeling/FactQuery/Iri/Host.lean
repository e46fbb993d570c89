import FactQuery.Text.Hex
import FactQuery.Text.Pieces
import FactQuery.Text.Quoted

/-!
# Hosts in brackets

An authority may name its host by an address in brackets: an IPv6 address, perhaps with a zone, or
an address of a future version, `v`, a version in base sixteen, a full stop and more.  Besides, an
authority must not hold a character whose compatibility form contains a delimiter of IRIs, because
it would then read as a different host.
-/

set_option autoImplicit false

namespace FactQuery.Iri

open FactQuery.Text

inductive AuthorityError where
  /-- A bracket stands without its partner, or beside text that is no port. -/
  | misplacedBracket
  | futureAddress
  | bracketedIpv4
  | notAnAddress (host : String)
  | deceptive (authority : String)
  deriving DecidableEq, Repr

def AuthorityError.message : AuthorityError → String
  | .misplacedBracket => "Invalid IPv6 URL"
  | .futureAddress => "IPvFuture address is invalid"
  | .bracketedIpv4 => "An IPv4 address cannot be in brackets"
  | .notAnAddress host => quoted host ++ " does not appear to be an IPv4 or IPv6 address"
  | .deceptive authority =>
    "netloc '" ++ authority ++ "' contains invalid characters under NFKC normalization"

/-- A number from 0 to 255 in decimal, without leading zeros. -/
def isOctet (text : List Char) : Bool :=
  !text.isEmpty && text.all Char.isDigit && text.length ≤ 3 &&
    (text == ['0'] || text.head? != some '0') &&
    text.foldl (fun value c => 10 * value + (c.toNat - 0x30)) 0 ≤ 255

def isIpv4 (text : List Char) : Bool :=
  let octets := pieces '.' text
  octets.length == 4 && octets.all isOctet

def isHextet (text : List Char) : Bool :=
  !text.isEmpty && text.length ≤ 4 && text.all fun c => (hexDigit? c).isSome

/-- The groups of an IPv6 address, with a final IPv4 address counted as the two groups it fills. -/
def hextets? (text : List Char) : Option (List (List Char)) :=
  let groups := pieces ':' text
  let last := groups.getLast?.getD []
  if groups.length < 3 then none
  else if last.contains '.' then
    if isIpv4 last then some (groups.dropLast ++ [['0'], ['0']]) else none
  else some groups

/-- Whether groups with one gap of zeros form an address.  `high` are the groups in front of the gap
and `low` those behind it; a colon at either end belongs to the gap. -/
def isGapped (high low : List (List Char)) : Bool :=
  let front := if high.head? == some [] then high.drop 1 else high
  let back := if low.getLast? == some [] then low.dropLast else low
  (front.isEmpty || high.head? != some []) && (back.isEmpty || low.getLast? != some []) &&
    front.length + back.length ≤ 7 && front.all isHextet && back.all isHextet

def isHextetSequence (groups : List (List Char)) : Bool :=
  let inner := (groups.drop 1).dropLast
  if 9 < groups.length then false
  else
    match inner.findIdx? List.isEmpty with
    | none => groups.length == 8 && groups.all isHextet
    | some place =>
      !(inner.drop (place + 1)).any List.isEmpty &&
        isGapped (groups.take (place + 1)) (groups.drop (place + 2))

/-- An IPv6 address, perhaps with a zone behind a percent sign. -/
def isIpv6 (text : List Char) : Bool :=
  let parts := cut '%' text
  let zoned := parts.2.all fun zone => !zone.isEmpty && !zone.contains '%'
  zoned && (hextets? parts.1).any isHextetSequence

def isFutureAddress (text : List Char) : Bool :=
  let version := (text.drop 1).takeWhile fun c => (hexDigit? c).isSome
  let behind := (text.drop 1).dropWhile fun c => (hexDigit? c).isSome
  !version.isEmpty && behind.head? == some '.' && 2 ≤ behind.length

def checkBracketedHost (host : List Char) : Except AuthorityError Unit :=
  if host.head? == some 'v' then
    if isFutureAddress host then .ok () else .error .futureAddress
  else if isIpv4 host then .error .bracketedIpv4
  else if isIpv6 host then .ok ()
  else .error (.notAnAddress (String.ofList host))

/-- The part of an authority behind its last `@`: the host and perhaps a port. -/
def hostPart (authority : List Char) : List Char :=
  (authority.reverse.takeWhile (· != '@')).reverse

/-- The host between the brackets of a host part, or in front of its colon if it has no brackets.
Nothing may stand in front of the bracket, and only a port behind it. -/
def hostOf (part : List Char) : Except AuthorityError (List Char) :=
  match cut '[' part with
  | (front, some inside) =>
    let (host, behind) := cut ']' inside
    let port := behind.getD []
    if front.isEmpty && (port.isEmpty || port.head? == some ':') then .ok host
    else .error .misplacedBracket
  | (whole, none) => .ok (cut ':' whole).1

/-- The brackets of an authority come in pairs, and with them its host is an address. -/
def checkBrackets (authority : List Char) : Except AuthorityError Unit :=
  let opened := authority.contains '['
  let closed := authority.contains ']'
  if opened != closed then .error .misplacedBracket
  else if opened then do
    let host ← hostOf (hostPart authority)
    checkBracketedHost host
  else .ok ()

/-- The characters outside ASCII whose compatibility form contains a delimiter of IRIs. -/
def deceptiveChars : List Nat :=
  [0x2047, 0x2048, 0x2049, 0x2100, 0x2101, 0x2105, 0x2106, 0x2a74, 0xfe13, 0xfe16, 0xfe55, 0xfe56,
    0xfe5f, 0xfe6b, 0xff03, 0xff0f, 0xff1a, 0xff1f, 0xff20]

/-- No character of an authority hides a delimiter. -/
def checkDeceptive (authority : List Char) : Except AuthorityError Unit :=
  if authority.any fun c => deceptiveChars.contains c.toNat then
    .error (.deceptive (String.ofList authority))
  else .ok ()

end FactQuery.Iri
