import LoadDispatch.Url.Percent

/-!
# Hosts

A host is an IPv4 address, an IPv6 address in brackets, or a name.  What looks like an address has
to be one; a name is put in lower case and encoded.
-/

namespace LoadDispatch.Url

/-- Whether a host is taken for an IPv4 address: four groups of digits with points between them. -/
def looksLikeIPv4 (cs : List Char) : Bool :=
  let groups := List.splitOn '.' cs
  groups.length == 4 && groups.all fun g => g != [] && g.all Char.isDigit

/-- A number from 0 to 255 in decimal, without a needless zero in front. -/
def isOctet (cs : List Char) : Bool :=
  cs ≠ [] && cs.all Char.isDigit && cs.length ≤ 3 && (cs.length == 1 || cs.head? != some '0') &&
    Text.decimalValue cs ≤ 255

/-- Four octets with points between them. -/
def isIPv4 (cs : List Char) : Bool :=
  let groups := List.splitOn '.' cs
  groups.length == 4 && groups.all isOctet

/-- Up to four hexadecimal digits. -/
def isHextet (cs : List Char) : Bool :=
  cs ≠ [] && cs.all isHexDigit && cs.length ≤ 4

/-- Groups of an IPv6 address in which the run of zeros is written by the empty group after
`high`.  An empty group at an end is right only beside that run. -/
def isAbbreviated (high low : List (List Char)) : Bool :=
  let high' := if high.head? = some [] then high.drop 1 else high
  let low' := if low.getLast? = some [] then low.dropLast else low
  (high.head? ≠ some [] || high' = []) && (low.getLast? ≠ some [] || low' = []) &&
    high'.length + low'.length < 8 && high'.all isHextet && low'.all isHextet

/-- The groups of an IPv6 address, an IPv4 address at the end written as two groups. -/
def isIPv6Groups (groups : List (List Char)) : Bool :=
  let inner := (groups.drop 1).dropLast
  if 9 < groups.length then false
  else if inner.contains [] then
    let position := 1 + (inner.takeWhile (· != [])).length
    (inner.count [] == 1) && isAbbreviated (groups.take position) (groups.drop (position + 1))
  else groups.length == 8 && groups.all isHextet

/-- An IPv6 address, with a zone behind `%` if it has one. -/
def isIPv6 (cs : List Char) : Bool :=
  let address := cs.takeWhile (· != '%')
  let zone := cs.drop address.length
  let zoneRight := zone = [] || (1 < zone.length && !(zone.drop 1).contains '%')
  let groups := List.splitOn ':' address
  let tail := groups.getLast?.getD []
  zoneRight && !cs.contains '/' && 3 ≤ groups.length &&
    if tail.contains '.' then isIPv4 tail && isIPv6Groups (groups.dropLast ++ [['0'], ['0']])
    else isIPv6Groups groups

end LoadDispatch.Url
