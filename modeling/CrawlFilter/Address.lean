/-
IP addresses in their text form. An IPv4 address is four decimal numbers without leading zeros; an
IPv6 address is eight groups of hexadecimal digits, of which one run may be left out as `::` and the
last two may be written as an IPv4 address. Zones are not part of an address.
-/
import CrawlFilter.CharSet

namespace CrawlFilter

namespace Address

/-- a decimal number up to 255, three digits at most and no zero in front of others -/
def isOctet (t : Text) : Bool :=
  !t.isEmpty && t.length ≤ 3 && t.all Char.isDigit && (t.length = 1 || t.head? != some '0') &&
    t.foldl (fun n c => 10 * n + (c.toNat - 48)) 0 ≤ 255

def isIpv4 (t : Text) : Bool :=
  let parts := Text.pieces '.' t
  parts.length = 4 && parts.all isOctet

/-- one to four hexadecimal digits -/
def isGroup (t : Text) : Bool :=
  !t.isEmpty && t.length ≤ 4 && t.all fun c => (CharSet.hexDigit? c).isSome

/-- How many of the eight groups the parts fill: each fills one, and an IPv4 address, which may come
last if `dotted`, fills two. -/
def groupCount? (dotted : Bool) : List Text → Option Nat
  | [] => some 0
  | [p] => if isGroup p then some 1 else if dotted && isIpv4 p then some 2 else none
  | p :: ps => if isGroup p then (groupCount? dotted ps).map (· + 1) else none

/-- the parts between colons, none for an empty text -/
def parts (t : Text) : List Text :=
  if t.isEmpty then [] else Text.pieces ':' t

/-- the text before and after the first `::` -/
def splitGap? : Text → Option (Text × Text)
  | ':' :: ':' :: cs => some ([], cs)
  | c :: cs => (splitGap? cs).map fun r => (c :: r.1, r.2)
  | [] => none

def isIpv6 (t : Text) : Bool :=
  match splitGap? t with
  | none => groupCount? true (parts t) = some 8
  | some (front, back) =>
    match groupCount? false (parts front), groupCount? true (parts back) with
    | some m, some n => m + n ≤ 7
    | _, _ => false

end Address

/-- whether a text is an IP address -/
def isAddress (t : Text) : Bool :=
  Address.isIpv4 t || Address.isIpv6 t

end CrawlFilter
