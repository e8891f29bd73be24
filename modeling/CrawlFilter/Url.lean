/-
URLs of the form `scheme://authority…`, cut into the parts that matter for their host. The authority
ends at the first slash, question mark or number sign; what comes before its last at sign is user
information; a bracket holds a literal address; otherwise a colon ends the host.

Places are given in bytes of the UTF-8 form.
-/
import CrawlFilter.Text

namespace CrawlFilter

/-- a URL around its host -/
structure Url where
  /-- what stands before the colon -/
  scheme : Text
  /-- user information with its at sign, or nothing -/
  user : Text
  /-- whether the host stands in brackets -/
  bracketed : Bool
  host : Text
  /-- what follows the host, from the closing bracket if there is one -/
  rest : Text
  deriving DecidableEq, Repr

namespace Url

/-! ## Scheme -/

def isSchemeChar (c : Char) : Bool :=
  c.isAlphanum || c = '+' || c = '-' || c = '.'

/-- a letter, and then letters, digits, plus signs, hyphens and dots -/
def isScheme : Text → Bool
  | [] => false
  | c :: cs => c.isAlpha && cs.all isSchemeChar

/-- the scheme and what follows `://` -/
def splitScheme? (t : Text) : Option (Text × Text) :=
  match t.dropWhile (· != ':') with
  | ':' :: '/' :: '/' :: rest =>
    let s := t.takeWhile (· != ':')
    if isScheme s then some (s, rest) else none
  | _ => none

/-! ## Authority -/

/-- whether a character ends the authority -/
def endsAuthority (c : Char) : Bool :=
  c = '/' || c = '?' || c = '#'

/-- the text up to its last `x`, which is included, and what follows -/
def splitAfterLast (x : Char) (t : Text) : Text × Text :=
  ((t.reverse.dropWhile (· != x)).reverse, (t.reverse.takeWhile (· != x)).reverse)

/-- the parts of a URL; `none` if it has no scheme or an open bracket -/
def split? (t : Text) : Option Url := do
  let (scheme, rest) ← splitScheme? t
  let authority := rest.takeWhile (!endsAuthority ·)
  let after := rest.dropWhile (!endsAuthority ·)
  let (user, host) := splitAfterLast '@' authority
  match host with
  | '[' :: inner =>
    let close := inner.dropWhile (· != ']')
    if close.isEmpty then none else some ⟨scheme, user, true, inner.takeWhile (· != ']'), close ++ after⟩
  | _ => some ⟨scheme, user, false, host.takeWhile (· != ':'), host.dropWhile (· != ':') ++ after⟩

/-- the text of a URL -/
def toText (u : Url) : Text :=
  u.scheme ++ "://".toList ++ u.user ++ (if u.bracketed then ['['] else []) ++ u.host ++ u.rest

/-! ## Places -/

/-- place after the `://` -/
def schemeEnd? (t : Text) : Option Nat :=
  (splitScheme? t).map fun s => Text.byteSize s.1 + 3

def hostStart (u : Url) : Nat :=
  Text.byteSize u.scheme + 3 + Text.byteSize u.user + if u.bracketed then 1 else 0

/-- the places before and after the host -/
def hostSpan (u : Url) : Nat × Nat :=
  (u.hostStart, u.hostStart + Text.byteSize u.host)

def hostSpan? (t : Text) : Option (Nat × Nat) :=
  (split? t).map hostSpan

/-- the host of a URL, if it is not empty -/
def host? (t : Text) : Option Text :=
  match split? t with
  | some u => if u.host = [] then none else some u.host
  | none => none

end Url

/-- A host name as it is compared: without blanks around it and dots at its end, in lower case. Scopes
of rules take the same form. -/
def normalizeHost (t : Text) : Text :=
  Text.lowerAscii (Text.dropEndWhile (· == '.') (Text.trim t))

end CrawlFilter
