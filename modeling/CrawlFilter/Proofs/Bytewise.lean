/-
The way to a decision, request by request. Hosts are found on the bytes of a URL and labels by their places in a host;
a byte, a label, a rule and a stretch of text are asked for by place, and every request can fail. What is computed is
what `Url`, `SuffixList`, `Resolver`, `RuleLine` and `Report` say without places.
-/
import CrawlFilter.Proofs.Access
import CrawlFilter.Report

namespace CrawlFilter.Bytewise

open Access

/-! ## Bytes -/

/-- whether a byte is a character by itself, and one that satisfies `p` -/
def ascii (p : Char → Bool) (b : UInt8) : Bool :=
  b.toNat < 0x80 && p (Char.ofNat b.toNat)

/-- the first of some places at which the byte satisfies `p`, asked for one after the other -/
def firstPlace (b : Bytes) (p : UInt8 → Bool) : List Nat → Access (Option Nat)
  | [] => pure none
  | i :: rest => do
    let x ← item b i
    if p x then pure (some i) else firstPlace b p rest

/-- the places from `a` on, before `b` -/
def places (a b : Nat) : List Nat :=
  List.range' a (b - a)

/-! ## Hosts -/

def isScheme (b : Bytes) : Access Bool := do
  if b.isEmpty then pure false
  else
    let first ← item b 0
    pure (ascii Char.isAlpha first && b.all (ascii Url.isSchemeChar))

/-- whether two slashes follow a place -/
def slashesAfter (b : Bytes) (i : Nat) : Access Bool := do
  if i + 2 < b.length then
    let x ← item b (i + 1)
    if ascii (· == '/') x then
      let y ← item b (i + 2)
      pure (ascii (· == '/') y)
    else pure false
  else pure false

/-- place after the `://` -/
def schemeEnd? (url : Text) : Access (Option Nat) := do
  let b := Utf8.encode url
  match b.findIdx? (ascii (· == ':')) with
  | none => pure none
  | some colon => do
    let scheme ← items b 0 colon
    if ← isScheme scheme then
      if ← slashesAfter b colon then pure (some (colon + 3)) else pure none
    else pure none

/-- where the authority ends that begins at a place -/
def authorityEnd (b : Bytes) (start : Nat) : Access Nat := do
  let rest ← items b start b.length
  match rest.findIdx? (ascii Url.endsAuthority) with
  | some i => pure (start + i)
  | none => pure b.length

/-- where user information ends, looked for from the end of the authority -/
def userEnd (b : Bytes) (start stop : Nat) : Access Nat := do
  match ← firstPlace b (ascii (· == '@')) (places start stop).reverse with
  | some i => pure (i + 1)
  | none => pure start

/-- whether a bracket stands at a place before the end of the authority -/
def opensBracket (b : Bytes) (start stop : Nat) : Access Bool := do
  if start < stop then
    let x ← item b start
    pure (ascii (· == '[') x)
  else pure false

/-- the places before and after a host that begins at a place, with its bracket if it has one -/
def spanFrom? (b : Bytes) (start stop : Nat) : Access (Option (Nat × Nat)) := do
  if ← opensBracket b start stop then
    let inner ← items b start stop
    match inner.findIdx? (ascii (· == ']')) with
    | some i => pure (some (start + 1, start + i))
    | none => pure none
  else
    match ← firstPlace b (ascii (· == ':')) (places start stop) with
    | some i => pure (some (start, i))
    | none => pure (some (start, stop))

/-- the places before and after the host of a URL -/
def hostSpan? (url : Text) : Access (Option (Nat × Nat)) := do
  match ← schemeEnd? url with
  | none => pure none
  | some start => do
    let b := Utf8.encode url
    let stop ← authorityEnd b start
    let first ← userEnd b start stop
    spanFrom? b first stop

/-- the host of a URL, if it is not empty -/
def host? (url : Text) : Access (Option Text) := do
  match ← hostSpan? url with
  | none => pure none
  | some (a, b) =>
    if a = b then pure none
    else do
      let h ← textBetween url a b
      pure (some h)

/-! ## Domains -/

/-- the places after the dots of a text that begins at place `n` -/
def placesAfterDots (n : Nat) : Text → List Nat
  | [] => []
  | c :: cs =>
    if c = '.' then (n + 1) :: placesAfterDots (n + 1) cs else placesAfterDots (n + c.utf8Size) cs

/-- the places at which the labels of a host begin -/
def labelStarts (host : Text) : List Nat :=
  0 :: placesAfterDots 0 host

/-- the name that begins with the label number `i` -/
def nameFrom (host : Text) (starts : List Nat) (i : Nat) : Access Text := do
  let a ← item starts i
  textFrom host a

/-- whether a wildcard is for the name behind the label number `i`, if there is one -/
def wildcardBehind (l : SuffixList) (host : Text) (starts : List Nat) (i : Nat) : Access Bool := do
  if i + 1 < starts.length then
    let below ← nameFrom host starts (i + 1)
    pure (l.isWildcard below)
  else pure false

/-- the name that begins with the label before number `i`, if there is one -/
def nameBefore? (host : Text) (starts : List Nat) (i : Nat) : Access (Option Text) := do
  if 0 < i then
    let d ← nameFrom host starts (← minus i 1)
    pure (some d)
  else pure none

/-- the name of the last two labels, if there are two -/
def lastTwo? (host : Text) (starts : List Nat) : Access (Option Text) := do
  if 2 ≤ starts.length then
    let d ← nameFrom host starts (← minus starts.length 2)
    pure (some d)
  else pure none

/-- the look-up in a list from the label number `i` on, with `rounds` labels left -/
def search (l : SuffixList) (host : Text) (starts : List Nat) (i : Nat) : Nat → Access (Option Text)
  | 0 => lastTwo? host starts
  | rounds + 1 => do
    let name ← nameFrom host starts i
    if l.isException name then pure (some name)
    else
      let wildcard ← wildcardBehind l host starts i
      if l.isExact name || wildcard then nameBefore? host starts i
      else search l host starts (i + 1) rounds

/-- registrable domain of a host, `none` if the host is a suffix itself -/
def registrable? (l : SuffixList) (host : Text) : Access (Option Text) :=
  let starts := labelStarts host
  search l host starts 0 starts.length

/-- the last three labels under a common suffix, otherwise the last two; all of them if there are no more -/
def guessDomain (ls : List Text) : Access Text := do
  if ls.length ≤ 2 then pure (ofLabels ls)
  else
    let x ← item ls (← minus ls.length 2)
    let y ← item ls (← minus ls.length 1)
    if commonSuffixes.contains (x ++ '.' :: y) then
      let last ← items ls (← minus ls.length 3) ls.length
      pure (ofLabels last)
    else
      let last ← items ls (← minus ls.length 2) ls.length
      pure (ofLabels last)

/-- registrable domain of a host; a host that is a suffix stands for itself -/
def registrableDomain (suffixes : Option SuffixList) (host : Text) : Access Text := do
  match suffixes with
  | some l =>
    let d ← registrable? l host
    pure (d.getD host)
  | none => guessDomain (labels host)

/-- the normalized host of a URL -/
def hostOf (url : Text) : Access (Option Text) := do
  let h ← host? url
  pure (h.map normalizeHost)

/-- domain of a URL whose host is not empty -/
def domainOf (suffixes : Option SuffixList) (url : Text) : Access (Except MalformedUrl Text) := do
  match ← hostOf url with
  | none | some [] => pure (.error ⟨url⟩)
  | some (c :: cs) =>
    if isAddress (c :: cs) then pure (.ok (c :: cs))
    else do
      let d ← registrableDomain suffixes (c :: cs)
      pure (.ok d)

/-! ## Rules -/

/-- reads a line of a rule file, cut behind its first character -/
def ruleLine : Text → Access (Except Char RuleLine)
  | [] => pure (.ok .nothing)
  | c :: cs => do
    let rest ← textFrom (c :: cs) c.utf8Size
    pure (RuleLine.ofText (c :: rest))

/-- the entry for a URL, with the rule that decided asked for by its index -/
def entry (rules : List Rule) (suffixes : Option SuffixList) (url : Text) : Access Report.Entry := do
  let host ← hostOf url
  let domain ← domainOf suffixes url
  let decision := (Engine.tryFrom url host domain.toOption 0 rules).value
  match decision.rule with
  | none => pure ⟨url, decision.accepted, none⟩
  | some i => do
    let r ← item rules i
    pure ⟨url, decision.accepted, some (i, r.written)⟩

end CrawlFilter.Bytewise
