/-
Public suffix lists and registrable domains. A suffix is a name under which others register names;
the registrable domain of a host is its suffix and one label more.

A list holds exact names, wildcards (`*.ck` makes every name one label below `ck` a suffix) and
exceptions (`!www.ck` makes `www.ck` registrable in spite of them). From the whole host on, the first
tail of its labels that some rule speaks about decides; a host that no rule speaks about has its last
label for a suffix.
-/
import CrawlFilter.Text.Lines

namespace CrawlFilter

/-! ## Names -/

/-- the labels of a name, from the left -/
def labels (name : Text) : List Text :=
  Text.pieces '.' name

/-- the name with these labels -/
def ofLabels (ls : List Text) : Text :=
  ['.'].intercalate ls

theorem ofLabels_labels (name : Text) : ofLabels (labels name) = name :=
  List.intercalate_splitOn '.'

/-! ## Lists -/

/-- a rule of a suffix list, by the name it is about -/
inductive SuffixRule where
  | exact (name : Text)
  | wildcard (name : Text)
  | exception (name : Text)
  deriving DecidableEq, Repr

/-- a suffix list -/
structure SuffixList where
  rules : List SuffixRule
  /-- no rule occurs twice -/
  nodup : rules.Nodup
  deriving Repr

namespace SuffixList

def empty : SuffixList := ⟨[], List.nodup_nil⟩

/-- the list with one rule more, if it is new -/
def insert (l : SuffixList) (r : SuffixRule) : SuffixList :=
  if h : r ∈ l.rules then l else ⟨r :: l.rules, List.nodup_cons.2 ⟨h, l.nodup⟩⟩

/-- number of rules -/
def size (l : SuffixList) : Nat := l.rules.length

def isExact (l : SuffixList) (name : Text) : Bool := .exact name ∈ l.rules

def isWildcard (l : SuffixList) (name : Text) : Bool := .wildcard name ∈ l.rules

def isException (l : SuffixList) (name : Text) : Bool := .exception name ∈ l.rules

/-- whether two lists have the same rules -/
def sameRules (a b : SuffixList) : Bool :=
  a.rules.all (· ∈ b.rules) && b.rules.all (· ∈ a.rules)

/-! ## Registrable domains -/

/-- The first tail of the labels that a rule speaks about, an exception for itself and any other rule
for one label more. `longer` is the tail with one label more, if there is one. -/
def search (l : SuffixList) (longer : Option (List Text)) : List Text → Option (List Text)
  | [] => longer
  | x :: rest =>
    let name := ofLabels (x :: rest)
    if l.isException name then some (x :: rest)
    else if l.isExact name || (!rest.isEmpty && l.isWildcard (ofLabels rest)) then longer
    else if rest.isEmpty then longer
    else l.search (some (x :: rest)) rest

/-- registrable domain of a host, `none` if the host is a suffix itself -/
def registrable? (l : SuffixList) (host : Text) : Option Text :=
  (l.search none (labels host)).map ofLabels

end SuffixList

/-! ## Without a list -/

/-- suffixes of two labels that are known without a list -/
def commonSuffixes : List Text :=
  ["co.uk", "co.jp", "co.nz", "co.za", "co.in", "co.kr", "com.au", "com.br", "com.cn", "com.mx",
    "com.tw", "com.hk", "net.au", "net.nz", "org.uk", "org.au", "gov.uk", "gov.au", "ac.uk", "ac.jp",
    "ne.jp", "or.jp"].map String.toList

/-- the last `n` items -/
def lastItems {α : Type} (n : Nat) (l : List α) : List α :=
  l.drop (l.length - n)

/-- the last three labels under a common suffix, otherwise the last two; all of them if there are no
more -/
def guessDomain (host : Text) : Text :=
  let ls := labels host
  if ofLabels (lastItems 2 ls) ∈ commonSuffixes then ofLabels (lastItems 3 ls) else ofLabels (lastItems 2 ls)

/-- registrable domain of a host; a host that is a suffix stands for itself -/
def registrableDomain (suffixes : Option SuffixList) (host : Text) : Text :=
  match suffixes with
  | some l => (l.registrable? host).getD host
  | none => guessDomain host

/-! ## Reading a list -/

/-- what a line of a suffix list says -/
inductive SuffixLine where
  | nothing
  | rule (r : SuffixRule)
  | invalid
  deriving DecidableEq, Repr

/-- a name as lists keep it: without dots at its ends, in lower case -/
def normalizeSuffix (t : Text) : Text :=
  Text.lowerAscii (Text.trimChar '.' t)

/-- Only the first word of a line counts, and two slashes in front of it make a comment. -/
def SuffixLine.ofText (line : Text) : SuffixLine :=
  match Text.firstWord? line with
  | none => .nothing
  | some ('/' :: '/' :: _) => .nothing
  | some ('!' :: name) =>
    if name.isEmpty || name.contains '*' then .invalid else .rule (.exception (normalizeSuffix name))
  | some ('*' :: '.' :: name) =>
    if name.isEmpty || name.contains '*' then .invalid else .rule (.wildcard (normalizeSuffix name))
  | some name =>
    if name.contains '*' || name.contains '!' then .invalid else .rule (.exact (normalizeSuffix name))

/-- why a suffix list could not be read -/
inductive SuffixListError where
  | unreadable (e : ReadError)
  | invalidRule (lineNumber : Nat) (line : Text)
  deriving DecidableEq, Repr

def SuffixListError.message : SuffixListError → Text
  | .unreadable e => "I/O error: ".toList ++ e.message
  | .invalidRule n line => "Invalid suffix rule at line ".toList ++ Text.ofNat n ++ ": ".toList ++ line

namespace SuffixList

/-- adds the rules of lines that are numbered from `n` on -/
def readFrom (l : SuffixList) (n : Nat) : Input → Except SuffixListError SuffixList
  | [] => .ok l
  | .error e :: _ => .error (.unreadable e)
  | .ok line :: rest =>
    match SuffixLine.ofText line with
    | .nothing => l.readFrom (n + 1) rest
    | .rule r => (l.insert r).readFrom (n + 1) rest
    | .invalid => .error (.invalidRule n line)

def read (i : Input) : Except SuffixListError SuffixList :=
  empty.readFrom 1 i

end SuffixList

end CrawlFilter
