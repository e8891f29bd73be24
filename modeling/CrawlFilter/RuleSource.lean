/-
Where rules come from: a file, or the rules that are built in. A file is opened before it is read, so
a name that is missing and a name that cannot be read fail in different ways.
-/
import CrawlFilter.RuleFile.Reader

namespace CrawlFilter

/-! ## Files -/

/-- what a path leads to -/
inductive FileEntry where
  /-- nothing that can be opened -/
  | closed (e : ReadError)
  | directory
  | file (content : Bytes)
  deriving DecidableEq, Repr

namespace FileEntry

/-- opens a path for reading by lines; a directory can be opened, and its first line is the error -/
def lines : FileEntry → Except ReadError Input
  | .closed e => .error e
  | .directory => .ok [.error .directory]
  | .file b => .ok (.ofBytes b)

/-- the whole text of a file -/
def text : FileEntry → Except ReadError Text
  | .closed e => .error e
  | .directory => .error .directory
  | .file b =>
    match Utf8.decode? b with
    | some t => .ok t
    | none => .error .notUtf8

end FileEntry

/-- the paths that can be read -/
abbrev Files := Text → FileEntry

/-! ## Sources -/

/-- rules that are used when no file is named -/
def builtinRules : Text :=
  (String.join ([
    "# Default URL filter rules, used when no rule file is given.",
    "#",
    "# Each non-comment, non-blank line is a rule: a '+' or '-' followed by a",
    "# regular expression. The first rule that matches a URL decides whether it",
    "# is accepted ('+') or rejected ('-'). URLs no rule matches are rejected.",
    "#",
    "# '>host-or-domain' restricts the rules that follow to that host or domain,",
    "# '<' lifts the restriction again.",
    "",
    "# skip file: ftp: and mailto: urls",
    "-^(file|ftp|mailto):",
    "",
    "# skip image and other suffixes we can't parse",
    "-(?i)\\.(gif|jpg|png|ico|css|sit|eps|wmf|zip|ppt|mpg|xls|gz|rpm|tgz|mov|exe|jpeg|bmp|js)$",
    "",
    "# skip URLs containing certain characters as probable queries, etc.",
    "-[?*!@=]",
    "",
    "# accept anything else",
    "+."
    ].map (· ++ "\n"))).toList

inductive RuleSource where
  | file (path : Text)
  | builtin
  deriving DecidableEq, Repr

namespace RuleSource

open Logged

def ofPath? : Option Text → RuleSource
  | some p => .file p
  | none => .builtin

def name : RuleSource → Text
  | .file p => p
  | .builtin => "<builtin>".toList

/-- a source that could not be read -/
def readFailure (path : Text) (e : ReadError) : Text :=
  "Failed to read '".toList ++ path ++ "': ".toList ++ e.message

/-- a source whose rules are in error -/
def ruleFailure [Wording] (s : RuleSource) (e : RuleFileError) : Text :=
  "Invalid rules in '".toList ++ s.name ++ "': ".toList ++ e.message

/-- the text of the rules -/
def text (files : Files) : RuleSource → Except Text Text
  | .file p => (files p).text.mapError (readFailure p)
  | .builtin => .ok builtinRules

/-- compiles a text as the text of this source -/
def compileLogged [Wording] (s : RuleSource) (f : Flavor) (t : Text) : Logged (Except Text (List Rule)) := do
  let rules ← RuleFile.readLogged (Rule.compile f) (.ofText t)
  pure (rules.mapError s.ruleFailure)

def compile [Wording] (s : RuleSource) (f : Flavor) (t : Text) : Except Text (List Rule) :=
  (s.compileLogged f t).value

/-- the rules as their lines are read, before it is known that they are in order -/
def readRules [Wording] (files : Files) (f : Flavor) (s : RuleSource) : Logged (Except Text (List Rule)) :=
  match s with
  | .builtin => s.compileLogged f builtinRules
  | .file p =>
    match (files p).lines with
    | .error e => pure (.error (readFailure p e))
    | .ok i => do
      let rules ← RuleFile.readLogged (Rule.compile f) i
      pure (rules.mapError s.ruleFailure)

/-- reads and compiles the rules of a source -/
def loadLogged [Wording] (files : Files) (f : Flavor) (s : RuleSource) : Logged (Except Text (List Rule)) := do
  match ← s.readRules files f with
  | .error e => pure (.error e)
  | .ok rules => do
    log (.loadedRules rules.length s.name f)
    pure (.ok rules)

def load [Wording] (files : Files) (f : Flavor) (s : RuleSource) : Except Text (List Rule) :=
  (s.loadLogged files f).value

end RuleSource

/-! ## Suffix lists -/

namespace SuffixList

open Logged

/-- reads the suffix list at a path -/
def loadLogged (files : Files) (path : Text) : Logged (Except Text SuffixList) :=
  let list : Except SuffixListError SuffixList := match (files path).lines with
    | .error e => .error (.unreadable e)
    | .ok i => read i
  match list with
  | .error e => pure (.error ("Failed to load suffix list '".toList ++ path ++ "': ".toList ++ e.message))
  | .ok l => do
    log (.loadedSuffixes l.size path)
    pure (.ok l)

/-- the suffix list at a path, if one is given -/
def load? (files : Files) : Option Text → Except Text (Option SuffixList)
  | none => .ok none
  | some p => (loadLogged files p).value.map some

end SuffixList

end CrawlFilter
