/-
What a command does: the status it ends with and what it writes. The files and the standard input are
values, so a command is a function.

Left out are the texts of an option parser (its help and its complaints are one text here, `usage`), the log that
`--verbose` asks for (which events there are says `Event`), how long a check took, and in the message of a refused
pattern the drawing of the place where it is at fault (its words are `Wording`).
-/
import CrawlFilter.Command.Options
import CrawlFilter.RuleFile.Writer
import CrawlFilter.RuleSource

namespace CrawlFilter.Command

/-- end of a command -/
structure Outcome where
  status : Nat
  stdout : Text
  stderr : Text
  deriving DecidableEq, Repr

namespace Outcome

def success (stdout : Text) : Outcome := ⟨0, stdout, []⟩

/-- a failure after some output -/
def failure (stdout message : Text) : Outcome :=
  ⟨1, stdout, "Error: ".toList ++ message ++ ['\n']⟩

end Outcome

/-- a line of output -/
def lineOf (parts : List Text) : Text :=
  parts.flatten ++ ['\n']

/-- what is said about a rule file that is in order, without the line on how long it took to find out -/
def summary (source : RuleSource) (flavor : Flavor) (text : Text) (rules : List Rule) : Text :=
  let accepting := (rules.filter (·.action = .accept)).length
  let scopes := rules.filterMap (·.scope)
  lineOf ["Rules '".toList, source.name, "' are valid".toList] ++
  lineOf ["  Lines:    ".toList, Text.ofNat text.lines.length] ++
  lineOf ["  Rules:    ".toList, Text.ofNat rules.length, " (".toList, Text.ofNat accepting, " accept, ".toList,
    Text.ofNat (rules.length - accepting), " reject)".toList] ++
  lineOf ["  Scoped:   ".toList, Text.ofNat scopes.length, " rules across ".toList,
    Text.ofNat scopes.eraseDups.length, " hosts/domains".toList] ++
  lineOf ["  Flavor:   ".toList, flavor.name]

/-- reads the text of a rule source and compiles it -/
def check [Wording] (files : Files) (source : RuleSource) (flavor : Flavor) : Except Text Text := do
  let text ← source.text files
  let rules ← source.compile flavor text
  return summary source flavor text rules

/-- loads a rule source and writes its rules -/
def fmt [Wording] (files : Files) (source : RuleSource) (flavor : Flavor) : Except Text Text := do
  return RuleFile.writeRules (← source.load files flavor)

/-- the engine for a rule source and a suffix list -/
def loadEngine [Wording] (files : Files) (source : RuleSource) (flavor : Flavor) (suffixList : Option Text) :
    Except Text Engine := do
  let rules ← source.load files flavor
  let suffixes ← SuffixList.load? files suffixList
  return ⟨rules, .ofSuffixes suffixes⟩

/-- the end of filtering, which fails where its input breaks off -/
def Outcome.ofReport (r : Report) : Outcome :=
  match r.failure with
  | none => .success r.output
  | some e => .failure r.output ("Failed to filter URLs: ".toList ++ e.message)

/-- carries out a request -/
def Request.run [Wording] (files : Files) (stdin : Bytes) (r : Request) : Outcome :=
  let source := RuleSource.ofPath? r.rules
  let simple : Except Text Text → Outcome
    | .ok out => .success out
    | .error e => .failure [] e
  match r.verb with
  | .check => simple (check files source r.flavor)
  | .fmt => simple (fmt files source r.flavor)
  | .filter =>
    match loadEngine files source r.flavor r.suffixList with
    | .error e => .failure [] e
    | .ok engine => .ofReport (.ofBytes engine r.report stdin)

/-- what is said to those who ask for help or need it -/
def usage : Text :=
  (String.join ([
    "Regex URL filter for crawlers",
    "",
    "Commands:",
    "  filter  Filter URLs read from standard input, one per line",
    "  check   Validate a rule file",
    "  fmt     Print a rule file in canonical form",
    "  help    Print this text",
    "",
    "Options:",
    "  -r, --rules PATH        Rule file; the built-in rules if there is none",
    "      --flavor FLAVOR     basic (match anywhere) or anchored (match the whole URL)",
    "      --suffix-list PATH  Public suffix list (filter)",
    "      --format FORMAT     text or json (filter)",
    "      --explain           Show which rule decided each URL (filter)",
    "  -v, --verbose           Increase log verbosity",
    "  -h, --help              Print this text"
    ].map (· ++ "\n"))).toList

/-- the files that a request reads -/
def Request.paths (r : Request) : List Text :=
  r.rules.toList ++ r.suffixList.toList

/-- carries out a command line -/
def run [Wording] (env : Environment) (files : Files) (stdin : Bytes) (args : List Text) : Outcome :=
  match readArguments env args with
  | .error .help => .success usage
  | .error .wrong => ⟨2, [], usage⟩
  | .ok r => r.run files stdin

end CrawlFilter.Command
