/-
Reading a command line. Options stand before or after the verb, the short ones may share a hyphen,
and a value follows its option or is attached to it. What is not given can come from the environment.

Options are taken one by one from the left, and the first that is wrong ends the reading.
-/
import CrawlFilter.Report

namespace CrawlFilter.Command

/-- options of the command line -/
inductive Opt where
  | rules
  | flavor
  | suffixList
  | format
  | explain
  | verbose
  | help
  deriving DecidableEq, Repr

namespace Opt

def ofLong? (name : Text) : Option Opt :=
  match String.ofList name with
  | "rules" => some .rules
  | "flavor" => some .flavor
  | "suffix-list" => some .suffixList
  | "format" => some .format
  | "explain" => some .explain
  | "verbose" => some .verbose
  | "help" => some .help
  | _ => none

def ofShort? : Char → Option Opt
  | 'r' => some .rules
  | 'v' => some .verbose
  | 'h' => some .help
  | _ => none

def takesValue : Opt → Bool
  | .rules | .flavor | .suffixList | .format => true
  | .explain | .verbose | .help => false

end Opt

/-- what the program can be asked to do -/
inductive Verb where
  /-- filter URLs from standard input -/
  | filter
  /-- check that a rule file is in order -/
  | check
  /-- write a rule file in its shortest form -/
  | fmt
  deriving DecidableEq, Repr

namespace Verb

def ofName? (name : Text) : Option Verb :=
  match String.ofList name with
  | "filter" => some .filter
  | "check" => some .check
  | "fmt" => some .fmt
  | _ => none

/-- the options that make sense with a verb -/
def allows (v : Verb) : Opt → Bool
  | .rules | .flavor | .verbose | .help => true
  | .suffixList | .format | .explain => v = .filter

end Verb

/-- why there is nothing to do -/
inductive Usage where
  /-- help was asked for -/
  | help
  /-- the command line makes no sense -/
  | wrong
  deriving DecidableEq, Repr

/-- options read so far -/
structure Given where
  rules : Option Text
  flavor : Option Flavor
  suffixList : Option Text
  format : Option Format
  explain : Bool
  deriving DecidableEq, Repr

namespace Given

def nothing : Given := ⟨none, none, none, none, false⟩

def formatOfName? (name : Text) : Option Format :=
  match String.ofList name with
  | "text" => some .text
  | "json" => some .json
  | _ => none

/-- Takes one option with its value. A path is not empty, and only verbosity, which changes no output,
may be given twice. -/
def put (g : Given) (o : Opt) (value : Text) : Except Usage Given :=
  match o with
  | .rules => if g.rules.isSome || value.isEmpty then .error .wrong else .ok { g with rules := value }
  | .suffixList =>
    if g.suffixList.isSome || value.isEmpty then .error .wrong else .ok { g with suffixList := value }
  | .flavor =>
    match g.flavor, Flavor.ofName value with
    | none, .ok f => .ok { g with flavor := f }
    | _, _ => .error .wrong
  | .format =>
    match g.format, formatOfName? value with
    | none, some f => .ok { g with format := f }
    | _, _ => .error .wrong
  | .explain => if g.explain then .error .wrong else .ok { g with explain := true }
  | .verbose => .ok g
  | .help => .error .help

end Given

/-! ## Options -/

/-- whether an argument can be the value of the option before it -/
def isValue (arg : Text) : Bool :=
  arg.head? != some '-' || arg = ['-']

/-- Short options behind one hyphen. The rest of the cluster is the value of the first that takes
one; if there is no rest, the option is returned and waits for the next argument. -/
def readCluster (allows : Opt → Bool) (g : Given) : Text → Except Usage (Given × Option Opt)
  | [] => .ok (g, none)
  | c :: cs =>
    match (Opt.ofShort? c).filter allows with
    | none => .error .wrong
    | some o =>
      if o.takesValue then
        match cs with
        | [] => .ok (g, some o)
        | '=' :: value => (g.put o value).map fun g => (g, none)
        | value => (g.put o value).map fun g => (g, none)
      else do
        let g ← g.put o []
        readCluster allows g cs

/-- a long option without its hyphens: the name, and the value after an equality sign -/
def splitLong (t : Text) : Text × Option Text :=
  match t.dropWhile (· != '=') with
  | [] => (t, none)
  | _ :: value => (t.takeWhile (· != '='), some value)

/-- reads options up to the first argument that is none, which is returned with all after it -/
def readOptions (allows : Opt → Bool) (g : Given) : List Text → Except Usage (Given × List Text)
  | [] => .ok (g, [])
  | arg :: rest =>
    let waiting (g : Given) (o : Opt) : Except Usage (Given × List Text) :=
      match rest with
      | value :: rest => if isValue value then do readOptions allows (← g.put o value) rest else .error .wrong
      | [] => .error .wrong
    match arg with
    | ['-', '-'] => .ok (g, arg :: rest)
    | '-' :: '-' :: long =>
      let (name, value) := splitLong long
      match (Opt.ofLong? name).filter allows, value with
      | none, _ => .error .wrong
      | some o, some v => if o.takesValue then do readOptions allows (← g.put o v) rest else .error .wrong
      | some o, none =>
        if o.takesValue then waiting g o else do readOptions allows (← g.put o []) rest
    | '-' :: c :: cs => do
      match ← readCluster allows g (c :: cs) with
      | (g, none) => readOptions allows g rest
      | (g, some o) => waiting g o
    | _ => .ok (g, arg :: rest)

/-! ## Command lines -/

/-- what is to be done -/
structure Request where
  verb : Verb
  rules : Option Text
  flavor : Flavor
  suffixList : Option Text
  report : ReportOptions
  deriving DecidableEq, Repr

/-- values from the environment -/
abbrev Environment := Text → Option Text

/-- takes an option from the environment if it was not given -/
def fromEnvironment (env : Environment) (o : Opt) (key : String) (given : Option Text) (g : Given) :
    Except Usage Given :=
  match given, env key.toList with
  | none, some v => g.put o v
  | _, _ => .ok g

def Request.ofGiven (v : Verb) (g : Given) : Request :=
  ⟨v, g.rules, g.flavor.getD .basic, g.suffixList, ⟨g.format.getD .text, g.explain⟩⟩

/-- help on a verb, or on the program -/
def readHelp : List Text → Usage
  | [] => .help
  | [name] => if (Verb.ofName? name).isSome || name = "help".toList then .help else .wrong
  | _ => .wrong

/-- what a command line asks for -/
def readArguments (env : Environment) (args : List Text) : Except Usage Request := do
  let (g, rest) ← readOptions (fun o => o = .verbose || o = .help) .nothing args
  match rest with
  | [] => .error .wrong
  | name :: args =>
    if name = "help".toList then .error (readHelp args)
    else match Verb.ofName? name with
      | none => .error .wrong
      | some v => do
        let (g, rest) ← readOptions v.allows g args
        let g ← fromEnvironment env .rules "SIEVE_RULES" g.rules g
        let g ← if v = .filter then fromEnvironment env .suffixList "SIEVE_SUFFIX_LIST" g.suffixList g else pure g
        if rest = [] ∨ rest = [['-', '-']] then return .ofGiven v g else .error .wrong

end CrawlFilter.Command
