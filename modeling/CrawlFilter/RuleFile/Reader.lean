/-
Reading rule files. Rules come out in the order of their lines, each with the scope that the last
scope line before it left in force. The first line that cannot be read ends the reading, and then
there are no rules at all.

What becomes of a rule line is a parameter, so that a file is read in the same way whether its
patterns are compiled or not.
-/
import CrawlFilter.Event
import CrawlFilter.RuleFile.Line

namespace CrawlFilter

/-- why a rule file could not be read -/
inductive RuleFileError where
  /-- a line begins with a character that means nothing -/
  | invalidFirst (lineNumber : Nat) (line : Text) (first : Char)
  /-- the pattern of a line was refused -/
  | invalidPattern (lineNumber : Nat) (line : Text) (cause : PatternError)
  | unreadable (e : ReadError)
  deriving DecidableEq, Repr

namespace RuleFileError

/-- the line at fault, as it stands in the file -/
def line? : RuleFileError → Option Text
  | .invalidFirst _ l _ | .invalidPattern _ l _ => some l
  | .unreadable _ => none

/-- the number of the line at fault, the first line being line 1 -/
def lineNumber? : RuleFileError → Option Nat
  | .invalidFirst n _ _ | .invalidPattern n _ _ => some n
  | .unreadable _ => none

def message [Wording] : RuleFileError → Text
  | .invalidFirst n l c =>
    "Invalid first character '".toList ++ [c] ++ "' at line ".toList ++ Text.ofNat n ++ ": ".toList ++ l
  | .invalidPattern n _ e => "Invalid pattern at line ".toList ++ Text.ofNat n ++ ": ".toList ++ e.message
  | .unreadable e => "Failed to read rules: ".toList ++ e.message

end RuleFileError

/-- what a rule line is turned into -/
abbrev RuleBuilder (α : Type) := Action → Text → Option Text → Except PatternError α

/-- keeps a rule line as written -/
def RuleBuilder.written : RuleBuilder WrittenRule :=
  fun a p s => .ok ⟨a, p, s⟩

namespace RuleFile

open Logged

/-- Reads lines that are numbered from `n` on, with a scope in force. A carriage return at the end of
a line is dropped. -/
def readFrom {α : Type} (build : RuleBuilder α) (n : Nat) (scope : Option Text) :
    Input → Logged (Except RuleFileError (List α))
  | [] => pure (.ok [])
  | .error e :: _ => pure (.error (.unreadable e))
  | .ok raw :: rest =>
    let line := withoutLast '\r' raw
    match RuleLine.ofText line with
    | .error c => pure (.error (.invalidFirst n line c))
    | .ok .nothing => readFrom build (n + 1) scope rest
    | .ok (.openScope name) => readFrom build (n + 1) (some (normalizeHost name)) rest
    | .ok .closeScope => readFrom build (n + 1) none rest
    | .ok (.rule a p) => do
      log (.addingRule p scope)
      match build a p scope with
      | .error e => pure (.error (.invalidPattern n line e))
      | .ok r => Except.map (r :: ·) <$> readFrom build (n + 1) scope rest

/-- reads a whole file -/
def readLogged {α : Type} (build : RuleBuilder α) (i : Input) : Logged (Except RuleFileError (List α)) := do
  match ← readFrom build 1 none i with
  | .error e => pure (.error e)
  | .ok rules => do
    log (.parsedRules rules.length)
    pure (.ok rules)

/-- the rules of a file -/
def read {α : Type} (build : RuleBuilder α) (i : Input) : Except RuleFileError (List α) :=
  (readLogged build i).value

/-- the rules of a text, compiled -/
def parse (f : Flavor) (t : Text) : Except RuleFileError (List Rule) :=
  read (Rule.compile f) (.ofText t)

/-- the rules of a byte stream, compiled -/
def parseBytes (f : Flavor) (b : Bytes) : Except RuleFileError (List Rule) :=
  read (Rule.compile f) (.ofBytes b)

/-- the rules of a text as written -/
def parseWritten (t : Text) : Except RuleFileError (List WrittenRule) :=
  read RuleBuilder.written (.ofText t)

end RuleFile

end CrawlFilter
