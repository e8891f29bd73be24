/-
Lines of a rule file. The first character says what a line is: a rule, the start or the end of a
scope, or nothing at all.
-/
import CrawlFilter.Rule

namespace CrawlFilter

/-- what a line of a rule file says -/
inductive RuleLine where
  /-- a rule with all that follows its sigil as the pattern -/
  | rule (a : Action) (pattern : Text)
  /-- a comment or an empty line -/
  | nothing
  /-- rules from here on are for this host or domain -/
  | openScope (name : Text)
  /-- rules from here on are for all -/
  | closeScope
  deriving DecidableEq, Repr

namespace RuleLine

/-- reads a line; a first character that begins no line is the error -/
def ofText : Text → Except Char RuleLine
  | [] => .ok .nothing
  | c :: cs =>
    match Action.ofSigil? c with
    | some a => .ok (.rule a cs)
    | none =>
      if c = ' ' ∨ c = '#' then .ok .nothing
      else if c = '>' then .ok (.openScope (Text.trim cs))
      else if c = '<' then .ok .closeScope
      else .error c

end RuleLine

end CrawlFilter
