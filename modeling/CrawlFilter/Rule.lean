/-
Rules. A rule accepts or rejects the URLs that its pattern describes; a scope restricts it to URLs
with that host or that domain.
-/
import CrawlFilter.Pattern

namespace CrawlFilter

/-- what a rule does with a URL -/
inductive Action where
  | accept
  | reject
  deriving DecidableEq, Repr

namespace Action

/-- the decision that the action makes, `true` to accept -/
def sign : Action → Bool
  | .accept => true
  | .reject => false

def ofSign (b : Bool) : Action :=
  if b then .accept else .reject

/-- the character in front of a rule -/
def sigil : Action → Char
  | .accept => '+'
  | .reject => '-'

def ofSigil? : Char → Option Action
  | '+' => some .accept
  | '-' => some .reject
  | _ => none

theorem ofSigil?_sigil (a : Action) : ofSigil? a.sigil = some a := by
  cases a <;> rfl

theorem ofSign_sign (a : Action) : ofSign a.sign = a := by
  cases a <;> rfl

end Action

/-- a rule as written, its pattern not compiled -/
structure WrittenRule where
  action : Action
  pattern : Text
  scope : Option Text
  deriving DecidableEq, Repr

structure Rule where
  action : Action
  pattern : Pattern
  /-- the host or domain that the rule is for, none if it is for all -/
  scope : Option Text
  deriving DecidableEq, Repr

namespace Rule

def written (r : Rule) : WrittenRule :=
  ⟨r.action, r.pattern.source, r.scope⟩

/-- compiles the pattern of a rule -/
def compile (f : Flavor) (a : Action) (pattern : Text) (scope : Option Text) : Except PatternError Rule :=
  (Pattern.compile f pattern).map fun p => ⟨a, p, scope⟩

/-- whether the rule is for URLs with this host and this domain -/
def inScope (r : Rule) (host domain : Option Text) : Bool :=
  match r.scope with
  | none => true
  | some s => host = some s || domain = some s

theorem inScope_iff (r : Rule) (host domain : Option Text) :
    r.inScope host domain = true ↔ r.scope = none ∨ ∃ s, r.scope = some s ∧ (host = some s ∨ domain = some s) := by
  unfold inScope
  cases r.scope <;> simp

/-- whether the pattern describes the URL -/
def describes (r : Rule) (url : Text) : Bool :=
  r.pattern.describes url

end Rule

end CrawlFilter
