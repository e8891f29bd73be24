/-
Deciding about URLs. Rules are tried in order; those that are for other hosts are passed over, and
the first whose pattern describes the URL decides. A URL that no rule decides is rejected.

`Engine.consult` does this and reports each rule it comes to.
-/
import CrawlFilter.RuleFile.Reader

namespace CrawlFilter

/-- a decision, and the index of the rule that made it; no rule makes the default -/
structure Decision where
  accepted : Bool
  rule : Option Nat
  deriving DecidableEq, Repr

/-- what is decided when no rule is -/
def Decision.byDefault : Decision := ⟨false, none⟩

/-- rules in the order of the file, with the resolver their scopes are compared by -/
structure Engine where
  rules : List Rule
  resolver : Resolver

namespace Engine

open Logged

/-- an engine that is ready to decide -/
def start (rules : List Rule) (resolver : Resolver) : Logged Engine := do
  log (.engineReady rules.length)
  pure ⟨rules, resolver⟩

/-- host and domain of a URL; without a domain, scopes are compared with the host only -/
def locate (e : Engine) (url : Text) : Logged (Option Text × Option Text) := do
  let host := e.resolver.host url
  match e.resolver.domain url with
  | .ok d => do
    log (.located host (some d))
    pure (host, some d)
  | .error m => do
    log (.noDomain m)
    log (.located host none)
    pure (host, none)

/-- tries rules that are numbered from `n` on -/
def tryFrom (url : Text) (host domain : Option Text) (n : Nat) : List Rule → Logged Decision
  | [] => pure .byDefault
  | r :: rs =>
    if r.inScope host domain then do
      log (.applied r.pattern.source host domain)
      if r.describes url then pure ⟨r.action.sign, some n⟩ else tryFrom url host domain (n + 1) rs
    else do
      log (.skipped r.pattern.source r.scope)
      tryFrom url host domain (n + 1) rs

/-- decides about a URL and reports how -/
def consult (e : Engine) (url : Text) : Logged Decision := do
  let (host, domain) ← e.locate url
  tryFrom url host domain 0 e.rules

def evaluate (e : Engine) (url : Text) : Decision :=
  (e.consult url).value

/-- Whether a URL is accepted. The page on which it was found is of no account. -/
def decide (e : Engine) (url : Text) (_parent : Option Text) : Bool :=
  (e.evaluate url).accepted

/-- the engine for the rules of a file, resolving hosts without a suffix list -/
def ofInput (build : RuleBuilder Rule) (i : Input) : Except RuleFileError Engine :=
  (RuleFile.read build i).map fun rules => ⟨rules, .ofSuffixes none⟩

/-- the engine for the rules of a text -/
def ofText (f : Flavor) (t : Text) : Except RuleFileError Engine :=
  ofInput (Rule.compile f) (.ofText t)

/-- the engine for the rules of a byte stream -/
def ofBytes (f : Flavor) (b : Bytes) : Except RuleFileError Engine :=
  ofInput (Rule.compile f) (.ofBytes b)

end Engine

end CrawlFilter
