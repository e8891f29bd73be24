/-
Patterns of rules: a text together with the expression it compiles to. A flavor says how much of a
URL a pattern has to describe, some part of it or all of it.

An anchored pattern is compiled twice, bare first: the group around it could otherwise balance a
parenthesis that stands alone.
-/
import CrawlFilter.Regex.Interpret
import CrawlFilter.Regex.Parse
import CrawlFilter.Regex.Search
import CrawlFilter.Regex.Size

namespace CrawlFilter

/-- a pattern that was refused, and why -/
structure PatternError where
  pattern : Text
  cause : Regex.Refusal
  deriving DecidableEq, Repr

/-- How a refusal is put into words. The words are a matter of whoever compiles the patterns, so they are a
parameter, and what holds of messages holds for all of them. -/
class Wording where
  ofRefusal : Regex.Refusal → Text

/-- a mark in the place of the words, where none are chosen -/
instance (priority := low) Wording.unworded : Wording := ⟨fun _ => "<regex>".toList⟩

/-- what is said about a refused pattern, with its cause in words -/
def PatternError.message [Wording] (e : PatternError) : Text :=
  "Invalid pattern '".toList ++ e.pattern ++ "': ".toList ++ Wording.ofRefusal e.cause

/-- how a pattern is compared with a URL -/
inductive Flavor where
  /-- some part of the URL matches -/
  | basic
  /-- the whole URL matches -/
  | anchored
  deriving DecidableEq, Repr

/-- a compiled pattern with the text it was compiled from -/
structure Pattern where
  source : Text
  expr : Regex.Expr Regex.Atom
  deriving DecidableEq, Repr

namespace Regex

/-- the expression of a pattern text -/
def compile (t : Text) : Except Refusal (Expr Atom) :=
  match (parse t).bind fun a => a.interpret .initial with
  | .error f => .error (.fault f)
  | .ok (e, _) => if e.fits then .ok e else .error .tooBig

end Regex

namespace Pattern

/-- the text that describes the whole of what `t` describes a part of -/
def whole (t : Text) : Text :=
  "^(?:".toList ++ t ++ ")$".toList

/-- compiles `text` as the pattern written `source` -/
def compileAs (source text : Text) : Except PatternError Pattern :=
  match Regex.compile text with
  | .ok e => .ok ⟨source, e⟩
  | .error r => .error ⟨source, r⟩

def compile (f : Flavor) (t : Text) : Except PatternError Pattern :=
  match f with
  | .basic => compileAs t t
  | .anchored => (compileAs t t).bind fun _ => compileAs t (whole t)

/-- whether the pattern matches some part of the URL; an anchored one leaves the whole as the only part -/
def describes (p : Pattern) (url : Text) : Bool :=
  p.expr.foundIn url

end Pattern

/-! ## Flavor names -/

namespace Flavor

def name : Flavor → Text
  | .basic => "basic".toList
  | .anchored => "anchored".toList

/-- a flavor by its name in any ASCII case; on failure, the name in lower case -/
def ofName (t : Text) : Except Text Flavor :=
  let n := Text.lowerAscii t
  if n = Flavor.basic.name then .ok .basic
  else if n = Flavor.anchored.name then .ok .anchored
  else .error n

/-- what is said about a name, in lower case, that no flavor has -/
def unknownMessage (n : Text) : Text :=
  "unknown rule flavor '".toList ++ n ++ "' (expected basic or anchored)".toList

end Flavor

end CrawlFilter
