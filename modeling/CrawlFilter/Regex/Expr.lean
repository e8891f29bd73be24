/-
Expressions and where they match. A place in a text is a number, `i` standing before the character
with index `i`. `Expr.Spans` says from which place to which place an expression matches; it is the
meaning of expressions, and it is stated over any meaning of the atoms.

An atom reads one character of a set or asserts something about a place. Captures, greed, groups and
where Unicode was on have no meaning here, since only the existence of a match counts; they are kept
because the size of a matcher depends on them.
-/
import CrawlFilter.CharSet
import CrawlFilter.Unicode.Property

namespace CrawlFilter.Regex

/-! ## Assertions -/

/-- conditions on the characters around a place -/
inductive Look where
  | textStart
  | textEnd
  | lineStart (crlf : Bool)
  | lineEnd (crlf : Bool)
  | wordBoundary (unicode : Bool)
  | notWordBoundary (unicode : Bool)
  | wordStart (unicode : Bool)
  | wordEnd (unicode : Bool)
  | wordStartHalf (unicode : Bool)
  | wordEndHalf (unicode : Bool)
  deriving DecidableEq, Repr

/-- whether there is a word character -/
def isWord (unicode : Bool) (c : Option Char) : Bool :=
  c.any fun c => c.isAlphanum || c = '_' || (unicode && Unicode.wordChars.contains c)

/-- whether the condition holds between two characters, `none` standing for an end of the text -/
def Look.holds (before after : Option Char) : Look → Bool
  | .textStart => before.isNone
  | .textEnd => after.isNone
  | .lineStart false => before.isNone || before = some '\n'
  | .lineEnd false => after.isNone || after = some '\n'
  | .lineStart true => before.isNone || before = some '\n' || (before = some '\r' && after != some '\n')
  | .lineEnd true => after.isNone || after = some '\r' || (after = some '\n' && before != some '\r')
  | .wordBoundary u => isWord u before != isWord u after
  | .notWordBoundary u => isWord u before == isWord u after
  | .wordStart u => !isWord u before && isWord u after
  | .wordEnd u => isWord u before && !isWord u after
  | .wordStartHalf u => !isWord u before
  | .wordEndHalf u => !isWord u after

/-! ## Expressions -/

/-- expressions over atoms -/
inductive Expr (α : Type) where
  | empty
  | atom (a : α)
  | concat (a b : Expr α)
  | alternate (a b : Expr α)
  | repetition (a : Expr α) (greedy : Bool) (least : Nat) (most : Option Nat)
  | group (captures : Bool) (a : Expr α)
  deriving DecidableEq, Repr

/-- the same expression over other atoms -/
def Expr.map {α β : Type} (f : α → β) : Expr α → Expr β
  | .empty => .empty
  | .atom a => .atom (f a)
  | .concat a b => .concat (a.map f) (b.map f)
  | .alternate a b => .alternate (a.map f) (b.map f)
  | .repetition a greedy least most => .repetition (a.map f) greedy least most
  | .group captures a => .group captures (a.map f)

/-- whether an expression reads no character, given which atoms do not -/
def Expr.readsNothing {α : Type} (idle : α → Bool) : Expr α → Bool
  | .empty => true
  | .atom a => idle a
  | .concat a b => a.readsNothing idle && b.readsNothing idle
  | .alternate a b => a.readsNothing idle && b.readsNothing idle
  | .repetition a _ _ _ => a.readsNothing idle
  | .group _ a => a.readsNothing idle

/-- Least number of characters that a match reads, given that of each atom; `none` if nothing matches
some part that has to match. -/
def Expr.minLength {α : Type} (least : α → Option Nat) : Expr α → Option Nat
  | .empty => some 0
  | .atom a => least a
  | .concat a b => do return (← a.minLength least) + (← b.minLength least)
  | .alternate a b => do return min (← a.minLength least) (← b.minLength least)
  | .repetition a _ n _ => (a.minLength least).map (n * ·)
  | .group _ a => a.minLength least

/-- what an expression is built from -/
inductive Atom where
  /-- one character of a set, and whether Unicode was on where the set was written -/
  | chars (s : CharSet) (unicode : Bool)
  /-- a condition on the place -/
  | look (l : Look)
  deriving DecidableEq, Repr

/-! ## Meaning -/

/-- an atom matches `text` from place `i` to place `j` -/
def Atom.Spans (text : Text) (i j : Nat) : Atom → Prop
  | .chars s _ => j = i + 1 ∧ ∃ c, text[i]? = some c ∧ s.contains c
  | .look l => j = i ∧ i ≤ text.length ∧ l.holds (text.take i).getLast? text[i]?

/-- `Spans R e i j`: `e` matches from `i` to `j`, where `R` says so for atoms -/
inductive Expr.Spans {α : Type} (R : α → Nat → Nat → Prop) : Expr α → Nat → Nat → Prop where
  | empty (i : Nat) : Spans R .empty i i
  | atom {a : α} {i j : Nat} : R a i j → Spans R (.atom a) i j
  | concat {a b : Expr α} {i k j : Nat} : Spans R a i k → Spans R b k j → Spans R (.concat a b) i j
  | left {a b : Expr α} {i j : Nat} : Spans R a i j → Spans R (.alternate a b) i j
  | right {a b : Expr α} {i j : Nat} : Spans R b i j → Spans R (.alternate a b) i j
  | group {c : Bool} {a : Expr α} {i j : Nat} : Spans R a i j → Spans R (.group c a) i j
  | done {a : Expr α} {greedy : Bool} {most : Option Nat} (i : Nat) :
      Spans R (.repetition a greedy 0 most) i i
  | more {a : Expr α} {greedy : Bool} {least : Nat} {most : Option Nat} {i k j : Nat} :
      most ≠ some 0 → Spans R a i k →
      Spans R (.repetition a greedy (least - 1) (most.map (· - 1))) k j →
      Spans R (.repetition a greedy least most) i j

/-- places between which an expression matches a text -/
def Expr.Matches (e : Expr Atom) (text : Text) (i j : Nat) : Prop :=
  i ≤ text.length ∧ Spans (fun a i j => a.Spans text i j) e i j

end CrawlFilter.Regex
