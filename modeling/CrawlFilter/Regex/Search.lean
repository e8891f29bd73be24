/-
Searching a text. A set of places is a number whose bit `i` stands for place `i`; `Expr.reach` maps
the places where a match may start to the places where one may end, for all starts at once. An
expression is found in a text when some place is reached from all of them together.

Atoms are turned into steps on sets first, so that a set of characters is compared with the text
once, however often the expression repeats it.
-/
import CrawlFilter.Regex.Expr

namespace CrawlFilter.Regex

/-- sets of places, one bit for each -/
abbrev Places := Nat

/-- the number whose bits are given, the lowest first -/
def bits : List Bool → Nat
  | [] => 0
  | b :: bs => 2 * bits bs + b.toNat

/-- every place of a text with `n` characters -/
def allPlaces (n : Nat) : Places := Nat.pow 2 (n + 1) - 1

/-! ## Steps -/

/-- what an atom does to a set of places of one text -/
inductive Step where
  /-- go past the character after each of these places -/
  | past (on : Places)
  /-- keep these places -/
  | keep (on : Places)

def Step.apply (s : Step) (p : Places) : Places :=
  match s with
  | .past on => (p &&& on) <<< 1
  | .keep on => p &&& on

/-- each character of a text with the places before its occurrences -/
def occurrences (text : Text) : List (Char × Places) :=
  text.eraseDups.map fun c => (c, bits (text.map (· == c)))

/-- the places before characters of a set -/
def placesBefore (occ : List (Char × Places)) (s : CharSet) : Places :=
  occ.foldl (fun p o => if s.contains o.1 then p ||| o.2 else p) 0

/-- the characters around each place -/
def surroundings (text : Text) : List (Option Char × Option Char) :=
  (none :: text.map some).zip (text.map some ++ [none])

def Atom.step (occ : List (Char × Places)) (around : List (Option Char × Option Char)) : Atom → Step
  | .chars s _ => .past (placesBefore occ s)
  | .look l => .keep (bits (around.map fun r => l.holds r.1 r.2))

/-! ## Reach -/

/-- `n` times `f`, or less once nothing is left -/
def iterate (f : Places → Places) : Nat → Places → Places
  | 0, p => p
  | n + 1, p => if p = 0 then 0 else iterate f n (f p)

/-- `seen` with all that up to `n` times `f` reaches from `fresh`, which is part of it -/
def closure (f : Places → Places) : Nat → Places → Places → Places
  | 0, seen, _ => seen
  | n + 1, seen, fresh =>
    let p := f fresh
    let new := p ^^^ (p &&& seen)
    if new = 0 then seen else closure f n (seen ||| new) new

/-- The places where matches end that start at the given places of a text with `n` characters.
Beyond `n + 1` rounds a repetition reaches nothing else: one of the rounds has read nothing and can
be made again or left out. -/
def Expr.reach (n : Nat) : Expr Step → Places → Places
  | .empty, p => p
  | .atom s, p => s.apply p
  | .concat a b, p => b.reach n (a.reach n p)
  | .alternate a b, p => a.reach n p ||| b.reach n p
  | .group _ a, p => a.reach n p
  | .repetition a _ least most, p =>
    let start := iterate (a.reach n) (min least (n + 1)) p
    closure (a.reach n) (min ((most.map (· - least)).getD n) n) start start

/-- whether an expression matches some part of a text -/
def Expr.foundIn (e : Expr Atom) (text : Text) : Bool :=
  let steps := e.map (Atom.step (occurrences text) (surroundings text))
  steps.reach text.length (allPlaces text.length) != 0

end CrawlFilter.Regex
