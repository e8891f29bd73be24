/-
The size of a matcher, on which there is a limit. A matcher is a nondeterministic automaton over
UTF-8 bytes, and two are needed: one that reads forward and records captures, and one that reads
backward and does not. A repetition with counts is unrolled, so sizes multiply.

States are counted in the order in which they are built, and nothing is kept of them but their
number. The states of a set of characters are shared where they agree, and which of them are still at
hand for sharing depends on their numbers; so a set can take more room the second time.
-/
import Std.Data.HashMap
import CrawlFilter.Regex.ByteSequence
import CrawlFilter.Regex.Needle

namespace CrawlFilter.Regex

/-! ## Tallies -/

/-- a matcher so far -/
structure Tally where
  states : Nat
  /-- bytes for transitions and for the ways out of branching states -/
  links : Nat
  deriving DecidableEq, Repr

namespace Tally

/-- bytes for a state, its links apart -/
def stateCost : Nat := 32

/-- bytes for one of several transitions of a state -/
def transitionCost : Nat := 8

/-- bytes for a way out of a branching state -/
def wayCost : Nat := 4

/-- largest size in bytes, ten mebibytes -/
def maxSize : Nat := 10 * 1048576

def size (t : Tally) : Nat := stateCost * t.states + t.links

def add (s t : Tally) : Tally := ⟨s.states + t.states, s.links + t.links⟩

/-- adds to a matcher, unless it passes the limit then -/
def grow (t : Tally) (states links : Nat) : Option Tally :=
  let t := t.add ⟨states, links⟩
  if t.size ≤ maxSize then some t else none

end Tally

/-- `n` times `f`, if it never fails -/
def times (f : Tally → Option Tally) : Nat → Tally → Option Tally
  | 0, t => some t
  | n + 1, t =>
    match f t with
    | none => none
    | some t => times f n t

/-! ## Segments -/

/-- reading direction of a matcher -/
inductive Direction where
  | forward
  | backward
  deriving DecidableEq, Repr

/-- a piece in bytes -/
inductive Segment where
  | bytes (bs : List UInt8)
  /-- one byte out of `n` ranges -/
  | fan (n : Nat)
  /-- one of several sequences -/
  | sequences (ss : List (List ByteRange))
  | look (l : Look)

def Piece.segment : Piece → Segment
  | .literal t => .bytes (t.flatMap String.utf8EncodeChar)
  | .chars s _ => if s.isAscii then .fan s.ranges.length else .sequences (byteSequences s)
  | .look l => .look l

namespace Segment

/-- whether a segment reads no byte -/
def readsNothing : Segment → Bool
  | .look _ => true
  | _ => false

/-- least number of bytes that a segment reads; `none` if it matches nothing -/
def minLength : Segment → Option Nat
  | .bytes bs => some bs.length
  | .fan n => if n = 0 then none else some 1
  | .sequences _ => some 1
  | .look _ => some 0

end Segment

/-! ## Sets of characters -/

/-- The place of a key among `room` places: the 64-bit FNV-1a hash of its numbers, brought into
range. -/
def place (room : UInt64) (key : List Nat) : UInt64 :=
  key.foldl (fun h n => (h ^^^ n.toUInt64) * 1099511628211) 14695981039346656037 % room

/-- a matcher while the states of one set are built, with the states at hand for sharing -/
structure Workshop where
  tally : Tally
  /-- by place, what a state reads and leads to, and its number -/
  shared : Std.HashMap UInt64 (List Nat × Nat)

namespace Workshop

/-- a new state with this key, which takes the place `p` -/
def newState (w : Workshop) (p : UInt64) (key : List Nat) (links : Nat) : Option (Nat × Workshop) :=
  (w.tally.grow 1 links).map fun t => (w.tally.states, ⟨t, w.shared.insert p (key, w.tally.states)⟩)

/-- the state with this key: the one in its place if that is the same, or else a new one -/
def state (w : Workshop) (room : UInt64) (key : List Nat) (links : Nat) : Option (Nat × Workshop) :=
  let p := place room key
  match w.shared[p]? with
  | some (k, n) => if k = key then some (n, w) else w.newState p key links
  | none => w.newState p key links

/-- The state that reads one of the sequences and then is at the state `goal`, `n` being the greatest
length of a sequence. States with the same left to read are shared. -/
def forward (goal : Nat) : Nat → List (List ByteRange) → Workshop → Option (Nat × Workshop)
  | 0, _, w => some (goal, w)
  | n + 1, ss, w => do
    let (key, w) ← (byFirst ss).foldlM (fun (key, w) (r, tails) => do
      let (next, w) ← if tails = [[]] then some (goal, w) else forward goal n tails w
      return (next :: r.2 :: r.1 :: key, w)) ([], w)
    w.state 10000 key.reverse (Tally.transitionCost * (byFirst ss).length)

/-- States that read the sequences from their ends, each being a way out of one state. States with the
same already read are shared. -/
def backward (goal : Nat) (ss : List (List ByteRange)) (w : Workshop) : Option Workshop :=
  ss.foldlM (fun w s => do
    let (_, w) ← s.foldlM (fun (next, w) r => w.state 1000 [next, r.1, r.2] 0) (goal, w)
    let t ← w.tally.grow 0 Tally.wayCost
    return { w with tally := t }) w

end Workshop

/-- greatest length of a UTF-8 form -/
def maxForm : Nat := 4

def Segment.build (d : Direction) (s : Segment) (t : Tally) : Option Tally :=
  match s, d with
  | .bytes bs, _ => t.grow bs.length 0
  | .look _, _ => t.grow 1 0
  | .fan n, _ => t.grow 2 (Tally.transitionCost * n)
  | .sequences ss, .forward => do
    let (_, w) ← Workshop.forward t.states maxForm ss ⟨← t.grow 1 0, ∅⟩
    return w.tally
  | .sequences ss, .backward => do
    let w ← Workshop.backward (t.states + 1) ss ⟨← t.grow 2 0, ∅⟩
    return w.tally

/-! ## Choices between literals -/

/-- what follows each first byte, the bytes in the order in which they come up -/
def byFirstByte (ts : List (List UInt8)) : List (List (List UInt8)) :=
  (ts.filterMap List.head?).eraseDups.map fun b =>
    ts.filterMap fun t => if t.head? = some b then some t.tail else none

/-- the stretches between literals that are over -/
def stretches : List (List UInt8) → List (List (List UInt8))
  | [] => [[]]
  | [] :: ts => [] :: stretches ts
  | t :: ts =>
    match stretches ts with
    | [] => [[t]]
    | s :: ss => (t :: s) :: ss

/-- one for several literals that are over at the front -/
def mergeOver : List (List UInt8) → List (List UInt8)
  | [] :: [] :: ts => mergeOver ([] :: ts)
  | ts => ts

/-- The tree for a choice between literals, `n` being greater than their lengths. A branching state
leads, in order of preference, to a state for each stretch and to the end wherever a literal is
over. -/
def literalTree : Nat → List (List UInt8) → Tally
  | 0, _ => ⟨0, 0⟩
  | n + 1, ts =>
    let parts := stretches (mergeOver ts)
    let ways := (parts.filter (!·.isEmpty)).length + (parts.length - 1)
    (parts.filter (!·.isEmpty)).foldl (fun t part =>
      let groups := byFirstByte part
      let own : Tally := ⟨1, if groups.length = 1 then 0 else Tally.transitionCost * groups.length⟩
      groups.foldl (fun t g => if g.all (·.isEmpty) then t else t.add (literalTree n g)) (t.add own))
      ⟨1, Tally.wayCost * ways⟩

/-- the literals that an expression is a choice between -/
def Expr.literals? : Expr Segment → Option (List (List UInt8))
  | .atom (.bytes bs) => some [bs]
  | .alternate a b => do return (← a.literals?) ++ (← b.literals?)
  | _ => none

/-- the end of the tree and the tree, read from the back if the matcher reads backward -/
def literalChoice (d : Direction) (ts : List (List UInt8)) : Tally :=
  let ts := match d with
    | .forward => ts
    | .backward => ts.map List.reverse
  (Tally.mk 1 0).add (literalTree (ts.foldl (fun n t => max n t.length) 0 + 1) ts)

/-! ## Expressions -/

/-- What a choice adds after its branch number `k` is built: with the second one, a branching state
with its first two ways and the state where all branches end; later, a way. -/
def arrive (k : Nat) (t : Tally) : Option Tally :=
  match k with
  | 0 => some t
  | 1 => t.grow 2 (2 * Tally.wayCost)
  | _ => t.grow 0 Tally.wayCost

/-- builds an expression as branch number `k` of the choice at hand -/
def Expr.build (d : Direction) : Expr Segment → Nat → Tally → Option Tally
  | .empty, k, t => do arrive k (← t.grow 1 0)
  | .atom s, k, t => do arrive k (← s.build d t)
  | .concat a b, k, t => do
    let t ← match d with
      | .forward => (a.build d 0 t).bind (b.build d 0)
      | .backward => (b.build d 0 t).bind (a.build d 0)
    arrive k t
  | .alternate a b, k, t =>
    match if k = 0 then (Expr.alternate a b).literals? else none with
    | some ts =>
      let c := literalChoice d ts
      t.grow c.states c.links
    | none => (a.build d k t).bind (b.build d (k + 1))
  | .group captures a, k, t => do
    let ends := if captures && d = .forward then 1 else 0
    let t ← a.build d 0 (← t.grow ends 0)
    arrive k (← t.grow ends 0)
  | .repetition a _ least most, k, t => do
    let branch := 2 * Tally.wayCost
    let once := a.build d 0
    let t ← match most with
      | none =>
        if 0 < least then (times once least t).bind (·.grow 1 branch)
        else if (a.minLength Segment.minLength).any (0 < ·) then (t.grow 1 branch).bind once
        else (once t).bind (·.grow 3 (2 * branch))
      | some m =>
        if least = 0 ∧ m = 1 then do
          let t ← once (← t.grow 1 branch)
          t.grow 1 0
        else if least = m then times once m t
        else do
          let t ← if least = 0 then t.grow 1 0 else times once least t
          times (fun t => (t.grow 1 branch).bind once) (m - least) (← t.grow 1 0)
    arrive k t

/-! ## Matchers -/

/-- whether every match starts at the start of the text, as far as the outermost parts show -/
def Expr.anchoredStart : Expr Segment → Bool
  | .atom (.look l) => l = .textStart
  | .concat a b => a.anchoredStart || (a.readsNothing Segment.readsNothing && b.anchoredStart)
  | .alternate a b => a.anchoredStart && b.anchoredStart
  | .repetition a _ least _ => 0 < least && a.anchoredStart
  | .group _ a => a.anchoredStart
  | _ => false

/-- whether every match ends at the end of the text, as far as the outermost parts show -/
def Expr.anchoredEnd : Expr Segment → Bool
  | .atom (.look l) => l = .textEnd
  | .concat a b => b.anchoredEnd || (b.readsNothing Segment.readsNothing && a.anchoredEnd)
  | .alternate a b => a.anchoredEnd && b.anchoredEnd
  | .repetition a _ least _ => 0 < least && a.anchoredEnd
  | .group _ a => a.anchoredEnd
  | _ => false

/-- A whole matcher: the loop that tries every start, or one state where there is nothing to try, the
expression as a capture, and the match. -/
def Expr.matcher (d : Direction) (e : Expr Segment) : Option Tally := do
  let anchored := match d with
    | .forward => e.anchoredStart
    | .backward => e.anchoredEnd
  let start : Tally := ⟨0, 0⟩
  let t ← if anchored then start.grow 1 0 else start.grow 3 (2 * Tally.wayCost + Tally.transitionCost)
  let t ← (Expr.group true e).build d 0 t
  t.grow 1 0

/-- whether both matchers are within the limit, or none is needed -/
def Expr.fits (e : Expr Atom) : Bool :=
  let p := e.plan
  let s := p.map Piece.segment
  Plan.isSearch p || ((s.matcher .forward).isSome && (s.matcher .backward).isSome)

end CrawlFilter.Regex
