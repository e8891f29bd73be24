/-
Needles: literals such that every match of a plan begins with one of them. Where the needles are the
matches themselves, a pattern comes down to a search for them, and no matcher is built for it.

Needles are kept short and few. Where there would be too many, nothing is said of how a match begins.
Their order is that of preference, and a needle that begins with one before it is never looked for.
-/
import CrawlFilter.Regex.Plan

namespace CrawlFilter.Regex

structure Needle where
  bytes : List UInt8
  /-- whether the needle is all of a match -/
  whole : Bool
  deriving DecidableEq, Repr

/-- the needles of a plan; `none` if a match can begin with anything -/
abbrev Needles := Option (List Needle)

namespace Needle

/-! ## Lists of needles -/

/-- the first `n` bytes -/
def cut (n : Nat) (x : Needle) : Needle :=
  if x.bytes.length ≤ n then x else ⟨x.bytes.take n, false⟩

/-- `x` and the needles after it, equal neighbours being one, which is whole if all of them are -/
def uniqueFrom (x : Needle) : List Needle → List Needle
  | [] => [x]
  | y :: ys =>
    if x.bytes = y.bytes then uniqueFrom ⟨x.bytes, x.whole && y.whole⟩ ys else x :: uniqueFrom y ys

def unique : List Needle → List Needle
  | [] => []
  | x :: xs => uniqueFrom x xs

/-- the needles that begin with none before them -/
def preferred (xs : List Needle) : List Needle :=
  xs.foldl (fun kept x => if kept.any (·.bytes.isPrefixOf x.bytes) then kept else kept ++ [x]) []

/-- the needles as beginnings of matches only -/
def openEnded (xs : List Needle) : List Needle :=
  xs.map fun x => { x with whole := false }

/-- what all needles begin with -/
def sharedBytes : List Needle → List UInt8
  | [] => []
  | x :: xs => xs.foldl (fun bs y => ((bs.zip y.bytes).takeWhile fun p => p.1 == p.2).map (·.1)) x.bytes

end Needle

namespace Needles

/-! ## Needles of plans -/

/-- bytes that are kept of a needle -/
def maxLength : Nat := 100

/-- needles that a plan may have -/
def maxCount : Nat := 250

/-- characters of a set that are looked for one by one -/
def maxChars : Nat := 10

/-- rounds of a repetition that are looked at -/
def maxRounds : Nat := 10

/-- the needle of what is empty -/
def one : Needles := some [⟨[], true⟩]

/-- whether there is nothing to which more could be added -/
def isClosed (a : Needles) : Bool :=
  a.all (·.all (!·.whole))

/-- the needles of one plan and then another -/
def followedBy (a b : Needles) : Needles :=
  if a.isClosed then a
  else
    match a, b with
    | none, _ => none
    | some xs, none => if xs.any (·.bytes.isEmpty) then none else some (Needle.openEnded xs)
    | some xs, some ys =>
      if maxCount < xs.length * ys.length then
        if xs.any (·.bytes.isEmpty) then none else some (Needle.openEnded xs)
      else
        let joined := xs.flatMap fun x =>
          if x.whole then ys.map fun y => ⟨x.bytes ++ y.bytes, y.whole⟩ else [x]
        some ((Needle.unique joined).map (Needle.cut maxLength))

/-- the needles of one plan or another -/
def orElse (a b : Needles) : Needles :=
  match a, b with
  | some xs, some ys =>
    if xs.length + ys.length ≤ maxCount then some (Needle.unique (xs ++ ys))
    else
      let xs := Needle.unique (xs.map (Needle.cut 4))
      let ys := Needle.unique (ys.map (Needle.cut 4))
      if xs.length + ys.length ≤ maxCount then some (Needle.unique (xs ++ ys)) else none
  | _, _ => none

/-- the needles of a repetition -/
def repeated (a : Needles) (greedy : Bool) (least : Nat) (most : Option Nat) : Needles :=
  if least = 0 then
    let a := if most = some 1 then a else a.map Needle.openEnded
    if greedy then a.orElse one else one.orElse a
  else
    let rounds := (List.replicate (min least maxRounds) a).foldl followedBy one
    if most = some least ∧ least ≤ maxRounds then rounds else rounds.map Needle.openEnded

/-- the characters of a range of code points -/
def charsBetween (r : CodeRange) : List Char :=
  (List.range (r.hi + 1 - r.lo)).map fun k => Char.ofNat (r.lo + k)

/-- the needles of a set of characters, unless there are too many -/
def ofChars (s : CharSet) : Needles :=
  if s.ranges.foldl (fun n r => n + (r.hi + 1 - r.lo)) 0 ≤ maxChars then
    some ((s.ranges.flatMap charsBetween).map fun c => ⟨String.utf8EncodeChar c, true⟩)
  else none

def ofPiece : Piece → Needles
  | .literal t => some [Needle.cut maxLength ⟨t.flatMap String.utf8EncodeChar, true⟩]
  | .chars s _ => ofChars s
  | .look _ => one

/-- `a` followed by `b`, or the needles of either if `beside` -/
def combine (beside : Bool) (a b : Needles) : Needles :=
  if beside then a.orElse b else a.followedBy b

/-- The needles of what has the needles `a`, followed by a plan, or of either if `beside`. Members of a
chain are taken from left to right. -/
def extend : Plan → Bool → Needles → Needles
  | .empty, beside, a => a.combine beside one
  | .atom x, beside, a => a.combine beside (ofPiece x)
  | .concat p q, false, a => extend q false (extend p false a)
  | .concat p q, true, a => a.orElse (extend q false (extend p false one))
  | .alternate p q, true, a => extend q true (extend p true a)
  | .alternate p q, false, a => a.followedBy (extend q true (extend p true (some [])))
  | .repetition p greedy least most, beside, a =>
    a.combine beside ((extend p false one).repeated greedy least most)
  | .group _ p, beside, a => a.combine beside (extend p false one)

def ofPlan (p : Plan) : Needles :=
  (extend p false one).map Needle.unique

/-! ## Which needles are looked for -/

/-- bytes that are common in texts -/
def isFrequent (b : UInt8) : Bool :=
  [(10, 10), (13, 13), (32, 32), (40, 41), (44, 50), (57, 58), (95, 95), (97, 105), (108, 112), (114, 118),
    (120, 121), (124, 124), (128, 132), (144, 144), (177, 177), (181, 183), (185, 189), (191, 255)].any
      fun (lo, hi) => lo ≤ b.toNat && b.toNat ≤ hi

/-- a rare byte that all needles begin with, if they share so few bytes that it is looked for alone -/
def rareStart? (shared : List UInt8) : Option UInt8 :=
  if shared.length ≤ 3 then shared.head?.filter (!isFrequent ·) else none

/-- how many bytes of each needle to keep if there are more needles than a limit, tried in turn -/
def cuts : List (Nat × Nat) := [(5, 10), (4, 10), (3, 64), (2, 64), (1, 10)]

/-- needles cut down until there are few -/
def fewer : List (Nat × Nat) → List Needle → List Needle
  | [], xs => xs
  | (n, limit) :: cuts, xs =>
    if xs.length ≤ limit then xs else fewer cuts (Needle.preferred (xs.map (Needle.cut n)))

/-- Whether the needles that are looked for are the matches. That is not so if it is better to look for
what several of them share, or for less of them than they are. -/
def areMatches (xs : List Needle) : Bool :=
  let ys := Needle.preferred xs
  let shared := Needle.sharedBytes ys
  let allWhole (zs : List Needle) : Bool := zs.all (·.whole)
  if xs.isEmpty || xs.any (·.bytes.isEmpty) then false
  else if 1 < xs.length && (rareStart? shared).isSome then allWhole (Needle.unique (ys.map (Needle.cut 1)))
  else
    let fast := allWhole ys && ys.length ≤ 16
    let shorten := 4 < shared.length || (1 < shared.length && !fast)
    let ys := if shorten then Needle.unique (ys.map (Needle.cut shared.length)) else ys
    let zs := fewer cuts ys
    allWhole ys && (allWhole zs || zs.any (·.bytes.length ≤ 2) || 64 < zs.length)

end Needles

/-! ## Patterns without a matcher -/

/-- whether a plan holds no condition and no capture -/
def Plan.isPlain : Plan → Bool
  | .empty => true
  | .atom (.look _) => false
  | .atom _ => true
  | .concat p q => isPlain p && isPlain q
  | .alternate p q => isPlain p && isPlain q
  | .repetition p _ _ _ => isPlain p
  | .group c p => !c && isPlain p

/-- so many literals are looked for together, whatever they are -/
def manyLiterals : Nat := 3000

/-- whether a plan is a choice between literals -/
def Plan.isLiteralChoice (p : Plan) : Bool :=
  (Plan.branches p).all fun
    | .atom (.literal _) => true
    | _ => false

/-- whether a search for literals is all that a plan asks for -/
def Plan.isSearch (p : Plan) : Bool :=
  isPlain p && ((Needles.ofPlan p).any Needles.areMatches ||
    (manyLiterals ≤ (branches p).length && isLiteralChoice p))

end CrawlFilter.Regex
