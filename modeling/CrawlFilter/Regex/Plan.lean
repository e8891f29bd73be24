/-
Plans: expressions in the form from which a matcher is built. Neighbouring characters are one
literal, what is empty takes no part in a concatenation, chains are flat, a choice between single
characters or between sets is one set, and what all branches of a choice begin with comes before the
choice. Groups that do not capture are gone.

A chain is nested to the right; `parts` and `branches` list its members.
-/
import CrawlFilter.Regex.Expr

namespace CrawlFilter.Regex

/-- what a plan is built from -/
inductive Piece where
  /-- one or more characters in a row -/
  | literal (t : Text)
  /-- one character of a set, which has no members or several; if it has some, whether Unicode was on -/
  | chars (s : CharSet) (unicode : Bool)
  /-- a condition on the place -/
  | look (l : Look)
  deriving DecidableEq, Repr

abbrev Plan := Expr Piece

namespace Plan

/-! ## Concatenations -/

/-- what a plan is a concatenation of -/
def parts : Plan → List Plan
  | .empty => []
  | .concat p q => p :: parts q
  | p => [p]

/-- a part in front of a plan; literals that meet become one -/
def cons : Plan → Plan → Plan
  | p, .empty => p
  | .atom (.literal s), .atom (.literal t) => .atom (.literal (s ++ t))
  | .atom (.literal s), .concat (.atom (.literal t)) q => .concat (.atom (.literal (s ++ t))) q
  | p, q => .concat p q

/-- the concatenation of parts and a plan -/
def append (ps : List Plan) (q : Plan) : Plan :=
  ps.foldr cons q

def ofParts (ps : List Plan) : Plan :=
  append ps .empty

/-! ## Choices -/

/-- what a plan is a choice between -/
def branches : Plan → List Plan
  | .alternate p q => p :: branches q
  | p => [p]

def ofBranches : List Plan → Plan
  | [] => .atom (.chars .empty false)
  | [p] => p
  | p :: ps => .alternate p (ofBranches ps)

/-- the plan of a set, a literal if the set has one member -/
def ofChars (s : CharSet) (unicode : Bool) : Plan :=
  match s.single? with
  | some c => .atom (.literal [c])
  | none => .atom (.chars s (unicode && !s.isEmpty))

/-- the character that is all of a plan -/
def char? : Plan → Option Char
  | .atom (.literal [c]) => some c
  | _ => none

/-- the set that is all of a plan -/
def chars? : Plan → Option CharSet
  | .atom (.chars s _) => some s
  | _ => none

/-- the set that a choice comes down to if all its branches are characters or all are sets -/
def mergedChars? (ps : List Plan) : Option CharSet :=
  ((ps.mapM char?).map fun cs => CharSet.ofRanges (cs.map fun c => ⟨c.toNat, c.toNat⟩)) <|>
    ((ps.mapM chars?).map fun ss => CharSet.ofRanges (ss.flatMap (·.ranges)))

/-- a choice between branches that share no beginning -/
def merged (ps : List Plan) : Plan :=
  match ps with
  | [p] => p
  | _ =>
    match mergedChars? ps with
    | some s => ofChars s true
    | none => ofBranches ps

/-- whether some part captures -/
def captures : Plan → Bool
  | .empty => false
  | .atom _ => false
  | .concat p q => captures p || captures q
  | .alternate p q => captures p || captures q
  | .repetition p _ _ _ => captures p
  | .group c p => c || captures p

/-- the parts that both lists begin with; one that captures is never the same as another -/
def sharedStart : List Plan → List Plan → List Plan
  | p :: ps, q :: qs => if p = q && !captures p then p :: sharedStart ps qs else []
  | _, _ => []

/-- A choice between branches. A beginning is shared only if every branch has several parts. -/
def choice (ps : List Plan) : Plan :=
  let ps := ps.flatMap branches
  match ps.map parts with
  | [] => merged ps
  | row :: rows =>
    let start := rows.foldl sharedStart row
    if rows.isEmpty || start.isEmpty || (row :: rows).any (·.length < 2) then merged ps
    else
      let rests := (row :: rows).map fun r => ofParts (r.drop start.length)
      ofParts (start ++ [merged (rests.flatMap branches)])

end Plan

/-! ## Plans of expressions -/

def Atom.plan : Atom → Plan
  | .chars s u => .ofChars s u
  | .look l => .atom (.look l)

/-- the plans that an expression is a choice between -/
def Expr.plans : Expr Atom → List Plan
  | .empty => [.empty]
  | .atom a => [a.plan]
  | .concat a b => [Plan.append (Plan.choice a.plans).parts (Plan.choice b.plans)]
  | .alternate a b => a.plans ++ b.plans
  | .repetition a greedy least most => [.repetition (Plan.choice a.plans) greedy least most]
  | .group captures a =>
    let p := Plan.choice a.plans
    [if captures then .group true p else p]

def Expr.plan (e : Expr Atom) : Plan :=
  Plan.choice e.plans

end CrawlFilter.Regex
