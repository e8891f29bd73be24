/-
Reading a pattern. The groups that are open form a stack; each level holds the branches that an
alternation bar ended and the items of the current branch. A verbose setting belongs to the level it
was made in and is forgotten when the level closes.
-/
import CrawlFilter.Regex.Token

namespace CrawlFilter.Regex

/-- an open group, or the pattern itself -/
structure Level where
  verbose : Bool
  /-- branches that a bar ended, the last one first -/
  branches : List Ast
  /-- items of the current branch, the last one first -/
  items : List Ast

namespace Level

def push (l : Level) (a : Ast) : Level :=
  { l with items := a :: l.items }

/-- the current branch -/
def branch (l : Level) : Ast :=
  chain Ast.empty Ast.concat l.items.reverse

def endBranch (l : Level) : Level :=
  ⟨l.verbose, l.branch :: l.branches, []⟩

/-- everything read at this level -/
def toAst (l : Level) : Ast :=
  chain Ast.empty Ast.alternate (l.branch :: l.branches).reverse

end Level

/-- reader of a pattern between two tokens -/
structure Reader where
  level : Level
  /-- how the level opened, and the levels around it with how each of them opened -/
  outer : List (Opening × Level)
  /-- names of groups so far -/
  names : List Text

namespace Reader

def start : Reader := ⟨⟨false, [], []⟩, [], []⟩

/-- verbose setting inside a group that opens here -/
def verboseIn (l : Level) : Opening → Bool
  | .capture _ => l.verbose
  | .plain e => e.get .verbose l.verbose

def groupAst (a : Ast) : Opening → Ast
  | .capture _ => .group true [] a
  | .plain e => .group false e a

/-- takes one token -/
def feed (r : Reader) : Token → Except Fault Reader
  | .unit a => .ok { r with level := r.level.push a }
  | .flags e =>
    let l := r.level.push (.setFlags e)
    .ok { r with level := { l with verbose := e.get .verbose l.verbose } }
  | .openGroup o =>
    let inner : Level := ⟨verboseIn r.level o, [], []⟩
    match o with
    | .capture (some n) =>
      if r.names.contains n then .error .groupNameRepeated
      else .ok ⟨inner, (o, r.level) :: r.outer, n :: r.names⟩
    | _ => .ok { r with level := inner, outer := (o, r.level) :: r.outer }
  | .closeGroup =>
    match r.outer with
    | [] => .error .groupUnopened
    | (o, l) :: outer => .ok { r with level := l.push (groupAst r.level.toAst o), outer := outer }
  | .bar => .ok { r with level := r.level.endBranch }
  | .repetition greedy least most =>
    match r.level.items with
    | [] | .setFlags _ :: _ => .error .repetitionOfNothing
    | a :: items => .ok { r with level := { r.level with items := .repetition a greedy least most :: items } }

/-- Takes all tokens of a text. Each round reads at least one character, so more rounds than
characters are enough. -/
def run : Nat → Reader → Text → Except Fault Reader
  | 0, r, _ => .ok r
  | rounds + 1, r, t => do
    match ← Token.next r.level.verbose (skip r.level.verbose t) with
    | none => return r
    | some (k, rest) => run rounds (← r.feed k) rest

/-- the tree, if every group was closed -/
def finish (r : Reader) : Except Fault Ast :=
  match r.outer with
  | [] => .ok r.level.toAst
  | _ :: _ => .error .groupUnclosed

end Reader

/-- levels of nesting that a pattern may have -/
def maxDepth : Nat := 250

/-- the tree of a pattern -/
def parse (t : Text) : Except Fault Ast := do
  let r ← Reader.start.run (t.length + 1) t
  let a ← r.finish
  if a.depth .none ≤ maxDepth then return a else .error .nestingTooDeep

end CrawlFilter.Regex
