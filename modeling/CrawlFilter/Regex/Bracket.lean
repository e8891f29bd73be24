/-
Bracketed classes. The reader keeps the brackets that are open, innermost first; each holds the
items read so far and the operand to the left of its last operator. Operators associate to the left
and bind alike.
-/
import CrawlFilter.Regex.Escape

namespace CrawlFilter.Regex

/-- a bracket that is open -/
structure OpenBracket where
  negated : Bool
  /-- operand and operator before the items, if an operator was read -/
  left : Option (ClassAst × SetOp)
  /-- items since the bracket or its last operator, the last one first -/
  items : List ClassAst

namespace OpenBracket

def push (b : OpenBracket) (item : ClassAst) : OpenBracket :=
  { b with items := item :: b.items }

/-- what was read since the bracket opened -/
def contents (b : OpenBracket) : ClassAst :=
  let right := chain ClassAst.empty ClassAst.union b.items.reverse
  match b.left with
  | none => right
  | some (l, o) => .op o l right

/-- reads an operator -/
def operator (b : OpenBracket) (o : SetOp) : OpenBracket :=
  ⟨b.negated, some (b.contents, o), []⟩

end OpenBracket

/-! ## Parts -/

def asciiClass? (name : Text) : Option AsciiClass :=
  match String.ofList name with
  | "alnum" => some .alnum
  | "alpha" => some .alpha
  | "ascii" => some .ascii
  | "blank" => some .blank
  | "cntrl" => some .cntrl
  | "digit" => some .digit
  | "graph" => some .graph
  | "lower" => some .lower
  | "print" => some .print
  | "punct" => some .punct
  | "space" => some .space
  | "upper" => some .upper
  | "word" => some .word
  | "xdigit" => some .xdigit
  | _ => none

/-- a named class such as `[:alpha:]`, after its opening bracket -/
def readAsciiClass? : Text → Option (ClassAst × Text)
  | ':' :: cs =>
    let negated := cs.head? = some '^'
    let body := if negated then cs.tail else cs
    match body.dropWhile (· != ':') with
    | ':' :: ']' :: rest => (asciiClass? (body.takeWhile (· != ':'))).map fun k => (.ascii negated k, rest)
    | _ => none
  | _ => none

/-- The start of a bracket after its `[`: a caret negates, hyphens that come first are literal, and so
is a closing bracket that comes before anything else. -/
def readOpening (verbose : Bool) (t : Text) : OpenBracket × Text :=
  let t := skip verbose t
  let negated := t.head? = some '^'
  let t := if negated then skip verbose t.tail else t
  let r := spanSignificant verbose (· = '-') false t
  let hyphens := r.1.map fun c => ClassAst.literal ⟨c, false⟩
  match hyphens, r.2 with
  | [], ']' :: rest => (⟨negated, none, [.literal ⟨']', false⟩]⟩, rest)
  | hs, rest => (⟨negated, none, hs⟩, rest)

/-- one member of a bracket as written, an escape or the character itself -/
def readMember (verbose : Bool) : Text → Except Fault (Escape × Text)
  | [] => .error .classUnclosed
  | '\\' :: cs => readEscape verbose cs
  | c :: cs => .ok (.literal ⟨c, false⟩, cs)

/-- the first character after the one at hand that decides whether a hyphen starts a range -/
def peekBeyond (verbose : Bool) (t : Text) : Option Char :=
  if verbose then
    match t.dropWhile Text.isBlank with
    | [] => t.head?
    | '#' :: cs =>
      match cs.dropWhile Text.isBlank with
      | [] => t.head?
      | c :: _ => some c
    | c :: _ => some c
  else t.head?

/-- a member that stands on its own -/
def Escape.toItem : Escape → Except Fault ClassAst
  | .literal l => .ok (.literal l)
  | .property n q => .ok (.property n q)
  | .shorthand n k => .ok (.shorthand n k)
  | .anchor _ => .error .classEscape

/-- a member that ends a range -/
def Escape.toEnd : Escape → Except Fault Literal
  | .literal l => .ok l
  | _ => .error .classRangeEnd

/-- A member, or a range between two. A hyphen makes no range when a closing bracket or another
hyphen follows it. -/
def readItem (verbose : Bool) (t : Text) : Except Fault (ClassAst × Text) := do
  let (m, rest) ← readMember verbose t
  match skip verbose rest with
  | [] => .error .classUnclosed
  | '-' :: cs =>
    let next := peekBeyond verbose cs
    if next = some ']' ∨ next = some '-' then return (← m.toItem, '-' :: cs)
    else
      let (n, rest) ← readMember verbose (skip verbose cs)
      let lo ← m.toEnd
      let hi ← n.toEnd
      if lo.char.toNat ≤ hi.char.toNat then return (.range lo hi, rest) else .error .classRangeOrder
  | rest => return (← m.toItem, rest)

/-! ## Reader -/

/-- Reads to the end of the outermost bracket and returns whether that is negated and what it holds.
Each round reads at least one character, so more rounds than characters are enough. -/
def readBracket (verbose : Bool) :
    Nat → List OpenBracket → OpenBracket → Text → Except Fault ((Bool × ClassAst) × Text)
  | 0, _, _, _ => .error .classUnclosed
  | rounds + 1, outer, b, t =>
    match skip verbose t with
    | [] => .error .classUnclosed
    | '[' :: cs =>
      match readAsciiClass? cs with
      | some (item, rest) => readBracket verbose rounds outer (b.push item) rest
      | none =>
        let (inner, rest) := readOpening verbose cs
        readBracket verbose rounds (b :: outer) inner rest
    | ']' :: cs =>
      match outer with
      | [] => .ok ((b.negated, b.contents), cs)
      | o :: outer => readBracket verbose rounds outer (o.push (.bracket b.negated b.contents)) cs
    | '&' :: '&' :: cs => readBracket verbose rounds outer (b.operator .inter) cs
    | '-' :: '-' :: cs => readBracket verbose rounds outer (b.operator .diff) cs
    | '~' :: '~' :: cs => readBracket verbose rounds outer (b.operator .symmDiff) cs
    | cs => do
      let (item, rest) ← readItem verbose cs
      readBracket verbose rounds outer (b.push item) rest

/-- a bracketed class after its `[` -/
def readClass (verbose : Bool) (t : Text) : Except Fault ((Bool × ClassAst) × Text) :=
  let (b, rest) := readOpening verbose t
  readBracket verbose (t.length + 1) [] b rest

end CrawlFilter.Regex
