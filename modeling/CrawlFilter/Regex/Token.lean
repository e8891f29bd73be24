/-
Tokens of a pattern. `Token.next` reads one from the front of a text that starts with a significant
character. Only the verbose setting changes how a token is read.
-/
import CrawlFilter.Regex.Bracket
import CrawlFilter.Unicode.Additions

namespace CrawlFilter.Regex

/-- how a group opens -/
inductive Opening where
  /-- a capturing group, with its name if it has one -/
  | capture (name : Option Text)
  /-- a group that does not capture, with the flags set inside it -/
  | plain (e : FlagEdit)
  deriving DecidableEq, Repr

inductive Token where
  /-- a whole expression that needs nothing around it -/
  | unit (a : Ast)
  /-- flags for the rest of the group -/
  | flags (e : FlagEdit)
  | openGroup (o : Opening)
  | closeGroup
  | bar
  | repetition (greedy : Bool) (least : Nat) (most : Option Nat)
  deriving Repr

/-! ## Counts -/

/-- the largest count that can be written, the last number of 32 bits -/
def maxCount : Nat := 4294967295

def decimalValue (t : Text) : Nat :=
  t.foldl (fun n c => 10 * n + (c.toNat - 48)) 0

/-- a decimal number between blanks -/
def readDecimal (verbose : Bool) (t : Text) : Except Fault Nat × Text :=
  let r := spanSignificant verbose Char.isDigit false (t.dropWhile Text.isBlank)
  let n := decimalValue r.1
  let rest := r.2.dropWhile Text.isBlank
  if r.1.isEmpty then (.error .countEmpty, rest)
  else if n ≤ maxCount then (.ok n, rest)
  else (.error .countTooLarge, rest)

/-- whether a repetition is greedy, which the mark after it denies, and the rest -/
def readGreed : Text → Bool × Text
  | '?' :: cs => (false, cs)
  | cs => (true, cs)

/-- a repetition with its mark -/
def withGreed (least : Nat) (most : Option Nat) (t : Text) : Token × Text :=
  let r := readGreed t
  (.repetition r.1 least most, r.2)

/-- a repetition with a count in braces, after the opening one: exactly, at least, or between two
numbers -/
def readCount (verbose : Bool) (t : Text) : Except Fault (Token × Text) := do
  let (first, rest) := readDecimal verbose (skip verbose t)
  let ((least, most), rest) ← match rest with
    | ',' :: cs =>
      match skip verbose cs with
      | [] => .error .countUnclosed
      | '}' :: cs => do
        let n ← first
        Except.ok ((n, none), '}' :: cs)
      | cs => do
        let n ← first
        let (second, rest) := readDecimal verbose cs
        let m ← second
        Except.ok ((n, some m), rest)
    | rest => do
      let n ← first
      Except.ok ((n, some n), rest)
  match rest with
  | '}' :: cs =>
    if most.all (least ≤ ·) then return withGreed least most (skip verbose cs) else .error .countOrder
  | _ => .error .countUnclosed

/-! ## Groups -/

/-- flags up to the colon or parenthesis that ends them; `off` once a minus was read, `dangling`
while nothing followed it -/
def readFlags (off dangling : Bool) (e : FlagEdit) : Text → Except Fault (FlagEdit × Char × Text)
  | [] => .error .flagAtEnd
  | c :: cs =>
    if c = ':' ∨ c = ')' then
      if dangling then .error .flagDangling else .ok (e.reverse, c, cs)
    else if c = '-' then
      if off then .error .flagRepeated else readFlags true true e cs
    else match Flag.ofChar? c with
      | none => .error .flagUnknown
      | some f => if (e.lookup f).isSome then .error .flagRepeated else readFlags off false ((f, !off) :: e) cs

def isNameStart (c : Char) : Bool :=
  c = '_' || Unicode.alphabetic.contains c

def isNameChar (c : Char) : Bool :=
  c = '_' || c = '.' || c = '[' || c = ']' || Unicode.alphanumeric.contains c

/-- a group name up to its closing angle bracket -/
def readName (t : Text) : Except Fault (Text × Text) :=
  match t.dropWhile (· != '>') with
  | [] => .error .groupNameUnclosed
  | _ :: rest =>
    match t.takeWhile (· != '>') with
    | [] => .error .groupNameEmpty
    | c :: cs => if isNameStart c && cs.all isNameChar then .ok (c :: cs, rest) else .error .groupNameChar

/-- what a parenthesis opens -/
def readGroup (verbose : Bool) (t : Text) : Except Fault (Token × Text) :=
  match skip verbose t with
  | '?' :: '=' :: _ | '?' :: '!' :: _ | '?' :: '<' :: '=' :: _ | '?' :: '<' :: '!' :: _ => .error .lookAround
  | '?' :: 'P' :: '<' :: cs | '?' :: '<' :: cs =>
    (readName cs).map fun r => (.openGroup (.capture (some r.1)), r.2)
  | '?' :: cs => do
    let (e, last, rest) ← readFlags false false [] cs
    if last = ':' then return (.openGroup (.plain e), rest)
    else if e.isEmpty then .error .repetitionOfNothing
    else return (.flags e, rest)
  | cs => .ok (.openGroup (.capture none), cs)

/-! ## Tokens -/

def Escape.toAst : Escape → Ast
  | .literal l => .literal l
  | .anchor a => .anchor a
  | .property n q => .property n q
  | .shorthand n k => .shorthand n k

/-- the token at the front and the rest; `none` at the end of the pattern -/
def Token.next (verbose : Bool) (t : Text) : Except Fault (Option (Token × Text)) :=
  match t with
  | [] => .ok none
  | '(' :: cs => (readGroup verbose cs).map some
  | ')' :: cs => .ok (some (.closeGroup, cs))
  | '|' :: cs => .ok (some (.bar, cs))
  | '[' :: cs => (readClass verbose cs).map fun r => some (.unit (.bracket r.1.1 r.1.2), r.2)
  | '?' :: cs => .ok (some (withGreed 0 (some 1) cs))
  | '*' :: cs => .ok (some (withGreed 0 none cs))
  | '+' :: cs => .ok (some (withGreed 1 none cs))
  | '{' :: cs => (readCount verbose cs).map some
  | '\\' :: cs => (readEscape verbose cs).map fun r => some (.unit r.1.toAst, r.2)
  | '.' :: cs => .ok (some (.unit .dot, cs))
  | '^' :: cs => .ok (some (.unit (.anchor .lineStart), cs))
  | '$' :: cs => .ok (some (.unit (.anchor .lineEnd), cs))
  | c :: cs => .ok (some (.unit (.literal ⟨c, false⟩), cs))

end CrawlFilter.Regex
