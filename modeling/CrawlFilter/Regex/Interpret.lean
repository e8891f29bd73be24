/-
What a pattern means under its flags. `Ast.interpret` goes through a tree from left to right with the
settings in force and returns the expression with the settings after it: flags set in a group last to
the end of the group, alternation bars not minded.

Where Unicode is off, classes hold ASCII characters only, and whatever could match part of a
character is refused: the dot, negated classes, and bytes beyond ASCII.
-/
import CrawlFilter.Regex.Ast
import CrawlFilter.Regex.Error
import CrawlFilter.Regex.Expr

namespace CrawlFilter.Regex

/-- flags that change the expression of a pattern -/
structure Settings where
  ignoreCase : Bool
  multiLine : Bool
  dotAll : Bool
  swapGreed : Bool
  unicode : Bool
  crlf : Bool
  deriving DecidableEq, Repr

namespace Settings

/-- settings at the start of a pattern -/
def initial : Settings := ⟨false, false, false, false, true, false⟩

def edit (s : Settings) (e : FlagEdit) : Settings :=
  ⟨e.get .ignoreCase s.ignoreCase, e.get .multiLine s.multiLine, e.get .dotAll s.dotAll,
    e.get .swapGreed s.swapGreed, e.get .unicode s.unicode, e.get .crlf s.crlf⟩

end Settings

/-! ## Classes -/

/-- closes a class under case if asked to, and then negates it if asked to -/
def finishClass (s : Settings) (negated : Bool) (c : CharSet) : Except Fault CharSet :=
  let folded :=
    if s.ignoreCase then (if s.unicode then Unicode.foldCase c else Unicode.foldCaseAscii c) else c
  if negated then (if s.unicode then .ok folded.compl else .error .notUtf8) else .ok folded

/-- ASCII letters, digits and the underscore -/
def asciiWord : CharSet := ⟨[⟨48, 57⟩, ⟨65, 90⟩, ⟨95, 95⟩, ⟨97, 122⟩]⟩

def AsciiClass.set : AsciiClass → CharSet
  | .alnum => ⟨[⟨48, 57⟩, ⟨65, 90⟩, ⟨97, 122⟩]⟩
  | .alpha => ⟨[⟨65, 90⟩, ⟨97, 122⟩]⟩
  | .ascii => .ascii
  | .blank => ⟨[⟨9, 9⟩, ⟨32, 32⟩]⟩
  | .cntrl => ⟨[⟨0, 31⟩, ⟨127, 127⟩]⟩
  | .digit => ⟨[⟨48, 57⟩]⟩
  | .graph => ⟨[⟨33, 126⟩]⟩
  | .lower => ⟨[⟨97, 122⟩]⟩
  | .print => ⟨[⟨32, 126⟩]⟩
  | .punct => ⟨[⟨33, 47⟩, ⟨58, 64⟩, ⟨91, 96⟩, ⟨123, 126⟩]⟩
  | .space => ⟨[⟨9, 13⟩, ⟨32, 32⟩]⟩
  | .upper => ⟨[⟨65, 90⟩]⟩
  | .word => asciiWord
  | .xdigit => ⟨[⟨48, 57⟩, ⟨65, 70⟩, ⟨97, 102⟩]⟩

def Shorthand.set (s : Settings) (negated : Bool) (k : Shorthand) : Except Fault CharSet :=
  let c := match k with
    | .digit => if s.unicode then Unicode.digits else AsciiClass.digit.set
    | .blank => if s.unicode then Unicode.blanks else AsciiClass.space.set
    | .word => if s.unicode then Unicode.wordChars else asciiWord
  if negated then (if s.unicode then .ok c.compl else .error .notUtf8) else .ok c

def propertySet (s : Settings) (negated : Bool) (q : Unicode.Query) : Except Fault CharSet :=
  if s.unicode then
    match Unicode.lookup q with
    | some c => finishClass s negated c
    | none => .error .propertyUnknown
  else .error .unicodeOff

/-- the code point of a literal in a class -/
def Literal.code (s : Settings) (l : Literal) : Except Fault Nat :=
  if s.unicode || l.char.toNat < 0x80 then .ok l.char.toNat else .error .unicodeOff

def SetOp.apply : SetOp → CharSet → CharSet → CharSet
  | .inter => CharSet.inter
  | .diff => CharSet.diff
  | .symmDiff => CharSet.symmDiff

/-- the characters of a class -/
def ClassAst.set (s : Settings) : ClassAst → Except Fault CharSet
  | .empty => .ok .empty
  | .literal l => do
    let n ← l.code s
    return ⟨[⟨n, n⟩]⟩
  | .range lo hi => do
    let a ← lo.code s
    let b ← hi.code s
    return CharSet.ofRanges (CodeRange.scalars ⟨a, b⟩)
  | .ascii negated k => finishClass s negated k.set
  | .property negated q => propertySet s negated q
  | .shorthand negated k => k.set s negated
  | .bracket negated inner => do finishClass s negated (← inner.set s)
  | .union a b => return (← a.set s).union (← b.set s)
  | .op o a b => do
    let x ← finishClass s false (← a.set s)
    let y ← finishClass s false (← b.set s)
    return o.apply x y

/-! ## Patterns -/

def Anchor.look (s : Settings) : Anchor → Look
  | .lineStart => if s.multiLine then .lineStart s.crlf else .textStart
  | .lineEnd => if s.multiLine then .lineEnd s.crlf else .textEnd
  | .textStart => .textStart
  | .textEnd => .textEnd
  | .wordBoundary => .wordBoundary s.unicode
  | .notWordBoundary => .notWordBoundary s.unicode
  | .wordStart => .wordStart s.unicode
  | .wordEnd => .wordEnd s.unicode
  | .wordStartHalf => .wordStartHalf s.unicode
  | .wordEndHalf => .wordEndHalf s.unicode

/-- the characters that a literal matches -/
def Literal.set (s : Settings) (l : Literal) : Except Fault CharSet :=
  if !s.unicode && l.byte && 0x80 ≤ l.char.toNat then .error .notUtf8
  else finishClass s false (.singleton l.char)

/-- the characters that the dot matches -/
def dotSet (s : Settings) : Except Fault CharSet :=
  if !s.unicode then .error .notUtf8
  else if s.dotAll then .ok .univ
  else if s.crlf then .ok (CharSet.compl ⟨[⟨10, 10⟩, ⟨13, 13⟩]⟩)
  else .ok (CharSet.compl ⟨[⟨10, 10⟩]⟩)

/-- whether an atom reads no character -/
def Atom.readsNothing : Atom → Bool
  | .chars _ _ => false
  | .look _ => true

/-- A repetition in its simplest form: to repeat what reads nothing more than once is idle, and none
or exactly one repetition need no loop. -/
def Expr.repeated (a : Expr Atom) (greedy : Bool) (least : Nat) (most : Option Nat) : Expr Atom :=
  let (least, most) :=
    if a.readsNothing Atom.readsNothing then (min least 1, some (min (most.getD 1) 1)) else (least, most)
  if most = some 0 then .empty
  else if least = 1 ∧ most = some 1 then a
  else .repetition a greedy least most

/-- the expression that reads one character of a set -/
def Settings.chars (s : Settings) (c : CharSet) : Expr Atom :=
  .atom (.chars c s.unicode)

/-- the expression that a pattern stands for, and the settings after it -/
def Ast.interpret (s : Settings) : Ast → Except Fault (Expr Atom × Settings)
  | .empty => .ok (.empty, s)
  | .setFlags e => .ok (.empty, s.edit e)
  | .literal l => (l.set s).map fun c => (s.chars c, s)
  | .dot => (dotSet s).map fun c => (s.chars c, s)
  | .anchor a => .ok (.atom (.look (a.look s)), s)
  | .property negated q => (propertySet s negated q).map fun c => (s.chars c, s)
  | .shorthand negated k => (k.set s negated).map fun c => (s.chars c, s)
  | .bracket negated inner => do
    let c ← finishClass s negated (← inner.set s)
    return (s.chars c, s)
  | .repetition a greedy least most => do
    let (x, s) ← a.interpret s
    return (x.repeated (greedy != s.swapGreed) least most, s)
  | .group captures e a => do
    let (x, _) ← a.interpret (s.edit e)
    return (.group captures x, s)
  | .concat a b => do
    let (x, s) ← a.interpret s
    let (y, s) ← b.interpret s
    return (.concat x y, s)
  | .alternate a b => do
    let (x, s) ← a.interpret s
    let (y, s) ← b.interpret s
    return (.alternate x y, s)

end CrawlFilter.Regex
