/-
What a pattern says, before flags are taken into account: the tree that the grammar of patterns
builds. A concatenation, an alternation and the items of a class are nested to the right, one node per
neighbour; `depth` counts each such chain as one level, as the limit on nesting does.
-/
import CrawlFilter.Unicode.Property

namespace CrawlFilter.Regex

/-- settings that a pattern can change for what follows -/
inductive Flag where
  /-- `i`: letters match in both cases -/
  | ignoreCase
  /-- `m`: line anchors match at every line -/
  | multiLine
  /-- `s`: the dot matches line feeds -/
  | dotAll
  /-- `U`: lazy and greedy repetition trade places -/
  | swapGreed
  /-- `u`: classes and boundaries are those of Unicode -/
  | unicode
  /-- `R`: a carriage return ends lines too -/
  | crlf
  /-- `x`: blanks and comments are passed over -/
  | verbose
  deriving DecidableEq, Repr

def Flag.ofChar? : Char → Option Flag
  | 'i' => some .ignoreCase
  | 'm' => some .multiLine
  | 's' => some .dotAll
  | 'U' => some .swapGreed
  | 'u' => some .unicode
  | 'R' => some .crlf
  | 'x' => some .verbose
  | _ => none

/-- flags with what they are set to, each flag at most once -/
abbrev FlagEdit := List (Flag × Bool)

/-- what the edit sets a flag to, or the value it had -/
def FlagEdit.get (e : FlagEdit) (f : Flag) (old : Bool) : Bool :=
  (e.lookup f).getD old

/-- a character in a pattern -/
structure Literal where
  char : Char
  /-- written as two hexadecimal digits, and so a byte where Unicode is off -/
  byte : Bool
  deriving DecidableEq, Repr

/-- the one-letter classes -/
inductive Shorthand where
  | digit
  | blank
  | word
  deriving DecidableEq, Repr

/-- the named classes of ASCII -/
inductive AsciiClass where
  | alnum | alpha | ascii | blank | cntrl | digit | graph
  | lower | print | punct | space | upper | word | xdigit
  deriving DecidableEq, Repr

/-- conditions on a place in the text, as written -/
inductive Anchor where
  | lineStart
  | lineEnd
  | textStart
  | textEnd
  | wordBoundary
  | notWordBoundary
  | wordStart
  | wordEnd
  | wordStartHalf
  | wordEndHalf
  deriving DecidableEq, Repr

/-- binary operators between classes -/
inductive SetOp where
  | inter
  | diff
  | symmDiff
  deriving DecidableEq, Repr

/-- bracketed classes -/
inductive ClassAst where
  | empty
  | literal (l : Literal)
  | range (lo hi : Literal)
  | ascii (negated : Bool) (k : AsciiClass)
  | property (negated : Bool) (q : Unicode.Query)
  | shorthand (negated : Bool) (k : Shorthand)
  | bracket (negated : Bool) (inner : ClassAst)
  | union (a b : ClassAst)
  | op (o : SetOp) (a b : ClassAst)
  deriving DecidableEq, Repr

/-- patterns -/
inductive Ast where
  | empty
  | setFlags (e : FlagEdit)
  | literal (l : Literal)
  | dot
  | anchor (a : Anchor)
  | property (negated : Bool) (q : Unicode.Query)
  | shorthand (negated : Bool) (k : Shorthand)
  | bracket (negated : Bool) (inner : ClassAst)
  | repetition (a : Ast) (greedy : Bool) (least : Nat) (most : Option Nat)
  | group (captures : Bool) (e : FlagEdit) (a : Ast)
  | concat (a b : Ast)
  | alternate (a b : Ast)
  deriving Repr

/-- the tree of a chain, nested to the right -/
def chain {α : Type} (empty : α) (join : α → α → α) : List α → α
  | [] => empty
  | [a] => a
  | a :: as => join a (chain empty join as)

/-! ## Nesting -/

/-- levels below a class, `inside` telling whether it continues a union -/
def ClassAst.depth (inside : Bool) : ClassAst → Nat
  | .bracket _ a => a.depth false + 1
  | .union a b => max (a.depth false) (b.depth true) + if inside then 0 else 1
  | .op _ a b => max (a.depth false) (b.depth false) + 1
  | _ => 0

/-- the chains that a node can continue -/
inductive Chain where
  | none
  | concat
  | alternate
  deriving DecidableEq, Repr

/-- levels below a node, `inside` telling which chain it continues -/
def Ast.depth (inside : Chain) : Ast → Nat
  | .bracket _ a => a.depth false + 1
  | .repetition a _ _ _ => a.depth .none + 1
  | .group _ _ a => a.depth .none + 1
  | .concat a b => max (a.depth .none) (b.depth .concat) + if inside = .concat then 0 else 1
  | .alternate a b => max (a.depth .none) (b.depth .alternate) + if inside = .alternate then 0 else 1
  | _ => 0

end CrawlFilter.Regex
