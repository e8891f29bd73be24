/-
Sets of characters as ranges of code points in rising order, with gaps between neighbours. The set
operations keep that form; complements are taken within the scalar values, so no set holds a
surrogate that its operands did not name.
-/
import CrawlFilter.Text

namespace CrawlFilter

/-- the code points from `lo` to `hi`, both included -/
structure CodeRange where
  lo : Nat
  hi : Nat
  deriving DecidableEq, Repr

namespace CodeRange

def contains (r : CodeRange) (n : Nat) : Bool :=
  r.lo ≤ n && n ≤ r.hi

/-- the parts of a range below and above the surrogates -/
def scalars (r : CodeRange) : List CodeRange :=
  [⟨r.lo, min r.hi 0xD7FF⟩, ⟨max r.lo 0xE000, r.hi⟩].filter fun p => p.lo ≤ p.hi

end CodeRange

/-- a set of characters -/
structure CharSet where
  ranges : List CodeRange
  deriving DecidableEq, Repr

namespace CharSet

def empty : CharSet := ⟨[]⟩

def singleton (c : Char) : CharSet := ⟨[⟨c.toNat, c.toNat⟩]⟩

/-- every character -/
def univ : CharSet := ⟨[⟨0, 0xD7FF⟩, ⟨0xE000, 0x10FFFF⟩]⟩

/-- the 128 ASCII characters -/
def ascii : CharSet := ⟨[⟨0, 0x7F⟩]⟩

def containsCode (s : CharSet) (n : Nat) : Bool :=
  s.ranges.any (·.contains n)

def contains (s : CharSet) (c : Char) : Bool :=
  s.containsCode c.toNat

def isEmpty (s : CharSet) : Bool :=
  s.ranges.isEmpty

/-- whether ASCII characters are the only ones -/
def isAscii (s : CharSet) : Bool :=
  s.ranges.all (·.hi ≤ 0x7F)

/-- the only character of a set that has one only -/
def single? (s : CharSet) : Option Char :=
  match s.ranges with
  | [r] => if r.lo = r.hi then some (Char.ofNat r.lo) else none
  | _ => none

/-- joins ranges that touch or overlap into `r`, the ranges being sorted by their lower ends -/
def coalesceFrom (r : CodeRange) : List CodeRange → List CodeRange
  | [] => [r]
  | q :: qs => if q.lo ≤ r.hi + 1 then coalesceFrom ⟨r.lo, max r.hi q.hi⟩ qs else r :: coalesceFrom q qs

/-- joins sorted ranges that touch or overlap -/
def coalesce : List CodeRange → List CodeRange
  | [] => []
  | r :: rs => coalesceFrom r rs

/-- the set of all characters in the given ranges -/
def ofRanges (rs : List CodeRange) : CharSet :=
  ⟨coalesce (rs.mergeSort fun a b => a.lo ≤ b.lo)⟩

def union (a b : CharSet) : CharSet :=
  ofRanges (a.ranges ++ b.ranges)

/-- what sorted ranges leave free from `start` to the last code point -/
def gaps : Nat → List CodeRange → List CodeRange
  | start, [] => if start ≤ 0x10FFFF then [⟨start, 0x10FFFF⟩] else []
  | start, r :: rs =>
    if start < r.lo then ⟨start, r.lo - 1⟩ :: gaps (r.hi + 1) rs else gaps (max start (r.hi + 1)) rs

def compl (s : CharSet) : CharSet :=
  ⟨(gaps 0 s.ranges).flatMap CodeRange.scalars⟩

def inter (a b : CharSet) : CharSet :=
  (a.compl.union b.compl).compl

def diff (a b : CharSet) : CharSet :=
  (a.compl.union b).compl

def symmDiff (a b : CharSet) : CharSet :=
  (a.diff b).union (b.diff a)

/-! ## Sets written as text -/

def hexDigit? (c : Char) : Option Nat :=
  let n := c.toNat
  if 48 ≤ n ∧ n ≤ 57 then some (n - 48)
  else if 97 ≤ n ∧ n ≤ 102 then some (n - 87)
  else if 65 ≤ n ∧ n ≤ 70 then some (n - 55)
  else none

/-- the number that hexadecimal digits stand for; other characters are passed over -/
def hexValue (t : Text) : Nat :=
  (t.filterMap hexDigit?).foldl (fun n d => 16 * n + d) 0

/-- one range: `lo-hi`, or one code point -/
def readRange (t : Text) : CodeRange :=
  match Text.pieces '-' t with
  | [lo, hi] => ⟨hexValue lo, hexValue hi⟩
  | _ => ⟨hexValue t, hexValue t⟩

/-- the words of a text, blanks apart -/
def words (t : Text) : List Text :=
  (Text.pieces ' ' (t.map fun c => if c = '\n' then ' ' else c)).filter (!·.isEmpty)

/-- the set written as hexadecimal ranges with blanks between them, in rising order -/
def ofHex (s : String) : CharSet :=
  ⟨(words s.toList).map readRange⟩

end CharSet

end CrawlFilter
