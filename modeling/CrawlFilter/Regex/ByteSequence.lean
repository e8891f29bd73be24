/-
Characters as sequences of bytes. A range of characters has the UTF-8 forms of its members, which
are a few sequences of byte ranges; a matcher reads these one byte after the other.
-/
import CrawlFilter.CharSet

namespace CrawlFilter.Regex

/-- the bytes that may stand at one position -/
abbrev ByteRange := Nat × Nat

/-- the numbers from `lo` to `hi` as sequences of ranges of digits in base 64, a first digit and `n`
more -/
def digitRanges : Nat → Nat → Nat → List (List ByteRange)
  | 0, lo, hi => [[(lo, hi)]]
  | n + 1, lo, hi =>
    let m := Nat.pow 64 (n + 1)
    let a := lo / m
    let b := hi / m
    let x := lo % m
    let y := hi % m
    if a = b then (digitRanges n x y).map ((a, a) :: ·)
    else
      let below := if x = 0 then [] else (digitRanges n x (m - 1)).map ((a, a) :: ·)
      let above := if y = m - 1 then [] else (digitRanges n 0 y).map ((b, b) :: ·)
      let c := if x = 0 then a else a + 1
      let d := if y = m - 1 then b else b - 1
      let between := if c ≤ d then [(c, d) :: List.replicate (n + 1) (0, 63)] else []
      below ++ between ++ above

/-- the code points that take `n + 1` bytes, and the first byte of the least of them less its bits -/
def byteLengths : List (Nat × CodeRange × Nat) :=
  [(0, ⟨0, 0x7F⟩, 0), (1, ⟨0x80, 0x7FF⟩, 0xC0), (2, ⟨0x800, 0xFFFF⟩, 0xE0), (3, ⟨0x10000, 0x10FFFF⟩, 0xF0)]

/-- the UTF-8 forms of a range of characters -/
def CodeRange.byteSequences (r : CodeRange) : List (List ByteRange) :=
  (CodeRange.scalars r).flatMap fun r =>
    byteLengths.flatMap fun (n, part, lead) =>
      let lo := max r.lo part.lo
      let hi := min r.hi part.hi
      if lo ≤ hi then
        (digitRanges n lo hi).map fun
          | [] => []
          | d :: ds => (d.1 + lead, d.2 + lead) :: ds.map fun d => (d.1 + 0x80, d.2 + 0x80)
      else []

/-- the sequences by their first ranges, in order, each with what follows it -/
def byFirst : List (List ByteRange) → List (ByteRange × List (List ByteRange))
  | [] => []
  | [] :: ss => byFirst ss
  | (r :: s) :: ss =>
    match byFirst ss with
    | [] => [(r, [s])]
    | (q, tails) :: rest => if q = r then (q, s :: tails) :: rest else (r, [s]) :: (q, tails) :: rest

/-- the sequences of all characters of a set, in rising order -/
def byteSequences (s : CharSet) : List (List ByteRange) :=
  s.ranges.flatMap CodeRange.byteSequences

end CrawlFilter.Regex
