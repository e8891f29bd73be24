/-
Texts as lists of characters, and the few operations on them that every part of the filter shares:
blanks and trimming, ASCII case, the split at a separator, decimal numbers, and sizes in UTF-8.
-/

namespace CrawlFilter

/-- a text is the list of its characters -/
abbrev Text := List Char

namespace Text

/-! ## Blanks and trimming -/

/-- the characters with the Unicode property White_Space -/
def isBlank (c : Char) : Bool :=
  let n := c.toNat
  (9 ≤ n && n ≤ 13) || n == 0x20 || n == 0x85 || n == 0xA0 || n == 0x1680 ||
    (0x2000 ≤ n && n ≤ 0x200A) || n == 0x2028 || n == 0x2029 || n == 0x202F || n == 0x205F || n == 0x3000

/-- drops the longest end whose characters all satisfy `p` -/
def dropEndWhile (p : Char → Bool) (t : Text) : Text :=
  (t.reverse.dropWhile p).reverse

/-- drops blanks at both ends -/
def trim (t : Text) : Text :=
  dropEndWhile isBlank (t.dropWhile isBlank)

/-- drops the given character at both ends -/
def trimChar (x : Char) (t : Text) : Text :=
  dropEndWhile (· == x) (t.dropWhile (· == x))

/-- what follows the blanks at the front, up to the next blank; `none` if there are blanks only -/
def firstWord? (t : Text) : Option Text :=
  match (t.dropWhile isBlank).takeWhile (!isBlank ·) with
  | [] => none
  | w => some w

/-! ## Case -/

/-- lower case for A to Z; every other character is kept -/
def lowerAscii (t : Text) : Text :=
  t.map Char.toLower

/-! ## Splitting -/

/-- the pieces between the separators, one more than there are separators -/
def pieces (sep : Char) (t : Text) : List Text :=
  t.splitOn sep

/-! ## Numbers -/

/-- a number in decimal digits -/
def ofNat (n : Nat) : Text :=
  Nat.toDigits 10 n

/-! ## Sizes -/

/-- number of bytes of the UTF-8 form -/
def byteSize : Text → Nat
  | [] => 0
  | c :: cs => c.utf8Size + byteSize cs

@[simp] theorem byteSize_nil : byteSize [] = 0 := rfl

@[simp] theorem byteSize_cons (c : Char) (cs : Text) : byteSize (c :: cs) = c.utf8Size + byteSize cs := rfl

@[simp] theorem byteSize_append (s t : Text) : byteSize (s ++ t) = byteSize s + byteSize t := by
  induction s with
  | nil => simp
  | cons c cs ih => simp [ih, Nat.add_assoc]

end Text

end CrawlFilter
