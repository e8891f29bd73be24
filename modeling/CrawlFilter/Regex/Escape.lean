/-
What may follow a backslash, and the passing over of blanks and comments that the verbose setting
asks for. Readers take the setting and the rest of the pattern, and return what they read with the
rest after it.
-/
import CrawlFilter.Regex.Ast
import CrawlFilter.Regex.Error

namespace CrawlFilter.Regex

/-! ## Blanks and comments -/

/-- drops blanks and comments; a comment runs from a number sign to the end of its line -/
def dropIgnored (inComment : Bool) : Text → Text
  | [] => []
  | c :: cs =>
    if inComment then dropIgnored (c != '\n') cs
    else if Text.isBlank c then dropIgnored false cs
    else if c = '#' then dropIgnored true cs
    else c :: cs

/-- the rest of the pattern from its next significant character -/
def skip (verbose : Bool) (t : Text) : Text :=
  if verbose then dropIgnored false t else t

/-- The significant characters at the front that satisfy `p`, and what follows them. Ignored text
between and after them is dropped. -/
def spanSignificant (verbose : Bool) (p : Char → Bool) (inComment : Bool) : Text → Text × Text
  | [] => ([], [])
  | c :: cs =>
    if inComment then spanSignificant verbose p (c != '\n') cs
    else if verbose && Text.isBlank c then spanSignificant verbose p false cs
    else if verbose && c = '#' then spanSignificant verbose p true cs
    else if p c then
      let r := spanSignificant verbose p false cs
      (c :: r.1, r.2)
    else ([], c :: cs)

/-! ## Numbers -/

def isHexDigit (c : Char) : Bool :=
  (CharSet.hexDigit? c).isSome

/-- the character with this code point, if there is one -/
def scalar (n : Nat) : Except Fault Char :=
  if n.isValidChar then .ok (Char.ofNat n) else .error .hexValue

/-- exactly `n` hexadecimal digits -/
def readHexDigits (verbose : Bool) : Nat → Text → Except Fault (Text × Text)
  | 0, t => .ok ([], t)
  | n + 1, t =>
    match skip verbose t with
    | [] => .error .escapeAtEnd
    | c :: cs =>
      if isHexDigit c then (readHexDigits verbose n cs).map fun r => (c :: r.1, r.2)
      else .error .hexDigit

/-- a character by its code point: `n` digits, or any number of digits in braces -/
def readHex (verbose : Bool) (n : Nat) (t : Text) : Except Fault (Literal × Text) :=
  match skip verbose t with
  | [] => .error .escapeAtEnd
  | '{' :: cs =>
    let r := spanSignificant verbose (· != '}') false cs
    match r.2 with
    | [] => .error .escapeAtEnd
    | _ :: rest =>
      if r.1.all isHexDigit then
        if r.1.isEmpty then .error .hexEmpty
        else (scalar (CharSet.hexValue r.1)).map fun c => (⟨c, false⟩, rest)
      else .error .hexDigit
  | cs => do
    let r ← readHexDigits verbose n cs
    let c ← scalar (CharSet.hexValue r.1)
    return (⟨c, n = 2⟩, r.2)

/-! ## Properties -/

/-- the two parts of a text around the first place where `sep` stands -/
def splitAtFirst (sep : Text) : Text → Option (Text × Text)
  | [] => none
  | c :: cs =>
    if sep.isPrefixOf (c :: cs) then some ([], (c :: cs).drop sep.length)
    else (splitAtFirst sep cs).map fun r => (c :: r.1, r.2)

/-- A property as it stands in braces, and whether it is negated there. A value can follow the name
after `!=`, `:` or `=`, looked for in this order, and the first of these negates. -/
def readQuery (t : Text) : Bool × Unicode.Query :=
  match splitAtFirst "!=".toList t with
  | some (p, v) => (true, .value p v)
  | none =>
    match splitAtFirst [':'] t <|> splitAtFirst ['='] t with
    | some (p, v) => (false, .value p v)
    | none => (false, .name t)

/-- a property, one letter or a name in braces, and whether it is negated there -/
def readProperty (verbose : Bool) (t : Text) : Except Fault ((Bool × Unicode.Query) × Text) :=
  match skip verbose t with
  | [] => .error .escapeAtEnd
  | '{' :: cs =>
    let r := spanSignificant verbose (· != '}') false cs
    match r.2 with
    | [] => .error .escapeAtEnd
    | _ :: rest => .ok (readQuery r.1, rest)
  | '\\' :: _ => .error .propertyUnknown
  | c :: cs => .ok ((false, .name [c]), cs)

/-! ## Word boundaries -/

def isBoundaryChar (c : Char) : Bool :=
  c.isAlpha || c = '-'

/-- the boundaries that are written as a name in braces -/
def boundary? (name : Text) : Option Anchor :=
  match String.ofList name with
  | "start" => some .wordStart
  | "end" => some .wordEnd
  | "start-half" => some .wordStartHalf
  | "end-half" => some .wordEndHalf
  | _ => none

/-- A word boundary after its letter. An opening brace that no name can follow is left to be read as
the start of a count. -/
def readBoundary (verbose : Bool) (t : Text) : Except Fault (Anchor × Text) :=
  match t with
  | '{' :: cs =>
    match skip verbose cs with
    | [] => .error .boundaryUnclosed
    | c :: cs =>
      if isBoundaryChar c then
        let r := spanSignificant verbose isBoundaryChar false (c :: cs)
        match r.2 with
        | '}' :: rest =>
          match boundary? r.1 with
          | some a => .ok (a, rest)
          | none => .error .boundaryUnknown
        | _ => .error .boundaryUnclosed
      else .ok (.wordBoundary, t)
  | _ => .ok (.wordBoundary, t)

/-! ## Escapes -/

/-- what a backslash and the text after it stand for -/
inductive Escape where
  | literal (l : Literal)
  | anchor (a : Anchor)
  | property (negated : Bool) (q : Unicode.Query)
  | shorthand (negated : Bool) (k : Shorthand)
  deriving DecidableEq, Repr

/-- characters that stand for themselves after a backslash: ASCII but for letters, digits and angle
brackets -/
def isEscapable (c : Char) : Bool :=
  c.toNat < 0x80 && !c.isAlphanum && c != '<' && c != '>'

/-- an escape after its backslash -/
def readEscape (verbose : Bool) : Text → Except Fault (Escape × Text)
  | [] => .error .escapeAtEnd
  | c :: cs =>
    let plain (x : Char) : Except Fault (Escape × Text) := .ok (.literal ⟨x, false⟩, cs)
    match c with
    | 'x' => (readHex verbose 2 cs).map fun r => (.literal r.1, r.2)
    | 'u' => (readHex verbose 4 cs).map fun r => (.literal r.1, r.2)
    | 'U' => (readHex verbose 8 cs).map fun r => (.literal r.1, r.2)
    | 'p' => (readProperty verbose cs).map fun r => (.property r.1.1 r.1.2, r.2)
    | 'P' => (readProperty verbose cs).map fun r => (.property (!r.1.1) r.1.2, r.2)
    | 'd' => .ok (.shorthand false .digit, cs)
    | 'D' => .ok (.shorthand true .digit, cs)
    | 's' => .ok (.shorthand false .blank, cs)
    | 'S' => .ok (.shorthand true .blank, cs)
    | 'w' => .ok (.shorthand false .word, cs)
    | 'W' => .ok (.shorthand true .word, cs)
    | 'a' => plain '\x07'
    | 'f' => plain '\x0c'
    | 't' => plain '\t'
    | 'n' => plain '\n'
    | 'r' => plain '\r'
    | 'v' => plain '\x0b'
    | 'A' => .ok (.anchor .textStart, cs)
    | 'z' => .ok (.anchor .textEnd, cs)
    | 'b' => (readBoundary verbose cs).map fun r => (.anchor r.1, r.2)
    | 'B' => .ok (.anchor .notWordBoundary, cs)
    | '<' => .ok (.anchor .wordStart, cs)
    | '>' => .ok (.anchor .wordEnd, cs)
    | _ =>
      if isEscapable c then plain c
      else if c.isDigit then .error .backReference
      else .error .escapeUnknown

end CrawlFilter.Regex
