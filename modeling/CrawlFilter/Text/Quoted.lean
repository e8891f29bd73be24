/-
Quoted text, in which every character can be seen. A quote and a backslash take a backslash, the
common controls their letters, and whatever has no form of its own, or joins the character before
it, its code point.
-/
import CrawlFilter.Unicode.Additions

namespace CrawlFilter.Text

/-- the digits of a number in base 16 -/
def hexDigits (n : Nat) : Text :=
  Nat.toDigits 16 n

/-- a character by its code point -/
def codePoint (c : Char) : Text :=
  "\\u\x7b".toList ++ hexDigits c.toNat ++ ['\x7d']

/-- whether a character is written as itself -/
def isVisible (c : Char) : Bool :=
  c = ' ' || (!Unicode.invisible.contains c && !Unicode.extendingMarks.contains c)

def quoteChar (c : Char) : Text :=
  match c with
  | '\x00' => "\\0".toList
  | '\t' => "\\t".toList
  | '\r' => "\\r".toList
  | '\n' => "\\n".toList
  | '\\' => "\\\\".toList
  | '"' => "\\\"".toList
  | c => if isVisible c then [c] else codePoint c

def quote (t : Text) : Text :=
  '"' :: t.flatMap quoteChar ++ ['"']

/-- a text that may be missing -/
def quoteOption : Option Text → Text
  | none => "None".toList
  | some t => "Some(".toList ++ quote t ++ [')']

end CrawlFilter.Text
