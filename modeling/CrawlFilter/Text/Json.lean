/-
JSON values and their compact form. Members keep their order. In a string, quotes, backslashes and
controls are escaped, the latter by a letter where there is one, and every other character stands for
itself.
-/
import CrawlFilter.Text.Quoted

namespace CrawlFilter.Text

/-- the values that records are made of -/
inductive Json where
  | null
  | bool (b : Bool)
  | number (n : Nat)
  | string (t : Text)
  | object (members : List (Text × Json))

namespace Json

/-- a control by its code point, four digits -/
def escapeCode (c : Char) : Text :=
  let ds := hexDigits c.toNat
  "\\u".toList ++ List.replicate (4 - ds.length) '0' ++ ds

def escapeChar (c : Char) : Text :=
  match c with
  | '"' => "\\\"".toList
  | '\\' => "\\\\".toList
  | '\x08' => "\\b".toList
  | '\x0c' => "\\f".toList
  | '\n' => "\\n".toList
  | '\r' => "\\r".toList
  | '\t' => "\\t".toList
  | c => if c.toNat < 0x20 then escapeCode c else [c]

/-- a string with its quotes -/
def escape (t : Text) : Text :=
  '"' :: t.flatMap escapeChar ++ ['"']

mutual

/-- the compact form of a value -/
def render : Json → Text
  | .null => "null".toList
  | .bool true => "true".toList
  | .bool false => "false".toList
  | .number n => ofNat n
  | .string t => escape t
  | .object ms => '\x7b' :: renderMembers ms ++ ['\x7d']

/-- members with commas between them -/
def renderMembers : List (Text × Json) → Text
  | [] => []
  | [(k, v)] => escape k ++ ':' :: render v
  | (k, v) :: m :: ms => escape k ++ ':' :: render v ++ ',' :: renderMembers (m :: ms)

end

end Json

end CrawlFilter.Text
