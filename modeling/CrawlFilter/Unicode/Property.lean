/-
Character properties by name. A query names a property, a general category or a script, or asks for
one value of a property that has several. Names are compared in their loose form.

The classes of words, digits and blanks and the folding of case are built from the same tables.
-/
import CrawlFilter.CharSet
import CrawlFilter.Unicode.Ages
import CrawlFilter.Unicode.BinaryProperties
import CrawlFilter.Unicode.Breaks
import CrawlFilter.Unicode.CaseOrbits
import CrawlFilter.Unicode.Categories
import CrawlFilter.Unicode.ScriptExtensions
import CrawlFilter.Unicode.Scripts

namespace CrawlFilter.Unicode

/-- what a property query asks for -/
inductive Query where
  /-- a binary property, a general category or a script -/
  | name (n : Text)
  /-- a value of a property -/
  | value (property : Text) (v : Text)
  deriving DecidableEq, Repr

/-! ## Names -/

/-- The loose form of a name: lower case, without a leading "is", and without blanks, hyphens,
underscores and characters outside ASCII. -/
def looseName (t : Text) : Text :=
  let body := match t with
    | a :: b :: rest => if Text.lowerAscii [a, b] = "is".toList then rest else t
    | _ => t
  let kept := (Text.lowerAscii body).filter fun c => c.toNat < 0x80 && c != ' ' && c != '_' && c != '-'
  if kept = ['c'] && body.length < t.length then "isc".toList else kept

/-- the characters of the entry that has this name -/
def charsNamed? (table : List (List String × String)) (name : String) : Option CharSet :=
  (table.find? fun e => e.1.contains name).map fun e => CharSet.ofHex e.2

/-- general categories that stand for several -/
def categoryGroups : List (List String × List String) := [
  (["l", "letter"], ["lu", "ll", "lt", "lm", "lo"]),
  (["lc", "casedletter"], ["lu", "ll", "lt"]),
  (["m", "mark", "combiningmark"], ["mn", "mc", "me"]),
  (["n", "number"], ["nd", "nl", "no"]),
  (["p", "punctuation", "punct"], ["pc", "pd", "ps", "pe", "pi", "pf", "po"]),
  (["s", "symbol"], ["sm", "sc", "sk", "so"]),
  (["z", "separator"], ["zs", "zl", "zp"]),
  (["c", "other"], ["cc", "cf", "cn", "co"])]

/-- the union of the categories with these names -/
def categoryUnion (names : List String) : CharSet :=
  CharSet.ofRanges ((names.filterMap (charsNamed? categories)).flatMap (·.ranges))

def category? (name : String) : Option CharSet :=
  match name with
  | "any" => some CharSet.univ
  | "ascii" => some CharSet.ascii
  | "assigned" => (charsNamed? categories "cn").map CharSet.compl
  | _ =>
    match categoryGroups.find? fun e => e.1.contains name with
    | some e => some (categoryUnion e.2)
    | none => charsNamed? categories name

/-- the characters that were assigned in the version with this name or before it -/
def assignedBy? (version : String) : Option CharSet :=
  (ages.findIdx? fun e => e.1.contains version).map fun i =>
    CharSet.ofRanges ((ages.take (i + 1)).flatMap fun e => (CharSet.ofHex e.2).ranges)

/-- the characters that a query asks for; `none` if nothing has the name -/
def lookup : Query → Option CharSet
  | .name n =>
    let m := String.ofList (looseName n)
    charsNamed? binaryProperties m <|> category? m <|> charsNamed? scripts m
  | .value p v =>
    let m := String.ofList (looseName v)
    match String.ofList (looseName p) with
    | "gc" | "generalcategory" => category? m
    | "sc" | "script" => charsNamed? scripts m
    | "scx" | "scriptextensions" => charsNamed? scriptExtensions m <|> charsNamed? scripts m
    | "age" => assignedBy? m
    | "gcb" | "graphemeclusterbreak" => charsNamed? graphemeBreaks m
    | "wb" | "wordbreak" => charsNamed? wordBreaks m
    | "sb" | "sentencebreak" => charsNamed? sentenceBreaks m
    | _ => none

/-! ## Classes built from properties -/

/-- the characters with a binary property -/
def binary (name : String) : CharSet :=
  (charsNamed? binaryProperties name).getD CharSet.empty

/-- decimal digits -/
def digits : CharSet := categoryUnion ["nd"]

/-- characters with White_Space -/
def blanks : CharSet := binary "whitespace"

/-- word characters: letters, marks, decimal digits, connectors and joiners -/
def wordChars : CharSet :=
  CharSet.ofRanges ((binary "alphabetic").ranges ++ (binary "joincontrol").ranges ++
    (categoryUnion ["mn", "mc", "me", "nd", "pc"]).ranges)

/-! ## Case folding -/

/-- the orbits of simple case folding -/
def orbits : List (List Nat) :=
  (CharSet.words caseOrbits.toList).map fun w => (Text.pieces '=' w).map CharSet.hexValue

/-- the set with every character that folds together with one of its own -/
def foldCase (s : CharSet) : CharSet :=
  match orbits.filter (·.any s.containsCode) with
  | [] => s
  | hit => CharSet.ofRanges (s.ranges ++ hit.flatten.map fun n => ⟨n, n⟩)

/-- the set with both cases of each of its ASCII letters -/
def foldCaseAscii (s : CharSet) : CharSet :=
  let swapped (lo hi shift : Nat) (up : Bool) : List CodeRange :=
    s.ranges.filterMap fun r =>
      let a := max r.lo lo
      let b := min r.hi hi
      if a ≤ b then some (if up then ⟨a + shift, b + shift⟩ else ⟨a - shift, b - shift⟩) else none
  CharSet.ofRanges (s.ranges ++ swapped 65 90 32 true ++ swapped 97 122 32 false)

end CrawlFilter.Unicode
