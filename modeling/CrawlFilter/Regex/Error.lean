/-
Why a pattern is refused: the first fault that the reader or the interpreter of a pattern meets, or
a pattern that is right but needs too large a matcher. In words, the place of the fault is left out.
-/
import CrawlFilter.Text

namespace CrawlFilter.Regex

/-- faults in a pattern -/
inductive Fault where
  | classEscape
  | classRangeOrder
  | classRangeEnd
  | classUnclosed
  | countEmpty
  | countOrder
  | countTooLarge
  | countUnclosed
  | escapeAtEnd
  | escapeUnknown
  | backReference
  | hexDigit
  | hexEmpty
  | hexValue
  | flagAtEnd
  | flagDangling
  | flagRepeated
  | flagUnknown
  | groupNameRepeated
  | groupNameUnclosed
  | groupNameChar
  | groupNameEmpty
  | groupUnclosed
  | groupUnopened
  | lookAround
  | nestingTooDeep
  | repetitionOfNothing
  | boundaryUnclosed
  | boundaryUnknown
  | propertyUnknown
  | notUtf8
  | unicodeOff
  deriving DecidableEq, Repr

def Fault.words : Fault → String
  | .classEscape => "this escape cannot stand in a class"
  | .classRangeOrder => "a range in a class ends before it begins"
  | .classRangeEnd => "a range in a class has no single character at its end"
  | .classUnclosed => "a class is not closed"
  | .countEmpty => "a count has no number"
  | .countOrder => "the most of a count is less than its least"
  | .countTooLarge => "the number of a count is too large"
  | .countUnclosed => "a count is not closed"
  | .escapeAtEnd => "the pattern ends in an escape"
  | .escapeUnknown => "there is no such escape"
  | .backReference => "back-references are not supported"
  | .hexDigit => "this is no hexadecimal digit"
  | .hexEmpty => "a hexadecimal number has no digits"
  | .hexValue => "a hexadecimal number stands for no character"
  | .flagAtEnd => "the pattern ends among flags"
  | .flagDangling => "nothing follows the negation of flags"
  | .flagRepeated => "a flag or its negation is repeated"
  | .flagUnknown => "there is no such flag"
  | .groupNameRepeated => "two groups have one name"
  | .groupNameUnclosed => "the name of a group is not closed"
  | .groupNameChar => "this character cannot stand in the name of a group"
  | .groupNameEmpty => "the name of a group is empty"
  | .groupUnclosed => "a group is not closed"
  | .groupUnopened => "a group is closed that was not opened"
  | .lookAround => "look-around is not supported"
  | .nestingTooDeep => "the pattern is nested too deep"
  | .repetitionOfNothing => "there is nothing to repeat"
  | .boundaryUnclosed => "the name of a boundary is not closed"
  | .boundaryUnknown => "there is no such boundary"
  | .propertyUnknown => "there is no such property of characters"
  | .notUtf8 => "the pattern could match what is no text"
  | .unicodeOff => "this needs Unicode, which is switched off"

/-- why a pattern is refused -/
inductive Refusal where
  /-- the pattern does not follow the grammar, or asks for something that does not exist -/
  | fault (f : Fault)
  /-- the matcher for the pattern would pass the limit on its size -/
  | tooBig
  deriving DecidableEq, Repr

def Refusal.words : Refusal → Text
  | .fault f => f.words.toList
  | .tooBig => "the matcher for the pattern would be too large".toList

end CrawlFilter.Regex
