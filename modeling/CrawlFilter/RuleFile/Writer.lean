/-
Writing rule files. A scope line is written where the scope changes and nowhere else, so reading a
file and writing its rules gives its shortest form.
-/
import CrawlFilter.Rule

namespace CrawlFilter.RuleFile

/-- the line that puts a scope in force -/
def scopeLine : Option Text → Text
  | some s => '>' :: s ++ ['\n']
  | none => "<\n".toList

def ruleLine (r : WrittenRule) : Text :=
  r.action.sigil :: r.pattern ++ ['\n']

/-- the lines of rules, with a scope in force before the first -/
def writeFrom (scope : Option Text) : List WrittenRule → Text
  | [] => []
  | r :: rs => (if r.scope = scope then [] else scopeLine r.scope) ++ ruleLine r ++ writeFrom r.scope rs

def write (rs : List WrittenRule) : Text :=
  writeFrom none rs

/-- the lines of compiled rules -/
def writeRules (rs : List Rule) : Text :=
  write (rs.map Rule.written)

end CrawlFilter.RuleFile
