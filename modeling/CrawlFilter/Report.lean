/-
Filtering a stream of URLs, one to a line. Each line of the input gives one line of output, at once,
so an input that breaks off leaves the lines before it reported.
-/
import CrawlFilter.Engine
import CrawlFilter.Text.Json

namespace CrawlFilter

/-- how decisions are written -/
inductive Format where
  | text
  | json
  deriving DecidableEq, Repr

structure ReportOptions where
  format : Format
  /-- whether a text line names the rule that decided -/
  explain : Bool
  deriving DecidableEq, Repr

namespace Report

/-! ## Lines -/

/-- a decided URL: what was decided and the rule that decided, with its index -/
structure Entry where
  url : Text
  accepted : Bool
  rule : Option (Nat × WrittenRule)
  deriving DecidableEq, Repr

/-- the entry for a URL -/
def entry (e : Engine) (url : Text) : Entry :=
  let d := e.evaluate url
  ⟨url, d.accepted, d.rule.bind fun i => (e.rules[i]?).map fun r => (i, r.written)⟩

/-- the rule that decided, as a remark -/
def remark : Option (Nat × WrittenRule) → Text
  | none => "\t# no rule matched".toList
  | some (i, r) =>
    "\t# rule ".toList ++ Text.ofNat i ++ ": ".toList ++ r.action.sigil :: r.pattern ++
      match r.scope with
      | none => []
      | some s => " (>".toList ++ s ++ [')']

def textLine (explain : Bool) (x : Entry) : Text :=
  (Action.ofSign x.accepted).sigil :: x.url ++ if explain then remark x.rule else []

/-- a rule as a record -/
def ruleRecord (i : Nat) (r : WrittenRule) : Text.Json :=
  .object [("index".toList, .number i), ("sign".toList, .bool r.action.sign), ("pattern".toList, .string r.pattern),
    ("scope".toList, match r.scope with
      | none => .null
      | some s => .string s)]

/-- an entry as a record -/
def record (x : Entry) : Text.Json :=
  .object [("url".toList, .string x.url), ("accepted".toList, .bool x.accepted),
    ("rule".toList, match x.rule with
      | none => .null
      | some (i, r) => ruleRecord i r)]

/-- the line for an entry, without its end -/
def line (o : ReportOptions) (x : Entry) : Text :=
  match o.format with
  | .text => textLine o.explain x
  | .json => (record x).render

end Report

/-! ## Streams -/

/-- what filtering a stream gave -/
structure Report where
  output : Text
  accepted : Nat
  rejected : Nat
  /-- why the input broke off, if it did -/
  failure : Option ReadError
  deriving DecidableEq, Repr

namespace Report

/-- the report on no input -/
def nothing : Report := ⟨[], 0, 0, none⟩

/-- the report with one entry more in front -/
def cons (o : ReportOptions) (x : Entry) (r : Report) : Report :=
  ⟨line o x ++ '\n' :: r.output, r.accepted + x.accepted.toNat, r.rejected + (!x.accepted).toNat, r.failure⟩

/-- filters every line up to the end of the input or its first fault -/
def ofInput (e : Engine) (o : ReportOptions) : Input → Report
  | [] => nothing
  | .error f :: _ => { nothing with failure := some f }
  | .ok url :: rest => cons o (entry e url) (ofInput e o rest)

/-- filters a byte stream -/
def ofBytes (e : Engine) (o : ReportOptions) (b : Bytes) : Report :=
  ofInput e o (.ofBytes b)

end Report

end CrawlFilter
