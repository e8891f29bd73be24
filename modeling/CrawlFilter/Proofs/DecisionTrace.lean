/-
What a log tells about a decision. The engine reports every rule that it comes to, as skipped or as applied, and it
comes to the rules in order until one decides. So the records are those of the URL, first that it has no domain if it
has none and then its host and domain, and after them one for each rule up to the deciding one, or for every rule if
none decides.

- `events_tryFrom_cons`: the event of one rule, and those of the rules behind it if it does not decide.
- `events_tryFrom`: the events of a whole list of rules.
- `trace_tells_decision`: the records of a decision, from which the deciding rule can be read.
-/
import CrawlFilter.Proofs.FirstMatch

namespace CrawlFilter

/-- what a log receives of an event -/
def Event.record (ev : Event) : Level × Text := (ev.level, ev.message)

namespace Engine

/-! ## Events of rules -/

/-- what is reported about a rule that is come to -/
def ruleEvent (host domain : Option Text) (r : Rule) : Event :=
  if r.inScope host domain then .applied r.pattern.source host domain else .skipped r.pattern.source r.scope

/-- the event of a rule comes first; there are no others if the rule decides -/
theorem events_tryFrom_cons (url : Text) (host domain : Option Text) (n : ℕ) (r : Rule) (rs : List Rule) :
    (tryFrom url host domain n (r :: rs)).events =
      ruleEvent host domain r ::
        if decides url host domain r then [] else (tryFrom url host domain (n + 1) rs).events := by
  unfold decides ruleEvent
  rw [tryFrom]
  cases r.inScope host domain <;> cases r.describes url <;> rfl

/-- how many rules are come to, if this one decides -/
def reached (rules : List Rule) (deciding : Option ℕ) : ℕ :=
  deciding.elim rules.length (· + 1)

/-- one event for each rule that is come to, in order -/
theorem events_tryFrom (url : Text) (host domain : Option Text) (n : ℕ) (rs : List Rule) :
    (tryFrom url host domain n rs).events =
      (rs.take (reached rs (rs.findIdx? (decides url host domain)))).map (ruleEvent host domain) := by
  induction rs generalizing n with
  | nil => rfl
  | cons r rs ih =>
    rw [events_tryFrom_cons, List.findIdx?_cons]
    split_ifs
    · rfl
    · have hreached : reached (r :: rs) ((rs.findIdx? (decides url host domain)).map (· + 1)) =
          reached rs (rs.findIdx? (decides url host domain)) + 1 := by
        cases rs.findIdx? (decides url host domain) <;> rfl
      rw [ih, hreached, List.take_succ_cons, List.map_cons]

theorem reached_le {e : Engine} {url : Text} : reached e.rules (e.evaluate url).rule ≤ e.rules.length := by
  cases h : (e.evaluate url).rule with
  | none => exact le_rfl
  | some k => exact rule_lt_length h

/-! ## Records of a decision -/

/-- the record of a URL without a domain -/
def domainRecords : Except MalformedUrl Text → List (Level × Text)
  | .ok _ => []
  | .error m => [(.debug, "Malformed URL: ".toList ++ m.url ++ "; scoping by host only".toList)]

/-- the record of host and domain of a URL -/
def hostRecord (host domain : Option Text) : Level × Text :=
  (.debug, "URL belongs to host ".toList ++ Text.quoteOption host ++ " and domain ".toList ++ Text.quoteOption domain)

/-- The record of a rule. A rule is applied if it has no scope, or has the host or the domain for its scope, and is
skipped otherwise. -/
def ruleRecord (host domain : Option Text) (r : Rule) : Level × Text :=
  (.trace,
    if r.scope = none ∨ r.scope = host ∨ r.scope = domain then
      "Applying rule [".toList ++ r.pattern.source ++ "] for host: ".toList ++ Text.quoteOption host ++
        " and domain ".toList ++ Text.quoteOption domain
    else "Skipping rule [".toList ++ r.pattern.source ++ "] for host: ".toList ++ r.scope.getD [])

theorem record_ruleEvent (host domain : Option Text) (r : Rule) :
    (ruleEvent host domain r).record = ruleRecord host domain r := by
  have hscope : r.inScope host domain = true ↔ r.scope = none ∨ r.scope = host ∨ r.scope = domain := by
    rw [Rule.inScope_iff]
    cases r.scope <;> simp [eq_comm]
  unfold ruleEvent ruleRecord
  simp only [hscope]
  split_ifs <;> rfl

theorem value_locate (e : Engine) (url : Text) :
    (e.locate url).value = (e.resolver.host url, (e.resolver.domain url).toOption) := by
  unfold locate
  cases e.resolver.domain url <;> rfl

theorem records_locate (e : Engine) (url : Text) :
    (e.locate url).events.map Event.record =
      domainRecords (e.resolver.domain url) ++
        [hostRecord (e.resolver.host url) (e.resolver.domain url).toOption] := by
  unfold locate
  cases e.resolver.domain url <;> rfl

theorem records_consult (e : Engine) (url : Text) :
    (e.consult url).events.map Event.record =
      domainRecords (e.resolver.domain url) ++ hostRecord (e.resolver.host url) (e.resolver.domain url).toOption ::
        (e.rules.take (reached e.rules (e.evaluate url).rule)).map
          (ruleRecord (e.resolver.host url) (e.resolver.domain url).toOption) := by
  have hconsult : (e.consult url).events = (e.locate url).events ++
      (tryFrom url (e.locate url).value.1 (e.locate url).value.2 0 e.rules).events := rfl
  have hrecord : Event.record ∘ ruleEvent (e.resolver.host url) (e.resolver.domain url).toOption =
      ruleRecord (e.resolver.host url) (e.resolver.domain url).toOption :=
    funext fun r => record_ruleEvent _ _ r
  rw [hconsult, List.map_append, records_locate, value_locate, events_tryFrom, List.map_map, hrecord, evaluate_rule,
    List.append_assoc, List.singleton_append]
  rfl

/-- **The log tells the decision.** It gets a record that the URL has no domain exactly if it has none, then one of host
and domain, and then one for each rule from the first on, in order: applied if the rule is for the URL's host or domain
or for all, skipped otherwise. The last of them is about the deciding rule; without one all rules have their record. So
wherever the records end before the rules do, the last one tells the deciding rule. -/
theorem trace_tells_decision (rules : List Rule) (resolver : Resolver) (url : Text) :
    let e : Engine := ⟨rules, resolver⟩
    let host := resolver.host url
    let domain := (resolver.domain url).toOption
    ∃ n, n ≤ rules.length ∧
      (e.consult url).events.map Event.record =
        domainRecords (resolver.domain url) ++ hostRecord host domain :: (rules.take n).map (ruleRecord host domain) ∧
      (e.consult url).value = e.evaluate url ∧
      (∀ k, (e.evaluate url).rule = some k → n = k + 1) ∧
      ((e.evaluate url).rule = none → n = rules.length) ∧
      (n < rules.length → (e.evaluate url).rule = some (n - 1)) := by
  intro e host domain
  refine ⟨reached rules (e.evaluate url).rule, reached_le, records_consult e url, rfl, fun k hk => ?_, fun h => ?_,
    fun hlt => ?_⟩
  · rw [hk]
    rfl
  · rw [h]
    rfl
  · cases h : (e.evaluate url).rule with
    | none =>
      rw [h] at hlt
      exact absurd hlt (lt_irrefl _)
    | some k => rfl

/-- a URL without host and domain: the rule for a host is skipped, the next one is applied in vain, the third decides,
and nothing is said about the fourth -/
theorem trace_tells_decision_no_host :
    ∃ skipped applied deciding last : Rule,
      Rule.compile .basic .accept "x".toList (some "a.c".toList) = .ok skipped ∧
      Rule.compile .basic .reject "y".toList none = .ok applied ∧
      Rule.compile .basic .accept "x".toList none = .ok deciding ∧
      Rule.compile .basic .reject "z".toList none = .ok last ∧
      let e : Engine := ⟨[skipped, applied, deciding, last], .ofSuffixes none⟩
      (e.evaluate "mailto:x".toList).rule = some 2 ∧
      (e.consult "mailto:x".toList).events.map Event.record =
        [(.debug, "Malformed URL: mailto:x; scoping by host only".toList),
          (.debug, "URL belongs to host None and domain None".toList),
          (.trace, "Skipping rule [x] for host: a.c".toList),
          (.trace, "Applying rule [y] for host: None and domain None".toList),
          (.trace, "Applying rule [x] for host: None and domain None".toList)] := by
  refine ⟨_, _, _, _, rfl, rfl, rfl, rfl, ?_⟩
  intro e
  obtain ⟨n, -, hrecords, -, hn, -⟩ := trace_tells_decision e.rules e.resolver "mailto:x".toList
  have hrule : (e.evaluate "mailto:x".toList).rule = some 2 := by decide
  rw [hn 2 hrule] at hrecords
  refine ⟨hrule, hrecords.trans ?_⟩
  decide

end Engine

end CrawlFilter
