/-
Decisions whose requests are all answered. The index of a deciding rule is one of a rule of the engine, so the rule is
there when its text is asked for; a line of a rule file can be cut behind its first character. With what holds of hosts
and domains, no request on the way from a URL to its entry fails.

- `entry_eq`, `ruleLine_eq`: entries and lines of rule files.
- `every_request_answered`: all requests, and the places that they are for.
-/
import CrawlFilter.Proofs.BytewiseDomains
import CrawlFilter.Proofs.FirstMatch

namespace CrawlFilter.Bytewise

open Access

/-- the rule that decided is there -/
theorem entry_eq (rules : List Rule) (suffixes : Option SuffixList) (url : Text) :
    entry rules suffixes url = .ok (Report.entry ⟨rules, .ofSuffixes suffixes⟩ url) := by
  have hd : (Engine.tryFrom url (Resolver.hostOf url) (Resolver.domainOf suffixes url).toOption 0 rules).value =
      (⟨rules, .ofSuffixes suffixes⟩ : Engine).evaluate url :=
    (Engine.evaluate_eq ⟨rules, .ofSuffixes suffixes⟩ url).symm
  unfold entry Report.entry
  rw [hostOf_eq, ok_bind, domainOf_eq, ok_bind, hd]
  dsimp only
  cases h : ((⟨rules, .ofSuffixes suffixes⟩ : Engine).evaluate url).rule with
  | none => rfl
  | some i =>
    obtain ⟨r, hr⟩ := exists_item_iff.2 (Engine.rule_lt_length h)
    dsimp only
    rw [hr, Option.bind_some, item_eq_ok_iff.1 hr]
    rfl

theorem boundary_head {c : Char} {line : Text} (h : line.head? = some c) : Boundary line c.utf8Size := by
  obtain ⟨cs, rfl⟩ := List.head?_eq_some_iff.1 h
  exact ⟨[c], cs, rfl, rfl⟩

/-- the first character of a line is cut off whole -/
theorem ruleLine_eq (line : Text) : ruleLine line = .ok (RuleLine.ofText line) := by
  cases line with
  | nil => rfl
  | cons c cs =>
    have hcut : textFrom (c :: cs) c.utf8Size = .ok cs := textFrom_append [c] cs
    rw [ruleLine, hcut, ok_bind]
    rfl

/-- **Every request is answered.** For every URL, rules and list of suffixes, each byte, label, rule and stretch of text
that is asked for by its place is there, and what is computed with them is what the same functions compute without places.
The end of a scheme and the two ends of a host are in order, between characters and not behind the end of the URL; the
labels of a host begin between its characters; the rule that decided has its index among the rules; and the text of a
line of a rule file begins behind a whole character. -/
theorem every_request_answered (rules : List Rule) (suffixes : Option SuffixList) (url line : Text) :
    (schemeEnd? url = .ok (Url.schemeEnd? url) ∧ hostSpan? url = .ok (Url.hostSpan? url) ∧
      host? url = .ok (Url.host? url)) ∧
    (∀ n, schemeEnd? url = .ok (some n) → n ≤ Text.byteSize url ∧ Boundary url n) ∧
    (∀ a b, hostSpan? url = .ok (some (a, b)) → ∃ n, schemeEnd? url = .ok (some n) ∧ Url.HostPlaces url n a b) ∧
    (∀ host, (∀ a ∈ labelStarts host, a ≤ Text.byteSize host ∧ Boundary host a) ∧
      (∀ l, registrable? l host = .ok (l.registrable? host)) ∧
      guessDomain (labels host) = .ok (CrawlFilter.guessDomain host)) ∧
    entry rules suffixes url = .ok (Report.entry ⟨rules, .ofSuffixes suffixes⟩ url) ∧
    (∀ resolver i, ((⟨rules, resolver⟩ : Engine).evaluate url).rule = some i → i < rules.length) ∧
    (∀ c, line.head? = some c → Boundary line c.utf8Size) ∧ ruleLine line = .ok (RuleLine.ofText line) := by
  refine ⟨⟨schemeEnd?_eq url, hostSpan?_eq url, host?_eq url⟩, fun n h => ?_, fun a b h => ?_, fun host => ?_,
    entry_eq rules suffixes url, fun resolver i h => Engine.rule_lt_length h, fun c h => boundary_head h,
    ruleLine_eq line⟩
  · rw [schemeEnd?_eq, Except.ok.injEq] at h
    exact ⟨(Url.boundary_of_schemeEnd? h).le, Url.boundary_of_schemeEnd? h⟩
  · rw [hostSpan?_eq, Except.ok.injEq] at h
    rw [schemeEnd?_eq]
    obtain ⟨n, hn, hplaces⟩ := Url.hostPlaces_of_hostSpan? h
    exact ⟨n, congrArg Except.ok hn, hplaces⟩
  · exact ⟨fun a ha => ⟨(boundary_of_mem_labelStarts ha).le, boundary_of_mem_labelStarts ha⟩,
      fun l => registrable?_eq l host, guessDomain_eq (labels host)⟩

/-- characters of two bytes around the places of a host, and a place inside the first of them -/
theorem every_request_answered_umlauts :
    hostSpan? "http://ü@[é]".toList = .ok (some (11, 13)) ∧
      Url.HostPlaces "http://ü@[é]".toList 7 11 13 ∧ ¬ Boundary "http://ü@[é]".toList 8 := by
  have hspan : hostSpan? "http://ü@[é]".toList = .ok (some (11, 13)) := by decide
  have hscheme : schemeEnd? "http://ü@[é]".toList = .ok (some 7) := by decide
  obtain ⟨-, -, hplaces, -⟩ := every_request_answered [] none "http://ü@[é]".toList []
  obtain ⟨n, hn, h⟩ := hplaces 11 13 hspan
  rw [hscheme, Except.ok.injEq, Option.some.injEq] at hn
  subst hn
  refine ⟨hspan, h, fun hinside => ?_⟩
  obtain ⟨p, hp⟩ := exists_cut_iff.2 hinside
  have hfault : cut "http://ü@[é]".toList 8 = .error .insideCharacter := by decide
  rw [hfault] at hp
  cases hp

end CrawlFilter.Bytewise
