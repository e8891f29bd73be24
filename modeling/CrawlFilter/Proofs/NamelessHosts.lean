/-
URLs whose host names nothing. A host is taken from a URL if it is not empty, and is normalized after that. Of a host
that is made of dots, blanks at its ends apart, normalizing leaves nothing. Such a URL has a host, the empty one, and no
domain. It is the only kind of URL about which host and domain disagree, and the only kind that has no domain and yet
brings rules with a scope into play: a scope of a rule file may be empty too.

- `Resolver.hostOf_eq_some_nil_iff`: the URLs with an empty host.
- `Resolver.host_agrees_with_domain_iff`: host and domain agree on what has no host, and URLs without a domain are left to
  the rules without a scope, exactly where the host names something.
- `Resolver.empty_scope_reaches_nameless_host`: a URL without a domain that a rule with a scope decides about.
-/
import CrawlFilter.Proofs.Domain
import CrawlFilter.Proofs.FirstMatch
import CrawlFilter.Proofs.Trimming

namespace CrawlFilter

/-- a host stands in the URL, and between the blanks at its ends it is made of dots -/
def Url.NamelessHost (url : Text) : Prop := ∃ h, Url.host? url = some h ∧ ∀ c ∈ Text.trim h, c = '.'

/-! ## Rules without a scope -/

namespace Engine

/-- the rules without a scope decide about a URL as if there were no others, and one of them does if any rule does -/
structure LeftToUnscoped (rules : List Rule) (resolver : Resolver) (url : Text) : Prop where
  accepted : ((Engine.mk rules resolver).evaluate url).accepted =
    ((Engine.mk (rules.filter (·.scope.isNone)) resolver).evaluate url).accepted
  decider : ∀ i (h : i < rules.length), ((Engine.mk rules resolver).evaluate url).rule = some i → rules[i].scope = none

theorem leftToUnscoped_of_decidesBy {rules : List Rule} {resolver : Resolver} {url : Text}
    (h : ∀ r ∈ rules, decidesBy resolver url r = true → r.scope = none) : LeftToUnscoped rules resolver url where
  accepted := (accepted_evaluate_filter fun r hr hd => by rw [h r hr hd]; rfl).symm
  decider _ hi hrule := h _ (List.getElem_mem hi) (decidesBy_of_rule hi hrule)

/-- without a domain a scope is compared with the host only -/
theorem scope_of_decidesBy {resolver : Resolver} {url : Text} {r : Rule} {e : MalformedUrl}
    (he : resolver.domain url = .error e) (h : decidesBy resolver url r = true) :
    r.scope = none ∨ ∃ s, r.scope = some s ∧ resolver.host url = some s := by
  obtain ⟨hn | ⟨s, hs, hh | hd⟩, -⟩ := decidesBy_iff.1 h
  · exact Or.inl hn
  · exact Or.inr ⟨s, hs, hh⟩
  · rw [he] at hd
    cases hd

end Engine

/-! ## A rule of the empty scope -/

namespace Rule

/-- accepts every URL with an empty host -/
def forEmptyScope : Rule := ⟨.accept, ⟨[], .empty⟩, some []⟩

theorem parse_forEmptyScope : RuleFile.parse .basic ">\n+\n".toList = .ok [forEmptyScope] := rfl

theorem describes_forEmptyScope (url : Text) : forEmptyScope.describes url = true := by
  have hpos : 0 < Nat.pow 2 (url.length + 1) - 1 :=
    Nat.sub_pos_of_lt (Nat.one_lt_two_pow (Nat.succ_ne_zero url.length))
  simp only [describes, Pattern.describes, forEmptyScope, Regex.Expr.foundIn, Regex.Expr.map, Regex.Expr.reach,
    Regex.allPlaces, bne_iff_ne]
  exact hpos.ne'

end Rule

/-! ## Hosts and domains -/

namespace Resolver

variable {suffixes : Option SuffixList} {url : Text}

/-- **An empty host** is what is left of one that names nothing. -/
theorem hostOf_eq_some_nil_iff : hostOf url = some [] ↔ Url.NamelessHost url := by
  simp only [hostOf, Option.map_eq_some_iff, normalizeHost_eq_nil_iff, Url.NamelessHost]

theorem forall_host_ne_nil_iff : (∀ host, hostOf url = some host → host ≠ []) ↔ ¬ Url.NamelessHost url := by
  rw [← hostOf_eq_some_nil_iff]
  constructor
  · intro h hempty
    exact h [] hempty rfl
  · rintro hne host hh rfl
    exact hne hh

theorem exists_domainOf_eq_ok_iff :
    (∃ d, domainOf suffixes url = .ok d) ↔ ∃ host, hostOf url = some host ∧ host ≠ [] := by
  simp only [domainOf_eq_ok_iff]
  constructor
  · rintro ⟨_, host, hh, hne, -⟩
    exact ⟨host, hh, hne⟩
  · rintro ⟨host, hh, hne⟩
    exact ⟨_, host, hh, hne, rfl⟩

theorem host_iff_domain_iff :
    ((∃ host, hostOf url = some host) ↔ ∃ d, domainOf suffixes url = .ok d) ↔ ¬ Url.NamelessHost url := by
  rw [exists_domainOf_eq_ok_iff, ← forall_host_ne_nil_iff]
  constructor
  · rintro h host hh rfl
    obtain ⟨host', hh', hne⟩ := h.1 ⟨[], hh⟩
    rw [hh] at hh'
    exact hne (Option.some.inj hh').symm
  · intro h
    exact ⟨fun ⟨host, hh⟩ => ⟨host, hh, h host hh⟩, fun ⟨host, hh, _⟩ => ⟨host, hh⟩⟩

theorem domainOf_of_namelessHost (suffixes : Option SuffixList) (hn : Url.NamelessHost url) :
    domainOf suffixes url = .error ⟨url⟩ := by
  rw [domainOf, hostOf_eq_some_nil_iff.2 hn]

/-- a URL has no domain if it has no host or an empty one -/
theorem hostOf_of_domainOf_eq_error {e : MalformedUrl} (h : domainOf suffixes url = .error e) :
    hostOf url = none ∨ hostOf url = some [] := by
  unfold domainOf at h
  split at h
  · exact Or.inl ‹_›
  · exact Or.inr ‹_›
  · cases h

/-! ## URLs without a domain -/

variable {e : MalformedUrl} {r : Rule}

/-- a rule that decides about a URL without a domain has no scope, or host and scope are empty -/
theorem scope_of_domainOf_eq_error (he : domainOf suffixes url = .error e)
    (hd : Engine.decidesBy (.ofSuffixes suffixes) url r = true) :
    r.scope = none ∨ r.scope = some [] ∧ Url.NamelessHost url := by
  rcases Engine.scope_of_decidesBy he hd with hs | ⟨s, hs, hh⟩
  · exact Or.inl hs
  · have hh : hostOf url = some s := hh
    rcases hostOf_of_domainOf_eq_error he with hnone | hempty
    · rw [hnone] at hh
      cases hh
    · rw [hempty] at hh
      cases hh
      exact Or.inr ⟨hs, hostOf_eq_some_nil_iff.1 hempty⟩

theorem leftToUnscoped_of_domainOf_eq_error (hn : ¬ Url.NamelessHost url) (he : domainOf suffixes url = .error e)
    (rules : List Rule) : Engine.LeftToUnscoped rules (.ofSuffixes suffixes) url :=
  Engine.leftToUnscoped_of_decidesBy fun _ _ hd =>
    (scope_of_domainOf_eq_error he hd).resolve_right fun h => hn h.2

/-- a rule of the empty scope decides about a URL whose host names nothing -/
theorem not_leftToUnscoped_forEmptyScope (suffixes : Option SuffixList) (hn : Url.NamelessHost url) :
    ¬ Engine.LeftToUnscoped [.forEmptyScope] (.ofSuffixes suffixes) url := by
  intro h
  have hhost : (Resolver.ofSuffixes suffixes).host url = some [] := hostOf_eq_some_nil_iff.2 hn
  have hd : Engine.decidesBy (.ofSuffixes suffixes) url .forEmptyScope = true :=
    Engine.decidesBy_iff.2 ⟨Or.inr ⟨[], rfl, Or.inl hhost⟩, Rule.describes_forEmptyScope url⟩
  have hrule : ((Engine.mk [.forEmptyScope] (.ofSuffixes suffixes)).evaluate url).rule = some 0 := by
    rw [Engine.evaluate_rule, List.findIdx?_cons, hd]
    rfl
  exact absurd (h.decider 0 (by decide) hrule) (by decide)

/-- **Host and domain agree** on what has no host exactly where a host names something. For a URL whose host does not,
there is a host and no domain, the host is empty, and some rule file does not leave the URL to its rules without a scope.
For every other URL there is a host if and only if there is a domain, the host is not empty, and without a domain the URL
is left to the rules without a scope, whatever the file. In either case a URL without a domain is decided about as if
there were no rules but those with no scope or the empty one. -/
theorem host_agrees_with_domain_iff (suffixes : Option SuffixList) (url : Text) :
    let resolver := Resolver.ofSuffixes suffixes
    (((∃ host, resolver.host url = some host) ↔ ∃ d, resolver.domain url = .ok d) ↔ ¬ Url.NamelessHost url) ∧
    ((∀ host, resolver.host url = some host → host ≠ []) ↔ ¬ Url.NamelessHost url) ∧
    ((∀ f t rs e, RuleFile.parse f t = .ok rs → resolver.domain url = .error e →
      Engine.LeftToUnscoped rs resolver url) ↔ ¬ Url.NamelessHost url) ∧
    ∀ (rs : List Rule) (e : MalformedUrl), resolver.domain url = .error e →
      ((Engine.mk rs resolver).evaluate url).accepted =
        ((Engine.mk (rs.filter fun r => r.scope = none ∨ r.scope = some []) resolver).evaluate url).accepted := by
  intro resolver
  refine ⟨host_iff_domain_iff, forall_host_ne_nil_iff, ⟨fun h hn => ?_, fun hn f t rs e _ he => ?_⟩, fun rs e he => ?_⟩
  · exact not_leftToUnscoped_forEmptyScope suffixes hn
      (h .basic _ _ _ Rule.parse_forEmptyScope (domainOf_of_namelessHost suffixes hn))
  · exact leftToUnscoped_of_domainOf_eq_error hn he rs
  · refine (Engine.accepted_evaluate_filter fun r _ hd => ?_).symm
    rw [decide_eq_true_iff]
    exact (scope_of_domainOf_eq_error he hd).imp_right And.left

/-- a URL without a host, and a rule with a scope above one without -/
theorem host_agrees_with_domain_iff_no_authority :
    let url := "mailto:a@b".toList
    ¬ Url.NamelessHost url ∧
      ∃ rs e, RuleFile.parse .basic ">b\n+a\n<\n-b\n".toList = .ok rs ∧
        (Resolver.ofSuffixes none).domain url = .error e ∧ Engine.LeftToUnscoped rs (.ofSuffixes none) url := by
  intro url
  have hhost : (Resolver.ofSuffixes none).host url = none := rfl
  have hdomain : (Resolver.ofSuffixes none).domain url = .error ⟨url⟩ := rfl
  obtain ⟨rs, hrs⟩ : ∃ rs, RuleFile.parse .basic ">b\n+a\n<\n-b\n".toList = .ok rs := ⟨_, rfl⟩
  obtain ⟨-, hempty, hleft, -⟩ := host_agrees_with_domain_iff none url
  have hn : ¬ Url.NamelessHost url := hempty.1 fun host h => by
    rw [hhost] at h
    cases h
  exact ⟨hn, rs, ⟨url⟩, hrs, hdomain, hleft.2 hn .basic _ rs ⟨url⟩ hrs hdomain⟩

/-- **A URL without a domain that is not left to the rules without a scope:** its host is a dot, and the file opens a
scope without a name. -/
theorem empty_scope_reaches_nameless_host :
    ∃ rs, RuleFile.parse .basic ">\n+x\n".toList = .ok rs ∧
      (Resolver.ofSuffixes none).host "http://./x".toList = some [] ∧
      (Resolver.ofSuffixes none).domain "http://./x".toList = .error ⟨"http://./x".toList⟩ ∧
      (Engine.mk rs (.ofSuffixes none)).evaluate "http://./x".toList = ⟨true, some 0⟩ ∧
      (Engine.mk (rs.filter (·.scope.isNone)) (.ofSuffixes none)).evaluate "http://./x".toList = ⟨false, none⟩ :=
  ⟨_, rfl, rfl, rfl, rfl, rfl⟩

end Resolver

end CrawlFilter
