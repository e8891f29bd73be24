/-
What a scope reaches. A rule with a scope is for the URLs with that host and, if the scope is the registrable domain of
their host, for those as well. Nothing else of a URL counts: a name that stands in its user information, port, path,
query or fragment brings no rule into scope. And where a suffix list is in use, a name under which others register names
is never taken for the domain of one of them.

- `Rule.reaches_own_hosts`: a scope reaches the host that it names and hosts below it, and no address but itself.
- `SuffixList.registrable?_crosses_no_suffix`: a registrable domain is not a public suffix and there is none in front of
  it, so a public suffix as a scope reaches only itself.
-/
import CrawlFilter.Proofs.Domain
import CrawlFilter.Proofs.HostGrammar

namespace CrawlFilter

/-! ## Foreign hosts -/

/-- the host of a URL is what the grammar puts there, in normal form -/
theorem Resolver.hostOf_of_hostAt {url h host : Text} {a b : ℕ} (hat : Url.HostAt url a b h)
    (hh : hostOf url = some host) : host = normalizeHost h := by
  obtain ⟨v, hv, -, rfl⟩ := Url.hostAt_iff.1 hat
  obtain ⟨h', hhost, rfl⟩ := Option.map_eq_some_iff.1 hh
  simp only [Url.host?, hv] at hhost
  split_ifs at hhost
  cases hhost
  rfl

/-- **A scope reaches its own hosts only.** If a rule with a scope is for a URL, the URL has a host, and that host is the
scope or is no address and stands below it. This is the host that the grammar of URLs finds; the other parts of the URL
may say anything. -/
theorem Rule.reaches_own_hosts {suffixes : Option SuffixList} {url s : Text} {r : Rule} (hs : r.scope = some s)
    (h : r.inScope ((Resolver.ofSuffixes suffixes).host url) ((Resolver.ofSuffixes suffixes).domain url).toOption = true) :
    (∃ host, (Resolver.ofSuffixes suffixes).host url = some host ∧ Reaches s host) ∧
      ∀ a b name, Url.HostAt url a b name → Reaches s (normalizeHost name) := by
  obtain ⟨host, hh, hr⟩ := Rule.reaches_of_inScope hs h
  refine ⟨⟨host, hh, hr⟩, fun a b name hat => ?_⟩
  rw [← Resolver.hostOf_of_hostAt hat hh]
  exact hr

/-- a rule for a host below its scope, in a URL that names other hosts wherever it can -/
theorem Rule.reaches_own_hosts_shop :
    let r : Rule := ⟨.accept, ⟨[], .empty⟩, some "example.com".toList⟩
    let url := "https://a.org:x@Shop.Example.com.:8080/b.org?c.org#http://d.org/".toList
    r.inScope ((Resolver.ofSuffixes none).host url) ((Resolver.ofSuffixes none).domain url).toOption = true ∧
      ∃ host, (Resolver.ofSuffixes none).host url = some host ∧ Reaches "example.com".toList host := by
  intro r url
  have hin : r.inScope ((Resolver.ofSuffixes none).host url) ((Resolver.ofSuffixes none).domain url).toOption = true := by
    decide
  exact ⟨hin, (Rule.reaches_own_hosts rfl hin).1⟩

-- another name with the same end, the scope in front of another name, and an address
example : ¬ Reaches "example.com".toList "notexample.com".toList ∧
    ¬ Reaches "example.com".toList "example.com.evil.org".toList ∧ ¬ Reaches "0.1".toList "10.0.0.1".toList := by
  decide

/-! ## Public suffixes -/

namespace SuffixList

/-- a public suffix is the domain of no other host -/
theorem eq_of_registrableDomain_eq {l : SuffixList} {host p : Text} (hp : l.Declares p) (hno : ¬ l.isException p)
    (h : registrableDomain (some l) host = p) : host = p := by
  cases hr : l.registrable? host with
  | none => simpa [registrableDomain, hr] using h
  | some d =>
    have hd : d = p := by simpa [registrableDomain, hr] using h
    subst hd
    obtain ⟨-, hex | hde⟩ := stopsAt_of_registrable? hr
    · exact absurd hex hno
    · exact absurd hp hde

/-- **A registrable domain crosses no public suffix.** No rule speaks about a domain of the host that is longer than its
registrable domain, and the registrable domain itself is an exception or is not declared a suffix. So a declared suffix
that is no exception is, as a scope, only for URLs with that very host. -/
theorem registrable?_crosses_no_suffix (l : SuffixList) :
    (∀ host d, l.registrable? host = some d →
      (∀ t, Within t host → d.length < t.length → ¬ l.isException t ∧ ¬ l.Declares t) ∧
        (l.isException d ∨ ¬ l.Declares d)) ∧
    ∀ p, l.Declares p → ¬ l.isException p → ∀ (r : Rule) (url : Text), r.scope = some p →
      r.inScope ((Resolver.ofSuffixes (some l)).host url) ((Resolver.ofSuffixes (some l)).domain url).toOption = true →
        (Resolver.ofSuffixes (some l)).host url = some p := by
  constructor
  · intro host d h
    obtain ⟨hs, hd⟩ := stopsAt_of_registrable? h
    exact ⟨hs.silent, hd⟩
  · intro p hp hno r url hr hin
    obtain ⟨host, hh, rfl | ⟨-, hdom⟩⟩ := (Resolver.inScope_iff_host hr).1 hin
    · exact hh
    · have hhost : host = p := by
        unfold Resolver.domainOfHost at hdom
        split_ifs at hdom
        · exact hdom
        · exact eq_of_registrableDomain_eq hp hno hdom
      rw [← hhost]
      exact hh

/-- below a suffix that a wildcard declares, and for a scope that is a suffix -/
theorem registrable?_crosses_no_suffix_ck :
    let l : SuffixList :=
      ⟨[.exact "blogspot.com".toList, .wildcard "ck".toList, .exception "www.ck".toList], by decide⟩
    let r : Rule := ⟨.accept, ⟨[], .empty⟩, some "blogspot.com".toList⟩
    l.registrable? "www.shop.co.ck".toList = some "shop.co.ck".toList ∧ ¬ l.Declares "shop.co.ck".toList ∧
      r.inScope ((Resolver.ofSuffixes (some l)).host "http://Blogspot.com./x".toList)
        ((Resolver.ofSuffixes (some l)).domain "http://Blogspot.com./x".toList).toOption = true ∧
      (Resolver.ofSuffixes (some l)).host "http://Blogspot.com./x".toList = some "blogspot.com".toList := by
  intro l r
  have hfound : l.registrable? "www.shop.co.ck".toList = some "shop.co.ck".toList := by decide
  have hin : r.inScope ((Resolver.ofSuffixes (some l)).host "http://Blogspot.com./x".toList)
      ((Resolver.ofSuffixes (some l)).domain "http://Blogspot.com./x".toList).toOption = true := by decide
  obtain ⟨hcross, hscope⟩ := registrable?_crosses_no_suffix l
  exact ⟨hfound, (hcross _ _ hfound).2.resolve_left (by decide), hin,
    hscope _ (.inl (by decide)) (by decide) r _ rfl hin⟩

end SuffixList

end CrawlFilter
