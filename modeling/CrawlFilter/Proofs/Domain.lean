/-
Domains of hosts. Whatever list is used, or none, the domain of a host is made of the host's last labels, so a host
lies within its domain: it is the domain or ends in a dot and the domain. A scope is compared with a host and its
domain only, so it reaches no host that does not lie within it.

- `within_lastItems`: a host lies within what its last labels make.
- `within_registrableDomain`: a host lies within its registrable domain.
- `inScope_iff_host`: a rule with a scope is for the URLs whose host is the scope or has it for its domain.
- `reaches_of_inScope` / `within_of_inScope`: it is for URLs only whose host the scope reaches, so their host lies within
  the scope, and is the scope if it is an address.
-/
import CrawlFilter.Proofs.SuffixLookup
import CrawlFilter.Resolver
import CrawlFilter.Rule

namespace CrawlFilter

theorem within_of_registrable? {l : SuffixList} {host d : Text} (h : l.registrable? host = some d) :
    Within d host :=
  (SuffixList.stopsAt_of_registrable? h).1.within

theorem lastItems_labels_ne_nil (host : Text) {n : ℕ} (hn : 0 < n) : lastItems n (labels host) ≠ [] := by
  have hpos := List.length_pos_iff.2 (labels_ne_nil host)
  rw [lastItems, Ne, List.drop_eq_nil_iff]
  omega

theorem within_lastItems (host : Text) {n : ℕ} (hn : 0 < n) : Within (ofLabels (lastItems n (labels host))) host := by
  have hw := within_ofLabels (List.drop_suffix _ _) (lastItems_labels_ne_nil host hn)
  rwa [ofLabels_labels] at hw

theorem within_guessDomain (host : Text) : Within (guessDomain host) host := by
  unfold guessDomain
  simp only
  split_ifs
  · exact within_lastItems host (by decide)
  · exact within_lastItems host (by decide)

/-- **A host lies within its registrable domain.** -/
theorem within_registrableDomain (suffixes : Option SuffixList) (host : Text) :
    Within (registrableDomain suffixes host) host := by
  unfold registrableDomain
  split
  · rename_i l
    cases h : l.registrable? host with
    | none => exact Or.inl rfl
    | some d => exact within_of_registrable? h
  · exact within_guessDomain host

/-! ## Scopes -/

/-- the hosts that a scope reaches: the one that it names and, unless they are addresses, those below it -/
def Reaches (scope host : Text) : Prop :=
  host = scope ∨ isAddress host = false ∧ '.' :: scope <:+ host

instance (scope host : Text) : Decidable (Reaches scope host) :=
  inferInstanceAs (Decidable (host = scope ∨ isAddress host = false ∧ '.' :: scope <:+ host))

theorem Reaches.within {scope host : Text} (h : Reaches scope host) : Within scope host :=
  h.imp_right And.right

namespace Resolver

variable {suffixes : Option SuffixList} {url : Text}

theorem domainOf_eq_ok_iff {d : Text} :
    domainOf suffixes url = .ok d ↔ ∃ host, hostOf url = some host ∧ host ≠ [] ∧ d = domainOfHost suffixes host := by
  unfold domainOf
  split
  · rename_i h
    simp [h]
  · rename_i h
    simp [h]
  · rename_i c cs h
    simp [h, eq_comm]

/-- the domain of an address is the address, so it reaches no other host -/
theorem reaches_domainOfHost (suffixes : Option SuffixList) (host : Text) :
    Reaches (domainOfHost suffixes host) host := by
  unfold domainOfHost
  split_ifs with h
  · exact Or.inl rfl
  · rcases within_registrableDomain suffixes host with hw | hw
    · exact Or.inl hw
    · exact Or.inr ⟨Bool.eq_false_iff.2 h, hw⟩

theorem inScope_iff_host {r : Rule} {s : Text} (hs : r.scope = some s) :
    r.inScope (hostOf url) (domainOf suffixes url).toOption = true ↔
      ∃ host, hostOf url = some host ∧ (host = s ∨ host ≠ [] ∧ domainOfHost suffixes host = s) := by
  have hdom : (domainOf suffixes url).toOption = some s ↔ domainOf suffixes url = .ok s := by
    cases domainOf suffixes url <;> simp [Except.toOption]
  rw [Rule.inScope_iff, hs]
  simp only [reduceCtorEq, Option.some.injEq, false_or, exists_eq_left', hdom, domainOf_eq_ok_iff]
  constructor
  · rintro (h | ⟨host, h, hne, rfl⟩)
    · exact ⟨s, h, Or.inl rfl⟩
    · exact ⟨host, h, Or.inr ⟨hne, rfl⟩⟩
  · rintro ⟨host, h, rfl | ⟨hne, rfl⟩⟩
    · exact Or.inl h
    · exact Or.inr ⟨host, h, hne, rfl⟩

end Resolver

theorem Rule.reaches_of_inScope {suffixes : Option SuffixList} {url s : Text} {r : Rule} (hs : r.scope = some s)
    (h : r.inScope (Resolver.hostOf url) (Resolver.domainOf suffixes url).toOption = true) :
    ∃ host, Resolver.hostOf url = some host ∧ Reaches s host := by
  obtain ⟨host, hh, rfl | ⟨-, rfl⟩⟩ := (Resolver.inScope_iff_host hs).1 h
  · exact ⟨host, hh, Or.inl rfl⟩
  · exact ⟨host, hh, Resolver.reaches_domainOfHost suffixes host⟩

/-- **A scope reaches no foreign host.** -/
theorem Rule.within_of_inScope {suffixes : Option SuffixList} {url s : Text} {r : Rule} (hs : r.scope = some s)
    (h : r.inScope (Resolver.hostOf url) (Resolver.domainOf suffixes url).toOption = true) :
    ∃ host, Resolver.hostOf url = some host ∧ Within s host := by
  obtain ⟨host, hh, hr⟩ := Rule.reaches_of_inScope hs h
  exact ⟨host, hh, hr.within⟩

end CrawlFilter
