/-
Domains of domains. The domain that was found for a host is registrable itself: a look-up for it meets no rule that the
look-up for the host did not meet, and ends at the same place. So a second look-up changes nothing, whichever rules a
list has and however they overlap. Without a list the same holds, since a guess is a look-up among the common suffixes.

- `StopsAt.unique` / `Lookup.unique`: a search ends at one place only, with one answer.
- `StopsAt.restrict`: a search that starts later, and not after the place where it ends, ends at the same place.
- `Lookup.fixed`: what is found for a host is found for itself.
- `registrableDomain_fixed`: so the registrable domain is a fixed point, with every list and without one.
-/
import CrawlFilter.Proofs.CommonSuffixes

namespace CrawlFilter

namespace SuffixList

variable {l : SuffixList} {host : Text}

/-! ## Where a search ends -/

section StopsAt

variable {p q : Text}

/-- no search stops at a longer domain at which another one could stop -/
theorem StopsAt.length_le (hp : l.StopsAt host p) (hq : Within q host)
    (h : l.isException q ∨ l.Declares q ∨ '.' ∉ q) : q.length ≤ p.length := by
  by_contra hlt
  have hlt : p.length < q.length := Nat.not_le.1 hlt
  obtain ⟨hex, hde⟩ := hp.silent q hq hlt
  -- of the three causes to stop there is the last label left, and nothing is shorter than that
  have hdot : '.' ∉ q := (h.resolve_left hex).resolve_left hde
  have hpq : Within p q := hp.within.of_length_le hq hlt.le
  rw [hpq.eq_of_notMem hdot] at hlt
  exact absurd hlt (lt_irrefl _)

theorem StopsAt.unique (hp : l.StopsAt host p) (hq : l.StopsAt host q)
    (hps : l.isException p ∨ l.Declares p ∨ '.' ∉ p) (hqs : l.isException q ∨ l.Declares q ∨ '.' ∉ q) : p = q := by
  apply hp.within.eq_of_length_eq hq.within
  exact Nat.le_antisymm (hq.length_le hp.within hps) (hp.length_le hq.within hqs)

/-- a search that starts later, and not after the place where it ends, ends at the same place -/
theorem StopsAt.restrict {d : Text} (h : l.StopsAt host p) (hd : Within d host) (hp : Within p d) : l.StopsAt d p where
  within := hp
  silent t ht hlt := h.silent t (ht.trans hd) hlt

end StopsAt

theorem Lookup.unique {a b : Option Text} (ha : l.Lookup host a) (hb : l.Lookup host b) : a = b := by
  cases ha with
  | exception hs he =>
    cases hb with
    | exception hs' he' => rw [hs.unique hs' (.inl he) (.inl he')]
    | suffix hs' hno hp _ =>
      obtain rfl := hs.unique hs' (.inl he) (.inr hp)
      exact absurd he hno
  | suffix hs hno hp ha =>
    cases hb with
    | exception hs' he' =>
      obtain rfl := hs.unique hs' (.inr hp) (.inl he')
      exact absurd he' hno
    | suffix hs' _ hp' hb =>
      obtain rfl := hs.unique hs' (.inr hp) (.inr hp')
      exact ha.unique hb

/-- **What is found for a host is found for itself:** an exception as the exception that it is, and a name with one
label more than a suffix by the same suffix. -/
theorem Lookup.fixed {d : Text} (h : l.Lookup host (some d)) : l.Lookup d (some d) := by
  cases h with
  | exception hs he => exact .exception (hs.restrict hs.within (.inl rfl)) he
  | suffix hs hno hp ha =>
    cases ha with
    | child hc hd => exact .suffix (hs.restrict hd hc.within) hno hp (.child hc (.inl rfl))

theorem registrable?_of_registrable? {d : Text} (h : l.registrable? host = some d) : l.registrable? d = some d := by
  have hl := lookup_registrable? l host
  rw [h] at hl
  exact (lookup_registrable? l d).unique hl.fixed

theorem registrableDomain_of_registrableDomain (l : SuffixList) (host : Text) :
    registrableDomain (some l) (registrableDomain (some l) host) = registrableDomain (some l) host := by
  cases h : l.registrable? host with
  | none => simp [registrableDomain, h]
  | some d => simp [registrableDomain, h, registrable?_of_registrable? h]

/-- the list of the common suffixes -/
def common : SuffixList := ⟨commonSuffixes.map .exact, by decide⟩

theorem ofCommon_common : common.OfCommon := by
  intro r
  simp [common, eq_comm]

end SuffixList

/-- **The registrable domain is a fixed point.** With every suffix list and without one, the registrable domain of a
host is its own registrable domain; and a domain that a list gives for a host is given for itself by the same list, so
it is never a suffix of that list. -/
theorem registrableDomain_fixed (host : Text) :
    (∀ suffixes, registrableDomain suffixes (registrableDomain suffixes host) = registrableDomain suffixes host) ∧
      ∀ (l : SuffixList) (d : Text), l.registrable? host = some d → l.registrable? d = some d := by
  refine ⟨fun suffixes => ?_, fun l d h => SuffixList.registrable?_of_registrable? h⟩
  cases suffixes with
  | some l => exact SuffixList.registrableDomain_of_registrableDomain l host
  | none =>
    have hguess : registrableDomain (some .common) = registrableDomain none :=
      funext (SuffixList.registrableDomain_of_common SuffixList.ofCommon_common)
    rw [← hguess]
    exact SuffixList.registrableDomain_of_registrableDomain .common host

/-- a wildcard with an exact rule and an exception below it: a host under a name that the wildcard makes a suffix, and
one under the exception -/
theorem registrableDomain_fixed_ck :
    ∃ l, SuffixList.read (.ofText "*.ck\n!www.ck\nshop.b.ck\n".toList) = .ok l ∧
      (l.registrable? "a.x.b.ck".toList = some "x.b.ck".toList ∧
        l.registrable? "x.b.ck".toList = some "x.b.ck".toList) ∧
      (l.registrable? "a.www.ck".toList = some "www.ck".toList ∧
        l.registrable? "www.ck".toList = some "www.ck".toList) := by
  refine ⟨⟨[.exact "shop.b.ck".toList, .exception "www.ck".toList, .wildcard "ck".toList], by decide⟩, rfl,
    ⟨rfl, ?_⟩, rfl, ?_⟩
  · exact (registrableDomain_fixed "a.x.b.ck".toList).2 _ _ rfl
  · exact (registrableDomain_fixed "a.www.ck".toList).2 _ _ rfl

end CrawlFilter
