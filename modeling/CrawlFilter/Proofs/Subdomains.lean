/-
Registrable domains and the hosts below them, where no suffix list is in use. The domain of a host is guessed from its
last labels: three where the last two are a common suffix, and two otherwise. So a name of two labels that is no common
suffix, and a name one label below a common suffix, is the domain of every host below it, however deep that host stands.

- `guessDomain_of_within`: the guess for all hosts that lie within such a name.
- `Spells.within_of_below`: a host below a name lies within it once it is normalized, in whatever way it is spelled.
- `Resolver.scope_covers_subdomains`: so a rule whose scope is such a name is for every URL with a host below it.
-/
import CrawlFilter.Proofs.CommonSuffixes
import CrawlFilter.Proofs.Spelling

namespace CrawlFilter

/-! ## Guessed domains -/

/-- a name of one label more than the suffix that is guessed for it -/
def Registrable (d : Text) : Prop :=
  (labels d).length = 2 ∧ d ∉ commonSuffixes ∨
    (labels d).length = 3 ∧ ofLabels (lastItems 2 (labels d)) ∈ commonSuffixes

instance (d : Text) : Decidable (Registrable d) :=
  inferInstanceAs (Decidable ((labels d).length = 2 ∧ d ∉ commonSuffixes ∨
    (labels d).length = 3 ∧ ofLabels (lastItems 2 (labels d)) ∈ commonSuffixes))

theorem Registrable.ne_nil {d : Text} (h : Registrable d) : d ≠ [] := by
  rintro rfl
  exact absurd h (by decide)

/-- the last items of a list are the last items of what it ends in, if that is long enough -/
theorem lastItems_of_suffix {α : Type} {n : ℕ} {l ks : List α} (h : l <:+ ks) (hn : n ≤ l.length) :
    lastItems n ks = lastItems n l := by
  have he := eq_lastItems_of_suffix ((List.drop_suffix (l.length - n) l).trans h)
  have hlen : (l.drop (l.length - n)).length = n := by
    rw [List.length_drop]
    omega
  rw [hlen] at he
  exact he.symm

/-- **All hosts within a registrable name** have it for their guessed domain. -/
theorem guessDomain_of_within {d host : Text} (hd : Registrable d) (hw : Within d host) : guessDomain host = d := by
  have hs := within_iff_labels.1 hw
  have hall := eq_lastItems_of_suffix hs
  unfold guessDomain
  rcases hd with ⟨hlen, hno⟩ | ⟨hlen, hcommon⟩
  · rw [hlen] at hall
    simp only [← hall, ofLabels_labels, if_neg hno]
  · rw [hlen] at hall
    have h2 : lastItems 2 (labels host) = lastItems 2 (labels d) := lastItems_of_suffix hs (by omega)
    simp only [h2, if_pos hcommon, ← hall, ofLabels_labels]

/-! ## Hosts below a name -/

/-- what stands in front of a bare name leaves it bare, but for the blanks at the front -/
theorem Bare.below {d : Text} (hb : Bare d) (hne : d ≠ []) (p : Text) :
    Bare (p.dropWhile Text.isBlank ++ '.' :: d) where
  head := by
    intro c hc
    have hp := List.head?_dropWhile_not Text.isBlank p
    cases hq : p.dropWhile Text.isBlank with
    | nil =>
      rw [hq] at hc
      obtain rfl : '.' = c := Option.some.inj hc
      decide
    | cons y ys =>
      rw [hq] at hc hp
      obtain rfl : y = c := Option.some.inj hc
      simpa using hp
  last := by
    intro c hc
    rw [List.getLast?_append_of_ne_nil _ (List.cons_ne_nil '.' d), List.getLast?_cons_of_ne_nil hne] at hc
    exact hb.last c hc

/-- **A host below a name** lies within it once both are in normal form, in whatever way the host is spelled. -/
theorem Spells.within_of_below {x p d : Text} (hx : Spells x (p ++ '.' :: d)) (hd : normalizeHost d = d) (hne : d ≠ []) :
    Within d (normalizeHost x) := by
  obtain ⟨hb, hlower⟩ := normalizeHost_eq_self_iff.1 hd
  obtain ⟨m, hm⟩ := hx.exists_normalizeHost_eq
  have htrim : Text.trim (p ++ '.' :: d ++ List.replicate m '.') =
      Text.trim (p.dropWhile Text.isBlank ++ '.' :: d ++ List.replicate m '.') := by
    conv_lhs => rw [← List.takeWhile_append_dropWhile (p := Text.isBlank) (l := p)]
    rw [List.append_assoc, List.append_assoc, Text.trim_blanks_append fun c hc => List.mem_takeWhile_imp hc,
      List.append_assoc]
  have hnormal : normalizeHost x = Text.lowerAscii (p.dropWhile Text.isBlank) ++ '.' :: d := by
    calc normalizeHost x
        = normalizeHost (p ++ '.' :: d ++ List.replicate m '.') := hm
      _ = normalizeHost (p.dropWhile Text.isBlank ++ '.' :: d ++ List.replicate m '.') := by
          rw [← normalizeHost_trim, htrim, normalizeHost_trim]
      _ = Text.lowerAscii (p.dropWhile Text.isBlank ++ '.' :: d) := normalizeHost_append_dots (hb.below hne p) m
      _ = Text.lowerAscii (p.dropWhile Text.isBlank) ++ '.' :: d := by
          rw [Text.lowerAscii_append]
          exact congrArg (_ ++ '.' :: ·) hlower
  rw [hnormal]
  exact .inr (List.suffix_append _ _)

/-! ## Scopes -/

/-- **A scope covers what is below it.** A rule has a registrable name in normal form for its scope. The host of a URL
stands below this name, at any depth and in any spelling, and its normal form is no address. Then the name is the domain
of the URL, and the rule is for it. -/
theorem Resolver.scope_covers_subdomains {d p x url : Text} (hd : normalizeHost d = d) (hr : Registrable d)
    (hx : Spells x (p ++ '.' :: d)) (hurl : Url.host? url = some x) (hip : isAddress (normalizeHost x) = false) :
    let resolver := Resolver.ofSuffixes none
    resolver.domain url = .ok d ∧
      ∀ r : Rule, r.scope = some d → r.inScope (resolver.host url) (resolver.domain url).toOption = true := by
  intro resolver
  have hw := hx.within_of_below hd hr.ne_nil
  have hhost : hostOf url = some (normalizeHost x) := by rw [hostOf, hurl, Option.map_some]
  have hne : normalizeHost x ≠ [] := by
    intro e
    have hlen := hw.length_le
    rw [e, List.length_nil, Nat.le_zero, List.length_eq_zero_iff] at hlen
    exact hr.ne_nil hlen
  have hdomain : d = domainOfHost none (normalizeHost x) := by
    rw [domainOfHost, hip]
    exact (guessDomain_of_within hr hw).symm
  refine ⟨domainOf_eq_ok_iff.2 ⟨_, hhost, hne, hdomain⟩, fun r hs => ?_⟩
  exact (inScope_iff_host hs).2 ⟨_, hhost, .inr ⟨hne, hdomain.symm⟩⟩

/-- a name below a common suffix, and a host with a blank in front and an empty label in it -/
theorem Resolver.scope_covers_subdomains_co_uk :
    let url := "http://me@ A..b.Example.CO.uk..:80/".toList
    let r : Rule := ⟨.accept, ⟨[], .empty⟩, some "example.co.uk".toList⟩
    (Resolver.ofSuffixes none).host url = some "a..b.example.co.uk".toList ∧
      (Resolver.ofSuffixes none).domain url = .ok "example.co.uk".toList ∧
      r.inScope ((Resolver.ofSuffixes none).host url) ((Resolver.ofSuffixes none).domain url).toOption = true := by
  intro url r
  have hx : Spells " A..b.Example.CO.uk..".toList (" a..B".toList ++ '.' :: "example.co.uk".toList) :=
    ⟨" A..b.Example.CO.uk".toList, 2, rfl, by decide⟩
  have hurl : Url.host? url = some " A..b.Example.CO.uk..".toList := rfl
  obtain ⟨hdomain, hscope⟩ := scope_covers_subdomains (by decide) (by decide) hx hurl (by decide)
  exact ⟨by decide, hdomain, hscope r rfl⟩

end CrawlFilter
