/-
Spellings of one name. A scope line and a URL each write a host name in their own way: in capitals or not, with dots
behind it, and on the line with blanks around it. The line is trimmed where it is read and then normalized; the host is
cut out of its URL and then normalized. Both ways end at the name in lower case, so scopes and hosts are compared as if
they were spelled alike.

- `Spells.normalizeHost_eq`: every spelling of a name is normalized to the name in lower case.
- `Spells.hostPart`: in a URL, every spelling of a host name is a host as a whole.
- `RuleFile.scope_ignores_spelling`: how a scope line spells a name makes no difference to any rule, how a URL spells it
  makes none to its host and domain, and the rules below the line are for the URL.
-/
import CrawlFilter.Proofs.HostGrammar
import CrawlFilter.Proofs.SectionEdit

namespace CrawlFilter

open Lines (Ended)

/-! ## Spellings -/

/-- a name that a scope line and a URL can both spell: something bare that no character in it cuts short -/
structure HostName (h : Text) : Prop extends Bare h where
  ne_nil : h ≠ []
  no_bracket : h.head? ≠ some '['
  free : Url.Free [':', '@', '/', '?', '#'] h
  one_line : '\n' ∉ h

/-- the name in some case, with any number of dots behind it -/
def Spells (x h : Text) : Prop :=
  ∃ k m, x = k ++ List.replicate m '.' ∧ Text.lowerAscii k = Text.lowerAscii h

/-- blanks within a line -/
def Padding (w : Text) : Prop := ∀ c ∈ w, Text.isBlank c = true ∧ c ≠ '\n'

instance (w : Text) : Decidable (Padding w) :=
  List.decidableBAll (fun c => Text.isBlank c = true ∧ c ≠ '\n') w

namespace Spells

variable {x h : Text}

/-- a spelling holds the same characters as the name, dots and letters apart -/
theorem mem_iff (hx : Spells x h) {c : Char} (hc : c.isAlpha = false) (hd : c ≠ '.') : c ∈ x ↔ c ∈ h := by
  obtain ⟨k, m, rfl, hk⟩ := hx
  have hm : c ∉ List.replicate m '.' := fun hm => hd (List.eq_of_mem_replicate hm)
  rw [List.mem_append, or_iff_left hm, ← Text.mem_lowerAscii_iff hc, hk, Text.mem_lowerAscii_iff hc]

theorem ne_nil (hx : Spells x h) (hh : h ≠ []) : x ≠ [] := by
  obtain ⟨k, m, rfl, hk⟩ := hx
  rw [Ne, List.append_eq_nil_iff, ← Text.lowerAscii_eq_nil_iff, hk, Text.lowerAscii_eq_nil_iff]
  exact fun e => hh e.1

theorem head?_ne (hx : Spells x h) (hh : h ≠ []) {c : Char} (hc : c.isAlpha = false) (hd : h.head? ≠ some c) :
    x.head? ≠ some c := by
  obtain ⟨k, m, rfl, hk⟩ := hx
  have hne : k ≠ [] := by rwa [Ne, ← Text.lowerAscii_eq_nil_iff, hk, Text.lowerAscii_eq_nil_iff]
  rw [List.head?_append_of_ne_nil _ hne, Ne, ← Text.head?_lowerAscii_iff hc, hk, Text.head?_lowerAscii_iff hc]
  exact hd

/-- the case of a spelling is of no account, and of its end only the number of dots -/
theorem exists_normalizeHost_eq (hx : Spells x h) : ∃ m, normalizeHost x = normalizeHost (h ++ List.replicate m '.') := by
  obtain ⟨k, m, rfl, hk⟩ := hx
  exact ⟨m, normalizeHost_congr (by rw [Text.lowerAscii_append, hk, Text.lowerAscii_append])⟩

/-- **Every spelling of a name** is normalized to the name in lower case, blanks around it or not. -/
theorem normalizeHost_eq {w₁ w₂ : Text} (hx : Spells x h) (hh : Bare h) (hw₁ : Padding w₁) (hw₂ : Padding w₂) :
    normalizeHost (w₁ ++ x ++ w₂) = Text.lowerAscii h := by
  obtain ⟨m, hm⟩ := hx.exists_normalizeHost_eq
  have htrim : Text.trim (w₁ ++ x ++ w₂) = Text.trim x := by
    rw [Text.trim_append_blanks fun c hc => (hw₂ c hc).1, Text.trim_blanks_append fun c hc => (hw₁ c hc).1]
  calc normalizeHost (w₁ ++ x ++ w₂)
      = normalizeHost x := by rw [← normalizeHost_trim, htrim, normalizeHost_trim]
    _ = normalizeHost (h ++ List.replicate m '.') := hm
    _ = Text.lowerAscii h := normalizeHost_append_dots hh m

theorem notMem_newline {w₁ w₂ : Text} (hx : Spells x h) (hh : HostName h) (hw₁ : Padding w₁) (hw₂ : Padding w₂) :
    '\n' ∉ w₁ ++ x ++ w₂ := by
  rw [List.mem_append, List.mem_append, hx.mem_iff (by decide) (by decide)]
  rintro ((hm | hm) | hm)
  · exact (hw₁ _ hm).2 rfl
  · exact hh.one_line hm
  · exact (hw₂ _ hm).2 rfl

theorem hostPart {p : Text} (hx : Spells x h) (hh : HostName h) (hp : Url.PortText p) : Url.HostPart [] x p := by
  refine .plain (hx.head?_ne hh.ne_nil (by decide) hh.no_bracket) (fun c hc hm => ?_) hp
  have hends : ∀ c ∈ [':', '@', '/', '?', '#'], c.isAlpha = false ∧ c ≠ '.' := by simp
  exact hh.free c ((hx.mem_iff (hends c hm).1 (hends c hm).2).1 hc) hm

end Spells

/-! ## Hosts of URLs -/

/-- the text is a URL with `y` between its user information and its port, where a host name stands -/
def Url.Naming (y url : Text) : Prop :=
  ∃ s u p r, url = s ++ "://".toList ++ u ++ y ++ p ++ r ∧ SchemeText s ∧ UserText u ∧ PortText p ∧ AfterText r

namespace Resolver

variable {h y url : Text}

theorem hostOf_of_spells (hy : Spells y h) (hh : HostName h) (hurl : Url.Naming y url) :
    hostOf url = some (Text.lowerAscii h) := by
  obtain ⟨s, u, p, r, rfl, hs, hu, hp, hr⟩ := hurl
  have hhost := Url.host?_of_parts hs hu (hy.hostPart hh hp) hr (hy.ne_nil hh.ne_nil)
  rw [List.append_nil] at hhost
  have hnil : Padding [] := by decide
  have hnorm := hy.normalizeHost_eq hh.toBare hnil hnil
  rw [List.nil_append, List.append_nil] at hnorm
  rw [hostOf, hhost, Option.map_some, hnorm]

theorem domainOf_of_spells (hy : Spells y h) (hh : HostName h) (hurl : Url.Naming y url)
    (suffixes : Option SuffixList) : domainOf suffixes url = .ok (domainOfHost suffixes (Text.lowerAscii h)) :=
  domainOf_eq_ok_iff.2 ⟨_, hostOf_of_spells hy hh hurl, fun e => hh.ne_nil (Text.lowerAscii_eq_nil_iff.1 e), rfl⟩

end Resolver

/-! ## Scopes of rules -/

namespace RuleFile

variable {h w₁ x w₂ y url a b c : Text}

/-- **A scope ignores how names are spelled.** A scope line may write a host name in any case, with blanks around it and
dots at its end: the file is read as if the line held the name itself, and the rules between it and the next scope line
have the name in lower case for their scope. A URL may write the name in any case and with dots at its end: its host is
the name in lower case, its domain is that of this host, and the rules are for it. -/
theorem scope_ignores_spelling (hh : HostName h) (hx : Spells x h) (hw₁ : Padding w₁) (hw₂ : Padding w₂)
    (hy : Spells y h) (hurl : Url.Naming y url) (ha : Ended '\n' a) (hn : NoScopeLine b) (hb : Ended '\n' b ∨ c = [])
    (f : Flavor) (suffixes : Option SuffixList) :
    let resolver := Resolver.ofSuffixes suffixes
    resolver.host url = some (Text.lowerAscii h) ∧
    resolver.domain url = .ok (Resolver.domainOfHost suffixes (Text.lowerAscii h)) ∧
    parse f (withScope a (w₁ ++ x ++ w₂) (b ++ c)) = parse f (withScope a h (b ++ c)) ∧
    ∀ rs, parse f (withScope a (w₁ ++ x ++ w₂) (b ++ c)) = .ok rs →
      ∃ ra rb rc, parse f a = .ok ra ∧ parse f b = .ok rb ∧
        rs = ra ++ rb.map ({ · with scope := some (Text.lowerAscii h) }) ++ rc ∧
        ∀ r ∈ rb.map ({ · with scope := some (Text.lowerAscii h) }),
          r.inScope (resolver.host url) (resolver.domain url).toOption = true := by
  intro resolver
  have hhost : resolver.host url = some (Text.lowerAscii h) := Resolver.hostOf_of_spells hy hh hurl
  have hline := hx.notMem_newline hh hw₁ hw₂
  have hspelled := hx.normalizeHost_eq hh.toBare hw₁ hw₂
  have hplain : normalizeHost h = Text.lowerAscii h := by simpa using normalizeHost_append_dots hh.toBare 0
  refine ⟨hhost, Resolver.domainOf_of_spells hy hh hurl suffixes, ?_, fun rs hrs => ?_⟩
  · rw [parse, parse, read_withScope _ ha hline, read_withScope _ ha hh.one_line, hspelled, hplain]
  · obtain ⟨ra, rb, rc, h1, h2, -, rfl⟩ := (parse_withScope_iff ha hline hb hn).1 hrs
    rw [hspelled]
    refine ⟨ra, rb, rc, h1, h2, rfl, fun r hr => ?_⟩
    obtain ⟨q, -, rfl⟩ := List.mem_map.1 hr
    exact (Rule.inScope_iff _ _ _).2 (.inr ⟨_, rfl, .inl hhost⟩)

/-- a name in two spellings, with user information and a port around the one and another scope below the other -/
theorem scope_ignores_spelling_shop :
    let file := withScope "+q\n".toList ("\t ".toList ++ "Shop.EXAMPLE.com..".toList ++ " \r".toList)
      ("-b\n#\n+\n".toList ++ ">other.org\n+z".toList)
    let url := "https://me:x@SHOP.Example.com.:8080/b?q#z".toList
    (Resolver.ofSuffixes none).host url = some "shop.example.com".toList ∧
      (Resolver.ofSuffixes none).domain url = .ok "example.com".toList ∧
      ∃ rs ra rb rc, parse .basic file = .ok rs ∧ rs = ra ++ rb ++ rc ∧ ra.length = 1 ∧ rb.length = 2 ∧
        ∀ r ∈ rb, r.inScope (some "shop.example.com".toList) (some "example.com".toList) = true := by
  intro file url
  have hh : HostName "shop.example.com".toList :=
    { head := by rintro _ ⟨rfl⟩; decide
      last := by rintro _ ⟨rfl⟩; decide
      ne_nil := by decide
      no_bracket := by decide
      free := by decide
      one_line := by decide }
  have hx : Spells "Shop.EXAMPLE.com..".toList "shop.example.com".toList :=
    ⟨"Shop.EXAMPLE.com".toList, 2, rfl, by decide⟩
  have hy : Spells "SHOP.Example.com.".toList "shop.example.com".toList :=
    ⟨"SHOP.Example.com".toList, 1, rfl, by decide⟩
  have hurl : Url.Naming "SHOP.Example.com.".toList url :=
    ⟨"https".toList, "me:x@".toList, ":8080".toList, "/b?q#z".toList, rfl, Url.isScheme_iff.1 rfl,
      ⟨.inr rfl, by decide⟩, .inr ⟨"8080".toList, rfl, by decide⟩, by decide⟩
  have hw₁ : Padding "\t ".toList := by decide
  have hw₂ : Padding " \r".toList := by decide
  obtain ⟨hhost, hdomain, -, hrules⟩ := scope_ignores_spelling (a := "+q\n".toList) (b := "-b\n#\n+\n".toList)
    (c := ">other.org\n+z".toList) hh hx hw₁ hw₂ hy hurl (.inr rfl) (by decide) (.inl (.inr rfl)) .basic none
  obtain ⟨ra, rb, rc, ha, hb, hrs, hin⟩ := hrules _ rfl
  obtain rfl := Except.ok.inj ha
  obtain rfl := Except.ok.inj hb
  rw [hhost, hdomain] at hin
  exact ⟨hhost, hdomain, _, _, _, _, rfl, hrs, rfl, rfl, hin⟩

end RuleFile

end CrawlFilter
