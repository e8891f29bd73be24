/-
Domains without a suffix list. Where no list is in use, the domain of a host is guessed from a short table of suffixes of
two labels. The guess counts labels from the end and looks nothing up but the last two; a look-up goes through the host
from the front. Both find the same, so using no list is using the list of that table.

- `registrableDomain_of_common`: a look-up in a list of just the common suffixes finds what is guessed.
- `guess_agrees_with_common_list`: a text with the common suffixes on its lines is read as such a list, and hosts,
  domains and decisions are then the same with it and without a list.
-/
import CrawlFilter.Engine
import CrawlFilter.Proofs.Domain
import CrawlFilter.Proofs.SuffixReading

namespace CrawlFilter

/-! ## Last labels -/

theorem eq_lastItems_of_suffix {α : Type} {l ks : List α} (h : l <:+ ks) : l = lastItems l.length ks :=
  List.suffix_iff_eq_drop.1 h

theorem length_lastItems_one (host : Text) : (lastItems 1 (labels host)).length = 1 := by
  have hpos := List.length_pos_iff.2 (labels_ne_nil host)
  rw [lastItems, List.length_drop]
  omega

/-- the last `n` labels of a host make a domain whose next longer one, if there is any, is made by its last `n + 1` -/
theorem oneMore_lastItems (host : Text) {n : ℕ} (hn : 0 < n) :
    ∃ a, OneMore host (ofLabels (lastItems n (labels host))) a ∧
      a.getD host = ofLabels (lastItems (n + 1) (labels host)) := by
  have hl : labels host = (labels host).take ((labels host).length - n) ++ lastItems n (labels host) :=
    (List.take_append_drop _ _).symm
  refine ⟨_, SuffixList.oneMore_ofLabels hl (lastItems_labels_ne_nil host hn), ?_⟩
  generalize hp : (labels host).take ((labels host).length - n) = pre at hl
  have hlen := congrArg List.length hp
  rw [List.length_take] at hlen
  rcases List.eq_nil_or_concat pre with rfl | ⟨pre', y, rfl⟩
  · -- there are no more than `n` labels
    have hall : lastItems (n + 1) (labels host) = labels host := by
      rw [List.length_nil] at hlen
      rw [lastItems, show (labels host).length - (n + 1) = 0 by omega, List.drop_zero]
    rw [hall, ofLabels_labels]
    rfl
  · rw [List.concat_eq_append] at hl hlen ⊢
    rw [List.length_append, List.length_singleton] at hlen
    have hsuf : y :: lastItems n (labels host) <:+ labels host := ⟨pre', by simpa using hl.symm⟩
    have hlast : (y :: lastItems n (labels host)).length = n + 1 := by
      rw [List.length_cons, lastItems, List.length_drop]
      omega
    have he := eq_lastItems_of_suffix hsuf
    rw [hlast] at he
    rw [← he]
    simp

/-! ## A list of the common suffixes -/

namespace SuffixList

/-- a list that has the common suffixes as exact rules, and no other rule -/
def OfCommon (l : SuffixList) : Prop := ∀ r, r ∈ l.rules ↔ ∃ p ∈ commonSuffixes, r = .exact p

theorem length_labels_of_mem_commonSuffixes : ∀ p ∈ commonSuffixes, (labels p).length = 2 := by decide

variable {l : SuffixList}

theorem OfCommon.declares_iff (h : l.OfCommon) {p : Text} : l.Declares p ↔ p ∈ commonSuffixes := by
  simp [Declares, isExact, isWildcard, h _]

theorem OfCommon.not_isException (h : l.OfCommon) (p : Text) : ¬ l.isException p := by
  simp [isException, h _]

/-- a domain that is a common suffix is made by the last two labels -/
theorem OfCommon.eq_of_declares (h : l.OfCommon) {host p : Text} (hw : Within p host) (hp : l.Declares p) :
    p = ofLabels (lastItems 2 (labels host)) := by
  have he := eq_lastItems_of_suffix (within_iff_labels.1 hw)
  rw [length_labels_of_mem_commonSuffixes p (h.declares_iff.1 hp)] at he
  rw [← he, ofLabels_labels]

/-- the public suffix of a host are its last two labels if they are a common suffix, and otherwise the last -/
theorem OfCommon.publicSuffix (h : l.OfCommon) (host : Text) :
    l.PublicSuffix host (ofLabels (lastItems
      (if ofLabels (lastItems 2 (labels host)) ∈ commonSuffixes then 2 else 1) (labels host))) := by
  split_ifs with hc
  · refine .inl ⟨⟨within_lastItems host (by decide), h.declares_iff.2 hc⟩, fun q hq => ?_⟩
    rw [h.eq_of_declares hq.1 hq.2]
  · refine .inr ⟨fun q hw hq => ?_, within_lastItems host (by decide), ?_⟩
    · exact hc (h.eq_of_declares hw hq ▸ h.declares_iff.1 hq)
    · obtain ⟨x, hx⟩ := List.length_eq_one_iff.1 (length_lastItems_one host)
      rw [hx, ofLabels_singleton]
      have hsuf : [x] <:+ labels host := hx ▸ List.drop_suffix _ _
      exact dot_notMem_of_mem_labels (hsuf.subset List.mem_cons_self)

/-- **A look-up among the common suffixes** finds what is guessed without a list. -/
theorem registrableDomain_of_common (h : l.OfCommon) (host : Text) :
    registrableDomain (some l) host = guessDomain host := by
  obtain ⟨a, ha, hd⟩ := oneMore_lastItems host
    (n := if ofLabels (lastItems 2 (labels host)) ∈ commonSuffixes then 2 else 1) (by split <;> decide)
  have ho : ¬ l.Overtaken host := fun ho => h.not_isException _ ho.1.choose_spec.2
  have hfound : l.Prescribed host (l.registrable? host) := (lookup_registrable? l host).prescribed_iff.2 ho
  have hguess : l.Prescribed host a := .suffix (fun e _ => h.not_isException e) ⟨_, h.publicSuffix host, ha⟩
  rw [registrableDomain, hfound.unique hguess, hd, guessDomain]
  split_ifs <;> rfl

/-! ## Reading the common suffixes -/

theorem ofText_of_mem_commonSuffixes : ∀ p ∈ commonSuffixes, SuffixLine.ofText p = .rule (.exact p) := by decide

/-- a text with the common suffixes on its lines is read as their list -/
theorem exists_read_ofCommon {t : Text} (ht : t.lines = commonSuffixes) :
    ∃ l, read (.ofText t) = .ok l ∧ l.OfCommon := by
  have hread : ∀ x ∈ Input.ofText t, Readable x := by
    intro x hx
    obtain ⟨p, hp, rfl⟩ := List.mem_map.1 hx
    refine ⟨p, rfl, ?_⟩
    rw [ofText_of_mem_commonSuffixes p (ht ▸ hp)]
    exact SuffixLine.noConfusion
  obtain ⟨l, hl⟩ := exists_readFrom_iff.2 hread
  refine ⟨l, hl, fun r => ?_⟩
  rw [mem_rules_of_read_ofText hl, ht]
  constructor
  · rintro ⟨p, hp, h⟩
    rw [ofText_of_mem_commonSuffixes p hp] at h
    exact ⟨p, hp, (SuffixLine.rule.inj h).symm⟩
  · rintro ⟨p, hp, rfl⟩
    exact ⟨p, hp, ofText_of_mem_commonSuffixes p hp⟩

end SuffixList

/-- **No list is the list of the common suffixes.** A text with the common suffixes on its lines is read as a suffix
list, and with it every host has the domain that is guessed without a list. So the resolver that uses this list and the
one that uses none give every URL the same host and the same domain, and engines that ask them decide alike. -/
theorem guess_agrees_with_common_list {t : Text} (ht : t.lines = commonSuffixes) :
    ∃ l, SuffixList.read (.ofText t) = .ok l ∧
      (∀ host, registrableDomain none host = registrableDomain (some l) host) ∧
      (∀ url, (Resolver.ofSuffixes none).host url = (Resolver.ofSuffixes (some l)).host url ∧
        (Resolver.ofSuffixes none).domain url = (Resolver.ofSuffixes (some l)).domain url) ∧
      ∀ (rules : List Rule) (url : Text),
        (Engine.mk rules (.ofSuffixes none)).evaluate url = (Engine.mk rules (.ofSuffixes (some l))).evaluate url := by
  obtain ⟨l, hl, hc⟩ := SuffixList.exists_read_ofCommon ht
  have hdomain : registrableDomain none = registrableDomain (some l) :=
    funext fun host => (SuffixList.registrableDomain_of_common hc host).symm
  have hresolver : Resolver.ofSuffixes none = Resolver.ofSuffixes (some l) := by
    unfold Resolver.ofSuffixes Resolver.domainOf Resolver.domainOfHost
    rw [hdomain]
  refine ⟨l, hl, congrFun hdomain, fun url => ?_, fun rules url => ?_⟩
  · rw [hresolver]
    exact ⟨rfl, rfl⟩
  · rw [hresolver]

/-- the common suffixes, each on a line that is ended: a host with an empty label below one of them -/
theorem guess_agrees_with_common_list_co_uk :
    Text.lines (commonSuffixes.flatMap (· ++ ['\n'])) = commonSuffixes ∧
      ∃ l, SuffixList.read (.ofText (commonSuffixes.flatMap (· ++ ['\n']))) = .ok l ∧
        registrableDomain none "www.shop..co.uk".toList = ".co.uk".toList ∧
        registrableDomain (some l) "www.shop..co.uk".toList = ".co.uk".toList := by
  have ht : Text.lines (commonSuffixes.flatMap (· ++ ['\n'])) = commonSuffixes := by decide
  obtain ⟨l, hl, hdomain, -⟩ := guess_agrees_with_common_list ht
  have hguess : registrableDomain none "www.shop..co.uk".toList = ".co.uk".toList := by decide
  exact ⟨ht, l, hl, hguess, by rw [← hdomain, hguess]⟩

end CrawlFilter
