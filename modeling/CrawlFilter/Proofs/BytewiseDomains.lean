/-
Domains found by the places of labels. The places after the dots of a host are those at which its labels begin, one for
each label, and they are between characters. So every label that the look-up in a list of suffixes asks for is there, the
one before it and the one behind it too, and what is found is what the labels themselves say.

- `labelStarts_getElem?`, `length_labelStarts`: the labels and the places at which they begin.
- `search_eq`: the look-up, label by label.
- `registrable?_eq`, `guessDomain_eq`, `domainOf_eq`: no request fails, and the answers are those of `SuffixList` and
  `Resolver`.
-/
import CrawlFilter.Proofs.BytewiseHosts
import CrawlFilter.Proofs.Names

namespace CrawlFilter.Bytewise

open Access

/-! ## Places of labels -/

theorem placesAfterDots_append {x : Text} (hx : '.' ∉ x) (n : ℕ) (t : Text) :
    placesAfterDots n (x ++ '.' :: t) =
      (n + Text.byteSize x + 1) :: placesAfterDots (n + Text.byteSize x + 1) t := by
  induction x generalizing n with
  | nil => rfl
  | cons c x ih =>
    obtain ⟨hc, hx⟩ := not_or.1 (mt List.mem_cons.2 hx)
    rw [List.cons_append, placesAfterDots, if_neg (Ne.symm hc), ih hx, Text.byteSize_cons]
    simp only [Nat.add_assoc]

theorem placesAfterDots_of_notMem {x : Text} (hx : '.' ∉ x) (n : ℕ) : placesAfterDots n x = [] := by
  induction x generalizing n with
  | nil => rfl
  | cons c x ih =>
    obtain ⟨hc, hx⟩ := not_or.1 (mt List.mem_cons.2 hx)
    rw [placesAfterDots, if_neg (Ne.symm hc), ih hx]

/-- the places at which labels begin, if dots join them and the first is at place `n` -/
def startsFrom (n : ℕ) : List Text → List ℕ
  | [] => []
  | x :: rest => n :: startsFrom (n + Text.byteSize x + 1) rest

theorem cons_placesAfterDots {ls : List Text} (hne : ls ≠ []) (hdot : ∀ x ∈ ls, '.' ∉ x) (n : ℕ) :
    n :: placesAfterDots n (ofLabels ls) = startsFrom n ls := by
  induction ls generalizing n with
  | nil => exact absurd rfl hne
  | cons x rest ih =>
    obtain ⟨hx, hrest⟩ := List.forall_mem_cons.1 hdot
    cases rest with
    | nil =>
      rw [ofLabels_singleton, placesAfterDots_of_notMem hx]
      rfl
    | cons y rest =>
      have hjoin : ofLabels (x :: y :: rest) = x ++ '.' :: ofLabels (y :: rest) :=
        ofLabels_cons x (List.cons_ne_nil y rest)
      rw [hjoin, placesAfterDots_append hx, ih (List.cons_ne_nil y rest) hrest]
      rfl

theorem labelStarts_eq (host : Text) : labelStarts host = startsFrom 0 (labels host) := by
  have h := cons_placesAfterDots (labels_ne_nil host) (fun _ => dot_notMem_of_mem_labels) 0
  rwa [ofLabels_labels] at h

theorem length_startsFrom (n : ℕ) (ls : List Text) : (startsFrom n ls).length = ls.length := by
  induction ls generalizing n with
  | nil => rfl
  | cons x rest ih => rw [startsFrom, List.length_cons, ih, List.length_cons]

/-- what stands before a label has as many bytes as its place says -/
theorem startsFrom_getElem? (n : ℕ) (pre : List Text) {post : List Text} (hne : post ≠ []) :
    ∃ s, ofLabels (pre ++ post) = s ++ ofLabels post ∧
      (startsFrom n (pre ++ post))[pre.length]? = some (n + Text.byteSize s) := by
  induction pre generalizing n with
  | nil =>
    obtain ⟨x, rest, rfl⟩ := List.exists_cons_of_ne_nil hne
    exact ⟨[], rfl, rfl⟩
  | cons x pre ih =>
    obtain ⟨s, hs, hplace⟩ := ih (n + Text.byteSize x + 1)
    have hjoin : ofLabels (x :: (pre ++ post)) = x ++ '.' :: ofLabels (pre ++ post) :=
      ofLabels_cons x (List.append_ne_nil_of_right_ne_nil pre hne)
    have hsize : Text.byteSize (x ++ '.' :: s) = Text.byteSize x + (1 + Text.byteSize s) :=
      Text.byteSize_append x ('.' :: s)
    refine ⟨x ++ '.' :: s, ?_, ?_⟩
    · rw [List.cons_append, hjoin, hs, List.append_assoc, List.cons_append]
    · rw [List.cons_append, startsFrom, List.length_cons, List.getElem?_cons_succ, hplace, hsize]
      congr 1
      omega

theorem length_labelStarts (host : Text) : (labelStarts host).length = (labels host).length := by
  rw [labelStarts_eq, length_startsFrom]

theorem labelStarts_getElem? {host : Text} {i : ℕ} (hi : i < (labels host).length) :
    ∃ s, host = s ++ ofLabels ((labels host).drop i) ∧ (labelStarts host)[i]? = some (Text.byteSize s) := by
  have hne : (labels host).drop i ≠ [] := by rwa [Ne, List.drop_eq_nil_iff, not_le]
  obtain ⟨s, hs, hplace⟩ := startsFrom_getElem? 0 ((labels host).take i) hne
  rw [List.take_append_drop, ofLabels_labels] at hs
  rw [List.take_append_drop, List.length_take_of_le hi.le, Nat.zero_add] at hplace
  exact ⟨s, hs, by rw [labelStarts_eq, hplace]⟩

/-- labels begin between characters -/
theorem boundary_of_mem_labelStarts {host : Text} {a : ℕ} (h : a ∈ labelStarts host) : Boundary host a := by
  obtain ⟨i, hi⟩ := List.getElem?_of_mem h
  have hlt : i < (labels host).length := by
    rw [← length_labelStarts]
    exact (List.getElem?_eq_some_iff.1 hi).1
  obtain ⟨s, hs, hplace⟩ := labelStarts_getElem? hlt
  rw [hi, Option.some.injEq] at hplace
  exact ⟨s, _, hs, hplace⟩

/-! ## Look-up in a list -/

theorem nameFrom_eq {host : Text} {i : ℕ} (hi : i < (labels host).length) :
    nameFrom host (labelStarts host) i = .ok (ofLabels ((labels host).drop i)) := by
  obtain ⟨s, hs, hplace⟩ := labelStarts_getElem? hi
  have hcut := textFrom_append s (ofLabels ((labels host).drop i))
  rw [← hs] at hcut
  rw [nameFrom, item_eq_ok_iff.2 hplace, ok_bind, hcut]

theorem wildcardBehind_eq (l : SuffixList) (host : Text) (i : ℕ) :
    wildcardBehind l host (labelStarts host) i =
      .ok (!((labels host).drop (i + 1)).isEmpty && l.isWildcard (ofLabels ((labels host).drop (i + 1)))) := by
  unfold wildcardBehind
  rw [length_labelStarts]
  split_ifs with hlt
  · have hne : ((labels host).drop (i + 1)).isEmpty = false := by
      rwa [List.isEmpty_eq_false_iff, Ne, List.drop_eq_nil_iff, not_le]
    rw [nameFrom_eq hlt, ok_bind, hne]
    rfl
  · rw [List.drop_eq_nil_of_le (not_lt.1 hlt)]
    rfl

/-- the labels from the one before number `i` on, if there is one -/
def longerFrom (ls : List Text) (i : ℕ) : Option (List Text) :=
  if 0 < i then some (ls.drop (i - 1)) else none

theorem nameBefore?_eq {host : Text} {i : ℕ} (hi : i ≤ (labels host).length) :
    nameBefore? host (labelStarts host) i = .ok ((longerFrom (labels host) i).map ofLabels) := by
  unfold nameBefore? longerFrom
  split_ifs with hpos
  · rw [minus_eq_ok hpos, ok_bind, nameFrom_eq (by omega)]
    rfl
  · rfl

theorem lastTwo?_eq (host : Text) :
    lastTwo? host (labelStarts host) =
      .ok ((longerFrom (labels host) ((labels host).length - 1)).map ofLabels) := by
  unfold lastTwo? longerFrom
  rw [length_labelStarts]
  by_cases htwo : 2 ≤ (labels host).length
  · rw [if_pos htwo, if_pos (by omega), minus_eq_ok htwo, ok_bind, nameFrom_eq (by omega)]
    rfl
  · rw [if_neg htwo, if_neg (by omega)]
    rfl

/-- one label of the look-up -/
theorem search_succ (l : SuffixList) {host : Text} {i : ℕ} (k : ℕ) (hi : i < (labels host).length) :
    search l host (labelStarts host) i (k + 1) =
      let name := ofLabels ((labels host).drop i)
      let below := (labels host).drop (i + 1)
      if l.isException name then .ok (some name)
      else if l.isExact name || (!below.isEmpty && l.isWildcard (ofLabels below)) then
        .ok ((longerFrom (labels host) i).map ofLabels)
      else search l host (labelStarts host) (i + 1) k := by
  rw [search, nameFrom_eq hi, ok_bind, wildcardBehind_eq, ok_bind, nameBefore?_eq hi.le]
  rfl

/-- The look-up asks for the labels in order, and each of them decides what it decides in the look-up by labels. -/
theorem search_eq (l : SuffixList) (host : Text) {i k : ℕ} (hlen : i + (k + 1) = (labels host).length) :
    search l host (labelStarts host) i (k + 1) =
      .ok ((l.search (longerFrom (labels host) i) ((labels host).drop i)).map ofLabels) := by
  induction k generalizing i with
  | zero =>
    have hi : i < (labels host).length := by omega
    have hnone : (labels host).drop (i + 1) = [] := List.drop_eq_nil_of_le (by omega)
    have hlast : (labels host).length - 1 = i := by omega
    rw [search_succ l 0 hi, search, lastTwo?_eq, hlast, List.drop_eq_getElem_cons hi, hnone, SuffixList.search]
    simp only [List.isEmpty_nil, if_true]
    split_ifs <;> rfl
  | succ k ih =>
    have hi : i < (labels host).length := by omega
    have hbelow : ((labels host).drop (i + 1)).isEmpty = false := by
      rw [List.isEmpty_eq_false_iff, Ne, List.drop_eq_nil_iff]
      omega
    have hlonger : longerFrom (labels host) (i + 1) = some ((labels host).drop i) := by
      rw [longerFrom, if_pos (Nat.succ_pos i), Nat.add_sub_cancel]
    rw [search_succ l (k + 1) hi, ih (by omega), hlonger, List.drop_eq_getElem_cons hi, SuffixList.search]
    simp only [hbelow, Bool.false_eq_true, if_false]
    split_ifs <;> rfl

theorem registrable?_eq (l : SuffixList) (host : Text) : registrable? l host = .ok (l.registrable? host) := by
  obtain ⟨k, hk⟩ := Nat.exists_eq_add_one_of_ne_zero (mt List.length_eq_zero_iff.1 (labels_ne_nil host))
  unfold registrable?
  dsimp only
  rw [length_labelStarts, hk, search_eq l host (by omega)]
  rfl

/-! ## Without a list -/

theorem items_lastItems {α : Type} (ls : List α) (n : ℕ) : items ls (ls.length - n) ls.length = .ok (lastItems n ls) := by
  rw [items, if_neg (by omega), if_neg (lt_irrefl _), List.take_length, lastItems]

theorem item_lastItems {α : Type} {ls : List α} {n i : ℕ} {x : α} (hn : n ≤ ls.length) (hi : i ≤ n)
    (h : (lastItems n ls)[n - i]? = some x) : item ls (ls.length - i) = .ok x := by
  rw [lastItems, List.getElem?_drop] at h
  have hplace : ls.length - n + (n - i) = ls.length - i := by omega
  rw [item_eq_ok_iff, ← hplace, h]

theorem guessDomain_eq (ls : List Text) :
    guessDomain ls =
      .ok (if ofLabels (lastItems 2 ls) ∈ commonSuffixes then ofLabels (lastItems 3 ls)
        else ofLabels (lastItems 2 ls)) := by
  unfold guessDomain
  by_cases hshort : ls.length ≤ 2
  · have hall {n : ℕ} (hn : 2 ≤ n) : lastItems n ls = ls := by
      rw [lastItems, Nat.sub_eq_zero_of_le (hshort.trans hn), List.drop_zero]
    rw [if_pos hshort, hall le_rfl, hall (Nat.le_succ 2), ite_self]
    rfl
  · have hthree : 3 ≤ ls.length := not_le.1 hshort
    have htwo : 2 ≤ ls.length := by omega
    have hlen : (lastItems 2 ls).length = 2 := by
      rw [lastItems, List.length_drop]
      omega
    obtain ⟨x, y, hxy⟩ := List.length_eq_two.1 hlen
    have hx : item ls (ls.length - 2) = .ok x := item_lastItems htwo le_rfl (by rw [hxy]; rfl)
    have hy : item ls (ls.length - 1) = .ok y := item_lastItems htwo (Nat.le_succ 1) (by rw [hxy]; rfl)
    have hpair : x ++ '.' :: y = ofLabels (lastItems 2 ls) := by
      rw [hxy, ofLabels_cons x (List.cons_ne_nil y []), ofLabels_singleton]
    rw [if_neg hshort, minus_eq_ok htwo, ok_bind, hx, ok_bind, minus_eq_ok (by omega), ok_bind, hy, ok_bind, hpair,
      minus_eq_ok hthree, ok_bind, items_lastItems, ok_bind, ok_bind, items_lastItems, ok_bind, List.contains_eq_mem]
    simp only [decide_eq_true_eq]
    split_ifs <;> rfl

theorem registrableDomain_eq (suffixes : Option SuffixList) (host : Text) :
    registrableDomain suffixes host = .ok (CrawlFilter.registrableDomain suffixes host) := by
  cases suffixes with
  | none => exact guessDomain_eq (labels host)
  | some l =>
    rw [registrableDomain, registrable?_eq, ok_bind]
    rfl

/-! ## Hosts and domains of URLs -/

theorem hostOf_eq (url : Text) : hostOf url = .ok (Resolver.hostOf url) := by
  rw [hostOf, host?_eq, ok_bind]
  rfl

theorem domainOf_eq (suffixes : Option SuffixList) (url : Text) :
    domainOf suffixes url = .ok (Resolver.domainOf suffixes url) := by
  unfold domainOf Resolver.domainOf
  rw [hostOf_eq, ok_bind]
  rcases Resolver.hostOf url with _ | _ | ⟨c, cs⟩
  · rfl
  · rfl
  · dsimp only
    rw [registrableDomain_eq, ok_bind, Resolver.domainOfHost]
    split_ifs <;> rfl

end CrawlFilter.Bytewise
