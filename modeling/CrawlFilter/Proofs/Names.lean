/-
Names and their labels. A name can be cut into labels and put together again, and what is said about names by their
last labels can be said about their texts: a name lies within another if its labels end in those of the other. The
domains of one host are therefore ordered by length, and between a name and a name one label below it there is none.

- `labels_ofLabels`: labels without dots are found again in the name they make.
- `within_iff_labels` / `child_iff_labels`: domains and children of a name, by labels.
- `Within.of_length_le` / `Within.eq_of_length_eq`: of two domains of a host the longer lies within the shorter, and
  domains of one length are one.
- `Child.eq_of_within`: a domain of a child that is longer than the parent is the child.
-/
import Mathlib.Tactic
import CrawlFilter.SuffixList

namespace CrawlFilter

/-! ## Labels -/

theorem labels_ne_nil (name : Text) : labels name ≠ [] := List.splitOn_ne_nil '.' name

theorem labels_append_dot (s t : Text) : labels (s ++ '.' :: t) = labels s ++ labels t :=
  List.splitOn_append_cons_self s t

theorem labels_of_notMem {t : Text} (h : '.' ∉ t) : labels t = [t] := List.splitOn_eq_singleton h

theorem labels_ofLabels {ls : List Text} (hne : ls ≠ []) (h : ∀ x ∈ ls, '.' ∉ x) : labels (ofLabels ls) = ls :=
  List.splitOn_intercalate '.' h hne

theorem dot_notMem_of_mem_labels {name x : Text} (h : x ∈ labels name) : '.' ∉ x := by
  by_cases hdot : '.' ∈ name
  · -- the label before the first dot, and those of the shorter name behind it
    obtain ⟨s, t, hname, hs⟩ := List.eq_append_cons_of_mem hdot
    have hlt : t.length < name.length := by
      rw [hname, List.length_append, List.length_cons]
      omega
    rw [hname, labels_append_dot, labels_of_notMem hs, List.singleton_append, List.mem_cons] at h
    rcases h with rfl | h
    · exact hs
    · exact dot_notMem_of_mem_labels h
  · rw [labels_of_notMem hdot, List.mem_singleton] at h
    rwa [h]
termination_by name.length

theorem ofLabels_singleton (x : Text) : ofLabels [x] = x := List.intercalate_singleton

theorem ofLabels_cons (x : Text) {ls : List Text} (h : ls ≠ []) : ofLabels (x :: ls) = x ++ '.' :: ofLabels ls := by
  rw [ofLabels, List.intercalate_cons_of_ne_nil h, List.append_assoc, List.singleton_append, ofLabels]

theorem ofLabels_append {ls ks : List Text} (hls : ls ≠ []) (hks : ks ≠ []) :
    ofLabels (ls ++ ks) = ofLabels ls ++ '.' :: ofLabels ks := by
  induction ls with
  | nil => exact absurd rfl hls
  | cons x rest ih =>
    cases rest with
    | nil => rw [ofLabels_singleton, List.singleton_append, ofLabels_cons x hks]
    | cons y rest =>
      rw [List.cons_append, ofLabels_cons x (by simp), ih (by simp), ofLabels_cons x (by simp), List.append_assoc,
        List.cons_append]

/-! ## Domains of a host -/

/-- a host is this domain or stands below it -/
def Within (domain host : Text) : Prop := host = domain ∨ '.' :: domain <:+ host

instance (domain host : Text) : Decidable (Within domain host) :=
  inferInstanceAs (Decidable (host = domain ∨ '.' :: domain <:+ host))

/-- the last labels of a name are a domain of it -/
theorem within_ofLabels {ls ks : List Text} (h : ls <:+ ks) (hne : ls ≠ []) :
    Within (ofLabels ls) (ofLabels ks) := by
  obtain ⟨ps, rfl⟩ := h
  cases ps with
  | nil => exact Or.inl rfl
  | cons p ps =>
    right
    rw [ofLabels_append (List.cons_ne_nil p ps) hne]
    exact List.suffix_append _ _

theorem within_iff_labels {d host : Text} : Within d host ↔ labels d <:+ labels host := by
  constructor
  · rintro (rfl | ⟨r, rfl⟩)
    · exact List.suffix_refl _
    · rw [labels_append_dot]
      exact List.suffix_append _ _
  · intro h
    have hw := within_ofLabels h (labels_ne_nil d)
    rwa [ofLabels_labels, ofLabels_labels] at hw

theorem Within.trans {d e host : Text} (hd : Within d e) (he : Within e host) : Within d host := by
  rw [within_iff_labels] at hd he ⊢
  exact hd.trans he

theorem Within.suffix {d host : Text} (h : Within d host) : d <:+ host := by
  rcases h with rfl | h
  · exact List.suffix_refl _
  · exact (List.suffix_cons '.' d).trans h

theorem Within.length_le {d host : Text} (h : Within d host) : d.length ≤ host.length :=
  h.suffix.length_le

/-- a domain that is shorter than another of the same host stands behind a dot in it -/
theorem Within.dot_suffix {d e host : Text} (hd : Within d host) (he : Within e host) (hlt : d.length < e.length) :
    '.' :: d <:+ e := by
  rcases hd with rfl | hd
  · exact absurd he.length_le (Nat.not_le.2 hlt)
  · exact List.suffix_of_suffix_length_le hd he.suffix hlt

theorem Within.eq_of_length_eq {d e host : Text} (hd : Within d host) (he : Within e host)
    (h : d.length = e.length) : d = e :=
  (List.suffix_of_suffix_length_le hd.suffix he.suffix h.le).eq_of_length h

/-- of two domains of a host the longer lies within the shorter -/
theorem Within.of_length_le {d e host : Text} (hd : Within d host) (he : Within e host)
    (h : d.length ≤ e.length) : Within d e := by
  rcases h.lt_or_eq with hlt | heq
  · exact Or.inr (hd.dot_suffix he hlt)
  · exact Or.inl (hd.eq_of_length_eq he heq).symm

/-- a name of one label has no domain but itself -/
theorem Within.eq_of_notMem {d e : Text} (h : Within d e) (he : '.' ∉ e) : d = e := by
  rcases h with rfl | h
  · rfl
  · exact absurd (h.subset List.mem_cons_self) he

/-! ## One label more -/

/-- a name one label below another -/
def Child (p d : Text) : Prop := ∃ x, '.' ∉ x ∧ d = x ++ '.' :: p

theorem child_iff_labels {p d : Text} : Child p d ↔ ∃ x, labels d = x :: labels p := by
  constructor
  · rintro ⟨x, hx, rfl⟩
    exact ⟨x, by rw [labels_append_dot, labels_of_notMem hx, List.singleton_append]⟩
  · rintro ⟨x, h⟩
    refine ⟨x, dot_notMem_of_mem_labels (h ▸ List.mem_cons_self), ?_⟩
    rw [← ofLabels_labels d, h, ofLabels_cons x (labels_ne_nil p), ofLabels_labels]

theorem Child.within {p d : Text} (h : Child p d) : Within p d := by
  obtain ⟨x, -, rfl⟩ := h
  exact Or.inr (List.suffix_append _ _)

theorem Child.length_lt {p d : Text} (h : Child p d) : p.length < d.length := by
  obtain ⟨x, -, rfl⟩ := h
  simp only [List.length_append, List.length_cons]
  omega

/-- no domain of a child stands between it and its parent -/
theorem Child.eq_of_within {p d e : Text} (h : Child p d) (he : Within e d) (hlt : p.length < e.length) : e = d := by
  obtain ⟨x, hx⟩ := child_iff_labels.1 h
  have hp : Within p e := h.within.of_length_le he hlt.le
  rw [within_iff_labels] at hp he
  rw [hx, List.suffix_cons_iff] at he
  rcases he with he | he
  · rw [← ofLabels_labels e, he, ← hx, ofLabels_labels]
  · have hep : Within e p := within_iff_labels.2 he
    exact absurd hep.length_le (Nat.not_le.2 hlt)

theorem Child.unique {p d e host : Text} (hd : Child p d) (he : Child p e) (hdh : Within d host)
    (heh : Within e host) : d = e := by
  rcases Nat.le_total d.length e.length with hle | hle
  · exact he.eq_of_within (hdh.of_length_le heh hle) hd.length_lt
  · exact (hd.eq_of_within (heh.of_length_le hdh hle) he.length_lt).symm

end CrawlFilter
