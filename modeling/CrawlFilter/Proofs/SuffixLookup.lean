/-
Looking up a host in a public suffix list, compared with the algorithm that such lists are made for. The algorithm
knows no order: of all rules that match the host, an exception wins, the longest if there are several; without one,
the longest suffix that a rule declares is the public suffix, or the last label if no rule declares one, and the answer
is the domain of the host with one label more. The search goes down from the whole host instead and ends at the first
domain that some rule speaks about.

- `Prescribed`: what the algorithm answers; `existsUnique_prescribed`: it answers one thing.
- `search_endsAt` / `lookup_registrable?`: where the search ends, and what it answers there.
- `stopsAt_of_registrable?`: no rule speaks about a domain of the host that is longer than the answer.
- `registrable?_prescribed_iff`: the search answers what the algorithm prescribes, except exactly where a suffix that a
  rule declares is longer than every exception that matches; there it takes the suffix and leaves the exception out.
- `exception_overtaken_by_wildcard`: a host of that kind.
-/
import CrawlFilter.Proofs.Names

namespace CrawlFilter

/-! ## The algorithm -/

/-- a longest text with a property -/
def Longest (P : Text → Prop) (t : Text) : Prop := P t ∧ ∀ u, P u → u.length ≤ t.length

theorem exists_longest {P : Text → Prop} {n : ℕ} (hb : ∀ t, P t → t.length ≤ n) (h : ∃ t, P t) : ∃ t, Longest P t := by
  classical
  -- the greatest length that is taken is taken by some text
  obtain ⟨t, ht⟩ := h
  have hm := Nat.findGreatest_spec (P := fun k => ∃ t, P t ∧ t.length = k) (hb t ht) ⟨t, ht, rfl⟩
  obtain ⟨u, hu, hlen⟩ := hm
  refine ⟨u, hu, fun v hv => ?_⟩
  rw [hlen]
  exact Nat.le_findGreatest (hb v hv) ⟨v, hv, rfl⟩

/-- the domain of a host that has one label more than its domain `p`; there is none if `p` is the whole host -/
inductive OneMore (host p : Text) : Option Text → Prop where
  | child {d : Text} (hc : Child p d) (hw : Within d host) : OneMore host p (some d)
  | whole (h : host = p) : OneMore host p none

theorem OneMore.unique {host p : Text} {a b : Option Text} (ha : OneMore host p a) (hb : OneMore host p b) : a = b := by
  cases ha with
  | child hc hw =>
    cases hb with
    | child hc' hw' => rw [hc.unique hc' hw hw']
    | whole h => exact absurd (h ▸ hw.length_le) (Nat.not_le.2 hc.length_lt)
  | whole h =>
    cases hb with
    | child hc' hw' => exact absurd (h ▸ hw'.length_le) (Nat.not_le.2 hc'.length_lt)
    | whole h' => rfl

namespace SuffixList

/-- a rule declares the name a suffix: an exact rule, or a wildcard rule for the name without its first label -/
def Declares (l : SuffixList) (p : Text) : Prop :=
  l.isExact p = true ∨ ∃ w, l.isWildcard w = true ∧ Child w p

/-- the domain of the host that is its public suffix, exceptions apart -/
def PublicSuffix (l : SuffixList) (host p : Text) : Prop :=
  Longest (fun q => Within q host ∧ l.Declares q) p ∨
    (∀ q, Within q host → ¬ l.Declares q) ∧ Within p host ∧ '.' ∉ p

/-- the answer by the public suffix -/
def BySuffix (l : SuffixList) (host : Text) (a : Option Text) : Prop :=
  ∃ p, l.PublicSuffix host p ∧ OneMore host p a

/-- the answer that the algorithm prescribes -/
inductive Prescribed (l : SuffixList) (host : Text) : Option Text → Prop where
  | exception {e : Text} (h : Longest (fun e => Within e host ∧ l.isException e) e) : Prescribed l host (some e)
  | suffix {a : Option Text} (h : ∀ e, Within e host → ¬ l.isException e) (ha : l.BySuffix host a) :
      Prescribed l host a

/-- an exception matches the host, and a rule declares a suffix that is longer than every exception that does -/
def Overtaken (l : SuffixList) (host : Text) : Prop :=
  (∃ e, Within e host ∧ l.isException e) ∧
    ∃ p, Within p host ∧ l.Declares p ∧ ∀ e, Within e host → l.isException e → e.length < p.length

variable {l : SuffixList} {host : Text}

/-! ## What the search finds -/

theorem declares_iff_labels {p x : Text} {rest : List Text} (h : labels p = x :: rest) :
    l.Declares p ↔ l.isExact p = true ∨ rest ≠ [] ∧ l.isWildcard (ofLabels rest) = true := by
  refine or_congr_right ⟨?_, ?_⟩
  · rintro ⟨w, hw, hc⟩
    obtain ⟨y, hy⟩ := child_iff_labels.1 hc
    rw [h, List.cons.injEq] at hy
    rw [hy.2, ofLabels_labels]
    exact ⟨labels_ne_nil w, hw⟩
  · rintro ⟨hne, hw⟩
    refine ⟨_, hw, child_iff_labels.2 ⟨x, ?_⟩⟩
    rw [h, labels_ofLabels hne]
    intro y hy
    exact dot_notMem_of_mem_labels (h ▸ List.mem_cons_of_mem x hy)

/-- A search through the labels `pre ++ stop` ends at `stop`: no rule speaks about a longer tail, and one speaks about
this one, or it is the last label. -/
structure EndsAt (l : SuffixList) (pre stop : List Text) : Prop where
  nonempty : stop ≠ []
  silent : ∀ ts, ts <:+ pre ++ stop → stop.length < ts.length →
    ¬ l.isException (ofLabels ts) ∧ ¬ l.Declares (ofLabels ts)
  speaks : l.isException (ofLabels stop) ∨ l.Declares (ofLabels stop) ∨ stop.length = 1

theorem EndsAt.here {ls : List Text} (hne : ls ≠ [])
    (h : l.isException (ofLabels ls) ∨ l.Declares (ofLabels ls) ∨ ls.length = 1) : l.EndsAt [] ls :=
  ⟨hne, fun _ hts hlt => absurd hts.length_le (Nat.not_le.2 hlt), h⟩

theorem EndsAt.later {x : Text} {pre stop : List Text} (h : l.EndsAt pre stop)
    (hex : ¬ l.isException (ofLabels (x :: (pre ++ stop)))) (hde : ¬ l.Declares (ofLabels (x :: (pre ++ stop)))) :
    l.EndsAt (x :: pre) stop := by
  refine ⟨h.nonempty, fun ts hts hlt => ?_, h.speaks⟩
  rw [List.cons_append, List.suffix_cons_iff] at hts
  rcases hts with rfl | hts
  · exact ⟨hex, hde⟩
  · exact h.silent ts hts hlt

section Step

variable {x : Text} {rest : List Text} {longer : Option (List Text)}

theorem search_of_isException (h : l.isException (ofLabels (x :: rest))) :
    l.search longer (x :: rest) = some (x :: rest) := by
  simp [search, h]

theorem search_last (h : ¬ l.isException (ofLabels [x])) : l.search longer [x] = longer := by
  simp [search, h]

theorem search_of_declares (hx : ∀ y ∈ x :: rest, '.' ∉ y) (hex : ¬ l.isException (ofLabels (x :: rest)))
    (hde : l.Declares (ofLabels (x :: rest))) : l.search longer (x :: rest) = longer := by
  rw [declares_iff_labels (labels_ofLabels (List.cons_ne_nil x rest) hx)] at hde
  rw [search, if_neg hex, if_pos (by simpa using hde)]

theorem search_of_silent (hx : ∀ y ∈ x :: rest, '.' ∉ y) (hne : rest ≠ [])
    (hex : ¬ l.isException (ofLabels (x :: rest))) (hde : ¬ l.Declares (ofLabels (x :: rest))) :
    l.search longer (x :: rest) = l.search (some (x :: rest)) rest := by
  rw [declares_iff_labels (labels_ofLabels (List.cons_ne_nil x rest) hx)] at hde
  rw [search, if_neg hex, if_neg (by simpa using hde), if_neg (by simpa using hne)]

end Step

theorem search_endsAt (l : SuffixList) {ls : List Text} (hne : ls ≠ []) (hls : ∀ x ∈ ls, '.' ∉ x)
    (longer : Option (List Text)) :
    ∃ pre stop, ls = pre ++ stop ∧ l.EndsAt pre stop ∧
      l.search longer ls =
        if l.isException (ofLabels stop) then some stop else (pre.getLast?.map (· :: stop)).or longer := by
  -- `longer` is the tail before this one, so the statement holds of a search that is taken up at any tail
  induction ls generalizing longer with
  | nil => exact absurd rfl hne
  | cons x rest ih =>
    by_cases hex : l.isException (ofLabels (x :: rest))
    · exact ⟨[], x :: rest, rfl, .here hne (.inl hex), by rw [search_of_isException hex, if_pos hex]⟩
    by_cases hde : l.Declares (ofLabels (x :: rest))
    · refine ⟨[], x :: rest, rfl, .here hne (.inr (.inl hde)), ?_⟩
      rw [search_of_declares hls hex hde, if_neg hex]
      rfl
    rcases eq_or_ne rest [] with rfl | hrest
    · refine ⟨[], [x], rfl, .here hne (.inr (.inr rfl)), ?_⟩
      rw [search_last hex, if_neg hex]
      rfl
    · obtain ⟨pre, stop, rfl, hend, hsearch⟩ :=
        ih hrest (fun y hy => hls y (List.mem_cons_of_mem x hy)) (some (x :: rest))
      refine ⟨x :: pre, stop, rfl, hend.later hex hde, ?_⟩
      rw [search_of_silent hls hrest hex hde, hsearch]
      cases pre with
      | nil => rfl
      | cons y ys => simp [List.getLast?_cons]

/-- no rule speaks about a domain of the host that is longer than its domain `p` -/
structure StopsAt (l : SuffixList) (host p : Text) : Prop where
  within : Within p host
  silent : ∀ t, Within t host → p.length < t.length → ¬ l.isException t ∧ ¬ l.Declares t

/-- how a search for a host ends -/
inductive Lookup (l : SuffixList) (host : Text) : Option Text → Prop where
  | exception {e : Text} (hs : l.StopsAt host e) (he : l.isException e) : Lookup l host (some e)
  | suffix {p : Text} {a : Option Text} (hs : l.StopsAt host p) (he : ¬ l.isException p)
      (hp : l.Declares p ∨ '.' ∉ p) (ha : OneMore host p a) : Lookup l host a

theorem EndsAt.stopsAt {pre stop : List Text} (h : l.EndsAt pre stop) (hl : labels host = pre ++ stop) :
    l.StopsAt host (ofLabels stop) := by
  have hsuf : stop <:+ labels host := hl ▸ List.suffix_append pre stop
  have hstop : labels (ofLabels stop) = stop :=
    labels_ofLabels h.nonempty fun x hx => dot_notMem_of_mem_labels (hsuf.subset hx)
  refine ⟨within_iff_labels.2 (hstop.symm ▸ hsuf), fun t ht hlt => ?_⟩
  have hts := within_iff_labels.1 ht
  have hlen : stop.length < (labels t).length := by
    by_contra hle
    have hw : Within t (ofLabels stop) :=
      within_iff_labels.2 (hstop.symm ▸ List.suffix_of_suffix_length_le hts hsuf (Nat.not_lt.1 hle))
    exact absurd hw.length_le (Nat.not_le.2 hlt)
  have hs := h.silent (labels t) (hl ▸ hts) hlen
  rwa [ofLabels_labels] at hs

/-- the label before `stop`, put in front of it, makes the domain with one label more -/
theorem oneMore_ofLabels {pre stop : List Text} (hl : labels host = pre ++ stop) (hne : stop ≠ []) :
    OneMore host (ofLabels stop) ((pre.getLast?.map (· :: stop)).map ofLabels) := by
  rcases List.eq_nil_or_concat pre with rfl | ⟨pre', y, rfl⟩
  · refine .whole ?_
    rw [← ofLabels_labels host, hl]
    rfl
  · rw [List.concat_eq_append] at hl ⊢
    rw [List.getLast?_concat]
    have hsuf : y :: stop <:+ labels host := ⟨pre', by rw [hl]; simp⟩
    have hy : '.' ∉ y := dot_notMem_of_mem_labels (hsuf.subset List.mem_cons_self)
    refine .child ⟨y, hy, ofLabels_cons y hne⟩ ?_
    have hw := within_ofLabels hsuf (List.cons_ne_nil y stop)
    rwa [ofLabels_labels] at hw

/-- **A look-up ends** at the longest domain of the host that some rule speaks about, or at its last label. -/
theorem lookup_registrable? (l : SuffixList) (host : Text) : l.Lookup host (l.registrable? host) := by
  have hdots : ∀ x ∈ labels host, '.' ∉ x := fun x => dot_notMem_of_mem_labels
  obtain ⟨pre, stop, hl, hend, hsearch⟩ := l.search_endsAt (labels_ne_nil host) hdots none
  have hstops := hend.stopsAt hl
  rw [registrable?, hsearch]
  by_cases hex : l.isException (ofLabels stop)
  · rw [if_pos hex]
    exact .exception hstops hex
  · rw [if_neg hex, Option.or_none]
    have hp : l.Declares (ofLabels stop) ∨ '.' ∉ ofLabels stop := by
      rcases hend.speaks.resolve_left hex with h | h
      · exact .inl h
      · obtain ⟨x, rfl⟩ := List.length_eq_one_iff.1 h
        rw [ofLabels_singleton]
        exact .inr (hdots x (hl ▸ List.mem_append_right pre List.mem_cons_self))
    exact .suffix hstops hex hp (oneMore_ofLabels hl hend.nonempty)

/-- what is found as a domain stops a search of its own, as an exception or as a name that is no suffix -/
theorem stopsAt_of_registrable? {d : Text} (h : l.registrable? host = some d) :
    l.StopsAt host d ∧ (l.isException d ∨ ¬ l.Declares d) := by
  have hl := lookup_registrable? l host
  rw [h] at hl
  cases hl with
  | exception hs he => exact ⟨hs, .inl he⟩
  | suffix hs _ _ ha =>
    cases ha with
    | child hc hw =>
      have hlt := hc.length_lt
      exact ⟨⟨hw, fun t ht hdt => hs.silent t ht (hlt.trans hdt)⟩, .inr (hs.silent d hw hlt).2⟩

/-! ## The search and the algorithm -/

theorem PublicSuffix.unique {p q : Text} (hp : l.PublicSuffix host p) (hq : l.PublicSuffix host q) : p = q := by
  rcases hp with ⟨hp, hmax⟩ | ⟨hnone, hp, hdot⟩ <;> rcases hq with ⟨hq, hmax'⟩ | ⟨hnone', hq, hdot'⟩
  · exact hp.1.eq_of_length_eq hq.1 (Nat.le_antisymm (hmax' p hp) (hmax q hq))
  · exact absurd hp.2 (hnone' p hp.1)
  · exact absurd hq.2 (hnone q hq.1)
  · rcases Nat.le_total p.length q.length with hle | hle
    · exact (hp.of_length_le hq hle).eq_of_notMem hdot'
    · exact ((hq.of_length_le hp hle).eq_of_notMem hdot).symm

theorem Prescribed.unique {a b : Option Text} (ha : l.Prescribed host a) (hb : l.Prescribed host b) : a = b := by
  cases ha with
  | exception he =>
    cases hb with
    | exception he' => rw [he.1.1.eq_of_length_eq he'.1.1 (Nat.le_antisymm (he'.2 _ he.1) (he.2 _ he'.1))]
    | suffix h' hb => exact absurd he.1.2 (h' _ he.1.1)
  | suffix h ha =>
    cases hb with
    | exception he' => exact absurd he'.1.2 (h _ he'.1.1)
    | suffix h' hb =>
      obtain ⟨p, hp, ha⟩ := ha
      obtain ⟨q, hq, hb⟩ := hb
      obtain rfl := hp.unique hq
      exact ha.unique hb

section StopsAt

variable {p e : Text}

theorem StopsAt.isException_le (hs : l.StopsAt host p) (hw : Within e host) (he : l.isException e) :
    e.length ≤ p.length := by
  by_contra hlt
  exact (hs.silent e hw (Nat.not_le.1 hlt)).1 he

theorem StopsAt.declares_le (hs : l.StopsAt host p) (hw : Within e host) (he : l.Declares e) :
    e.length ≤ p.length := by
  by_contra hlt
  exact (hs.silent e hw (Nat.not_le.1 hlt)).2 he

/-- a stop at no exception is at the public suffix -/
theorem StopsAt.publicSuffix (hs : l.StopsAt host p) (hp : l.Declares p ∨ '.' ∉ p) : l.PublicSuffix host p := by
  by_cases hd : l.Declares p
  · exact .inl ⟨⟨hs.within, hd⟩, fun q hq => hs.declares_le hq.1 hq.2⟩
  · have hdot := hp.resolve_left hd
    refine .inr ⟨fun q hq hdq => ?_, hs.within, hdot⟩
    -- a declared suffix would be no longer than the last label, so it would be the last label
    have hw := hq.of_length_le hs.within (hs.declares_le hq hdq)
    exact hd (hw.eq_of_notMem hdot ▸ hdq)

theorem StopsAt.not_overtaken (hs : l.StopsAt host e) (he : l.isException e) : ¬ l.Overtaken host := by
  rintro ⟨-, p, hp, hd, hlt⟩
  exact (hs.silent p hp (hlt e hs.within he)).2 hd

theorem StopsAt.overtaken_iff (hs : l.StopsAt host p) (hno : ¬ l.isException p) (hp : l.Declares p ∨ '.' ∉ p) :
    l.Overtaken host ↔ ∃ e, Within e host ∧ l.isException e := by
  refine ⟨And.left, fun hex => ⟨hex, p, hs.within, ?_, ?_⟩⟩
  · obtain ⟨e, hw, he⟩ := hex
    refine hp.resolve_right fun hdot => ?_
    have hep := (hw.of_length_le hs.within (hs.isException_le hw he)).eq_of_notMem hdot
    exact hno (hep ▸ he)
  · intro e hw he
    refine (hs.isException_le hw he).lt_of_ne fun hlen => ?_
    have hep := hw.eq_of_length_eq hs.within hlen
    exact hno (hep ▸ he)

end StopsAt

theorem Lookup.prescribed_iff {a : Option Text} (h : l.Lookup host a) : l.Prescribed host a ↔ ¬ l.Overtaken host := by
  cases h with
  | exception hs he =>
    have hmax : Longest (fun e => Within e host ∧ l.isException e) _ :=
      ⟨⟨hs.within, he⟩, fun u hu => hs.isException_le hu.1 hu.2⟩
    exact iff_of_true (.exception hmax) (hs.not_overtaken he)
  | suffix hs hno hp ha =>
    rw [hs.overtaken_iff hno hp]
    constructor
    · rintro h ⟨e, hw, he⟩
      cases h with
      | exception he' =>
        cases ha with
        | child hc hd => exact absurd (hs.isException_le hd he'.1.2) (Nat.not_le.2 hc.length_lt)
      | suffix hnone _ => exact hnone e hw he
    · intro hnone
      exact .suffix (fun e hw he => hnone ⟨e, hw, he⟩) ⟨_, hs.publicSuffix hp, ha⟩

theorem Lookup.bySuffix {a : Option Text} (h : l.Lookup host a) (ho : l.Overtaken host) : l.BySuffix host a := by
  cases h with
  | exception hs he => exact absurd ho (hs.not_overtaken he)
  | suffix hs _ hp ha => exact ⟨_, hs.publicSuffix hp, ha⟩

/-- the algorithm answers one thing about every host -/
theorem existsUnique_prescribed (l : SuffixList) (host : Text) : ∃! a, l.Prescribed host a := by
  refine existsUnique_of_exists_of_unique ?_ fun _ _ => Prescribed.unique
  by_cases ho : l.Overtaken host
  · obtain ⟨e, he⟩ := exists_longest (fun e he => he.1.length_le) ho.1
    exact ⟨_, .exception he⟩
  · exact ⟨_, (lookup_registrable? l host).prescribed_iff.2 ho⟩

/-- **The search and the algorithm** agree about a host exactly if no declared suffix is longer than the exceptions that
match it. Where one is, the search answers by the public suffix, as if no exception matched. -/
theorem registrable?_prescribed_iff (l : SuffixList) (host : Text) :
    (∃! a, l.Prescribed host a) ∧
      (l.Prescribed host (l.registrable? host) ↔ ¬ l.Overtaken host) ∧
      (l.Overtaken host → l.BySuffix host (l.registrable? host)) :=
  ⟨existsUnique_prescribed l host, (lookup_registrable? l host).prescribed_iff, (lookup_registrable? l host).bySuffix⟩

/-- an exact rule below an exception overtakes it, and the host it names is taken for a public suffix -/
theorem registrable?_overtaken_shop :
    ∃ l, read (.ofText "jp\n!city.kawasaki.jp\nshop.city.kawasaki.jp\n".toList) = .ok l ∧
      l.Overtaken "shop.city.kawasaki.jp".toList ∧ l.BySuffix "shop.city.kawasaki.jp".toList none := by
  refine ⟨⟨[.exact "shop.city.kawasaki.jp".toList, .exception "city.kawasaki.jp".toList, .exact "jp".toList],
    by decide⟩, rfl, ?_⟩
  have ho : Overtaken ⟨[.exact "shop.city.kawasaki.jp".toList, .exception "city.kawasaki.jp".toList,
      .exact "jp".toList], by decide⟩ "shop.city.kawasaki.jp".toList := by
    refine ⟨⟨"city.kawasaki.jp".toList, by decide, by decide⟩, "shop.city.kawasaki.jp".toList, Or.inl rfl,
      .inl (by decide), fun e _ he => ?_⟩
    have he : e = "city.kawasaki.jp".toList := by simpa [isException] using he
    subst he
    decide
  exact ⟨ho, (registrable?_prescribed_iff _ _).2.2 ho⟩

/-- **An exception does not override a wildcard** below it: the algorithm answers with the exception that matches the
host, the search with one label more than the wildcard gives. -/
theorem exception_overtaken_by_wildcard :
    ∃ l, read (.ofText "*.city.kawasaki.jp\n!city.kawasaki.jp\n".toList) = .ok l ∧
      l.Prescribed "www.shop.city.kawasaki.jp".toList (some "city.kawasaki.jp".toList) ∧
      l.registrable? "www.shop.city.kawasaki.jp".toList = some "www.shop.city.kawasaki.jp".toList := by
  refine ⟨⟨[.exception "city.kawasaki.jp".toList, .wildcard "city.kawasaki.jp".toList], by decide⟩, rfl, ?_, rfl⟩
  refine .exception ⟨⟨by decide, by decide⟩, fun e he => ?_⟩
  have he : e = "city.kawasaki.jp".toList := by simpa [isException] using he.2
  rw [he]

end SuffixList

end CrawlFilter
