/-
The grammar of the host in a URL. A URL with a host reads `scheme://`, user information, host, port and what follows
the authority; the grammar says what each part may hold, and nothing about scans. The reader of URLs finds the host
exactly where the grammar puts it.

- `HostAt`: the grammar, with the place of the host in bytes.
- `splitScheme?_eq_some_iff`, `splitAfterLast_eq_iff`, `atHost_eq_some_iff`: what each of the reader's cuts finds.
- `hostSpan?_grammar`: the reader gives a place if and only if the grammar puts a host there, and the host it gives is
  the text at that place, if it is not empty.
-/
import Mathlib.Tactic
import CrawlFilter.Proofs.Scans
import CrawlFilter.Url

namespace CrawlFilter.Url

/-! ## Grammar -/

/-- the text holds none of these characters -/
def Free (xs t : Text) : Prop := ∀ c ∈ t, c ∉ xs

instance (xs t : Text) : Decidable (Free xs t) := List.decidableBAll (· ∉ xs) t

/-- a letter, and then letters, digits, plus signs, hyphens and dots -/
def SchemeText (s : Text) : Prop :=
  ∃ c cs, s = c :: cs ∧ c.isAlpha = true ∧ ∀ x ∈ cs, x.isAlphanum = true ∨ x ∈ ['+', '-', '.']

/-- nothing, or user information with its at sign -/
def UserText (u : Text) : Prop := (u = [] ∨ u.getLast? = some '@') ∧ Free ['/', '?', '#'] u

/-- nothing, or a colon and a port -/
def PortText (p : Text) : Prop := p = [] ∨ ∃ q, p = ':' :: q ∧ Free ['@', '/', '?', '#'] q

/-- nothing, or a path, a query or a fragment -/
def AfterText (r : Text) : Prop := ∀ c ∈ r.head?, c ∈ ['/', '?', '#']

instance (r : Text) : Decidable (AfterText r) := Option.decidableForallMem r.head?

/-- a host with what stands before it and after it in the authority -/
inductive HostPart : Text → Text → Text → Prop where
  | plain {h p : Text} : h.head? ≠ some '[' → Free [':', '@', '/', '?', '#'] h → PortText p → HostPart [] h p
  | bracketed {h p : Text} : Free [']', '@', '/', '?', '#'] h → Free ['@', '/', '?', '#'] p → HostPart ['['] h (']' :: p)

/-- the text is a URL whose host `h` takes the bytes from `a` up to `b` -/
def HostAt (t : Text) (a b : ℕ) (h : Text) : Prop :=
  ∃ s u o p r, t = s ++ "://".toList ++ u ++ o ++ h ++ p ++ r ∧
    SchemeText s ∧ UserText u ∧ HostPart o h p ∧ AfterText r ∧
    a = Text.byteSize (s ++ "://".toList ++ u ++ o) ∧ b = Text.byteSize (s ++ "://".toList ++ u ++ o ++ h)

theorem free_append {xs s t : Text} : Free xs (s ++ t) ↔ Free xs s ∧ Free xs t := by
  simp only [Free, List.mem_append, or_imp, forall_and]

theorem free_cons {xs t : Text} {c : Char} : Free xs (c :: t) ↔ c ∉ xs ∧ Free xs t := by
  simp only [Free, List.forall_mem_cons]

theorem free_cons_left {x : Char} {xs t : Text} : Free (x :: xs) t ↔ x ∉ t ∧ Free xs t := by
  simp only [Free, List.mem_cons, not_or, forall_and]
  exact and_congr_left fun _ => ⟨fun h hx => h x hx rfl, fun h c hc e => h (e ▸ hc)⟩

/-! ## Scans -/

theorem endsAuthority_iff {c : Char} : endsAuthority c = true ↔ c ∈ ['/', '?', '#'] := by
  simp [endsAuthority, or_assoc]

theorem scan_authority_iff {t g r : Text} :
    (t.takeWhile (!endsAuthority ·) = g ∧ t.dropWhile (!endsAuthority ·) = r) ↔
      t = g ++ r ∧ Free ['/', '?', '#'] g ∧ AfterText r := by
  simp only [scan_iff, Bool.not_eq_true', Bool.eq_false_iff, Ne, endsAuthority_iff, Free, AfterText, Decidable.not_not]

theorem isScheme_iff {s : Text} : isScheme s = true ↔ SchemeText s := by
  cases s with
  | nil => simp [isScheme, SchemeText]
  | cons c cs => simp [isScheme, SchemeText, isSchemeChar, or_assoc]

theorem SchemeText.colon_notMem {s : Text} (h : SchemeText s) : ':' ∉ s := by
  obtain ⟨c, cs, rfl, hc, hcs⟩ := h
  intro hm
  rcases List.mem_cons.1 hm with rfl | hm
  · exact absurd hc (by decide)
  · exact absurd (hcs ':' hm) (by decide)

theorem splitScheme?_eq_some_iff {t s rest : Text} :
    splitScheme? t = some (s, rest) ↔ t = s ++ "://".toList ++ rest ∧ SchemeText s := by
  constructor
  · intro h
    unfold splitScheme? at h
    split at h
    · rename_i rest' hd
      obtain ⟨ht, -, -⟩ := scan_ne_iff.1 ⟨rfl, hd⟩
      dsimp only at h
      split_ifs at h with hs
      cases h
      exact ⟨by simpa using ht, isScheme_iff.1 hs⟩
    · cases h
  · rintro ⟨ht, hs⟩
    have hcut : t = s ++ ("://".toList ++ rest) ∧ ':' ∉ s ∧ ∀ c ∈ ("://".toList ++ rest).head?, c = ':' :=
      ⟨by simpa using ht, hs.colon_notMem, by simp⟩
    obtain ⟨h1, h2⟩ := scan_ne_iff.2 hcut
    simp [splitScheme?, h1, h2, isScheme_iff.2 hs]

/-- the cut after the last `x` -/
theorem splitAfterLast_eq_iff {x : Char} {t u h : Text} :
    splitAfterLast x t = (u, h) ↔ t = u ++ h ∧ x ∉ h ∧ (u = [] ∨ u.getLast? = some x) := by
  have hlast : (∀ c ∈ u.reverse.head?, c = x) ↔ u = [] ∨ u.getLast? = some x := by
    rw [List.head?_reverse]
    cases u using List.reverseRecOn <;> simp
  -- the last `x` is the first one from behind
  have hscan := scan_ne_iff (x := x) (t := t.reverse) (a := h.reverse) (b := u.reverse)
  rw [hlast, ← List.reverse_append, List.reverse_inj, List.mem_reverse] at hscan
  rw [← hscan, splitAfterLast, Prod.mk.injEq, List.reverse_eq_iff, List.reverse_eq_iff, and_comm]

/-! ## Host -/

/-- the last cut of `split?`: user information is off, and `after` follows the authority -/
def atHost (scheme user host after : Text) : Option Url :=
  match host with
  | '[' :: inner =>
    let close := inner.dropWhile (· != ']')
    if close.isEmpty then none else some ⟨scheme, user, true, inner.takeWhile (· != ']'), close ++ after⟩
  | _ => some ⟨scheme, user, false, host.takeWhile (· != ':'), host.dropWhile (· != ':') ++ after⟩

theorem atHost_open {s u inner r : Text} {v : Url} (hf : Free ['@', '/', '?', '#'] inner) :
    atHost s u ('[' :: inner) r = some v ↔
      ∃ h p, inner = h ++ ']' :: p ∧ HostPart ['['] h (']' :: p) ∧ v = ⟨s, u, true, h, ']' :: p ++ r⟩ := by
  constructor
  · intro e
    simp only [atHost] at e
    split_ifs at e with hc
    obtain ⟨ht, hnot, hhead⟩ := (scan_ne_iff (x := ']') (t := inner)).1 ⟨rfl, rfl⟩
    cases hd : inner.dropWhile (· != ']') with
    | nil => simp [hd] at hc
    | cons c p =>
      rw [hd] at ht hhead e
      obtain rfl : c = ']' := hhead c rfl
      rw [ht, free_append, free_cons] at hf
      exact ⟨_, p, ht, .bracketed (free_cons_left.2 ⟨hnot, hf.1⟩) hf.2.2, (Option.some.inj e).symm⟩
  · rintro ⟨h, p, rfl, hp, rfl⟩
    have hnot : ']' ∉ h := by
      cases hp with
      | bracketed hin _ => exact (free_cons_left.1 hin).1
    obtain ⟨h1, h2⟩ := (scan_ne_iff (x := ']') (a := h) (b := ']' :: p)).2 ⟨rfl, hnot, by simp⟩
    simp [atHost, h1, h2]

theorem atHost_of_head?_ne {s u g r : Text} (ho : g.head? ≠ some '[') :
    atHost s u g r = some ⟨s, u, false, g.takeWhile (· != ':'), g.dropWhile (· != ':') ++ r⟩ := by
  unfold atHost
  split
  · simp at ho
  · rfl

theorem atHost_plain {s u g r : Text} {v : Url} (hf : Free ['@', '/', '?', '#'] g) (ho : g.head? ≠ some '[') :
    atHost s u g r = some v ↔ ∃ h p, g = h ++ p ∧ HostPart [] h p ∧ v = ⟨s, u, false, h, p ++ r⟩ := by
  rw [atHost_of_head?_ne ho]
  constructor
  · intro e
    obtain ⟨ht, hnot, hhead⟩ := (scan_ne_iff (x := ':') (t := g)).1 ⟨rfl, rfl⟩
    rw [ht, free_append] at hf
    have hport : PortText (g.dropWhile (· != ':')) := by
      cases hd : g.dropWhile (· != ':') with
      | nil => exact .inl rfl
      | cons c q =>
        rw [hd] at hhead hf
        exact .inr ⟨q, by rw [hhead c rfl], (free_cons.1 hf.2).2⟩
    have hopen : (g.takeWhile (· != ':')).head? ≠ some '[' := by
      intro hc
      rw [ht, List.head?_append, hc] at ho
      exact ho rfl
    exact ⟨_, _, ht, .plain hopen (free_cons_left.2 ⟨hnot, hf.1⟩) hport, (Option.some.inj e).symm⟩
  · rintro ⟨h, p, rfl, hp, rfl⟩
    cases hp with
    | plain _ hin hport =>
      have hhead : ∀ c ∈ p.head?, c = ':' := by
        rcases hport with rfl | ⟨q, rfl, -⟩ <;> simp
      obtain ⟨h1, h2⟩ := (scan_ne_iff (x := ':') (a := h) (b := p)).2 ⟨rfl, (free_cons_left.1 hin).1, hhead⟩
      rw [h1, h2]

theorem HostPart.free {o h p : Text} (hp : HostPart o h p) : Free ['@', '/', '?', '#'] (o ++ h ++ p) := by
  cases hp with
  | plain _ hin hport =>
    refine free_append.2 ⟨(free_cons_left.1 hin).2, ?_⟩
    rcases hport with rfl | ⟨q, rfl, hq⟩
    · simp [Free]
    · exact free_cons.2 ⟨by decide, hq⟩
  | bracketed hin hq =>
    exact free_append.2 ⟨free_cons.2 ⟨by decide, (free_cons_left.1 hin).2⟩, free_cons.2 ⟨by decide, hq⟩⟩

theorem HostPart.head?_plain {h p : Text} (hp : HostPart [] h p) : (h ++ p).head? ≠ some '[' := by
  cases hp with
  | plain ho _ hport =>
    cases h with
    | nil => rcases hport with rfl | ⟨q, rfl, -⟩ <;> simp
    | cons c cs => simpa using ho

/-- the last cut finds a host, and finds it where the grammar of the authority puts it -/
theorem atHost_eq_some_iff {s u g r : Text} {v : Url} (hf : Free ['@', '/', '?', '#'] g) :
    atHost s u g r = some v ↔
      ∃ o h p, g = o ++ h ++ p ∧ HostPart o h p ∧ v = ⟨s, u, !o.isEmpty, h, p ++ r⟩ := by
  by_cases ho : g.head? = some '['
  · obtain ⟨inner, rfl⟩ := List.head?_eq_some_iff.1 ho
    rw [atHost_open (free_cons.1 hf).2]
    constructor
    · rintro ⟨h, p, rfl, hp, rfl⟩
      exact ⟨_, h, _, rfl, hp, rfl⟩
    · rintro ⟨o, h, p, e, hp, rfl⟩
      cases hp with
      | plain h1 h2 h3 => exact absurd (congrArg List.head? e).symm (HostPart.plain h1 h2 h3).head?_plain
      | bracketed h1 h2 => exact ⟨h, _, by simpa using e, .bracketed h1 h2, rfl⟩
  · rw [atHost_plain hf ho]
    constructor
    · rintro ⟨h, p, rfl, hp, rfl⟩
      exact ⟨[], h, p, rfl, hp, rfl⟩
    · rintro ⟨o, h, p, rfl, hp, rfl⟩
      cases hp with
      | plain h1 h2 h3 => exact ⟨h, p, rfl, .plain h1 h2 h3, rfl⟩
      | bracketed h1 h2 => simp at ho

/-! ## The whole URL -/

theorem split?_eq_some_iff_cuts {t : Text} {v : Url} :
    split? t = some v ↔ ∃ s u g r, t = s ++ "://".toList ++ (u ++ g ++ r) ∧ SchemeText s ∧ UserText u ∧
      Free ['@', '/', '?', '#'] g ∧ AfterText r ∧ atHost s u g r = some v := by
  have hsplit : split? t = some v ↔ ∃ s rest, splitScheme? t = some (s, rest) ∧
      ∃ u g, splitAfterLast '@' (rest.takeWhile (!endsAuthority ·)) = (u, g) ∧
        atHost s u g (rest.dropWhile (!endsAuthority ·)) = some v := by
    unfold split?
    rcases splitScheme? t with _ | ⟨s, rest⟩
    · simp
    · simp only [Option.some.injEq, Prod.ext_iff]
      constructor
      · intro h
        exact ⟨s, rest, ⟨rfl, rfl⟩, _, _, ⟨rfl, rfl⟩, h⟩
      · rintro ⟨_, _, ⟨rfl, rfl⟩, _, _, ⟨rfl, rfl⟩, h⟩
        exact h
  rw [hsplit]
  constructor
  · rintro ⟨s, rest, hs, u, g, hg, hv⟩
    obtain ⟨rfl, hscheme⟩ := splitScheme?_eq_some_iff.1 hs
    obtain ⟨hrest, hfree, hafter⟩ := (scan_authority_iff (t := rest)).1 ⟨rfl, rfl⟩
    obtain ⟨hug, hat, hu⟩ := splitAfterLast_eq_iff.1 hg
    rw [hug, free_append] at hfree
    exact ⟨s, u, g, _, by rw [← hug, ← hrest], hscheme, ⟨hu, hfree.1⟩, free_cons_left.2 ⟨hat, hfree.2⟩, hafter, hv⟩
  · rintro ⟨s, u, g, r, ht, hs, hu, hg, hr, hv⟩
    obtain ⟨hat, hg⟩ := free_cons_left.1 hg
    obtain ⟨h1, h2⟩ := (scan_authority_iff (t := u ++ g ++ r)).2 ⟨rfl, free_append.2 ⟨hu.2, hg⟩, hr⟩
    refine ⟨s, _, splitScheme?_eq_some_iff.2 ⟨ht, hs⟩, u, g, ?_, by rw [h2]; exact hv⟩
    rw [h1]
    exact splitAfterLast_eq_iff.2 ⟨rfl, hat, hu.1⟩

/-- a URL is cut into the parts of the grammar, and whatever has such parts is cut -/
theorem split?_eq_some_iff {t : Text} {v : Url} :
    split? t = some v ↔ ∃ s u o h p r, t = s ++ "://".toList ++ u ++ o ++ h ++ p ++ r ∧ SchemeText s ∧ UserText u ∧
      HostPart o h p ∧ AfterText r ∧ v = ⟨s, u, !o.isEmpty, h, p ++ r⟩ := by
  rw [split?_eq_some_iff_cuts]
  constructor
  · rintro ⟨s, u, g, r, rfl, hs, hu, hg, hr, hv⟩
    obtain ⟨o, h, p, rfl, hp, rfl⟩ := (atHost_eq_some_iff hg).1 hv
    exact ⟨s, u, o, h, p, r, by simp only [List.append_assoc], hs, hu, hp, hr, rfl⟩
  · rintro ⟨s, u, o, h, p, r, rfl, hs, hu, hp, hr, rfl⟩
    exact ⟨s, u, o ++ h ++ p, r, by simp only [List.append_assoc], hs, hu, hp.free, hr,
      (atHost_eq_some_iff hp.free).2 ⟨o, h, p, rfl, hp, rfl⟩⟩

/-- a host that is not empty is found between the parts that the grammar puts around it -/
theorem host?_of_parts {s u o h p r : Text} (hs : SchemeText s) (hu : UserText u) (hp : HostPart o h p) (hr : AfterText r)
    (hne : h ≠ []) : host? (s ++ "://".toList ++ u ++ o ++ h ++ p ++ r) = some h := by
  rw [host?, split?_eq_some_iff.2 ⟨s, u, o, h, p, r, rfl, hs, hu, hp, hr, rfl⟩]
  exact if_neg hne

theorem byteSize_opening {o h p : Text} (hp : HostPart o h p) :
    Text.byteSize o = if (!o.isEmpty) = true then 1 else 0 := by
  cases hp <;> rfl

theorem hostAt_iff {t h : Text} {a b : ℕ} :
    HostAt t a b h ↔ ∃ v, split? t = some v ∧ v.hostSpan = (a, b) ∧ v.host = h := by
  have hscheme : Text.byteSize "://".toList = 3 := rfl
  constructor
  · rintro ⟨s, u, o, p, r, ht, hs, hu, hp, hr, rfl, rfl⟩
    refine ⟨⟨s, u, !o.isEmpty, h, p ++ r⟩, split?_eq_some_iff.2 ⟨s, u, o, h, p, r, ht, hs, hu, hp, hr, rfl⟩, ?_, rfl⟩
    simp only [hostSpan, hostStart, Text.byteSize_append, byteSize_opening hp, hscheme]
  · rintro ⟨v, hv, hspan, rfl⟩
    obtain ⟨s, u, o, h, p, r, ht, hs, hu, hp, hr, rfl⟩ := split?_eq_some_iff.1 hv
    simp only [hostSpan, hostStart, Prod.mk.injEq] at hspan
    refine ⟨s, u, o, p, r, ht, hs, hu, hp, hr, ?_, ?_⟩
    · simp only [Text.byteSize_append, byteSize_opening hp, hscheme, ← hspan.1]
    · simp only [Text.byteSize_append, byteSize_opening hp, hscheme, ← hspan.2]

theorem hostSpan_lt_iff {v : Url} {a b : ℕ} (h : v.hostSpan = (a, b)) : a < b ↔ v.host ≠ [] := by
  simp only [hostSpan, Prod.mk.injEq] at h
  obtain ⟨rfl, rfl⟩ := h
  cases v.host with
  | nil => simp
  | cons c cs =>
    have := c.utf8Size_pos
    simp
    omega

/-- **The host is where the grammar puts it.** The reader gives the place of a host if and only if the text has the parts
of a URL with a host there, and it gives the text of a host if and only if that place is not empty. -/
theorem hostSpan?_grammar (t : Text) :
    (∀ a b, hostSpan? t = some (a, b) ↔ ∃ h, HostAt t a b h) ∧
      ∀ h, host? t = some h ↔ ∃ a b, a < b ∧ HostAt t a b h := by
  simp only [hostAt_iff]
  refine ⟨fun a b => ?_, fun h => ?_⟩
  · simp [hostSpan?]
  · unfold host?
    constructor
    · intro e
      split at e
      · rename_i v hv
        split_ifs at e with hne
        cases e
        exact ⟨_, _, (hostSpan_lt_iff rfl).2 hne, v, hv, rfl, rfl⟩
      · cases e
    · rintro ⟨a, b, hab, v, hv, hspan, rfl⟩
      have hne := (hostSpan_lt_iff hspan).1 hab
      simp [hv, hne]

/-- a slash in brackets is outside the grammar: it ends the authority before the bracket is closed -/
example : hostSpan? "http://[a/b]/x".toList = none := by decide

end CrawlFilter.Url
