/-
Hosts found on the bytes of a URL. Every byte and every stretch that is asked for on the way to a host is there, and what
is found is what the URL's text says: its scheme, the end of its authority, the end of its user information, and the
places before and after its host.

- `schemeEnd?_eq`, `hostSpan?_eq`, `host?_eq`: no request fails, and the answers are those of `Url`.
- `Url.hostPlaces_of_hostSpan?`: the places are in order and between characters.
-/
import CrawlFilter.Proofs.HostGrammar
import CrawlFilter.Proofs.Places

namespace CrawlFilter

/-! ## Places in a URL -/

namespace Url

theorem split?_of_splitScheme? {t s rest : Text} (h : splitScheme? t = some (s, rest)) :
    split? t = atHost s (splitAfterLast '@' (rest.takeWhile (!endsAuthority ·))).1
      (splitAfterLast '@' (rest.takeWhile (!endsAuthority ·))).2 (rest.dropWhile (!endsAuthority ·)) := by
  rw [split?, h]
  rfl

theorem schemeEnd?_eq_some_iff {t : Text} {n : ℕ} :
    schemeEnd? t = some n ↔ ∃ s rest, t = s ++ "://".toList ++ rest ∧ SchemeText s ∧ n = Text.byteSize (s ++ "://".toList) := by
  have hsize (s : Text) : Text.byteSize (s ++ "://".toList) = Text.byteSize s + 3 := Text.byteSize_append s "://".toList
  simp only [schemeEnd?, Option.map_eq_some_iff, Prod.exists, splitScheme?_eq_some_iff, hsize, and_assoc, eq_comm (b := n)]

/-- the scheme and its slashes end between characters -/
theorem boundary_of_schemeEnd? {t : Text} {n : ℕ} (h : schemeEnd? t = some n) : Boundary t n := by
  obtain ⟨s, rest, rfl, -, rfl⟩ := schemeEnd?_eq_some_iff.1 h
  exact boundary_append _ rest

theorem HostAt.textBetween {t h : Text} {a b : ℕ} (hh : HostAt t a b h) : Access.textBetween t a b = .ok h := by
  obtain ⟨s, u, o, p, r, rfl, -, -, -, -, rfl, rfl⟩ := hh
  rw [List.append_assoc _ p r]
  exact Access.textBetween_append _ h (p ++ r)

/-- places for the end of a scheme and for a host in a URL -/
structure HostPlaces (url : Text) (n a b : ℕ) : Prop where
  scheme_le : n ≤ a
  start_le : a ≤ b
  stop_le : b ≤ Text.byteSize url
  scheme : Boundary url n
  start : Boundary url a
  stop : Boundary url b

/-- The places of a host are in order behind the scheme, and between characters: the text between them can be had. -/
theorem hostPlaces_of_hostSpan? {t : Text} {a b : ℕ} (h : hostSpan? t = some (a, b)) :
    ∃ n, schemeEnd? t = some n ∧ HostPlaces t n a b := by
  obtain ⟨v, hv, hspan⟩ := Option.map_eq_some_iff.1 h
  have hat : HostAt t a b v.host := hostAt_iff.2 ⟨v, hv, hspan, rfl⟩
  obtain ⟨hle, hstart, hstop⟩ := Access.exists_textBetween_iff.1 ⟨_, hat.textBetween⟩
  obtain ⟨s, u, o, p, r, ht, hs, -, -, -, ha, -⟩ := hat
  have hscheme : schemeEnd? t = some (Text.byteSize (s ++ "://".toList)) :=
    schemeEnd?_eq_some_iff.2 ⟨s, u ++ o ++ v.host ++ p ++ r, by rw [ht]; simp only [List.append_assoc], hs, rfl⟩
  refine ⟨_, hscheme, ?_, hle, hstop.le, boundary_of_schemeEnd? hscheme, hstart, hstop⟩
  rw [ha, Text.byteSize_append _ o, Text.byteSize_append _ u]
  omega

end Url

namespace Bytewise

open Access

/-! ## Characters that are looked for -/

theorem asciiOnly_isAlpha : AsciiOnly Char.isAlpha := by
  intro c hc
  rw [Text.isAlpha_iff] at hc
  omega

theorem asciiOnly_isSchemeChar : AsciiOnly Url.isSchemeChar := by
  intro c hc
  simp only [Url.isSchemeChar, Char.isAlphanum, Bool.or_eq_true, decide_eq_true_eq] at hc
  rcases hc with (((hc | hc) | rfl) | rfl) | rfl
  · exact asciiOnly_isAlpha c hc
  · have hdigit : 48 ≤ c.toNat ∧ c.toNat ≤ 57 := by simpa [Char.isDigit, UInt32.le_iff_toNat_le] using hc
    omega
  all_goals decide

theorem asciiOnly_endsAuthority : AsciiOnly Url.endsAuthority := by
  intro c hc
  rw [Url.endsAuthority_iff] at hc
  simp only [List.mem_cons, List.not_mem_nil, or_false] at hc
  rcases hc with rfl | rfl | rfl <;> decide

/-! ## Scheme -/

theorem isScheme_encode (s : Text) : isScheme (Utf8.encode s) = .ok (Url.isScheme s) := by
  cases s with
  | nil => rfl
  | cons c cs =>
    obtain ⟨a, z, he, ha⟩ := exists_encode_cons c cs
    have hall := all_encode asciiOnly_isSchemeChar (c :: cs)
    rw [he] at hall
    rw [isScheme, he, hall, Url.isScheme, if_neg (by simp)]
    have hfirst : item (a :: z) 0 = .ok a := item_append [] z a
    rw [hfirst, ok_bind, ha _ asciiOnly_isAlpha, List.all_cons]
    cases hc : c.isAlpha with
    | false => rfl
    | true => simp [Url.isSchemeChar, Char.isAlphanum, hc, pure, Except.pure]

/-- two slashes are found behind a place exactly if the text has them there -/
theorem slashesAfter_encode (x : Bytes) (b : UInt8) (t : Text) :
    slashesAfter (x ++ b :: Utf8.encode t) x.length = .ok (['/', '/'].isPrefixOf t) := by
  have hslash := asciiOnly_beq (x := '/') (by decide)
  unfold slashesAfter
  cases t with
  | nil =>
    rw [if_neg (by simp)]
    rfl
  | cons c t =>
    obtain ⟨a, z, he, ha⟩ := exists_encode_cons c t
    have hfirst : item (x ++ b :: a :: z) (x.length + 1) = .ok a := item_eq_ok_iff.2 (by simp)
    rw [he, hfirst, ok_bind, ha _ hslash, List.isPrefixOf]
    by_cases hc : c = '/'
    · subst hc
      rw [Utf8.encode_cons] at he
      have hz : Utf8.encode t = z := (List.cons.inj he).2
      cases t with
      | nil =>
        rw [← hz, if_neg (by simp)]
        rfl
      | cons d t =>
        obtain ⟨a', z', he', ha'⟩ := exists_encode_cons d t
        have hsecond : item (x ++ b :: a :: a' :: z') (x.length + 2) = .ok a' := item_eq_ok_iff.2 (by simp)
        rw [← hz, he', hsecond, ok_bind, ha' _ hslash, if_pos (by simp)]
        simp [pure, Except.pure, List.isPrefixOf, eq_comm (a := d)]
    · simp [hc, Ne.symm hc, pure, Except.pure]

/-- the scheme ends at the first colon, and two slashes follow -/
theorem schemeEnd?_of_colon {s t : Text} (hs : ':' ∉ s) :
    Url.schemeEnd? (s ++ ':' :: t) =
      if Url.isScheme s && ['/', '/'].isPrefixOf t then some (Text.byteSize s + 3) else none := by
  obtain ⟨htake, hdrop⟩ := (scan_ne_iff (x := ':') (a := s) (b := ':' :: t)).2 ⟨rfl, hs, by simp⟩
  unfold Url.schemeEnd? Url.splitScheme?
  rw [htake, hdrop]
  split
  · rename_i rest h
    obtain rfl : t = '/' :: '/' :: rest := (List.cons.inj h).2
    cases hs : Url.isScheme s <;> simp [hs, List.isPrefixOf]
  · rename_i h
    have ht : ['/', '/'].isPrefixOf t = false := by
      rw [Bool.eq_false_iff]
      intro hp
      obtain ⟨rest, rfl⟩ := List.isPrefixOf_iff_prefix.1 hp
      exact h rest rfl
    rw [ht, Bool.and_false]
    rfl

theorem schemeEnd?_of_notMem {t : Text} (h : ':' ∉ t) : Url.schemeEnd? t = none := by
  cases ht : Url.schemeEnd? t with
  | none => rfl
  | some n =>
    obtain ⟨⟨s, rest⟩, hsplit, -⟩ := Option.map_eq_some_iff.1 ht
    obtain ⟨rfl, -⟩ := Url.splitScheme?_eq_some_iff.1 hsplit
    exact absurd (by simp) h

theorem schemeEnd?_eq (url : Text) : schemeEnd? url = .ok (Url.schemeEnd? url) := by
  have hcolon := asciiOnly_beq (x := ':') (by decide)
  unfold schemeEnd?
  dsimp only
  by_cases hm : ':' ∈ url
  · obtain ⟨s, t, rfl, hs⟩ := List.eq_append_cons_of_mem hm
    have hitems : items (Utf8.encode (s ++ ':' :: t)) 0 (Text.byteSize s) = .ok (Utf8.encode s) := items_encode [] s _
    have hslashes : slashesAfter (Utf8.encode (s ++ ':' :: t)) (Text.byteSize s) = .ok (['/', '/'].isPrefixOf t) := by
      rw [Utf8.encode_append, ← Utf8.length_encode]
      exact slashesAfter_encode (Utf8.encode s) 0x3A t
    rw [findIdx?_encode_append hcolon (beq_eq_false_of_notMem hs) (by decide)]
    dsimp only
    rw [hitems, ok_bind, isScheme_encode, ok_bind, hslashes, ok_bind, schemeEnd?_of_colon hs]
    cases Url.isScheme s <;> cases ['/', '/'].isPrefixOf t <;> rfl
  · rw [findIdx?_encode hcolon (beq_eq_false_of_notMem hm), schemeEnd?_of_notMem hm]
    rfl

/-! ## Authority -/

theorem authorityEnd_encode {x g r : Text} (hg : Url.Free ['/', '?', '#'] g) (hr : Url.AfterText r) :
    authorityEnd (Utf8.encode (x ++ g ++ r)) (Text.byteSize x) = .ok (Text.byteSize (x ++ g)) := by
  have hfree : ∀ c ∈ g, Url.endsAuthority c = false := fun c hc => by
    rw [Bool.eq_false_iff, Ne, Url.endsAuthority_iff]
    exact hg c hc
  have hrest : items (Utf8.encode (x ++ g ++ r)) (Text.byteSize x) (Utf8.encode (x ++ g ++ r)).length =
      .ok (Utf8.encode (g ++ r)) := by
    have h := items_encode x (g ++ r) []
    rwa [List.append_nil, ← List.append_assoc, ← Utf8.length_encode (x ++ g ++ r)] at h
  unfold authorityEnd
  rw [hrest, ok_bind]
  cases r with
  | nil =>
    rw [List.append_nil, List.append_nil, findIdx?_encode asciiOnly_endsAuthority hfree, Utf8.length_encode]
    rfl
  | cons c r =>
    have hc : Url.endsAuthority c = true := Url.endsAuthority_iff.2 (hr c rfl)
    rw [findIdx?_encode_append asciiOnly_endsAuthority hfree hc, Text.byteSize_append]
    rfl

theorem userEnd_encode {x u h r : Text} (hh : '@' ∉ h) (hu : u = [] ∨ u.getLast? = some '@') :
    userEnd (Utf8.encode (x ++ (u ++ h) ++ r)) (Text.byteSize x) (Text.byteSize (x ++ (u ++ h))) =
      .ok (Text.byteSize (x ++ u)) := by
  have hat := asciiOnly_beq (x := '@') (by decide)
  have hfree : (Utf8.encode h).reverse.findIdx? (ascii (· == '@')) = none := by
    rw [List.findIdx?_eq_none_iff]
    intro a ha
    exact (forall_mem_encode_iff hat false h).2 (beq_eq_false_of_notMem hh) a (List.mem_reverse.1 ha)
  unfold userEnd
  rw [firstPlace_reverse_encode, ok_bind, Utf8.encode_append, List.reverse_append, List.findIdx?_append, hfree,
    Option.none_or]
  rcases hu with rfl | hu
  · rw [List.append_nil]
    rfl
  · obtain ⟨v, rfl⟩ := List.getLast?_eq_some_iff.1 hu
    have hlast : (Utf8.encode (v ++ ['@'])).reverse.findIdx? (ascii (· == '@')) = some 0 := by
      rw [Utf8.encode_append, List.reverse_append]
      rfl
    have hsize : Text.byteSize (v ++ ['@']) = Text.byteSize v + 1 := Text.byteSize_append v ['@']
    rw [hlast, Option.map_some, Option.map_some, List.length_reverse, Utf8.length_encode, Text.byteSize_append,
      Text.byteSize_append x, hsize]
    exact congrArg Except.ok (by omega)

/-! ## Host -/

theorem opensBracket_encode (x h r : Text) :
    opensBracket (Utf8.encode (x ++ h ++ r)) (Text.byteSize x) (Text.byteSize (x ++ h)) = .ok (h.head? == some '[') := by
  unfold opensBracket
  rw [Text.byteSize_append]
  cases h with
  | nil =>
    rw [if_neg (by simp)]
    rfl
  | cons c h =>
    obtain ⟨a, ha, hc⟩ := item_encode x c (h ++ r)
    have hpos := c.utf8Size_pos
    have hitem : item (Utf8.encode (x ++ c :: h ++ r)) (Text.byteSize x) = .ok a := by
      rwa [List.append_assoc, List.cons_append]
    rw [if_pos (by simp; omega), hitem, ok_bind, hc _ (asciiOnly_beq (by decide))]
    rfl

/-- a host in brackets ends at the first closing bracket, if there is one -/
theorem spanFrom?_bracketed (x inner r : Text) :
    spanFrom? (Utf8.encode (x ++ '[' :: inner ++ r)) (Text.byteSize x) (Text.byteSize (x ++ '[' :: inner)) =
      .ok (if inner.dropWhile (· != ']') = [] then none
        else some (Text.byteSize x + 1, Text.byteSize x + 1 + Text.byteSize (inner.takeWhile (· != ']')))) := by
  have hclose := asciiOnly_beq (x := ']') (by decide)
  have hopen : (('[' :: inner).head? == some '[') = true := rfl
  unfold spanFrom?
  rw [opensBracket_encode, ok_bind, hopen, if_pos rfl, items_encode, ok_bind]
  by_cases hm : ']' ∈ inner
  · obtain ⟨h, p, rfl, hh⟩ := List.eq_append_cons_of_mem hm
    obtain ⟨htake, hdrop⟩ := (scan_ne_iff (x := ']') (a := h) (b := ']' :: p)).2 ⟨rfl, hh, by simp⟩
    have hnot : ']' ∉ '[' :: h := by simpa using hh
    have hfind := findIdx?_encode_append hclose (beq_eq_false_of_notMem hnot) (c := ']') rfl p
    rw [List.cons_append] at hfind
    rw [hfind, htake, hdrop, if_neg (List.cons_ne_nil _ _), Text.byteSize_cons, Nat.add_assoc]
    rfl
  · obtain ⟨-, hdrop⟩ := (scan_ne_iff (x := ']') (a := inner) (b := [])).2 ⟨(List.append_nil _).symm, hm, by simp⟩
    have hnot : ']' ∉ '[' :: inner := by simpa using hm
    rw [findIdx?_encode hclose (beq_eq_false_of_notMem hnot), hdrop, if_pos rfl]
    rfl

/-- a host without brackets ends at the first colon, or with the authority -/
theorem spanFrom?_plain {x h r : Text} (ho : h.head? ≠ some '[') :
    spanFrom? (Utf8.encode (x ++ h ++ r)) (Text.byteSize x) (Text.byteSize (x ++ h)) =
      .ok (some (Text.byteSize x, Text.byteSize x + Text.byteSize (h.takeWhile (· != ':')))) := by
  have hcolon := asciiOnly_beq (x := ':') (by decide)
  have hplain : (h.head? == some '[') = false := by rwa [beq_eq_false_iff_ne]
  unfold spanFrom?
  rw [opensBracket_encode, ok_bind, hplain, if_neg Bool.false_ne_true, firstPlace_encode, ok_bind]
  by_cases hm : ':' ∈ h
  · obtain ⟨v, p, rfl, hv⟩ := List.eq_append_cons_of_mem hm
    obtain ⟨htake, -⟩ := (scan_ne_iff (x := ':') (a := v) (b := ':' :: p)).2 ⟨rfl, hv, by simp⟩
    rw [findIdx?_encode_append hcolon (beq_eq_false_of_notMem hv) rfl, htake]
    rfl
  · obtain ⟨htake, -⟩ := (scan_ne_iff (x := ':') (a := h) (b := [])).2 ⟨(List.append_nil _).symm, hm, by simp⟩
    rw [findIdx?_encode hcolon (beq_eq_false_of_notMem hm), htake, Text.byteSize_append]
    rfl

/-- the cut behind user information is the last one of `Url` -/
theorem spanFrom?_atHost (s u g r : Text) :
    spanFrom? (Utf8.encode (s ++ "://".toList ++ u ++ g ++ r)) (Text.byteSize (s ++ "://".toList ++ u))
        (Text.byteSize (s ++ "://".toList ++ u ++ g)) =
      .ok ((Url.atHost s u g r).map Url.hostSpan) := by
  have hscheme : Text.byteSize "://".toList = 3 := rfl
  have hstart : Text.byteSize (s ++ "://".toList ++ u) = Text.byteSize s + 3 + Text.byteSize u := by
    rw [Text.byteSize_append, Text.byteSize_append, hscheme]
  by_cases ho : g.head? = some '['
  · obtain ⟨inner, rfl⟩ := List.head?_eq_some_iff.1 ho
    rw [spanFrom?_bracketed, hstart]
    simp only [Url.atHost, List.isEmpty_iff]
    split_ifs <;> rfl
  · rw [spanFrom?_plain ho, hstart, Url.atHost_of_head?_ne ho]
    rfl

/-! ## The whole URL -/

theorem hostSpan?_eq (url : Text) : hostSpan? url = .ok (Url.hostSpan? url) := by
  unfold hostSpan? Url.hostSpan?
  rw [schemeEnd?_eq, ok_bind]
  cases hsplit : Url.splitScheme? url with
  | none =>
    rw [Url.schemeEnd?, Url.split?, hsplit]
    rfl
  | some x =>
    obtain ⟨s, rest⟩ := x
    obtain ⟨hurl, hs⟩ := Url.splitScheme?_eq_some_iff.1 hsplit
    rw [Url.split?_of_splitScheme? hsplit, Url.schemeEnd?_eq_some_iff.2 ⟨s, rest, hurl, hs, rfl⟩]
    subst hurl
    -- what follows the scheme is an authority, which is user information `u` and then `g`, and the text `r` after it
    obtain ⟨hrest, hfree, hafter⟩ := (Url.scan_authority_iff (t := rest)).1 ⟨rfl, rfl⟩
    generalize rest.takeWhile (!Url.endsAuthority ·) = authority at *
    generalize rest.dropWhile (!Url.endsAuthority ·) = r at *
    obtain ⟨u, g, hug⟩ : ∃ u g, Url.splitAfterLast '@' authority = (u, g) := ⟨_, _, rfl⟩
    obtain ⟨rfl, hat, hu⟩ := Url.splitAfterLast_eq_iff.1 hug
    subst hrest
    dsimp only
    rw [hug, ← List.append_assoc, authorityEnd_encode hfree hafter, ok_bind, userEnd_encode hat hu, ok_bind,
      ← List.append_assoc, spanFrom?_atHost]

theorem host?_eq (url : Text) : host? url = .ok (Url.host? url) := by
  unfold host? Url.host?
  rw [hostSpan?_eq, ok_bind, Url.hostSpan?]
  cases hsplit : Url.split? url with
  | none => rfl
  | some v =>
    have hat : Url.HostAt url v.hostSpan.1 v.hostSpan.2 v.host := Url.hostAt_iff.2 ⟨v, hsplit, rfl, rfl⟩
    have hempty : v.hostSpan.1 = v.hostSpan.2 ↔ v.host = [] := by
      rw [Url.hostSpan, left_eq_add, Text.byteSize_eq_zero_iff]
    simp only [Option.map_some, hempty, hat.textBetween, ok_bind]
    split_ifs <;> rfl

end Bytewise

end CrawlFilter
