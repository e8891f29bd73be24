/-
Places in a text and in its bytes. A place is between two characters of a text if the bytes before it are those of a
part of the text, and a text can be cut at exactly these places. A character of ASCII is one byte, and no byte of another
character looks like it. So a scan of the bytes for such characters stops where a scan of the text does, and stops between
characters.

- `exists_item_iff`, `exists_textBetween_iff`: which requests are answered.
- `cut_eq_ok_iff`, `textBetween_append`: cuts of a text.
- `findIdx?_encode`, `findIdx?_encode_append`: scans of bytes and scans of texts.
- `firstPlace_encode`, `firstPlace_reverse_encode`: a scan that asks for one byte after the other, from either end.
-/
import CrawlFilter.Proofs.Bytewise
import CrawlFilter.Proofs.Outcomes
import CrawlFilter.Proofs.Scans
import CrawlFilter.Proofs.Utf8

namespace CrawlFilter

/-! ## Requests -/

namespace Access

variable {α : Type}

theorem item_eq_ok_iff {l : List α} {i : ℕ} {a : α} : item l i = .ok a ↔ l[i]? = some a := by
  unfold item
  cases l[i]? <;> simp

/-- an item is there exactly if the list reaches to its place -/
theorem exists_item_iff {l : List α} {i : ℕ} : (∃ a, item l i = .ok a) ↔ i < l.length := by
  simp only [item_eq_ok_iff, List.getElem?_eq_some_iff]
  exact ⟨fun ⟨_, hi, _⟩ => hi, fun hi => ⟨_, hi, rfl⟩⟩

theorem item_append (x z : List α) (a : α) : item (x ++ a :: z) x.length = .ok a :=
  item_eq_ok_iff.2 (by simp)

theorem items_append (x s z : List α) : items (x ++ s ++ z) x.length (x.length + s.length) = .ok s := by
  rw [← List.length_append, items, if_neg (by simp), if_neg (by simp), List.take_left, List.drop_left]

theorem minus_eq_ok {a b : ℕ} (h : b ≤ a) : minus a b = .ok (a - b) := if_pos h

end Access

/-! ## Places between characters -/

theorem Text.byteSize_eq_zero_iff {t : Text} : byteSize t = 0 ↔ t = [] := by
  cases t with
  | nil => simp
  | cons c cs =>
    have := c.utf8Size_pos
    simp only [byteSize_cons, reduceCtorEq, iff_false]
    omega

/-- a place between two characters of a text, or at one of its ends -/
def Boundary (t : Text) (n : ℕ) : Prop := ∃ s u, t = s ++ u ∧ n = Text.byteSize s

theorem Boundary.le {t : Text} {n : ℕ} (h : Boundary t n) : n ≤ Text.byteSize t := by
  obtain ⟨s, u, rfl, rfl⟩ := h
  rw [Text.byteSize_append]
  omega

theorem boundary_append (s u : Text) : Boundary (s ++ u) (Text.byteSize s) := ⟨s, u, rfl, rfl⟩

namespace Access

theorem cut_append (s u : Text) : cut (s ++ u) (Text.byteSize s) = .ok (s, u) := by
  induction s with
  | nil => rw [List.nil_append, Text.byteSize_nil, cut]
  | cons c s ih =>
    obtain ⟨n, hn⟩ := Nat.exists_eq_add_one_of_ne_zero (mt Text.byteSize_eq_zero_iff.1 (List.cons_ne_nil c s))
    rw [Text.byteSize_cons] at hn
    have hrest : n + 1 - c.utf8Size = Text.byteSize s := by omega
    rw [Text.byteSize_cons, hn, List.cons_append, cut, hrest, ih, if_neg (by omega)]
    rfl

theorem cut_eq_ok_iff {t s u : Text} {n : ℕ} : cut t n = .ok (s, u) ↔ t = s ++ u ∧ n = Text.byteSize s := by
  constructor
  · intro h
    fun_induction cut t n generalizing s u with
    | case1 t =>
      cases h
      exact ⟨rfl, rfl⟩
    | case2 => cases h
    | case3 => cases h
    | case4 c cs n hn ih =>
      obtain ⟨⟨s', u'⟩, hcut, hp⟩ := except_map_eq_ok.1 h
      cases hp
      obtain ⟨rfl, hs⟩ := ih hcut
      exact ⟨rfl, by rw [Text.byteSize_cons]; omega⟩
  · rintro ⟨rfl, rfl⟩
    exact cut_append s u

/-- a text can be cut exactly between characters -/
theorem exists_cut_iff {t : Text} {n : ℕ} : (∃ p, cut t n = .ok p) ↔ Boundary t n := by
  simp only [Prod.exists, cut_eq_ok_iff, Boundary]

example : cut "é".toList 1 = .error .insideCharacter := by decide

theorem textFrom_append (s u : Text) : textFrom (s ++ u) (Text.byteSize s) = .ok u := by
  rw [textFrom, cut_append]
  rfl

theorem textBetween_append (s h u : Text) :
    textBetween (s ++ h ++ u) (Text.byteSize s) (Text.byteSize (s ++ h)) = .ok h := by
  have hle : ¬ Text.byteSize (s ++ h) < Text.byteSize s := by
    rw [Text.byteSize_append]
    omega
  rw [textBetween, if_neg hle, cut_append]
  exact textFrom_append s h

/-- a stretch of text is there exactly if it does not end before it begins, and begins and ends between characters -/
theorem exists_textBetween_iff {t : Text} {a b : ℕ} :
    (∃ s, textBetween t a b = .ok s) ↔ a ≤ b ∧ Boundary t a ∧ Boundary t b := by
  constructor
  · rintro ⟨s, h⟩
    rw [textBetween] at h
    by_cases hback : b < a
    · rw [if_pos hback] at h
      cases h
    · rw [if_neg hback] at h
      obtain ⟨⟨z, u⟩, hz, h⟩ := except_bind_eq_ok.1 h
      obtain ⟨⟨x, y⟩, hx, -⟩ := except_bind_eq_ok.1 h
      obtain ⟨rfl, rfl⟩ := cut_eq_ok_iff.1 hz
      obtain ⟨rfl, rfl⟩ := cut_eq_ok_iff.1 hx
      exact ⟨not_lt.1 hback, ⟨x, y ++ u, List.append_assoc x y u, rfl⟩, boundary_append _ u⟩
  · rintro ⟨hle, ⟨x, y, rfl, rfl⟩, ⟨z, u, ht, rfl⟩⟩
    -- of two parts at the front of a text, the one that takes no more bytes is a part of the other
    obtain ⟨m, rfl, rfl⟩ | ⟨m, rfl, rfl⟩ := List.append_eq_append_iff.1 ht
    · rw [← List.append_assoc]
      exact ⟨m, textBetween_append x m u⟩
    · rw [Text.byteSize_append] at hle
      obtain rfl : m = [] := Text.byteSize_eq_zero_iff.1 (by omega)
      exact ⟨[], by simpa using textBetween_append z [] y⟩

end Access

/-! ## Bytes of characters -/

namespace Utf8

theorem length_encode (t : Text) : (encode t).length = Text.byteSize t := by
  induction t with
  | nil => rfl
  | cons c t ih => rw [encode_cons, List.length_append, String.length_utf8EncodeChar, ih, Text.byteSize_cons]

end Utf8

namespace Bytewise

/-- a condition that holds of no character beyond ASCII -/
def AsciiOnly (p : Char → Bool) : Prop := ∀ c, p c = true → c.toNat < 0x80

theorem ascii_of_mem {p : Char → Bool} (hp : AsciiOnly p) {c : Char} {a : UInt8} (h : a ∈ String.utf8EncodeChar c) :
    ascii p a = p c := by
  rcases Nat.lt_or_ge c.toNat 0x80 with hc | hc
  · rw [Utf8.encodeChar_eq, if_pos hc, List.mem_singleton] at h
    have ha : a.toNat = c.toNat := (Utf8.ofNat_eq_iff (by omega)).1 h.symm
    simp [ascii, ha, hc, Char.ofNat_toNat]
  · have ha := Utf8.le_of_mem_encodeChar hc h
    have hpc : p c = false := by
      rw [Bool.eq_false_iff]
      intro hpc
      have := hp c hpc
      omega
    rw [hpc, ascii, decide_eq_false (by omega), Bool.false_and]

/-- the first byte tells the first character, as far as it is one of ASCII -/
theorem exists_encode_cons (c : Char) (t : Text) :
    ∃ a z, Utf8.encode (c :: t) = a :: z ∧ ∀ p, AsciiOnly p → ascii p a = p c := by
  obtain ⟨a, z, he⟩ := List.exists_cons_of_ne_nil (String.utf8EncodeChar_ne_nil (c := c))
  refine ⟨a, z ++ Utf8.encode t, by rw [Utf8.encode_cons, he, List.cons_append], fun p hp => ?_⟩
  exact ascii_of_mem hp (he ▸ List.mem_cons_self)

section Scan

variable {p : Char → Bool} (hp : AsciiOnly p)
include hp

theorem forall_mem_encode_iff (b : Bool) (t : Text) :
    (∀ a ∈ Utf8.encode t, ascii p a = b) ↔ ∀ c ∈ t, p c = b := by
  constructor
  · intro h c hc
    obtain ⟨a, ha⟩ := List.exists_mem_of_ne_nil _ (String.utf8EncodeChar_ne_nil (c := c))
    rw [← ascii_of_mem hp ha]
    exact h a (List.mem_flatMap.2 ⟨c, hc, ha⟩)
  · intro h a ha
    obtain ⟨c, hc, hac⟩ := List.mem_flatMap.1 ha
    rw [ascii_of_mem hp hac, h c hc]

theorem all_encode (t : Text) : (Utf8.encode t).all (ascii p) = t.all p := by
  rw [Bool.eq_iff_iff, List.all_eq_true, List.all_eq_true, forall_mem_encode_iff hp]

/-- a scan of the bytes finds nothing that is not in the text -/
theorem findIdx?_encode {t : Text} (h : ∀ c ∈ t, p c = false) : (Utf8.encode t).findIdx? (ascii p) = none := by
  rw [List.findIdx?_eq_none_iff, forall_mem_encode_iff hp]
  exact h

/-- a scan of the bytes stops where a scan of the text does -/
theorem findIdx?_encode_append {s : Text} (h : ∀ c ∈ s, p c = false) {c : Char} (hc : p c = true) (t : Text) :
    (Utf8.encode (s ++ c :: t)).findIdx? (ascii p) = some (Text.byteSize s) := by
  obtain ⟨a, z, he, ha⟩ := exists_encode_cons c t
  rw [Utf8.encode_append, List.findIdx?_append, findIdx?_encode hp h, he, List.findIdx?_cons, ha p hp, if_pos hc,
    Option.none_or, Option.map_some, Utf8.length_encode, Nat.zero_add]

end Scan

theorem beq_eq_false_of_notMem {x : Char} {t : Text} (h : x ∉ t) : ∀ c ∈ t, (c == x) = false := by
  intro c hc
  rw [beq_eq_false_iff_ne]
  rintro rfl
  exact h hc

theorem asciiOnly_beq {x : Char} (hx : x.toNat < 0x80) : AsciiOnly (· == x) := by
  intro c hc
  rw [beq_iff_eq] at hc
  rwa [hc]

theorem item_encode (s : Text) (c : Char) (t : Text) :
    ∃ a, Access.item (Utf8.encode (s ++ c :: t)) (Text.byteSize s) = .ok a ∧ ∀ p, AsciiOnly p → ascii p a = p c := by
  obtain ⟨a, z, he, ha⟩ := exists_encode_cons c t
  rw [Utf8.encode_append, he, ← Utf8.length_encode]
  exact ⟨a, Access.item_append _ z a, ha⟩

theorem items_encode (x s z : Text) :
    Access.items (Utf8.encode (x ++ s ++ z)) (Text.byteSize x) (Text.byteSize (x ++ s)) = .ok (Utf8.encode s) := by
  rw [Text.byteSize_append, ← Utf8.length_encode x, ← Utf8.length_encode s, Utf8.encode_append, Utf8.encode_append]
  exact Access.items_append _ _ _

/-! ## Bytes asked for one by one -/

theorem firstPlace_eq {b : Bytes} {p : UInt8 → Bool} {is : List ℕ} (h : ∀ i ∈ is, i < b.length) :
    firstPlace b p is = .ok (is.find? fun i => b[i]?.any p) := by
  induction is with
  | nil => rfl
  | cons i is ih =>
    obtain ⟨hi, his⟩ := List.forall_mem_cons.1 h
    obtain ⟨x, hx⟩ := Access.exists_item_iff.2 hi
    rw [firstPlace, hx, Access.ok_bind, List.find?_cons, Access.item_eq_ok_iff.1 hx, Option.any_some]
    cases p x with
    | true => rfl
    | false => exact ih his

theorem lt_of_mem_places {a b i : ℕ} (h : i ∈ places a b) : a ≤ i ∧ i < b := by
  rw [places, List.mem_range'_1] at h
  omega

theorem places_cons (a n : ℕ) : places a (a + (n + 1)) = a :: places (a + 1) (a + 1 + n) := by
  rw [places, places, Nat.add_sub_cancel_left, Nat.add_sub_cancel_left, List.range'_succ]

theorem places_concat (a n : ℕ) : places a (a + (n + 1)) = places a (a + n) ++ [a + n] := by
  rw [places, places, Nat.add_sub_cancel_left, Nat.add_sub_cancel_left, List.range'_1_concat]

/-- the places of a stretch, tried from its front -/
theorem find?_places (p : UInt8 → Bool) (x y z : Bytes) :
    ((places x.length (x.length + y.length)).find? fun i => (x ++ y ++ z)[i]?.any p) =
      (y.findIdx? p).map (x.length + ·) := by
  induction y generalizing x with
  | nil => simp [places]
  | cons a y ih =>
    have hbytes : x ++ a :: y ++ z = x ++ [a] ++ y ++ z := by simp
    have hfirst : (x ++ [a] ++ y ++ z)[x.length]? = some a := by simp
    have ih := ih (x ++ [a])
    rw [List.length_append, List.length_singleton] at ih
    rw [List.length_cons, places_cons, hbytes, List.find?_cons, hfirst, Option.any_some, List.findIdx?_cons, ih]
    cases p a with
    | true => rfl
    | false =>
      simp only [Bool.false_eq_true, if_false, Option.map_map]
      congr 1
      funext i
      simp only [Function.comp_apply]
      omega

/-- the places of a stretch, tried from its end -/
theorem find?_reverse_places (p : UInt8 → Bool) (x y z : Bytes) :
    ((places x.length (x.length + y.length)).reverse.find? fun i => (x ++ y ++ z)[i]?.any p) =
      (y.reverse.findIdx? p).map fun i => x.length + (y.length - 1 - i) := by
  induction y using List.reverseRecOn generalizing z with
  | nil => simp [places]
  | append_singleton y a ih =>
    have hbytes : x ++ (y ++ [a]) ++ z = x ++ y ++ a :: z := by simp
    have hlast : (x ++ y ++ a :: z)[x.length + y.length]? = some a := by
      rw [← List.length_append]
      simp
    rw [List.length_append, List.length_singleton, places_concat, List.reverse_append, List.reverse_append, hbytes]
    rw [List.reverse_singleton, List.reverse_singleton, List.singleton_append, List.singleton_append, List.find?_cons,
      hlast, Option.any_some, List.findIdx?_cons, ih]
    cases p a with
    | true => simp
    | false =>
      simp only [Bool.false_eq_true, if_false, Option.map_map]
      congr 1
      funext i
      simp only [Function.comp_apply]
      omega

theorem lt_length_of_mem_places {x s z : Text} {i : ℕ}
    (h : i ∈ places (Text.byteSize x) (Text.byteSize (x ++ s))) : i < (Utf8.encode (x ++ s ++ z)).length := by
  have := (lt_of_mem_places h).2
  rw [Utf8.length_encode, Text.byteSize_append (x ++ s)]
  omega

/-- the bytes of a part of a text, asked for from its front -/
theorem firstPlace_encode (p : UInt8 → Bool) (x s z : Text) :
    firstPlace (Utf8.encode (x ++ s ++ z)) p (places (Text.byteSize x) (Text.byteSize (x ++ s))) =
      .ok (((Utf8.encode s).findIdx? p).map (Text.byteSize x + ·)) := by
  rw [firstPlace_eq fun i hi => lt_length_of_mem_places hi, Text.byteSize_append, ← Utf8.length_encode x,
    ← Utf8.length_encode s, Utf8.encode_append, Utf8.encode_append, find?_places]

/-- the bytes of a part of a text, asked for from its end -/
theorem firstPlace_reverse_encode (p : UInt8 → Bool) (x s z : Text) :
    firstPlace (Utf8.encode (x ++ s ++ z)) p (places (Text.byteSize x) (Text.byteSize (x ++ s))).reverse =
      .ok (((Utf8.encode s).reverse.findIdx? p).map fun i => Text.byteSize x + (Text.byteSize s - 1 - i)) := by
  rw [firstPlace_eq fun i hi => lt_length_of_mem_places (List.mem_reverse.1 hi), Text.byteSize_append,
    ← Utf8.length_encode x, ← Utf8.length_encode s, Utf8.encode_append, Utf8.encode_append, find?_reverse_places]

end Bytewise

end CrawlFilter
