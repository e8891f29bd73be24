/-
UTF-8 there and back. A character is one to four bytes, as the size of its code point says, and a text is the bytes of
its characters one after the other. Reading bytes strictly undoes writing, and nothing is read but what is written: the
forms that the reader refuses are those that no character has. Bytes below 0x80 stand for themselves and occur in no
longer form, so a text and its bytes have the same line feeds and carriage returns at the same places.

- `encodeChar_eq`: the bytes of a character.
- `two?_eq_some_iff`, `three?_eq_some_iff`, `four?_eq_some_iff`: each form is read exactly from the bytes of a character.
- `decode?_eq_some_iff`: bytes are read as a text exactly if they are its bytes.
- `mem_encode_iff`, `getLast?_encode_iff`, `withoutLast_encode`: ASCII characters in a text and in its bytes.
-/
import Mathlib.Tactic
import CrawlFilter.Proofs.Trimming

namespace CrawlFilter.Utf8

/-! ## Bytes of a character -/

theorem ofNat_eq_iff {n : ℕ} (h : n < 256) {b : UInt8} : UInt8.ofNat n = b ↔ b.toNat = n := by
  rw [← UInt8.toNat_inj, UInt8.toNat_ofNat_of_lt' h, eq_comm]

theorem toNat_lt (c : Char) : c.toNat < 0x110000 := by
  rcases c.valid with h | h
  · exact h.trans (by decide)
  · exact h.2

theorem toNat_ofNat {n : ℕ} (h : n.isValidChar) : (Char.ofNat n).toNat = n := by
  rw [Char.ofNat, dif_pos h]
  rfl

theorem encodeChar_eq (c : Char) : String.utf8EncodeChar c =
    if c.toNat < 0x80 then [.ofNat c.toNat]
    else if c.toNat < 0x800 then [.ofNat (0xC0 + c.toNat / 64), .ofNat (0x80 + c.toNat % 64)]
    else if c.toNat < 0x10000 then
      [.ofNat (0xE0 + c.toNat / 4096), .ofNat (0x80 + c.toNat / 64 % 64), .ofNat (0x80 + c.toNat % 64)]
    else [.ofNat (0xF0 + c.toNat / 262144), .ofNat (0x80 + c.toNat / 4096 % 64),
      .ofNat (0x80 + c.toNat / 64 % 64), .ofNat (0x80 + c.toNat % 64)] := by
  have hc : c.val.toNat < 0x110000 := toNat_lt c
  simp only [String.utf8EncodeChar, Char.toNat]
  generalize c.val.toNat = n at hc
  -- the library masks the first byte, which never holds more than its mask
  by_cases h1 : n < 0x80
  · simp only [h1, show n ≤ 127 by omega, if_true]
  · simp only [h1, show ¬ n ≤ 127 by omega, if_false]
    by_cases h2 : n < 0x800
    · simp only [h2, show n ≤ 2047 by omega, if_true, List.cons.injEq, and_true]
      exact ⟨congrArg _ (by omega), congrArg _ (by omega)⟩
    · simp only [h2, show ¬ n ≤ 2047 by omega, if_false]
      by_cases h3 : n < 0x10000
      · simp only [h3, show n ≤ 65535 by omega, if_true, List.cons.injEq, and_true]
        exact ⟨congrArg _ (by omega), congrArg _ (by omega), congrArg _ (by omega)⟩
      · simp only [h3, show ¬ n ≤ 65535 by omega, if_false, List.cons.injEq, and_true]
        exact ⟨congrArg _ (by omega), congrArg _ (by omega), congrArg _ (by omega), congrArg _ (by omega)⟩

theorem encodeChar_eq_one_iff {c : Char} {a : UInt8} :
    String.utf8EncodeChar c = [a] ↔ c.toNat < 0x80 ∧ a.toNat = c.toNat := by
  rw [encodeChar_eq]
  split_ifs with h1 h2 h3
  · rw [List.singleton_inj, ofNat_eq_iff (by omega), and_iff_right h1]
  all_goals simp [h1]

theorem encodeChar_eq_two_iff {c : Char} {a b : UInt8} :
    String.utf8EncodeChar c = [a, b] ↔ 0x80 ≤ c.toNat ∧ c.toNat < 0x800 ∧
      a.toNat = 0xC0 + c.toNat / 64 ∧ b.toNat = 0x80 + c.toNat % 64 := by
  rw [encodeChar_eq]
  split_ifs with h1 h2 h3
  · simp [h1.not_ge]
  · simp only [List.cons.injEq, and_true]
    rw [ofNat_eq_iff (by omega), ofNat_eq_iff (by omega)]
    simp [h2, Nat.not_lt.1 h1]
  · simp [h2]
  · simp [h2]

theorem encodeChar_eq_three_iff {c : Char} {a b d : UInt8} :
    String.utf8EncodeChar c = [a, b, d] ↔ 0x800 ≤ c.toNat ∧ c.toNat < 0x10000 ∧
      a.toNat = 0xE0 + c.toNat / 4096 ∧ b.toNat = 0x80 + c.toNat / 64 % 64 ∧ d.toNat = 0x80 + c.toNat % 64 := by
  rw [encodeChar_eq]
  split_ifs with h1 h2 h3
  · simp [show ¬ 0x800 ≤ c.toNat by omega]
  · simp [h2.not_ge]
  · simp only [List.cons.injEq, and_true]
    rw [ofNat_eq_iff (by omega), ofNat_eq_iff (by omega), ofNat_eq_iff (by omega)]
    simp [h3, Nat.not_lt.1 h2]
  · simp [h3]

theorem encodeChar_eq_four_iff {c : Char} {a b d e : UInt8} :
    String.utf8EncodeChar c = [a, b, d, e] ↔ 0x10000 ≤ c.toNat ∧ a.toNat = 0xF0 + c.toNat / 262144 ∧
      b.toNat = 0x80 + c.toNat / 4096 % 64 ∧ d.toNat = 0x80 + c.toNat / 64 % 64 ∧ e.toNat = 0x80 + c.toNat % 64 := by
  have hc := toNat_lt c
  rw [encodeChar_eq]
  split_ifs with h1 h2 h3
  · simp [show ¬ 0x10000 ≤ c.toNat by omega]
  · simp [show ¬ 0x10000 ≤ c.toNat by omega]
  · simp [h3.not_ge]
  · simp only [List.cons.injEq, and_true]
    rw [ofNat_eq_iff (by omega), ofNat_eq_iff (by omega), ofNat_eq_iff (by omega), ofNat_eq_iff (by omega)]
    simp [Nat.not_lt.1 h3]

/-! ## Reading a character -/

theorem scalar?_eq_some_iff {least n : ℕ} {c : Char} : scalar? least n = some c ↔ least ≤ n ∧ c.toNat = n := by
  unfold scalar?
  split_ifs with h
  · rw [Option.some.injEq, ← Char.toNat_inj, toNat_ofNat h.2, and_iff_right h.1, eq_comm]
  · constructor
    · exact nofun
    · rintro ⟨hl, rfl⟩
      exact absurd ⟨hl, c.valid⟩ h

theorem tail?_eq_some_iff {b : UInt8} {x : ℕ} : tail? b = some x ↔ b.toNat = 0x80 + x ∧ x < 64 := by
  unfold tail?
  split_ifs with h
  · rw [Option.some.injEq]
    omega
  · simp only [false_iff]
    omega

theorem two?_eq_some_iff {a b : UInt8} {c : Char} : two? a b = some c ↔ String.utf8EncodeChar c = [a, b] := by
  rw [encodeChar_eq_two_iff]
  simp only [two?, bind, Option.bind_eq_some_iff, tail?_eq_some_iff, Option.ite_none_right_eq_some,
    scalar?_eq_some_iff]
  constructor
  · rintro ⟨x, ⟨hb, hx⟩, ha, hle, hc⟩
    omega
  · rintro ⟨h1, h2, ha, hb⟩
    exact ⟨c.toNat % 64, ⟨hb, by omega⟩, by omega, by omega, by omega⟩

theorem three?_eq_some_iff {a b d : UInt8} {c : Char} :
    three? a b d = some c ↔ String.utf8EncodeChar c = [a, b, d] := by
  rw [encodeChar_eq_three_iff]
  simp only [three?, bind, Option.bind_eq_some_iff, tail?_eq_some_iff, Option.ite_none_right_eq_some,
    scalar?_eq_some_iff]
  constructor
  · rintro ⟨x, ⟨hb, hx⟩, y, ⟨hd, hy⟩, ha, hle, hc⟩
    omega
  · rintro ⟨h1, h2, ha, hb, hd⟩
    exact ⟨c.toNat / 64 % 64, ⟨hb, by omega⟩, c.toNat % 64, ⟨hd, by omega⟩, by omega, by omega, by omega⟩

theorem four?_eq_some_iff {a b d e : UInt8} {c : Char} :
    four? a b d e = some c ↔ String.utf8EncodeChar c = [a, b, d, e] := by
  have hc := toNat_lt c
  rw [encodeChar_eq_four_iff]
  simp only [four?, bind, Option.bind_eq_some_iff, tail?_eq_some_iff, Option.ite_none_right_eq_some,
    scalar?_eq_some_iff]
  constructor
  · rintro ⟨x, ⟨hb, hx⟩, y, ⟨hd, hy⟩, z, ⟨he, hz⟩, ha, hle, hc⟩
    omega
  · rintro ⟨h1, ha, hb, hd, he⟩
    exact ⟨c.toNat / 4096 % 64, ⟨hb, by omega⟩, c.toNat / 64 % 64, ⟨hd, by omega⟩, c.toNat % 64, ⟨he, by omega⟩,
      by omega, by omega, by omega⟩

/-- a first byte of a longer form is the first byte of no form of two -/
theorem two?_eq_none {a : UInt8} (h : 0xE0 ≤ a.toNat) (b : UInt8) : two? a b = none := by
  rw [Option.eq_none_iff_forall_not_mem]
  intro c hc
  obtain ⟨-, h2, ha, -⟩ := encodeChar_eq_two_iff.1 (two?_eq_some_iff.1 hc)
  omega

theorem three?_eq_none {a : UInt8} (h : 0xF0 ≤ a.toNat) (b d : UInt8) : three? a b d = none := by
  rw [Option.eq_none_iff_forall_not_mem]
  intro c hc
  obtain ⟨-, h2, ha, -⟩ := encodeChar_eq_three_iff.1 (three?_eq_some_iff.1 hc)
  omega

/-! ## Texts -/

@[simp] theorem encode_nil : encode [] = [] := rfl

@[simp] theorem encode_cons (c : Char) (t : Text) : encode (c :: t) = String.utf8EncodeChar c ++ encode t :=
  List.flatMap_cons

@[simp] theorem encode_append (s t : Text) : encode (s ++ t) = encode s ++ encode t := List.flatMap_append

theorem encode_eq_nil_iff {t : Text} : encode t = [] ↔ t = [] := by
  cases t <;> simp

/-- a character is read from its bytes, whatever follows them -/
theorem decode?_encodeChar_append (c : Char) (rest : Bytes) :
    decode? (String.utf8EncodeChar c ++ rest) = (decode? rest).map (c :: ·) := by
  have hle := c.utf8Size_le_four
  rw [← String.length_utf8EncodeChar] at hle
  rw [decode?.eq_def]
  match he : String.utf8EncodeChar c with
  | [] => exact absurd he String.utf8EncodeChar_ne_nil
  | [a] =>
    obtain ⟨h1, ha⟩ := encodeChar_eq_one_iff.1 he
    simp only [List.cons_append, List.nil_append, ha, if_pos h1, Char.ofNat_toNat]
  | [a, b] =>
    obtain ⟨h1, h2, ha, -⟩ := encodeChar_eq_two_iff.1 he
    simp only [List.cons_append, List.nil_append, if_neg (show ¬ a.toNat < 0x80 by omega), two?_eq_some_iff.2 he]
  | [a, b, d] =>
    obtain ⟨h1, h2, ha, -⟩ := encodeChar_eq_three_iff.1 he
    simp only [List.cons_append, List.nil_append, if_neg (show ¬ a.toNat < 0x80 by omega),
      two?_eq_none (show 0xE0 ≤ a.toNat by omega), three?_eq_some_iff.2 he]
  | [a, b, d, e] =>
    obtain ⟨h1, ha, -⟩ := encodeChar_eq_four_iff.1 he
    simp only [List.cons_append, List.nil_append, if_neg (show ¬ a.toNat < 0x80 by omega),
      two?_eq_none (show 0xE0 ≤ a.toNat by omega), three?_eq_none (show 0xF0 ≤ a.toNat by omega),
      four?_eq_some_iff.2 he]
  | _ :: _ :: _ :: _ :: _ :: _ =>
    simp only [he, List.length_cons] at hle
    omega

theorem decode?_encode (t : Text) : decode? (encode t) = some t := by
  induction t with
  | nil => rfl
  | cons c t ih => rw [encode_cons, decode?_encodeChar_append, ih, Option.map_some]

theorem eq_encode_of_decode? {b : Bytes} {t : Text} (h : decode? b = some t) : b = encode t := by
  -- one case for each form that is read; wherever the reader stops, it has refused
  fun_induction decode? b generalizing t with
  | case1 => cases h; rfl
  | case2 a rest ha ih =>
    obtain ⟨s, hs, rfl⟩ := Option.map_eq_some_iff.1 h
    have hn : (Char.ofNat a.toNat).toNat = a.toNat := toNat_ofNat (.inl (by omega))
    rw [encode_cons, encodeChar_eq_one_iff.2 ⟨by rwa [hn], hn.symm⟩, ← ih hs]
    rfl
  | case4 a ha b rest c hc ih =>
    obtain ⟨s, hs, rfl⟩ := Option.map_eq_some_iff.1 h
    rw [encode_cons, two?_eq_some_iff.1 hc, ← ih hs]
    rfl
  | case6 a ha b h2 d rest c hc ih =>
    obtain ⟨s, hs, rfl⟩ := Option.map_eq_some_iff.1 h
    rw [encode_cons, three?_eq_some_iff.1 hc, ← ih hs]
    rfl
  | case8 a ha b h2 d h3 e rest c hc ih =>
    obtain ⟨s, hs, rfl⟩ := Option.map_eq_some_iff.1 h
    rw [encode_cons, four?_eq_some_iff.1 hc, ← ih hs]
    rfl
  | _ => cases h

/-- **Reading is strict:** bytes are read as a text exactly if they are the bytes of that text. -/
theorem decode?_eq_some_iff {b : Bytes} {t : Text} : decode? b = some t ↔ b = encode t :=
  ⟨eq_encode_of_decode?, fun h => h ▸ decode?_encode t⟩

/-- the bytes of some text -/
def Valid (b : Bytes) : Prop := ∃ t, b = encode t

theorem decode?_eq_none_iff {b : Bytes} : decode? b = none ↔ ¬ Valid b := by
  simp only [Option.eq_none_iff_forall_ne_some, Ne, decode?_eq_some_iff, Valid, not_exists]

theorem Valid.append {a b : Bytes} (ha : Valid a) (hb : Valid b) : Valid (a ++ b) := by
  obtain ⟨s, rfl⟩ := ha
  obtain ⟨t, rfl⟩ := hb
  exact ⟨s ++ t, (encode_append s t).symm⟩

/-! ## ASCII -/

section Ascii

variable {x : Char} {a : UInt8}

theorem valid_singleton (hx : String.utf8EncodeChar x = [a]) : Valid [a] := ⟨[x], by simp [hx]⟩

/-- the bytes of a character beyond ASCII are all beyond ASCII -/
theorem le_of_mem_encodeChar {c : Char} (hc : 0x80 ≤ c.toNat) {b : UInt8} (hb : b ∈ String.utf8EncodeChar c) :
    0x80 ≤ b.toNat := by
  have hlt := toNat_lt c
  rw [encodeChar_eq, if_neg hc.not_gt] at hb
  split_ifs at hb with h2 h3
  · simp only [List.mem_cons, List.not_mem_nil, or_false] at hb
    rcases hb with rfl | rfl <;> rw [UInt8.toNat_ofNat'] <;> omega
  · simp only [List.mem_cons, List.not_mem_nil, or_false] at hb
    rcases hb with rfl | rfl | rfl <;> rw [UInt8.toNat_ofNat'] <;> omega
  · simp only [List.mem_cons, List.not_mem_nil, or_false] at hb
    rcases hb with rfl | rfl | rfl | rfl <;> rw [UInt8.toNat_ofNat'] <;> omega

/-- a byte that is a character occurs in the bytes of no other one -/
theorem mem_encodeChar_iff (hx : String.utf8EncodeChar x = [a]) {c : Char} :
    a ∈ String.utf8EncodeChar c ↔ c = x := by
  obtain ⟨hlt, ha⟩ := encodeChar_eq_one_iff.1 hx
  constructor
  · intro hm
    rcases Nat.lt_or_ge c.toNat 0x80 with hc | hc
    · rw [encodeChar_eq, if_pos hc, List.mem_singleton, eq_comm, ofNat_eq_iff (by omega), ha] at hm
      exact Char.toNat_inj.1 hm.symm
    · have := le_of_mem_encodeChar hc hm
      omega
  · rintro rfl
    rw [hx]
    exact List.mem_singleton_self a

theorem mem_encode_iff (hx : String.utf8EncodeChar x = [a]) {t : Text} : a ∈ encode t ↔ x ∈ t := by
  simp [encode, List.mem_flatMap, mem_encodeChar_iff hx]

theorem getLast?_encode_iff (hx : String.utf8EncodeChar x = [a]) {t : Text} :
    (encode t).getLast? = some a ↔ t.getLast? = some x := by
  rcases List.eq_nil_or_concat t with rfl | ⟨s, c, rfl⟩
  · simp
  · rw [List.concat_eq_append, List.getLast?_concat, encode_append, encode_cons, encode_nil, List.append_nil,
      List.getLast?_append_of_ne_nil _ String.utf8EncodeChar_ne_nil, Option.some.injEq]
    constructor
    · intro h
      exact (mem_encodeChar_iff hx).1 (List.mem_of_getLast? h)
    · rintro rfl
      rw [hx]
      rfl

theorem withoutLast_encode (hx : String.utf8EncodeChar x = [a]) (t : Text) :
    withoutLast a (encode t) = encode (withoutLast x t) := by
  by_cases h : t.getLast? = some x
  · obtain ⟨s, rfl⟩ := List.getLast?_eq_some_iff.1 h
    rw [withoutLast_concat, encode_append, encode_cons, encode_nil, List.append_nil, hx, withoutLast_concat]
  · rw [withoutLast_eq_self_iff.2 h, withoutLast_eq_self_iff.2 (mt (getLast?_encode_iff hx).1 h)]

end Ascii

end CrawlFilter.Utf8
