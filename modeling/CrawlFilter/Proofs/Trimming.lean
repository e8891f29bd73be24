/-
What trimming does to a text, and to names that are compared as hosts.

- `trim_blanks_append` / `trim_append_blanks`: blanks at the front and at the end are of no account.
- `trim_withoutLast_cr`: nor is a carriage return that a reader of lines dropped before.
- `normalizeHost_trim`: a name that was trimmed before has the same normal form, so a scope may be trimmed where it is
  read and again where it is normalized.
- `normalizeHost_congr`: names that differ in the case of letters have the same normal form.
- `normalizeHost_append_dots`: of a name that is bare, nothing but the dots behind it and the case of its letters is lost.
- `normalizeHost_eq_self_iff`: the names in normal form are the bare ones in lower case.
- `normalizeHost_normal_iff`: which names normalizing brings into normal form, and what it reaches for the others.
- `normalizeHost_eq_nil_iff`: of which names normalizing leaves nothing.
- `notMem_normalizeHost`: normalizing a name brings in no line feed.

`dropEndWhile` is `List.rdropWhile`; the library's lemmas are used through `dropEndWhile_eq`.
-/
import Mathlib.Data.List.DropRight
import Mathlib.Tactic
import CrawlFilter.Text.Lines
import CrawlFilter.Url

namespace CrawlFilter

/-! ## A last item that is dropped -/

section WithoutLast

variable {α : Type} [DecidableEq α]

@[simp] theorem withoutLast_concat (x : α) (l : List α) : withoutLast x (l ++ [x]) = l := by
  simp [withoutLast]

theorem withoutLast_eq_self_iff {x : α} {l : List α} : withoutLast x l = l ↔ l.getLast? ≠ some x := by
  unfold withoutLast
  split_ifs with h
  · refine ⟨fun e => ?_, fun h' => absurd h h'⟩
    obtain ⟨l', rfl⟩ := List.getLast?_eq_some_iff.1 h
    rw [List.dropLast_concat] at e
    simpa using congrArg List.length e
  · exact ⟨fun _ => h, fun _ => rfl⟩

theorem withoutLast_subset (x : α) (l : List α) : withoutLast x l ⊆ l := by
  unfold withoutLast
  split_ifs
  · exact List.dropLast_subset l
  · exact List.Subset.refl l

/-- the first item stays, unless it is the one to be dropped -/
theorem withoutLast_cons {x c : α} (h : c ≠ x) (l : List α) : withoutLast x (c :: l) = c :: withoutLast x l := by
  rcases List.eq_nil_or_concat l with rfl | ⟨l', y, rfl⟩
  · simp [withoutLast, h]
  · by_cases hy : y = x
    · subst hy
      rw [List.concat_eq_append, withoutLast_concat, ← List.cons_append, withoutLast_concat]
    · have h1 : withoutLast x (l' ++ [y]) = l' ++ [y] := withoutLast_eq_self_iff.2 (by simpa using hy)
      have h2 : withoutLast x (c :: (l' ++ [y])) = c :: (l' ++ [y]) :=
        withoutLast_eq_self_iff.2 (by rw [← List.cons_append, List.getLast?_concat]; simpa using hy)
      rw [List.concat_eq_append, h1, h2]

theorem withoutLast_eq_or (x : α) (l : List α) : withoutLast x l = l ∨ l = withoutLast x l ++ [x] := by
  unfold withoutLast
  split_ifs with h
  · obtain ⟨l', rfl⟩ := List.getLast?_eq_some_iff.1 h
    right; simp
  · exact Or.inl rfl

end WithoutLast

namespace Text

/-! ## Trimming -/

theorem dropEndWhile_eq (p : Char → Bool) (t : Text) : dropEndWhile p t = t.rdropWhile p := rfl

theorem dropEndWhile_subset (p : Char → Bool) (t : Text) : dropEndWhile p t ⊆ t :=
  (List.rdropWhile_prefix p t).subset

theorem trim_subset (t : Text) : trim t ⊆ t := fun _ h =>
  (List.dropWhile_suffix isBlank).subset (dropEndWhile_subset isBlank _ h)

theorem dropEndWhile_append_of_pos {p : Char → Bool} {w : Text} (h : ∀ c ∈ w, p c = true) (t : Text) :
    dropEndWhile p (t ++ w) = dropEndWhile p t := by
  rw [dropEndWhile, List.reverse_append, List.dropWhile_append_of_pos (by simpa using h), dropEndWhile]

theorem trim_blanks_append {w : Text} (h : ∀ c ∈ w, isBlank c = true) (t : Text) : trim (w ++ t) = trim t := by
  rw [trim, List.dropWhile_append_of_pos h, trim]

theorem trim_append_blanks {w : Text} (h : ∀ c ∈ w, isBlank c = true) (t : Text) : trim (t ++ w) = trim t := by
  simp only [trim, List.dropWhile_append]
  split_ifs with he
  · have ht : t.dropWhile isBlank = [] := by simpa using he
    rw [List.dropWhile_eq_nil_iff.2 h, ht]
  · exact dropEndWhile_append_of_pos h _

theorem trim_withoutLast_cr (t : Text) : trim (withoutLast '\r' t) = trim t := by
  rcases withoutLast_eq_or '\r' t with h | h
  · rw [h]
  · conv_rhs => rw [h]
    rw [trim_append_blanks (List.forall_mem_singleton.2 rfl)]

/-- dropping at the end leaves the front as it is, if the front is not to be dropped -/
theorem dropWhile_dropEndWhile {p q : Char → Bool} (t : Text) (h : t.dropWhile p = t) :
    (dropEndWhile q t).dropWhile p = dropEndWhile q t := by
  obtain ⟨r, hr⟩ := List.rdropWhile_prefix q t
  rw [← dropEndWhile_eq] at hr
  cases hd : dropEndWhile q t with
  | nil => rfl
  | cons c cs =>
    have hc : ¬ p c = true := by
      rw [hd] at hr
      rw [← hr, List.dropWhile_eq_self_iff] at h
      exact h (by simp)
    exact List.dropWhile_cons_of_neg hc

theorem trim_trim (t : Text) : trim (trim t) = trim t := by
  have h : (trim t).dropWhile isBlank = trim t := dropWhile_dropEndWhile _ (List.dropWhile_idempotent isBlank _)
  conv_lhs => rw [trim, h]
  exact List.rdropWhile_idempotent isBlank _

theorem trim_sublist (t : Text) : (trim t).Sublist t :=
  (List.rdropWhile_prefix isBlank _).sublist.trans (List.dropWhile_suffix isBlank).sublist

theorem dropEndWhile_eq_self_iff {p : Char → Bool} {t : Text} :
    dropEndWhile p t = t ↔ ∀ c ∈ t.getLast?, p c = false := by
  rw [dropEndWhile_eq, List.rdropWhile_eq_self_iff]
  rcases List.eq_nil_or_concat t with rfl | ⟨t, c, rfl⟩ <;> simp

theorem trim_eq_self_iff {t : Text} :
    trim t = t ↔ (∀ c ∈ t.head?, isBlank c = false) ∧ ∀ c ∈ t.getLast?, isBlank c = false := by
  have hf : t.dropWhile isBlank = t ↔ ∀ c ∈ t.head?, isBlank c = false := by
    rw [List.dropWhile_eq_self_iff]
    cases t <;> simp
  rw [← hf, ← dropEndWhile_eq_self_iff]
  constructor
  · intro h
    have hd : t.dropWhile isBlank = t := by
      refine (List.dropWhile_suffix isBlank).eq_of_length_le ?_
      have := (List.rdropWhile_prefix isBlank (t.dropWhile isBlank)).length_le
      rwa [← dropEndWhile_eq, ← trim, h] at this
    rw [trim, hd] at h
    exact ⟨hd, h⟩
  · rintro ⟨hd, he⟩
    rw [trim, hd, he]

/-! ## Case -/

theorem toLower_eq_self_or (c : Char) :
    c.toLower = c ∨ (65 ≤ c.toNat ∧ c.toNat ≤ 90) ∧ c.toLower.toNat = c.toNat + 32 := by
  unfold Char.toLower
  split_ifs with h
  · right
    simp only [ge_iff_le, UInt32.le_iff_toNat_le] at h
    simp only [Char.toNat, UInt32.toNat_add]
    simp at h ⊢
    omega
  · exact Or.inl rfl

theorem isAlpha_iff {c : Char} :
    c.isAlpha = true ↔ (65 ≤ c.toNat ∧ c.toNat ≤ 90) ∨ 97 ≤ c.toNat ∧ c.toNat ≤ 122 := by
  unfold Char.isAlpha Char.isUpper Char.isLower
  simp [UInt32.le_iff_toNat_le]

/-- a character that is no letter is the lower case of itself only -/
theorem toLower_eq_iff {c x : Char} (hx : x.isAlpha = false) : c.toLower = x ↔ c = x := by
  rw [Bool.eq_false_iff, Ne, isAlpha_iff] at hx
  rcases toLower_eq_self_or c with h | ⟨hr, h⟩
  · rw [h]
  · constructor <;> rintro rfl <;> omega

theorem toLower_beq {x : Char} (hx : x.isAlpha = false) (c : Char) : (c.toLower == x) = (c == x) := by
  rw [Bool.eq_iff_iff, beq_iff_eq, beq_iff_eq, toLower_eq_iff hx]

theorem isUpper_iff {c : Char} : c.isUpper = true ↔ 65 ≤ c.toNat ∧ c.toNat ≤ 90 := by
  unfold Char.isUpper
  simp [UInt32.le_iff_toNat_le]

theorem isUpper_toLower (c : Char) : c.toLower.isUpper = false := by
  rw [Bool.eq_false_iff, Ne, isUpper_iff]
  unfold Char.toLower
  split_ifs with h
  · simp only [ge_iff_le, UInt32.le_iff_toNat_le] at h
    simp only [Char.toNat, UInt32.toNat_add]
    simp at h ⊢
    omega
  · simpa [UInt32.le_iff_toNat_le] using h

theorem toLower_eq_self {c : Char} (h : c.isUpper = false) : c.toLower = c := by
  rw [Bool.eq_false_iff, Ne, isUpper_iff] at h
  exact (toLower_eq_self_or c).resolve_right fun hr => h hr.1

theorem isBlank_toLower (c : Char) : isBlank c.toLower = isBlank c := by
  rcases toLower_eq_self_or c with h | ⟨hr, h⟩
  · rw [h]
  · have hl : isBlank c.toLower = false := by
      simp [isBlank, h]
      omega
    have hc : isBlank c = false := by
      simp [isBlank]
      omega
    rw [hl, hc]

theorem mem_lowerAscii_iff {x : Char} (hx : x.isAlpha = false) {t : Text} : x ∈ lowerAscii t ↔ x ∈ t := by
  simp [lowerAscii, toLower_eq_iff hx]

theorem head?_lowerAscii_iff {x : Char} (hx : x.isAlpha = false) {t : Text} :
    (lowerAscii t).head? = some x ↔ t.head? = some x := by
  simp [lowerAscii, toLower_eq_iff hx]

theorem getLast?_lowerAscii_iff {x : Char} (hx : x.isAlpha = false) {t : Text} :
    (lowerAscii t).getLast? = some x ↔ t.getLast? = some x := by
  simp [lowerAscii, toLower_eq_iff hx]

/-- a text is in lower case if it has no capital letter -/
theorem lowerAscii_eq_self_iff {t : Text} : lowerAscii t = t ↔ ∀ c ∈ t, c.isUpper = false := by
  constructor
  · intro h c hc
    rw [← h] at hc
    obtain ⟨d, -, rfl⟩ := List.mem_map.1 hc
    exact isUpper_toLower d
  · intro h
    exact (List.map_congr_left fun c hc => toLower_eq_self (h c hc)).trans (List.map_id t)

theorem lowerAscii_eq_nil_iff {t : Text} : lowerAscii t = [] ↔ t = [] := List.map_eq_nil_iff

@[simp] theorem lowerAscii_append (s t : Text) : lowerAscii (s ++ t) = lowerAscii s ++ lowerAscii t := List.map_append

theorem dropWhile_lowerAscii {p : Char → Bool} (hp : ∀ c, p c.toLower = p c) (t : Text) :
    (lowerAscii t).dropWhile p = lowerAscii (t.dropWhile p) := by
  have he : p ∘ Char.toLower = p := funext hp
  rw [lowerAscii, List.dropWhile_map, he, lowerAscii]

theorem dropEndWhile_lowerAscii {p : Char → Bool} (hp : ∀ c, p c.toLower = p c) (t : Text) :
    dropEndWhile p (lowerAscii t) = lowerAscii (dropEndWhile p t) := by
  have hr : (lowerAscii t).reverse = lowerAscii t.reverse := List.map_reverse.symm
  rw [dropEndWhile, hr, dropWhile_lowerAscii hp, dropEndWhile]
  exact List.map_reverse.symm

end Text

/-! ## Normalized names -/

theorem normalizeHost_trim (t : Text) : normalizeHost (Text.trim t) = normalizeHost t := by
  rw [normalizeHost, Text.trim_trim, normalizeHost]

/-- a reader of lines that drops a carriage return does not change what a name is compared as -/
theorem normalizeHost_withoutLast_cr (t : Text) : normalizeHost (withoutLast '\r' t) = normalizeHost t := by
  rw [normalizeHost, Text.trim_withoutLast_cr, normalizeHost]

/-- nothing is left of a name that is made of dots between the blanks at its ends -/
theorem normalizeHost_eq_nil_iff {t : Text} : normalizeHost t = [] ↔ ∀ c ∈ Text.trim t, c = '.' := by
  rw [normalizeHost, Text.lowerAscii_eq_nil_iff, Text.dropEndWhile_eq, List.rdropWhile_eq_nil_iff]
  simp only [beq_iff_eq]

theorem notMem_normalizeHost {t : Text} (h : '\n' ∉ t) : '\n' ∉ normalizeHost t := by
  intro hm
  rw [normalizeHost, Text.mem_lowerAscii_iff (by decide)] at hm
  exact h (Text.trim_subset t (Text.dropEndWhile_subset _ _ hm))

/-- a name may be put in lower case first -/
theorem normalizeHost_eq (t : Text) :
    normalizeHost t = Text.dropEndWhile (· == '.') (Text.trim (Text.lowerAscii t)) := by
  have hdot : ∀ c : Char, (c.toLower == '.') = (c == '.') := Text.toLower_beq (by decide)
  rw [Text.trim, Text.dropWhile_lowerAscii Text.isBlank_toLower, Text.dropEndWhile_lowerAscii Text.isBlank_toLower,
    Text.dropEndWhile_lowerAscii hdot, normalizeHost, Text.trim]

theorem normalizeHost_congr {s t : Text} (h : Text.lowerAscii s = Text.lowerAscii t) :
    normalizeHost s = normalizeHost t := by
  rw [normalizeHost_eq, h, normalizeHost_eq]

/-- a name without blanks at its ends and without a dot at its end -/
structure Bare (t : Text) : Prop where
  head : ∀ c ∈ t.head?, Text.isBlank c = false
  last : ∀ c ∈ t.getLast?, Text.isBlank c = false ∧ c ≠ '.'

theorem normalizeHost_append_dots {t : Text} (h : Bare t) (n : ℕ) :
    normalizeHost (t ++ List.replicate n '.') = Text.lowerAscii t := by
  have htrim : Text.trim (t ++ List.replicate n '.') = t ++ List.replicate n '.' := by
    rw [Text.trim_eq_self_iff]
    constructor
    · intro c hc
      cases t with
      | nil =>
        have hdot : c = '.' := List.eq_of_mem_replicate (List.mem_of_mem_head? hc)
        subst hdot
        decide
      | cons x xs => exact h.head c hc
    · intro c hc
      cases n with
      | zero => exact (h.last c (by simpa using hc)).1
      | succ n =>
        have hdot : c = '.' := by simpa [List.replicate_succ'] using hc.symm
        subst hdot
        decide
  have hlast : ∀ c ∈ t.getLast?, (c == '.') = false := fun c hc => by simpa using (h.last c hc).2
  rw [normalizeHost, htrim, Text.dropEndWhile_append_of_pos (by simp), Text.dropEndWhile_eq_self_iff.2 hlast]

theorem normalizeHost_eq_self_iff {t : Text} : normalizeHost t = t ↔ Bare t ∧ Text.lowerAscii t = t := by
  constructor
  · intro h
    -- what is dropped at the ends is missed in the length
    have hlen : (Text.dropEndWhile (· == '.') (Text.trim t)).length = t.length := by
      conv_rhs => rw [← h, normalizeHost, Text.lowerAscii, List.length_map]
    have hle := (List.rdropWhile_prefix (· == '.') (Text.trim t)).length_le
    rw [← Text.dropEndWhile_eq, hlen] at hle
    have htrim : Text.trim t = t := (Text.trim_sublist t).eq_of_length_le hle
    rw [htrim] at hlen
    have hdots : Text.dropEndWhile (· == '.') t = t := (List.rdropWhile_prefix _ t).eq_of_length hlen
    rw [normalizeHost, htrim, hdots] at h
    rw [Text.trim_eq_self_iff] at htrim
    rw [Text.dropEndWhile_eq_self_iff] at hdots
    exact ⟨⟨htrim.1, fun c hc => ⟨htrim.2 c hc, by simpa using hdots c hc⟩⟩, h⟩
  · rintro ⟨hb, hl⟩
    conv_rhs => rw [← hl]
    simpa using normalizeHost_append_dots hb 0

/-! ## Names that are not reached -/

theorem isUpper_of_mem_normalizeHost {t : Text} {c : Char} (h : c ∈ normalizeHost t) : c.isUpper = false := by
  obtain ⟨d, -, rfl⟩ := List.mem_map.1 h
  exact Text.isUpper_toLower d

theorem isBlank_of_head?_normalizeHost {t : Text} {c : Char} (h : c ∈ (normalizeHost t).head?) :
    Text.isBlank c = false := by
  rw [normalizeHost, Text.lowerAscii, List.head?_map] at h
  obtain ⟨d, hd, rfl⟩ := Option.map_eq_some_iff.1 h
  obtain ⟨dots, hdots⟩ := List.rdropWhile_prefix (· == '.') (Text.trim t)
  rw [Text.dropEndWhile_eq] at hd
  have hfirst : (Text.trim t).head? = some d := by rw [← hdots, List.head?_append, hd, Option.some_or]
  rw [Text.isBlank_toLower]
  exact (Text.trim_eq_self_iff.1 (Text.trim_trim t)).1 d hfirst

theorem ne_dot_of_getLast?_normalizeHost {t : Text} {c : Char} (h : c ∈ (normalizeHost t).getLast?) : c ≠ '.' := by
  rw [normalizeHost, Text.lowerAscii, List.getLast?_map] at h
  obtain ⟨d, hd, rfl⟩ := Option.map_eq_some_iff.1 h
  have hlast := Text.dropEndWhile_eq_self_iff.1 (List.rdropWhile_idempotent (· == '.') (Text.trim t)) d hd
  rw [Ne, Text.toLower_eq_iff (by decide)]
  simpa using hlast

/-- between the blanks at its ends, a name ends in a blank and dots -/
def DotsBehindBlank (t : Text) : Prop :=
  ∃ s b n, Text.trim t = s ++ b :: List.replicate n '.' ∧ Text.isBlank b = true

/-- without the dots behind it, a text ends in a blank if the dots stood behind one -/
theorem getLast?_dropDots_blank_iff {t : Text} :
    (∀ c ∈ (Text.dropEndWhile (· == '.') t).getLast?, Text.isBlank c = false) ↔
      ¬ ∃ s b n, t = s ++ b :: List.replicate n '.' ∧ Text.isBlank b = true := by
  constructor
  · rintro h ⟨s, b, n, rfl, hb⟩
    have hdot : b ≠ '.' := by
      rintro rfl
      exact absurd hb (by decide)
    have hkeep : Text.dropEndWhile (· == '.') (s ++ [b]) = s ++ [b] :=
      Text.dropEndWhile_eq_self_iff.2 (by simpa using hdot)
    have e : s ++ b :: List.replicate n '.' = (s ++ [b]) ++ List.replicate n '.' := by simp
    rw [e, Text.dropEndWhile_append_of_pos (by simp), hkeep] at h
    rw [h b (by simp)] at hb
    exact absurd hb (by decide)
  · intro h c hc
    refine Bool.eq_false_iff.2 fun hb => h ?_
    obtain ⟨s, hs⟩ := List.getLast?_eq_some_iff.1 hc
    have hdots : t.rtakeWhile (· == '.') = List.replicate (t.rtakeWhile (· == '.')).length '.' :=
      List.eq_replicate_iff.2 ⟨rfl, fun x hx => by simpa using List.mem_rtakeWhile_imp hx⟩
    refine ⟨s, c, (t.rtakeWhile (· == '.')).length, ?_, hb⟩
    rw [← hdots, List.append_cons, ← hs, Text.dropEndWhile_eq, List.rdropWhile_append_rtakeWhile]

theorem getLast?_normalizeHost_blank_iff {t : Text} :
    (∀ c ∈ (normalizeHost t).getLast?, Text.isBlank c = false) ↔ ¬ DotsBehindBlank t := by
  rw [DotsBehindBlank, ← getLast?_dropDots_blank_iff, normalizeHost, Text.lowerAscii, List.getLast?_map]
  simp only [Option.mem_def, Option.map_eq_some_iff, forall_exists_index, and_imp, forall_apply_eq_imp_iff₂,
    Text.isBlank_toLower]

/-- **What normalizing reaches.** The result never has a capital letter, a blank in front or a dot behind. It is free
of blanks behind, and normalizing it again leaves it as it is, exactly if the name does not end in a blank and dots once
the blanks at its ends are gone. -/
theorem normalizeHost_normal_iff (t : Text) :
    (∀ c ∈ normalizeHost t, c.isUpper = false) ∧
      (∀ c ∈ (normalizeHost t).head?, Text.isBlank c = false) ∧
      (∀ c ∈ (normalizeHost t).getLast?, c ≠ '.') ∧
      ((∀ c ∈ (normalizeHost t).getLast?, Text.isBlank c = false) ↔ ¬ DotsBehindBlank t) ∧
      (normalizeHost (normalizeHost t) = normalizeHost t ↔ ¬ DotsBehindBlank t) := by
  refine ⟨fun c => isUpper_of_mem_normalizeHost, fun c => isBlank_of_head?_normalizeHost,
    fun c => ne_dot_of_getLast?_normalizeHost, getLast?_normalizeHost_blank_iff, ?_⟩
  rw [normalizeHost_eq_self_iff, Text.lowerAscii_eq_self_iff, ← getLast?_normalizeHost_blank_iff]
  constructor
  · rintro ⟨hbare, -⟩ c hc
    exact (hbare.last c hc).1
  · intro h
    exact ⟨⟨fun c => isBlank_of_head?_normalizeHost, fun c hc => ⟨h c hc, ne_dot_of_getLast?_normalizeHost hc⟩⟩,
      fun c => isUpper_of_mem_normalizeHost⟩

/-- **A blank in front of the dots stays,** and goes when the name is normalized again. -/
theorem normalizeHost_leaves_blank :
    normalizeHost "a .".toList = "a ".toList ∧ normalizeHost "a ".toList = "a".toList := by
  decide

end CrawlFilter
