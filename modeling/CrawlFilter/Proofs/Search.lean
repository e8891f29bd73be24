/-
A search finds what an expression matches. The search maps sets of places, kept as numbers; an expression relates
places one by one. The two agree operation by operation: the set that is reached holds exactly the places that the
expression leads to from the set it starts with.

Repetition is where they differ in form. It may ask for more rounds than a text has places, and the search goes through
no more than one round for each place; on a path that is longer some round reads nothing, so it can be left out or made
again.

- `Steps.pump`: a path with more rounds than there is way to go is a round shorter and a round longer too.
- `testBit_iterate` / `testBit_closure`: what rounds of a map lead to.
- `spans_repetition_iff`: a repetition is a number of rounds within its bounds.
- `maps_reach`: a search over steps follows the expression.
- `foundIn_iff`: an expression is found in a text exactly if it matches some part of it.
-/
import Mathlib.Tactic
import CrawlFilter.Regex.Search

namespace CrawlFilter.Regex

/-! ## Paths -/

/-- `Steps R k i j`: `k` times `R` leads from `i` to `j` -/
inductive Steps (R : ℕ → ℕ → Prop) : ℕ → ℕ → ℕ → Prop where
  | none (i : ℕ) : Steps R 0 i i
  | step {k i x j : ℕ} : R i x → Steps R k x j → Steps R (k + 1) i j

/-- `R` never leads back, nor beyond place `n` -/
def Forward (n : ℕ) (R : ℕ → ℕ → Prop) : Prop := ∀ i j, i ≤ n → R i j → i ≤ j ∧ j ≤ n

namespace Steps

variable {R : ℕ → ℕ → Prop} {n k m i j : ℕ}

theorem forward (hR : Forward n R) (h : Steps R k i j) (hi : i ≤ n) : i ≤ j ∧ j ≤ n := by
  induction h with
  | none i => exact ⟨le_rfl, hi⟩
  | step hx _ ih =>
    obtain ⟨h1, h2⟩ := hR _ _ hi hx
    obtain ⟨h3, h4⟩ := ih h2
    exact ⟨h1.trans h3, h4⟩

theorem append {x : ℕ} (h : Steps R k i x) (h' : Steps R m x j) : Steps R (k + m) i j := by
  induction h with
  | none i => rwa [Nat.zero_add]
  | step hx _ ih =>
    rw [Nat.add_right_comm]
    exact .step hx (ih h')

theorem split (h : Steps R (k + m) i j) : ∃ x, Steps R k i x ∧ Steps R m x j := by
  induction k generalizing i with
  | zero =>
    rw [Nat.zero_add] at h
    exact ⟨i, .none i, h⟩
  | succ k ih =>
    rw [Nat.add_right_comm] at h
    cases h with
    | step hx h =>
      obtain ⟨y, h1, h2⟩ := ih h
      exact ⟨y, .step hx h1, h2⟩

/-- a path with more rounds than there is way to go has a round that reads nothing -/
theorem pump (hR : Forward n R) (h : Steps R (k + 1) i j) (hi : i ≤ n) (hk : j < i + (k + 1)) :
    Steps R k i j ∧ Steps R (k + 2) i j := by
  induction k generalizing i with
  | zero =>
    cases h with
    | step hx h =>
      cases h
      obtain ⟨h1, -⟩ := hR _ _ hi hx
      obtain rfl : j = i := by omega
      exact ⟨.none j, .step hx (.step hx (.none j))⟩
  | succ k ih =>
    cases h with
    | @step _ _ x _ hx h =>
      obtain ⟨h1, h2⟩ := hR _ _ hi hx
      by_cases hix : i = x
      · subst hix
        exact ⟨h, .step hx (.step hx h)⟩
      · obtain ⟨h3, h4⟩ := ih h h2 (by omega)
        exact ⟨.step hx h3, .step hx h4⟩

theorem shorten (hR : Forward n R) (h : Steps R k i j) (hi : i ≤ n) (hm : j ≤ i + m) (hk : m ≤ k) : Steps R m i j := by
  induction k with
  | zero =>
    obtain rfl : m = 0 := by omega
    exact h
  | succ k ih =>
    by_cases he : m = k + 1
    · rwa [he]
    · exact ih (h.pump hR hi (by omega)).1 (by omega)

theorem stretch (hR : Forward n R) (h : Steps R k i j) (hi : i ≤ n) (hk : j < i + k) (hm : k ≤ m) : Steps R m i j := by
  induction m, hm using Nat.le_induction with
  | base => exact h
  | succ m hm ih =>
    cases m with
    | zero =>
      obtain rfl : k = 0 := by omega
      exact absurd hk (by have := (h.forward hR hi).1; omega)
    | succ m => exact (ih.pump hR hi (by omega)).2

end Steps

/-! ## Maps of sets -/

/-- all places of the set are places of a text with `n` characters -/
def Places.Within (n : ℕ) (p : Places) : Prop := ∀ i, p.testBit i = true → i ≤ n

/-- `f` maps a set of places to those that `R` leads to from its members -/
def Maps (n : ℕ) (f : Places → Places) (R : ℕ → ℕ → Prop) : Prop :=
  ∀ p, Places.Within n p → ∀ j, (f p).testBit j = true ↔ ∃ i, p.testBit i = true ∧ R i j

section Rounds

variable {n : ℕ} {f : Places → Places} {R : ℕ → ℕ → Prop}

theorem Maps.within (hf : Maps n f R) (hR : Forward n R) {p : Places} (hp : p.Within n) : (f p).Within n := by
  intro j hj
  obtain ⟨i, hi, hij⟩ := (hf p hp j).1 hj
  exact (hR i j (hp i hi) hij).2

theorem testBit_iterate (hf : Maps n f R) (hR : Forward n R) (k : ℕ) {p : Places} (hp : p.Within n) (j : ℕ) :
    (iterate f k p).testBit j = true ↔ ∃ i, p.testBit i = true ∧ Steps R k i j := by
  induction k generalizing p with
  | zero =>
    constructor
    · intro h
      exact ⟨j, h, .none j⟩
    · rintro ⟨i, hi, h⟩
      cases h
      exact hi
  | succ k ih =>
    by_cases h0 : p = 0
    · subst h0
      simp [iterate]
    · rw [iterate, if_neg h0, ih (hf.within hR hp)]
      constructor
      · rintro ⟨x, hx, h⟩
        obtain ⟨i, hi, hix⟩ := (hf p hp x).1 hx
        exact ⟨i, hi, .step hix h⟩
      · rintro ⟨i, hi, h⟩
        cases h with
        | step hx h => exact ⟨_, (hf p hp _).2 ⟨i, hi, hx⟩, h⟩

/-- a set that is closed under `R` holds whatever is reached from it -/
theorem testBit_of_closed {seen : Places} (hc : ∀ i j, seen.testBit i = true → R i j → seen.testBit j = true)
    {k i j : ℕ} (h : Steps R k i j) (hi : seen.testBit i = true) : seen.testBit j = true := by
  induction h with
  | none i => exact hi
  | step hx _ ih => exact ih (hc _ _ hi hx)

/-- What rounds of `f` add to a set, where `fresh` is the part of it whose own round is still to be made. -/
theorem testBit_closure (hf : Maps n f R) (hR : Forward n R) (k : ℕ) {seen fresh : Places} (hs : seen.Within n)
    (hsub : ∀ i, fresh.testBit i = true → seen.testBit i = true)
    (hold : ∀ i j, seen.testBit i = true → fresh.testBit i = false → R i j → seen.testBit j = true) (j : ℕ) :
    (closure f k seen fresh).testBit j = true ↔ ∃ i, seen.testBit i = true ∧ ∃ m ≤ k, Steps R m i j := by
  induction k generalizing seen fresh with
  | zero =>
    rw [closure]
    constructor
    · intro h
      exact ⟨j, h, 0, le_rfl, .none j⟩
    · rintro ⟨i, hi, m, hm, h⟩
      obtain rfl : m = 0 := by omega
      cases h
      exact hi
  | succ k ih =>
    have hfresh : fresh.Within n := fun i hi => hs i (hsub i hi)
    have hnew : ∀ x, (f fresh ^^^ (f fresh &&& seen)).testBit x = true ↔
        (f fresh).testBit x = true ∧ seen.testBit x = false := by
      intro x
      rw [Nat.testBit_xor, Nat.testBit_and]
      cases (f fresh).testBit x <;> cases seen.testBit x <;> decide
    -- whatever one round leads to from the set is in it already or new
    have hround : ∀ i j, seen.testBit i = true → R i j →
        (seen ||| (f fresh ^^^ (f fresh &&& seen))).testBit j = true := by
      intro i j hi hij
      rw [Nat.testBit_or, Bool.or_eq_true, hnew]
      cases hfi : fresh.testBit i with
      | false => exact .inl (hold i j hi hfi hij)
      | true =>
        have hj : (f fresh).testBit j = true := (hf fresh hfresh j).2 ⟨i, hfi, hij⟩
        cases hsj : seen.testBit j with
        | true => exact .inl rfl
        | false => exact .inr ⟨hj, rfl⟩
    rw [closure]
    split_ifs with h0
    · rw [h0, Nat.or_zero] at hround
      constructor
      · intro h
        exact ⟨j, h, 0, Nat.zero_le _, .none j⟩
      · rintro ⟨i, hi, m, -, h⟩
        exact testBit_of_closed hround h hi
    · set new := f fresh ^^^ (f fresh &&& seen)
      have hmem : ∀ x, (seen ||| new).testBit x = true ↔ seen.testBit x = true ∨ new.testBit x = true := by
        intro x
        rw [Nat.testBit_or, Bool.or_eq_true]
      have hnewFrom : ∀ x, new.testBit x = true → ∃ i, seen.testBit i = true ∧ R i x := by
        intro x hx
        obtain ⟨i, hi, hix⟩ := (hf fresh hfresh x).1 ((hnew x).1 hx).1
        exact ⟨i, hsub i hi, hix⟩
      have hwithin : Places.Within n (seen ||| new) := by
        intro x hx
        rcases (hmem x).1 hx with hx | hx
        · exact hs x hx
        · obtain ⟨i, hi, hix⟩ := hnewFrom x hx
          exact (hR i x (hs i hi) hix).2
      have hold' : ∀ i x, (seen ||| new).testBit i = true → new.testBit i = false → R i x →
          (seen ||| new).testBit x = true := by
        intro i x hi hn hix
        rcases (hmem i).1 hi with hi | hi
        · exact hround i x hi hix
        · rw [hi] at hn
          cases hn
      rw [ih hwithin (fun x hx => (hmem x).2 (.inr hx)) hold']
      constructor
      · rintro ⟨i, hi, m, hm, h⟩
        rcases (hmem i).1 hi with hi | hi
        · exact ⟨i, hi, m, by omega, h⟩
        · obtain ⟨i', hi', hix⟩ := hnewFrom i hi
          exact ⟨i', hi', m + 1, by omega, .step hix h⟩
      · rintro ⟨i, hi, m, hm, h⟩
        cases h with
        | none => exact ⟨_, (hmem _).2 (.inl hi), 0, Nat.zero_le _, .none _⟩
        | @step m _ x _ hx h => exact ⟨x, hround i x hi hx, m, by omega, h⟩

end Rounds

/-! ## Meaning by constructors -/

namespace Expr

variable {α : Type} {R : α → ℕ → ℕ → Prop} {a b : Expr α} {i j : ℕ}

theorem spans_empty_iff : Spans R .empty i j ↔ i = j := by
  constructor
  · intro h
    cases h
    rfl
  · rintro rfl
    exact .empty _

theorem spans_atom_iff {x : α} : Spans R (.atom x) i j ↔ R x i j := by
  constructor
  · intro h
    cases h with
    | atom h => exact h
  · exact .atom

theorem spans_concat_iff : Spans R (.concat a b) i j ↔ ∃ k, Spans R a i k ∧ Spans R b k j := by
  constructor
  · intro h
    cases h with
    | concat ha hb => exact ⟨_, ha, hb⟩
  · rintro ⟨k, ha, hb⟩
    exact .concat ha hb

theorem spans_alternate_iff : Spans R (.alternate a b) i j ↔ Spans R a i j ∨ Spans R b i j := by
  constructor
  · intro h
    cases h with
    | left h => exact .inl h
    | right h => exact .inr h
  · rintro (h | h)
    · exact .left h
    · exact .right h

theorem spans_group_iff {c : Bool} : Spans R (.group c a) i j ↔ Spans R a i j := by
  constructor
  · intro h
    cases h with
    | group h => exact h
  · exact .group

/-- **A repetition** is a number of rounds within its bounds. -/
theorem spans_repetition_iff {greedy : Bool} {least : ℕ} {most : Option ℕ} :
    Spans R (.repetition a greedy least most) i j ↔
      ∃ k, least ≤ k ∧ (∀ m ∈ most, k ≤ m) ∧ Steps (Spans R a) k i j := by
  constructor
  · intro h
    generalize he : Expr.repetition a greedy least most = e at h
    induction h generalizing least most with
    | done i =>
      cases he
      exact ⟨0, le_rfl, fun m _ => Nat.zero_le m, .none i⟩
    | more hm hx _ _ ih =>
      cases he
      obtain ⟨k, hl, hk, hs⟩ := ih rfl
      refine ⟨k + 1, by omega, fun m hmem => ?_, .step hx hs⟩
      have hpred := hk (m - 1) (Option.mem_map_of_mem _ hmem)
      have hpos : m ≠ 0 := by
        rintro rfl
        exact hm hmem
      omega
    | _ => cases he
  · rintro ⟨k, hl, hk, hs⟩
    induction k generalizing i least most with
    | zero =>
      obtain rfl : least = 0 := by omega
      cases hs
      exact .done _
    | succ k ih =>
      cases hs with
      | step hx hs =>
        refine .more ?_ hx (ih (by omega) ?_ hs)
        · rintro rfl
          exact absurd (hk 0 rfl) (by omega)
        · intro m hm
          obtain ⟨m', hm', rfl⟩ := Option.mem_map.1 hm
          have := hk m' hm'
          omega

/-- no repetition in the expression asks for more than it allows -/
def Ordered : Expr α → Prop
  | .concat a b | .alternate a b => a.Ordered ∧ b.Ordered
  | .repetition a _ least most => a.Ordered ∧ ∀ m ∈ most, least ≤ m
  | .group _ a => a.Ordered
  | _ => True

theorem forward_spans {n : ℕ} (hR : ∀ x, Forward n (R x)) (e : Expr α) : Forward n (Spans R e) := by
  intro i j hi h
  induction h with
  | empty => exact ⟨le_rfl, hi⟩
  | atom h => exact hR _ _ _ hi h
  | concat _ _ iha ihb =>
    obtain ⟨h1, h2⟩ := iha hi
    obtain ⟨h3, h4⟩ := ihb h2
    exact ⟨h1.trans h3, h4⟩
  | left _ ih => exact ih hi
  | right _ ih => exact ih hi
  | group _ ih => exact ih hi
  | done => exact ⟨le_rfl, hi⟩
  | more _ _ _ iha ihb =>
    obtain ⟨h1, h2⟩ := iha hi
    obtain ⟨h3, h4⟩ := ihb h2
    exact ⟨h1.trans h3, h4⟩

end Expr

/-! ## Reach -/

/-- Rounds beyond the number of places are idle: a number of rounds within the bounds leads from `i` to `j` exactly if
one does that the search goes through. -/
theorem exists_rounds_iff {n : ℕ} {R : ℕ → ℕ → Prop} (hR : Forward n R) {least : ℕ} {most : Option ℕ}
    (hm : ∀ m ∈ most, least ≤ m) {i j : ℕ} (hi : i ≤ n) :
    (∃ x, Steps R (min least (n + 1)) i x ∧ ∃ m ≤ min ((most.map (· - least)).getD n) n, Steps R m x j) ↔
      ∃ k, least ≤ k ∧ (∀ m ∈ most, k ≤ m) ∧ Steps R k i j := by
  have hcap : ∀ k, (∀ m ∈ most, least + k ≤ m) → k ≤ n → k ≤ min ((most.map (· - least)).getD n) n := by
    intro k hk hn
    cases most with
    | none => simpa using hn
    | some m =>
      have := hk m rfl
      simp only [Option.map_some, Option.getD_some]
      omega
  have hcap' : ∀ k, k ≤ min ((most.map (· - least)).getD n) n → ∀ m ∈ most, least + k ≤ m := by
    intro k hk m hmem
    rw [Option.mem_def] at hmem
    subst hmem
    have := hm m rfl
    simp only [Option.map_some, Option.getD_some] at hk
    omega
  constructor
  · rintro ⟨x, hx, m, hmr, h⟩
    have hall := hx.append h
    have hj := (hall.forward hR hi).2
    refine ⟨least + m, by omega, hcap' m hmr, ?_⟩
    by_cases hl : least ≤ n + 1
    · rwa [Nat.min_eq_left hl] at hall
    · rw [Nat.min_eq_right (by omega)] at hall
      exact hall.stretch hR hi (by omega) (by omega)
  · rintro ⟨k, hl, hk, h⟩
    have hj := (h.forward hR hi).2
    -- as many rounds as there are, or enough to come from one end of the text to the other
    obtain ⟨m, hmn, hmk, hs⟩ : ∃ m ≤ n, least + m ≤ k ∧ Steps R (min least (n + 1) + m) i j := by
      by_cases hln : least ≤ n + 1
      · rw [Nat.min_eq_left hln]
        by_cases hkn : k ≤ least + n
        · exact ⟨k - least, by omega, by omega, by rwa [Nat.add_sub_cancel' hl]⟩
        · exact ⟨n, le_rfl, by omega, h.shorten hR hi (by omega) (by omega)⟩
      · rw [Nat.min_eq_right (by omega)]
        exact ⟨0, Nat.zero_le n, by omega, h.shorten hR hi (by omega) (by omega)⟩
    obtain ⟨x, hx, hs⟩ := hs.split
    exact ⟨x, hx, m, hcap m (fun m' hm' => hmk.trans (hk m' hm')) hmn, hs⟩

/-- **A search over steps follows the expression,** if the steps follow the atoms. -/
theorem maps_reach {α : Type} {n : ℕ} {R : α → ℕ → ℕ → Prop} {step : α → Step}
    (hstep : ∀ x, Maps n (step x).apply (R x)) (hR : ∀ x, Forward n (R x)) {e : Expr α} (he : e.Ordered) :
    Maps n ((e.map step).reach n) (Expr.Spans R e) := by
  induction e with
  | empty =>
    intro p _ j
    simp [Expr.map, Expr.reach, Expr.spans_empty_iff]
  | atom x =>
    intro p hp j
    simp only [Expr.map, Expr.reach, Expr.spans_atom_iff]
    exact hstep x p hp j
  | concat a b iha ihb =>
    intro p hp j
    have ha := iha he.1
    rw [Expr.map, Expr.reach, ihb he.2 _ (ha.within (Expr.forward_spans hR a) hp)]
    simp only [ha p hp, Expr.spans_concat_iff]
    constructor
    · rintro ⟨x, ⟨i, hi, hix⟩, hxj⟩
      exact ⟨i, hi, x, hix, hxj⟩
    · rintro ⟨i, hi, x, hix, hxj⟩
      exact ⟨x, ⟨i, hi, hix⟩, hxj⟩
  | alternate a b iha ihb =>
    intro p hp j
    rw [Expr.map, Expr.reach, Nat.testBit_or, Bool.or_eq_true, iha he.1 p hp, ihb he.2 p hp]
    simp only [Expr.spans_alternate_iff]
    rw [← exists_or]
    exact exists_congr fun i => and_or_left.symm
  | group c a ih =>
    intro p hp j
    simp only [Expr.map, Expr.reach, Expr.spans_group_iff]
    exact ih he p hp j
  | repetition a greedy least most ih =>
    intro p hp j
    have ha := ih he.1
    have hfa := Expr.forward_spans hR a
    have hstart := testBit_iterate ha hfa (min least (n + 1)) hp
    have hwithin : Places.Within n (iterate ((a.map step).reach n) (min least (n + 1)) p) := by
      intro x hx
      obtain ⟨i, hi, h⟩ := (hstart x).1 hx
      exact (h.forward hfa (hp i hi)).2
    rw [Expr.map, Expr.reach, testBit_closure ha hfa _ hwithin (fun _ h => h) fun i _ hi hn =>
      absurd (hi.symm.trans hn) (by decide)]
    simp only [hstart, Expr.spans_repetition_iff]
    constructor
    · rintro ⟨x, ⟨i, hi, hix⟩, h⟩
      exact ⟨i, hi, (exists_rounds_iff hfa he.2 (hp i hi)).1 ⟨x, hix, h⟩⟩
    · rintro ⟨i, hi, h⟩
      obtain ⟨x, hix, h⟩ := (exists_rounds_iff hfa he.2 (hp i hi)).2 h
      exact ⟨x, ⟨i, hi, hix⟩, h⟩

/-! ## Atoms -/

theorem testBit_bits (bs : List Bool) (i : ℕ) : (bits bs).testBit i = true ↔ bs[i]? = some true := by
  induction bs generalizing i with
  | nil => simp [bits]
  | cons b bs ih =>
    rw [bits]
    cases i with
    | zero =>
      rw [Nat.testBit_zero, decide_eq_true_eq, List.getElem?_cons_zero, Option.some.injEq]
      cases b <;> simp
    | succ i =>
      rw [Nat.testBit_succ, List.getElem?_cons_succ, ← ih]
      have hdiv : (2 * bits bs + b.toNat) / 2 = bits bs := by
        have := Bool.toNat_lt b
        omega
      rw [hdiv]

theorem testBit_placesBefore (text : Text) (s : CharSet) (i : ℕ) :
    (placesBefore (occurrences text) s).testBit i = true ↔ ∃ c, text[i]? = some c ∧ s.contains c = true := by
  have hfold : ∀ (occ : List (Char × Places)) (p : Places),
      (occ.foldl (fun p o => if s.contains o.1 then p ||| o.2 else p) p).testBit i = true ↔
        p.testBit i = true ∨ ∃ o ∈ occ, s.contains o.1 = true ∧ o.2.testBit i = true := by
    intro occ
    induction occ with
    | nil => simp
    | cons o occ ih =>
      intro p
      rw [List.foldl_cons, ih, List.exists_mem_cons_iff]
      cases s.contains o.1 <;> simp [or_assoc]
  have hbit : ∀ c, (bits (text.map (· == c))).testBit i = true ↔ text[i]? = some c := by
    intro c
    rw [testBit_bits, List.getElem?_map]
    simp
  unfold placesBefore occurrences
  rw [hfold]
  simp only [Nat.zero_testBit, Bool.false_eq_true, false_or, List.mem_map, List.mem_eraseDups]
  constructor
  · rintro ⟨_, ⟨c, -, rfl⟩, hs, hi⟩
    exact ⟨c, (hbit c).1 hi, hs⟩
  · rintro ⟨c, hc, hs⟩
    exact ⟨_, ⟨c, List.mem_of_getElem? hc, rfl⟩, hs, (hbit c).2 hc⟩

theorem getElem?_surroundings (text : Text) (i : ℕ) :
    (surroundings text)[i]? = if i ≤ text.length then some ((text.take i).getLast?, text[i]?) else none := by
  unfold surroundings
  split_ifs with hi
  · rw [List.getElem?_zip_eq_some]
    constructor
    · cases i with
      | zero => rfl
      | succ i =>
        rw [List.getElem?_cons_succ, List.getElem?_map, List.getLast?_take]
        simp [List.getElem?_eq_getElem (show i < text.length by omega)]
    · rcases Nat.lt_or_eq_of_le hi with hi | rfl
      · rw [List.getElem?_append_left (by simpa using hi), List.getElem?_map, List.getElem?_eq_getElem hi]
        rfl
      · simp
  · exact List.getElem?_eq_none (by simp; omega)

theorem forward_atom (text : Text) (a : Atom) : Forward text.length fun i j => a.Spans text i j := by
  intro i j hi h
  cases a with
  | chars s u =>
    obtain ⟨rfl, c, hc, -⟩ := h
    have := (List.getElem?_eq_some_iff.1 hc).1
    omega
  | look l =>
    obtain ⟨rfl, h, -⟩ := h
    exact ⟨le_rfl, h⟩

/-- a step does to places what its atom says -/
theorem maps_step (text : Text) (a : Atom) :
    Maps text.length (a.step (occurrences text) (surroundings text)).apply fun i j => a.Spans text i j := by
  intro p hp j
  cases a with
  | chars s u =>
    simp only [Atom.step, Step.apply, Nat.testBit_shiftLeft, Nat.testBit_and, Bool.and_eq_true, decide_eq_true_eq,
      testBit_placesBefore, Atom.Spans]
    constructor
    · rintro ⟨hj, hpj, hc⟩
      exact ⟨j - 1, hpj, by omega, hc⟩
    · rintro ⟨i, hi, rfl, hc⟩
      exact ⟨by omega, hi, hc⟩
  | look l =>
    simp only [Atom.step, Step.apply, Nat.testBit_and, Bool.and_eq_true, testBit_bits, List.getElem?_map,
      getElem?_surroundings, Atom.Spans]
    constructor
    · rintro ⟨hpj, hl⟩
      have hj := hp j hpj
      rw [if_pos hj] at hl
      exact ⟨j, hpj, rfl, hj, Option.some.inj hl⟩
    · rintro ⟨i, hi, rfl, hj, hl⟩
      exact ⟨hi, by rw [if_pos hj, Option.map_some, hl]⟩

theorem testBit_allPlaces (n i : ℕ) : (allPlaces n).testBit i = true ↔ i ≤ n := by
  have h := Nat.testBit_two_pow_sub_one (n + 1) i
  rw [allPlaces]
  change ((2 ^ (n + 1) - 1 : ℕ).testBit i = true) ↔ _
  rw [h, decide_eq_true_eq, Nat.lt_succ_iff]

/-- **A search finds what is there.** An expression is found in a text exactly if it matches some part of it, wherever
that starts and however else it could be matched. -/
theorem foundIn_iff {e : Expr Atom} (he : e.Ordered) (text : Text) :
    e.foundIn text = true ↔ ∃ i j, e.Matches text i j := by
  have hmaps := maps_reach (maps_step text) (forward_atom text) he (allPlaces text.length) fun i hi =>
    (testBit_allPlaces _ i).1 hi
  simp only [testBit_allPlaces] at hmaps
  unfold Expr.foundIn
  rw [bne_iff_ne]
  constructor
  · intro h
    obtain ⟨j, hj⟩ := Nat.exists_testBit_of_ne_zero h
    obtain ⟨i, hi, hs⟩ := (hmaps j).1 hj
    exact ⟨i, j, hi, hs⟩
  · rintro ⟨i, j, hi, hs⟩ h0
    have hj := (hmaps j).2 ⟨i, hi, hs⟩
    rw [h0, Nat.zero_testBit] at hj
    cases hj

end CrawlFilter.Regex
