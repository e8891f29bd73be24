/-
What reading a rule file ends with when it fails. A line is at fault when it begins with a character that begins no
line, or when it is a rule line whose pattern is refused in the scope above it. Reading is all or nothing, and the
error is that of the first line at fault, whichever of the two it is.

- `readItem_eq_error_iff` / `rulesFrom_eq_error_iff`: one line fails exactly with its fault, a file exactly with its
  first fault.
- `read_blames_first_fault`: so for a text and any way to build rules; when patterns are compiled the line that is
  blamed is its sigil and the refused pattern, and rules as written fail by first characters only.
-/
import CrawlFilter.Proofs.ScopeInForce

namespace CrawlFilter

theorem RuleLine.ofText_of_notMem {c : Char} (s : Text) (h : c ∉ ['+', '-', ' ', '#', '>', '<']) :
    ofText (c :: s) = .error c := by
  simp only [List.mem_cons, List.not_mem_nil, or_false, not_or] at h
  obtain ⟨hp, hm, hb, hh, ho, hc⟩ := h
  have hs : Action.ofSigil? c = none := by
    unfold Action.ofSigil?
    split
    · exact absurd rfl hp
    · exact absurd rfl hm
    · rfl
  simp [ofText, hs, hb, hh, ho, hc]

namespace RuleFile

variable {α : Type} {build : RuleBuilder α}

/-! ## One line -/

/-- how line `n` of a file is at fault in a scope, and the error that says so -/
inductive Fault (build : RuleBuilder α) (n : ℕ) (scope : Option Text) : Text → RuleFileError → Prop where
  | first (c : Char) (s : Text) (h : c ∉ lineStarts) : Fault build n scope (c :: s) (.invalidFirst n (c :: s) c)
  | pattern (a : Action) (p : Text) (cause : PatternError) (h : build a p scope = .error cause) :
      Fault build n scope (a.sigil :: p) (.invalidPattern n (a.sigil :: p) cause)

theorem readItem_eq_error_iff {n : ℕ} {scope : Option Text} {raw : Text} {e : RuleFileError} :
    readItem build n scope (.ok raw) = .error e ↔ Fault build n scope (withoutLast '\r' raw) e := by
  have hr := RuleLine.reads_ofText (withoutLast '\r' raw)
  unfold readItem
  simp only
  generalize withoutLast '\r' raw = line at hr
  constructor
  · intro h
    generalize RuleLine.ofText line = o at hr h
    cases hr with
    | rule a p =>
      cases hb : build a p scope with
      | error cause =>
        simp only [hb] at h
        cases h
        exact .pattern a p cause hb
      | ok r =>
        simp only [hb] at h
        cases h
    | invalid c s hc =>
      cases h
      exact .first c s hc
    | _ => cases h
  · intro hf
    cases hf with
    | first c s h => simp [RuleLine.ofText_of_notMem s h]
    | pattern a p cause h => simp [h, Except.mapError, Except.map]

/-- a line at fault while rules are kept as written begins wrongly -/
theorem fault_written_iff {n : ℕ} {scope : Option Text} {l : Text} {e : RuleFileError} :
    Fault .written n scope l e ↔ ∃ c s, l = c :: s ∧ c ∉ lineStarts ∧ e = .invalidFirst n (c :: s) c := by
  constructor
  · intro h
    cases h with
    | first c s h => exact ⟨c, s, rfl, h, rfl⟩
    | pattern a p cause h => cases h
  · rintro ⟨c, s, rfl, h, rfl⟩
    exact .first c s h

/-! ## The first fault -/

/-- line `k` of a file, whose first line is line 0, is at fault in the scope that looking back finds -/
def FaultAt (build : RuleBuilder α) (ls : List Text) (k : ℕ) (e : RuleFileError) : Prop :=
  ∃ l, ls[k]? = some l ∧ Fault build (k + 1) (scopeBelow (ls.take k)) l e

/-- the error of the first line at fault -/
def FirstFault (build : RuleBuilder α) (ls : List Text) (e : RuleFileError) : Prop :=
  ∃ k, FaultAt build ls k e ∧ ∀ j < k, ∀ d, ¬ FaultAt build ls j d

theorem FaultAt.lt {ls : List Text} {k : ℕ} {e : RuleFileError} (h : FaultAt build ls k e) : k < ls.length := by
  obtain ⟨l, hl, -⟩ := h
  exact (List.getElem?_eq_some_iff.1 hl).1

theorem faultAt_concat_of_lt {ls : List Text} {k : ℕ} {e : RuleFileError} (l : Text) (h : k < ls.length) :
    FaultAt build (ls ++ [l]) k e ↔ FaultAt build ls k e := by
  unfold FaultAt
  rw [List.getElem?_append_left h, List.take_append_of_le_length h.le]

theorem faultAt_concat_last {ls : List Text} {l : Text} {e : RuleFileError} :
    FaultAt build (ls ++ [l]) ls.length e ↔ Fault build (ls.length + 1) (scopeBelow ls) l e := by
  unfold FaultAt
  rw [List.getElem?_concat_length, List.take_left]
  simp

theorem exists_firstFault_iff {ls : List Text} : (∃ e, FirstFault build ls e) ↔ ∃ k e, FaultAt build ls k e := by
  classical
  constructor
  · rintro ⟨e, k, h, -⟩
    exact ⟨k, e, h⟩
  · intro h
    obtain ⟨e, he⟩ := Nat.find_spec h
    exact ⟨e, Nat.find h, he, fun j hj d hd => Nat.find_min h hj ⟨d, hd⟩⟩

/-- one more line is blamed only if nothing above it is at fault -/
theorem firstFault_concat_iff {ls : List Text} {l : Text} {e : RuleFileError} :
    FirstFault build (ls ++ [l]) e ↔
      FirstFault build ls e ∨ (∀ d, ¬ FirstFault build ls d) ∧ Fault build (ls.length + 1) (scopeBelow ls) l e := by
  have hnone : (∀ d, ¬ FirstFault build ls d) ↔ ∀ k d, ¬ FaultAt build ls k d := by
    simpa only [not_exists] using not_congr (@exists_firstFault_iff _ build ls)
  rw [hnone]
  constructor
  · rintro ⟨k, hk, hmin⟩
    have hlt : k < ls.length + 1 := by simpa using hk.lt
    rcases Nat.lt_succ_iff_lt_or_eq.1 hlt with h | rfl
    · refine .inl ⟨k, (faultAt_concat_of_lt l h).1 hk, fun j hj d hd => ?_⟩
      exact hmin j hj d ((faultAt_concat_of_lt l (hj.trans h)).2 hd)
    · refine .inr ⟨fun j d hd => ?_, faultAt_concat_last.1 hk⟩
      exact hmin j hd.lt d ((faultAt_concat_of_lt l hd.lt).2 hd)
  · rintro (⟨k, hk, hmin⟩ | ⟨hno, hf⟩)
    · refine ⟨k, (faultAt_concat_of_lt l hk.lt).2 hk, fun j hj d hd => ?_⟩
      exact hmin j hj d ((faultAt_concat_of_lt l (hj.trans hk.lt)).1 hd)
    · refine ⟨ls.length, faultAt_concat_last.2 hf, fun j hj d hd => ?_⟩
      exact hno j d ((faultAt_concat_of_lt l hj).1 hd)

/-- **A whole file** fails exactly with the error of its first line at fault. -/
theorem rulesFrom_eq_error_iff {raws : List Text} {e : RuleFileError} :
    rulesFrom build 1 none (raws.map .ok) = .error e ↔ FirstFault build (raws.map (withoutLast '\r')) e := by
  -- from the first line on, since the scope of a line depends on the lines above it
  induction raws using List.reverseRecOn generalizing e with
  | nil =>
    have hno : ¬ FirstFault build [] e := by
      rintro ⟨k, hk, -⟩
      exact absurd hk.lt (Nat.not_lt_zero k)
    simp [hno]
  | append_singleton raws raw ih =>
    rw [rulesFrom_concat, except_append_eq_error, except_exists_ok_iff, readItem_eq_error_iff, List.map_append,
      List.map_singleton, firstFault_concat_iff, List.length_map]
    simp only [ne_eq, ih]

theorem read_eq_error_iff {t : Text} {e : RuleFileError} :
    read build (.ofText t) = .error e ↔ FirstFault build (fileLines t) e := by
  rw [read_eq]
  exact rulesFrom_eq_error_iff

/-! ## Compiled rules and rules as written -/

theorem line_of_parse_eq_error {f : Flavor} {t : Text} {n : ℕ} {l : Text} {cause : PatternError}
    (h : parse f t = .error (.invalidPattern n l cause)) : ∃ a : Action, l = a.sigil :: cause.pattern := by
  obtain ⟨k, ⟨l', -, hf⟩, -⟩ := read_eq_error_iff.1 h
  cases hf with
  | pattern a p d hb =>
    refine ⟨a, ?_⟩
    unfold Rule.compile at hb
    cases hc : Pattern.compile f p with
    | error d' =>
      rw [hc] at hb
      cases hb
      rw [pattern_of_compile hc]
    | ok q =>
      rw [hc] at hb
      cases hb

theorem no_faultAt_written_iff {ls : List Text} {k : ℕ} :
    (∀ e, ¬ FaultAt .written ls k e) ↔ ∀ l, ls[k]? = some l → WellBegun l := by
  constructor
  · intro h l hl c hc
    by_contra hn
    obtain ⟨s, rfl⟩ := List.head?_eq_some_iff.1 hc
    exact h _ ⟨_, hl, .first c s hn⟩
  · rintro h e ⟨l, hl, hf⟩
    obtain ⟨c, s, rfl, hn, -⟩ := fault_written_iff.1 hf
    exact hn (h _ hl c rfl)

theorem firstFault_written_iff {ls : List Text} {e : RuleFileError} :
    FirstFault .written ls e ↔
      ∃ k c s, ls[k]? = some (c :: s) ∧ c ∉ lineStarts ∧ e = .invalidFirst (k + 1) (c :: s) c ∧
        ∀ l ∈ ls.take k, WellBegun l := by
  have habove : ∀ k, (∀ j < k, ∀ d, ¬ FaultAt .written ls j d) ↔ ∀ l ∈ ls.take k, WellBegun l := by
    intro k
    simp only [no_faultAt_written_iff, List.mem_iff_getElem?, List.getElem?_take]
    constructor
    · rintro h l ⟨j, hj⟩
      split_ifs at hj with hlt
      exact h j hlt l hj
    · intro h j hlt l hl
      exact h l ⟨j, by rw [if_pos hlt, hl]⟩
  unfold FirstFault
  simp only [habove]
  constructor
  · rintro ⟨k, ⟨l, hl, hf⟩, hmin⟩
    obtain ⟨c, s, rfl, hn, rfl⟩ := fault_written_iff.1 hf
    exact ⟨k, c, s, hl, hn, rfl, hmin⟩
  · rintro ⟨k, c, s, hl, hn, rfl, hmin⟩
    exact ⟨k, ⟨_, hl, .first c s hn⟩, hmin⟩

/-- **Reading is all or nothing, and it blames the first line at fault.** However rules are built, a text is refused
exactly if some line of it is at fault, and then with the error of the first such line: its number, the line itself,
and either its first character or why its pattern was refused in the scope in force. Where patterns are compiled, a
line blamed for its pattern is a sigil and that pattern. Rules kept as written are refused exactly for the first line
that begins wrongly. -/
theorem read_blames_first_fault (build : RuleBuilder α) (t : Text) :
    ((∃ e, read build (.ofText t) = .error e) ↔ ∃ k e, FaultAt build (fileLines t) k e) ∧
      (∀ e, read build (.ofText t) = .error e ↔
        ∃ k, FaultAt build (fileLines t) k e ∧ ∀ j < k, ∀ d, ¬ FaultAt build (fileLines t) j d) ∧
      (∀ f n l cause, parse f t = .error (.invalidPattern n l cause) →
        ∃ a : Action, l = a.sigil :: cause.pattern) ∧
      ∀ e, parseWritten t = .error e ↔
        ∃ k c s, (fileLines t)[k]? = some (c :: s) ∧ c ∉ lineStarts ∧ e = .invalidFirst (k + 1) (c :: s) c ∧
          ∀ l ∈ (fileLines t).take k, WellBegun l := by
  refine ⟨?_, fun e => read_eq_error_iff, fun f n l cause h => line_of_parse_eq_error h, fun e => ?_⟩
  · rw [← exists_firstFault_iff]
    exact exists_congr fun e => read_eq_error_iff
  · rw [parseWritten, read_eq_error_iff, firstFault_written_iff]

/-- a pattern that is refused on a line above one that begins wrongly -/
theorem read_blames_first_fault_open_group :
    ∃ cause, parse .basic "#\n+a\n+(\nx\n".toList = .error (.invalidPattern 3 "+(".toList cause) ∧
      ∃ a : Action, "+(".toList = a.sigil :: cause.pattern := by
  obtain ⟨cause, hc⟩ : ∃ cause,
      parse .basic "#\n+a\n+(\nx\n".toList = .error (.invalidPattern 3 "+(".toList cause) := ⟨_, rfl⟩
  exact ⟨cause, hc, (read_blames_first_fault (Rule.compile .basic) _).2.2.1 .basic 3 _ cause hc⟩

-- the other way round, and with the patterns kept as written
example : parse .basic "#\n+a\nx\n+(\n".toList = .error (.invalidFirst 3 "x".toList 'x') ∧
    parseWritten "#\n+a\n+(\nx\n".toList = .error (.invalidFirst 4 "x".toList 'x') := by
  decide

end RuleFile

end CrawlFilter
