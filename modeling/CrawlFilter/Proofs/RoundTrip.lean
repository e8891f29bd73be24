/-
Writing rules and reading them back. A rule is written on a line of its own, below a scope line where the scope
changes, and reading that line takes two carriage returns off its end and normalizes the scope. So what is written on
one line comes back as `readBack` says, and it comes back unchanged exactly if it is `Durable`: its pattern holds no
line feed and does not end in a carriage return, and its scope holds no line feed and is in normal form.

- `parseWritten_write`: what rules that can be written on one line are read back as.
- `parseWritten_write_iff`: rules are read back as they are exactly if each is durable.
- `parse_writeRules_iff`: the rules of a file that compiles survive being written exactly if each is durable, and then
  every decision about every URL is the same.
- `rules_lost_in_writing`: reading gives rules that are not durable. A carriage return in front of a terminator stays
  in a pattern, and a blank that a dot kept apart from the end stays in a scope; neither comes back, and URLs are
  decided differently.
-/
import CrawlFilter.Engine
import CrawlFilter.Proofs.Reading
import CrawlFilter.RuleFile.Writer

namespace CrawlFilter.RuleFile

/-! ## Rules that survive -/

/-- a rule that is read back as it was written -/
structure Durable (w : WrittenRule) : Prop where
  pattern_line : '\n' ∉ w.pattern
  pattern_end : w.pattern.getLast? ≠ some '\r'
  scope_line : ∀ s ∈ w.scope, '\n' ∉ s
  scope_normal : ∀ s ∈ w.scope, normalizeHost s = s

theorem durable_iff (w : WrittenRule) :
    Durable w ↔ ('\n' ∉ w.pattern ∧ w.pattern.getLast? ≠ some '\r') ∧
      (∀ s ∈ w.scope, '\n' ∉ s) ∧ ∀ s ∈ w.scope, normalizeHost s = s :=
  ⟨fun ⟨h1, h2, h3, h4⟩ => ⟨⟨h1, h2⟩, h3, h4⟩, fun ⟨⟨h1, h2⟩, h3, h4⟩ => ⟨h1, h2, h3, h4⟩⟩

instance (w : WrittenRule) : Decidable (Durable w) := decidable_of_iff _ (durable_iff w).symm

/-- what a rule that is written on one line is read back as -/
def readBack (w : WrittenRule) : WrittenRule :=
  ⟨w.action, withoutLast '\r' (withoutLast '\r' w.pattern), w.scope.map normalizeHost⟩

theorem withoutLast_twice_eq_self_iff {x : Char} {t : Text} :
    withoutLast x (withoutLast x t) = t ↔ t.getLast? ≠ some x := by
  refine ⟨fun h => ?_, fun h => ?_⟩
  · rw [← withoutLast_eq_self_iff]
    rcases withoutLast_eq_or x t with h1 | h1
    · exact h1
    · have l1 := congrArg List.length h1
      rcases withoutLast_eq_or x (withoutLast x t) with h2 | h2
      · rw [h2] at h; exact h
      · have l2 := congrArg List.length h2
        rw [h] at l2
        simp only [List.length_append, List.length_singleton] at l1 l2
        omega
  · have h1 := withoutLast_eq_self_iff.2 h
    rw [h1, h1]

theorem readBack_eq_self_iff {w : WrittenRule} (h : OneLine w) : readBack w = w ↔ Durable w := by
  obtain ⟨a, p, s⟩ := w
  have hs : s.map normalizeHost = s ↔ ∀ x ∈ s, normalizeHost x = x := by cases s <;> simp
  simp only [readBack, WrittenRule.mk.injEq, true_and, withoutLast_twice_eq_self_iff, hs]
  exact ⟨fun ⟨h1, h2⟩ => ⟨h.1, h1, h.2, h2⟩, fun hd => ⟨hd.pattern_end, hd.scope_normal⟩⟩

/-! ## Reading what was written -/

theorem ruleLine_append (w : WrittenRule) (t : Text) :
    ruleLine w ++ t = (w.action.sigil :: w.pattern) ++ '\n' :: t := by
  simp [ruleLine]

theorem scopeLine_some_append (s t : Text) : scopeLine (some s) ++ t = '>' :: s ++ '\n' :: t := by
  simp [scopeLine]

/-- a scope line gives no rule and puts its scope in force, in normal form -/
theorem rulesFrom_scopeLine {n : ℕ} {scope : Option Text} (new : Option Text) (h : ∀ s ∈ new, '\n' ∉ s) (t : Text) :
    rulesFrom .written n scope (.ofText (scopeLine new ++ t)) =
      rulesFrom .written (n + 1) (new.map normalizeHost) (.ofText t) := by
  cases new with
  | none => exact rulesFrom_closeLine _ n scope t
  | some s =>
    rw [scopeLine_some_append]
    exact rulesFrom_openLine _ n scope (h s rfl) t

/-- a rule line in the scope that was written before it -/
theorem rulesFrom_ruleLine {n : ℕ} (w : WrittenRule) (h : '\n' ∉ w.pattern) (t : Text) :
    rulesFrom .written n (w.scope.map normalizeHost) (.ofText (ruleLine w ++ t)) =
      (rulesFrom .written (n + 1) (w.scope.map normalizeHost) (.ofText t)).map (readBack w :: ·) := by
  rw [ruleLine_append, Input.ofText_line (notMem_ruleText w.action h), withoutLast_sigil,
    rulesFrom_cons_of_single (r := readBack w) (readItem_rule rfl), nextScope_rule]

/-- reading what was written in a scope, in the normal form of that scope -/
theorem rulesFrom_writeFrom (n : ℕ) (scope : Option Text) {ws : List WrittenRule} (h : ∀ w ∈ ws, OneLine w) :
    rulesFrom .written n (scope.map normalizeHost) (.ofText (writeFrom scope ws)) = .ok (ws.map readBack) := by
  -- the scope in force while reading is the normal form of the one that was written last
  induction ws generalizing n scope with
  | nil => rfl
  | cons w ws ih =>
    obtain ⟨hp, hs⟩ := h w List.mem_cons_self
    have ih := fun n => ih n w.scope fun v hv => h v (List.mem_cons_of_mem w hv)
    by_cases hsc : w.scope = scope
    · rw [writeFrom, if_pos hsc, List.nil_append, ← hsc, rulesFrom_ruleLine w hp, ih]
      rfl
    · rw [writeFrom, if_neg hsc, List.append_assoc, rulesFrom_scopeLine _ hs, rulesFrom_ruleLine w hp, ih]
      rfl

theorem parseWritten_write {ws : List WrittenRule} (h : ∀ w ∈ ws, OneLine w) :
    parseWritten (write ws) = .ok (ws.map readBack) := by
  rw [parseWritten, read_eq]
  exact rulesFrom_writeFrom 1 none h

theorem map_readBack_eq_self_iff {ws : List WrittenRule} (h : ∀ w ∈ ws, OneLine w) :
    ws.map readBack = ws ↔ ∀ w ∈ ws, Durable w := by
  conv_lhs => rw [← List.map_id ws, List.map_map]
  rw [List.map_inj_left]
  exact forall₂_congr fun w hw => readBack_eq_self_iff (h w hw)

/-- **Rules are read back as they are** exactly if each of them is durable. -/
theorem parseWritten_write_iff (ws : List WrittenRule) :
    parseWritten (write ws) = .ok ws ↔ ∀ w ∈ ws, Durable w := by
  constructor
  · intro h
    -- the rules were read, so each could be written on one line, whatever the written text looked like
    have ho := oneLine_of_parseWritten h
    rw [parseWritten_write ho, Except.ok.injEq, map_readBack_eq_self_iff ho] at h
    exact h
  · intro h
    have ho : ∀ w ∈ ws, OneLine w := fun w hw => ⟨(h w hw).pattern_line, (h w hw).scope_line⟩
    rw [parseWritten_write ho, (map_readBack_eq_self_iff ho).2 h]

/-! ## Compiled rules -/

/-- **Rules of a file survive being written** exactly if each of them is durable. Then the written file compiles, its
rules say the same, and every engine over them decides the same about every URL. -/
theorem parse_writeRules_iff {f : Flavor} {t : Text} {rs : List Rule} (h : parse f t = .ok rs) :
    (∃ rs', parse f (writeRules rs) = .ok rs' ∧ rs'.map Rule.written = rs.map Rule.written ∧
      ∀ (resolver : Resolver) (url : Text),
        (Engine.mk rs' resolver).evaluate url = (Engine.mk rs resolver).evaluate url) ↔
      ∀ r ∈ rs, Durable r.written := by
  obtain ⟨hw, hb⟩ := parse_eq_ok_iff.1 h
  have ho := oneLine_of_parseWritten hw
  have hd : (∀ r ∈ rs, Durable r.written) ↔ (rs.map Rule.written).map readBack = rs.map Rule.written := by
    rw [map_readBack_eq_self_iff ho]
    simp
  rw [hd]
  constructor
  · rintro ⟨rs', hp, hs, -⟩
    have h' := (parse_eq_ok_iff.1 hp).1
    rw [writeRules, parseWritten_write ho, Except.ok.injEq] at h'
    rw [h', hs]
  · intro he
    refine ⟨rs, parse_eq_ok_iff.2 ⟨?_, hb⟩, rfl, fun _ _ => rfl⟩
    rw [writeRules, parseWritten_write ho, he]

theorem parse_writeRules_scoped :
    ∃ rs, parse .anchored "+a\n> Shop.example.com. \r\n-b\r\n<\n".toList = .ok rs ∧ rs.length = 2 ∧
      ∃ rs', parse .anchored (writeRules rs) = .ok rs' ∧ rs'.map Rule.written = rs.map Rule.written ∧
        ∀ (resolver : Resolver) (url : Text),
          (Engine.mk rs' resolver).evaluate url = (Engine.mk rs resolver).evaluate url :=
  ⟨_, rfl, rfl, (parse_writeRules_iff (f := .anchored)
    (t := "+a\n> Shop.example.com. \r\n-b\r\n<\n".toList) rfl).2 (by decide)⟩

/-- **Some rules of a file are lost in writing**, and decisions with them: a pattern loses the carriage returns at its
end, and a scope the blank that a dot kept at its end. -/
theorem rules_lost_in_writing :
    (∃ rs rs', parse .basic "+a\r\r\r\n".toList = .ok rs ∧ parse .basic (writeRules rs) = .ok rs' ∧
      rs.map Rule.written = [⟨.accept, "a\r".toList, none⟩] ∧ rs'.map Rule.written = [⟨.accept, "a".toList, none⟩] ∧
      (Engine.mk rs (.ofSuffixes none)).evaluate "http://x/a".toList = ⟨false, none⟩ ∧
      (Engine.mk rs' (.ofSuffixes none)).evaluate "http://x/a".toList = ⟨true, some 0⟩) ∧
    ∃ rs rs', parse .basic "> a .\n+x\n".toList = .ok rs ∧ parse .basic (writeRules rs) = .ok rs' ∧
      rs.map Rule.written = [⟨.accept, "x".toList, some "a ".toList⟩] ∧
      rs'.map Rule.written = [⟨.accept, "x".toList, some "a".toList⟩] ∧
      (Engine.mk rs (.ofSuffixes none)).evaluate "http://a/x".toList = ⟨false, none⟩ ∧
      (Engine.mk rs' (.ofSuffixes none)).evaluate "http://a/x".toList = ⟨true, some 0⟩ :=
  ⟨⟨_, _, rfl, rfl, rfl, rfl, rfl, rfl⟩, ⟨_, _, rfl, rfl, rfl, rfl, rfl, rfl⟩⟩

end CrawlFilter.RuleFile
