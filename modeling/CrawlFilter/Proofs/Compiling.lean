/-
Compiling a rule file and reading it as written. Both are the same reading and differ in what becomes of a rule line: the
one compiles its pattern, which may be refused, and the other keeps it, which never fails. So the one succeeds exactly if
the other does and no pattern is refused, and what it gives then says the same.

- `builtFrom_compile_iff`: a rule is compiled from what it says, and its pattern from the text it shows.
- `exists_read_iff`: some rules are read exactly if the file can be read as written and something can be built from each
  of its rules, in whatever order those stand that can and those that cannot.
- `parse_iff_patterns_compile`: so for the patterns of a text, and then both readings are written back alike.
-/
import CrawlFilter.Proofs.Reading
import CrawlFilter.RuleFile.Writer

namespace CrawlFilter

theorem exists_forall₂_iff {α β : Type} {R : α → β → Prop} {l : List β} :
    (∃ k, List.Forall₂ R k l) ↔ ∀ b ∈ l, ∃ a, R a b := by
  induction l with
  | nil => simp
  | cons b l ih =>
    rw [List.forall_mem_cons, ← ih]
    constructor
    · rintro ⟨_, h⟩
      obtain ⟨a, k, ha, hk, rfl⟩ := List.forall₂_cons_right_iff.1 h
      exact ⟨⟨a, ha⟩, k, hk⟩
    · rintro ⟨⟨a, ha⟩, k, hk⟩
      exact ⟨a :: k, .cons ha hk⟩

namespace RuleFile

/-! ## One rule -/

theorem builtFrom_compile_iff {f : Flavor} {r : Rule} {w : WrittenRule} :
    BuiltFrom (Rule.compile f) r w ↔ r.written = w ∧ Pattern.compile f r.pattern.source = .ok r.pattern := by
  constructor
  · intro h
    obtain ⟨p, hp, rfl⟩ := compile_eq_ok_iff.1 h
    refine ⟨written_of_builtFrom h, ?_⟩
    rw [source_of_compile hp]
    exact hp
  · rintro ⟨rfl, h⟩
    exact compile_eq_ok_iff.2 ⟨r.pattern, h, rfl⟩

theorem exists_builtFrom_compile_iff {f : Flavor} {w : WrittenRule} :
    (∃ r, BuiltFrom (Rule.compile f) r w) ↔ ∃ p, Pattern.compile f w.pattern = .ok p := by
  simp only [BuiltFrom, compile_eq_ok_iff]
  constructor
  · rintro ⟨_, p, hp, -⟩
    exact ⟨p, hp⟩
  · rintro ⟨p, hp⟩
    exact ⟨_, p, hp, rfl⟩

/-! ## Whole files -/

theorem exists_read_iff {α : Type} {build : RuleBuilder α} {i : Input} :
    (∃ rs, read build i = .ok rs) ↔ ∃ ws, read .written i = .ok ws ∧ ∀ w ∈ ws, ∃ r, BuiltFrom build r w := by
  simp only [read_eq, ← exists_forall₂_iff]
  constructor
  · rintro ⟨rs, h⟩
    obtain ⟨ws, hw, hf⟩ := rulesFrom_eq_ok_iff_written.1 h
    exact ⟨ws, hw, rs, hf⟩
  · rintro ⟨ws, hw, rs, hf⟩
    exact ⟨rs, rulesFrom_eq_ok_iff_written.2 ⟨ws, hw, hf⟩⟩

theorem exists_parse_iff {f : Flavor} {t : Text} :
    (∃ rs, parse f t = .ok rs) ↔
      ∃ ws, parseWritten t = .ok ws ∧ ∀ w ∈ ws, ∃ p, Pattern.compile f w.pattern = .ok p := by
  simp only [parse, parseWritten, exists_read_iff, exists_builtFrom_compile_iff]

/-- **A text compiles exactly if** it can be read as written and every pattern in it compiles. The rules are then those
that were written, each with the pattern that its text compiles to, and both readings are written back as one text. -/
theorem parse_iff_patterns_compile (f : Flavor) (t : Text) :
    ((∃ rs, parse f t = .ok rs) ↔
      ∃ ws, parseWritten t = .ok ws ∧ ∀ w ∈ ws, ∃ p, Pattern.compile f w.pattern = .ok p) ∧
    ∀ rs, parse f t = .ok rs →
      (∀ r ∈ rs, Pattern.compile f r.pattern.source = .ok r.pattern) ∧
      ∀ ws, parseWritten t = .ok ws → rs.map Rule.written = ws ∧ writeRules rs = write ws := by
  constructor
  · exact exists_parse_iff
  · intro rs h
    obtain ⟨hw, hb⟩ := parse_eq_ok_iff.1 h
    refine ⟨fun r hr => (builtFrom_compile_iff.1 (hb r hr)).2, fun ws hws => ?_⟩
    rw [hw] at hws
    obtain rfl := Except.ok.inj hws
    exact ⟨rfl, rfl⟩

/-- rules in two scopes, one of them without a pattern -/
theorem parse_iff_patterns_compile_scoped :
    let t := "+a+\n> Shop.example.com. \r\n-b\\.c\r\n#\n<\n+\n".toList
    ∃ rs ws, parse .anchored t = .ok rs ∧ parseWritten t = .ok ws ∧
      (∀ w ∈ ws, ∃ p, Pattern.compile .anchored w.pattern = .ok p) ∧ rs.map Rule.written = ws ∧
      writeRules rs = write ws := by
  intro t
  obtain ⟨rs, hrs⟩ : ∃ rs, parse .anchored t = .ok rs := ⟨_, rfl⟩
  obtain ⟨hiff, hsame⟩ := parse_iff_patterns_compile .anchored t
  obtain ⟨ws, hws, hall⟩ := hiff.1 ⟨rs, hrs⟩
  exact ⟨rs, ws, hrs, hws, hall, (hsame rs hrs).2 ws hws⟩

end RuleFile

end CrawlFilter
