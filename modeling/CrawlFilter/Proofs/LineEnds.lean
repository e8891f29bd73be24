/-
What the end of a line takes off the rule on it. A line feed ends a line, with a carriage return in front of it or
without one; what then stands at the end of the line loses one more carriage return. That is meant for a last line that
nothing ends, but it is done to every line. So a pattern is read as it stands unless it ends in a carriage return, and
then it loses that one, whatever ends its line.

- `ofText_crlf` / `ofText_lf` / `ofText_unended`: three ways in which a line may end give the same lines.
- `read_ruleItem_iff`: what a rule line gives, in the scope found from it, between what stands before and after it.
- `pattern_whole_iff`: which patterns are read as they stand.
- `carriage_return_lost`: a pattern that is not.
-/
import CrawlFilter.Proofs.ScopeInForce

namespace CrawlFilter

open Lines (Ended)

/-! ## Three ends of a line -/

namespace Input

variable {l : Text}

theorem ofText_crlf (hl : '\n' ∉ l) (t : Text) : ofText (l ++ ("\r\n".toList ++ t)) = .ok l :: ofText t := by
  have e : l ++ ("\r\n".toList ++ t) = (l ++ ['\r']) ++ '\n' :: t := by simp
  rw [e, ofText_line (by simpa using hl), withoutLast_concat]

theorem ofText_lf (hl : '\n' ∉ l) (hcr : l.getLast? ≠ some '\r') (t : Text) :
    ofText (l ++ '\n' :: t) = .ok l :: ofText t := by
  rw [ofText_line hl, withoutLast_eq_self_iff.2 hcr]

end Input

namespace RuleFile

/-! ## A rule line in its file -/

/-- **A rule line** gives its rule between the rules of what stands before it and those of what comes after it. -/
theorem read_ruleItem_iff {before : Text} {rules ws : List WrittenRule} (hr : parseWritten before = .ok rules)
    (a : Action) (p : Text) (rest : Input) :
    read .written (.ofText before ++ .ok (a.sigil :: p) :: rest) = .ok ws ↔
      ∃ qs, rulesFrom .written 1 (scopeBelow (fileLines before)) rest = .ok qs ∧
        ws = rules ++ ⟨a, withoutLast '\r' p, scopeBelow (fileLines before)⟩ :: qs := by
  have hscope : (Input.ofText before).foldl nextScope none = scopeBelow (fileLines before) :=
    foldl_nextScope_eq_scopeBelow before.lines
  rw [parseWritten, read_eq] at hr
  rw [read_eq, rulesFrom_append_eq_ok_iff, hscope]
  constructor
  · rintro ⟨ps, qs, hp, hq, rfl⟩
    obtain rfl : rules = ps := Except.ok.inj (hr.symm.trans hp)
    rw [rulesFrom_cons_of_single (readItem_rule rfl), nextScope_rule] at hq
    obtain ⟨qs', hq', rfl⟩ := except_map_eq_ok.1 hq
    exact ⟨qs', rulesFrom_renumber 1 hq', rfl⟩
  · rintro ⟨qs, hq, rfl⟩
    refine ⟨rules, _, hr, ?_, rfl⟩
    rw [rulesFrom_cons_of_single (readItem_rule rfl), nextScope_rule, rulesFrom_renumber _ hq]
    rfl

/-- **Which patterns are read as they stand.** The rule on a line that ends in a carriage return and a line feed comes
right after the rules of the text before it, with the action of its sigil and in the scope found from its line. Its
pattern is what stands between the sigil and those two characters exactly if that does not end in a carriage return
itself; if it does, this carriage return is lost too. On a line that a line feed alone ends the pattern is all that
stands before it, and on a last line that nothing ends it is all but one carriage return at its end. -/
theorem pattern_whole_iff {before : Text} {rules : List WrittenRule} (hb : Ended '\n' before)
    (hr : parseWritten before = .ok rules) (a : Action) {p : Text} (hp : '\n' ∉ p) :
    (∀ after ws, parseWritten (before ++ (a.sigil :: p ++ ("\r\n".toList ++ after))) = .ok ws →
      ∃ r qs, ws = rules ++ r :: qs ∧ r.action = a ∧ r.scope = scopeBelow (fileLines before) ∧
        (r.pattern = p ↔ p.getLast? ≠ some '\r') ∧ (r.pattern = p ∨ p = r.pattern ++ ['\r'])) ∧
    (p.getLast? ≠ some '\r' → ∀ after ws, parseWritten (before ++ (a.sigil :: p ++ '\n' :: after)) = .ok ws →
      ∃ qs, ws = rules ++ ⟨a, p, scopeBelow (fileLines before)⟩ :: qs) ∧
    parseWritten (before ++ a.sigil :: p) =
      .ok (rules ++ [⟨a, withoutLast '\r' p, scopeBelow (fileLines before)⟩]) := by
  have hline := notMem_ruleText a hp
  refine ⟨fun after ws h => ?_, fun hcr after ws h => ?_, ?_⟩
  · rw [parseWritten, Input.ofText_append hb, Input.ofText_crlf hline, read_ruleItem_iff hr] at h
    obtain ⟨qs, -, rfl⟩ := h
    exact ⟨_, qs, rfl, rfl, rfl, withoutLast_eq_self_iff, withoutLast_eq_or '\r' p⟩
  · have hend : (a.sigil :: p).getLast? ≠ some '\r' := by
      rw [← withoutLast_eq_self_iff, withoutLast_sigil, withoutLast_eq_self_iff.2 hcr]
    rw [parseWritten, Input.ofText_append hb, Input.ofText_lf hline hend, read_ruleItem_iff hr] at h
    obtain ⟨qs, -, rfl⟩ := h
    exact ⟨qs, by rw [withoutLast_eq_self_iff.2 hcr]⟩
  · rw [parseWritten, Input.ofText_append hb, Input.ofText_unended hline (List.cons_ne_nil _ _), read_ruleItem_iff hr]
    exact ⟨[], rfl, rfl⟩

/-- below a scope line, a pattern with a carriage return inside, on an ended line and on the last one -/
theorem pattern_whole_iff_scoped :
    let before := ">a\n+x\n".toList
    let rules : List WrittenRule := [⟨.accept, "x".toList, some "a".toList⟩]
    parseWritten before = .ok rules ∧
      (∃ r, parseWritten (before ++ ('-' :: "b\rc".toList ++ ("\r\n".toList ++ "<\n".toList))) = .ok (rules ++ [r]) ∧
        r.pattern = "b\rc".toList ∧ r.scope = some "a".toList) ∧
      parseWritten (before ++ '-' :: "b\rc".toList) = .ok (rules ++ [⟨.reject, "b\rc".toList, some "a".toList⟩]) := by
  intro before rules
  have hr : parseWritten before = .ok rules := by decide
  have hp : '\n' ∉ "b\rc".toList := by decide
  obtain ⟨hcrlf, -, hlast⟩ := pattern_whole_iff (.inr rfl) hr .reject hp
  obtain ⟨r, qs, hws, -, hscope, hpattern, -⟩ := hcrlf "<\n".toList
    (rules ++ [⟨.reject, "b\rc".toList, some "a".toList⟩]) (by decide)
  obtain ⟨rfl, -⟩ := List.cons.inj (List.append_cancel_left hws)
  exact ⟨hr, ⟨_, by decide, hpattern.2 (by decide), hscope⟩, hlast⟩

/-- **A carriage return is lost** in front of the two characters that end a line, though the line is not the last. -/
theorem carriage_return_lost :
    ∃ r, parseWritten ('+' :: "a\r".toList ++ ("\r\n".toList ++ "-b\n".toList)) =
        .ok [r, ⟨.reject, "b".toList, none⟩] ∧ r.pattern = "a".toList ∧ r.pattern ≠ "a\r".toList :=
  ⟨⟨.accept, "a".toList, none⟩, by decide, rfl, by decide⟩

end RuleFile

end CrawlFilter
