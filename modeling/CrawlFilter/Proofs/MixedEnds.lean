/-
Rule files whose lines end in different ways. A carriage return in front of a line feed belongs to the end of the line,
and so does one that ends the last line, so a file without carriage returns reads the same when some of its line feeds,
or all of them, get one in front, and when its last line is ended or gets a carriage return instead.

- `Reended.of_append`: other ends of lines leave what is on the lines alone.
- `rulesFrom_reended`: line by line, the file is read alike.
- `ends_do_not_matter`: so for whole files, texts and their bytes, rules and errors.
-/
import CrawlFilter.Proofs.ByteStreams
import CrawlFilter.Proofs.LineEnds

namespace CrawlFilter

/-- the second text is the first one with a carriage return put in front of some of its line feeds -/
inductive Reended : Text → Text → Prop where
  | nil : Reended [] []
  | keep (c : Char) {t u : Text} (h : Reended t u) : Reended (c :: t) (c :: u)
  | crlf {t u : Text} (h : Reended t u) : Reended ('\n' :: t) ('\r' :: '\n' :: u)

namespace Reended

theorem of_append {l t u : Text} (hl : '\n' ∉ l) (h : Reended (l ++ t) u) : ∃ v, u = l ++ v ∧ Reended t v := by
  induction l generalizing u with
  | nil => exact ⟨u, rfl, h⟩
  | cons c l ih =>
    cases h with
    | keep _ h =>
      obtain ⟨v, rfl, hv⟩ := ih (fun hm => hl (List.mem_cons_of_mem c hm)) h
      exact ⟨v, rfl, hv⟩
    | crlf => exact absurd List.mem_cons_self hl

/-- a text without line feeds has no ends of lines to change -/
theorem eq_of_notMem {l u : Text} (hl : '\n' ∉ l) (h : Reended l u) : u = l := by
  rw [← List.append_nil l] at h
  obtain ⟨v, rfl, hv⟩ := of_append hl h
  cases hv
  exact List.append_nil l

/-- the first line ends in one of two ways -/
theorem of_line {l t u : Text} (hl : '\n' ∉ l) (h : Reended (l ++ '\n' :: t) u) :
    ∃ v, Reended t v ∧ (u = l ++ '\n' :: v ∨ u = l ++ ("\r\n".toList ++ v)) := by
  obtain ⟨v, rfl, hv⟩ := of_append hl h
  cases hv with
  | keep _ hv => exact ⟨_, hv, .inl rfl⟩
  | crlf hv => exact ⟨_, hv, .inr rfl⟩

end Reended

/-- what the end of a whole text may get: nothing, or one of the characters that end lines -/
def lastEnds : List Text := [[], ['\r'], ['\n']]

theorem mem_lastEnds {e : Text} : e ∈ lastEnds ↔ e = [] ∨ e = ['\r'] ∨ e = ['\n'] := by
  simp [lastEnds]

namespace RuleFile

variable {α : Type} {build : RuleBuilder α}

/-- a last line that nothing ends reads the same with a carriage return at its end -/
theorem readItem_concat_cr {l : Text} (h : l.getLast? ≠ some '\r') (n : ℕ) (scope : Option Text) :
    readItem build n scope (.ok (l ++ ['\r'])) = readItem build n scope (.ok l) := by
  simp only [readItem, withoutLast_concat, withoutLast_eq_self_iff.2 h]

/-- the last line, which has no line feed, reads the same with more at its end -/
theorem rulesFrom_lastLine {l e : Text} (hl : '\n' ∉ l) (hne : l ≠ []) (hcr : l.getLast? ≠ some '\r')
    (he : e ∈ lastEnds) (n : ℕ) (scope : Option Text) :
    rulesFrom build n scope (.ofText (l ++ e)) = rulesFrom build n scope (.ofText l) := by
  rcases mem_lastEnds.1 he with rfl | rfl | rfl
  · rw [List.append_nil]
  · have hl' : '\n' ∉ l ++ ['\r'] := by simpa using hl
    rw [Input.ofText_unended hl' (by simp), Input.ofText_unended hl hne, rulesFrom_singleton, rulesFrom_singleton,
      readItem_concat_cr hcr]
  · rw [Input.ofText_lf hl hcr, Input.ofText_unended hl hne]
    rfl

/-- **Line by line,** a file is read alike whichever of its lines end in a line feed alone, and whatever its end gets. -/
theorem rulesFrom_reended {t u e : Text} (ht : '\r' ∉ t) (h : Reended t u) (he : e ∈ lastEnds) (n : ℕ)
    (scope : Option Text) : rulesFrom build n scope (.ofText (u ++ e)) = rulesFrom build n scope (.ofText t) := by
  induction t using Lines.line_induction '\n' generalizing u n scope with
  | nil =>
    cases h
    rcases mem_lastEnds.1 he with rfl | rfl | rfl <;> rfl
  | last l hne hl =>
    obtain rfl := h.eq_of_notMem hl
    exact rulesFrom_lastLine hl hne (fun hc => ht (List.mem_of_getLast? hc)) he n scope
  | line l t hl ih =>
    have hcr : l.getLast? ≠ some '\r' := fun hc => ht (List.mem_append_left _ (List.mem_of_getLast? hc))
    have ht' : '\r' ∉ t := fun hm => ht (List.mem_append_right _ (List.mem_cons_of_mem _ hm))
    obtain ⟨v, hv, hu⟩ := h.of_line hl
    -- both ways of ending the line leave it as it stands
    have hfirst : Input.ofText (u ++ e) = .ok l :: Input.ofText (v ++ e) := by
      rcases hu with rfl | rfl
      · rw [List.append_assoc, List.cons_append, Input.ofText_lf hl hcr]
      · rw [List.append_assoc, List.append_assoc, Input.ofText_crlf hl]
    rw [hfirst, Input.ofText_lf hl hcr, rulesFrom_cons, rulesFrom_cons, ih ht' hv]

/-- **How lines end does not matter.** Let a text have no carriage returns. With one in front of any of its line feeds,
and with one more carriage return or one more line feed at its very end or without, it gives the same rules or the same
error, however rules are built, and so do its bytes. -/
theorem ends_do_not_matter (build : RuleBuilder α) {t u e : Text} (ht : '\r' ∉ t) (h : Reended t u)
    (he : e ∈ lastEnds) :
    read build (.ofText (u ++ e)) = read build (.ofText t) ∧
      read build (.ofBytes (Utf8.encode (u ++ e))) = read build (.ofBytes (Utf8.encode t)) := by
  have htext : read build (.ofText (u ++ e)) = read build (.ofText t) := by
    rw [read_eq, read_eq, rulesFrom_reended ht h he]
  exact ⟨htext, by rwa [Input.ofBytes_encode, Input.ofBytes_encode]⟩

/-- a line at fault below one with a carriage return, the last line with another one; and a scope that is read from
bytes, with a line of its own for the carriage return at the end -/
theorem ends_do_not_matter_mixed :
    parse .anchored "+a\r\n*b\r".toList = .error (.invalidFirst 2 "*b".toList '*') ∧
      read .written (.ofBytes (Utf8.encode ">a\n-b\r\n\r".toList)) =
        .ok [⟨.reject, "b".toList, some "a".toList⟩] := by
  have hfault : Reended "+a\n*b".toList "+a\r\n*b".toList :=
    .keep '+' (.keep 'a' (.crlf (.keep '*' (.keep 'b' .nil))))
  have hscope : Reended ">a\n-b\n".toList ">a\n-b\r\n".toList :=
    .keep '>' (.keep 'a' (.keep '\n' (.keep '-' (.keep 'b' (.crlf .nil)))))
  have hcr : ['\r'] ∈ lastEnds := by decide
  constructor
  · exact (ends_do_not_matter (Rule.compile .anchored) (by decide) hfault hcr).1.trans rfl
  · exact (ends_do_not_matter .written (by decide) hscope hcr).2.trans (by decide)

end RuleFile

end CrawlFilter
