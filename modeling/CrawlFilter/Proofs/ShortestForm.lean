/-
The written form of rules is the shortest that gives them. It has a line for each rule and, in front of a rule whose
scope is not that of the rule before it, one line that puts its scope in force. No file does with less: a line gives one
rule at most, and a line that gives one leaves the scope as it is, so each change of scope costs a line of its own.

- `Canonical`: the lines of rules, as they should be; `canonical_lines_writeFrom`: so they are written.
- `Canonical.length_eq` / `Canonical.followed`: how many these are, and what stands below a scope line.
- `scopeChanges_le`: another scope in front of the rules changes the number of changes by one at most.
- `length_add_scopeChanges_le`: what every file with these rules has to have, line by line.
- `write_is_shortest`: all of it for the rules of a text, and for what is printed when a file is formatted.
-/
import CrawlFilter.Proofs.Loading
import CrawlFilter.Proofs.RoundTrip
import CrawlFilter.Proofs.ScopeInForce

namespace CrawlFilter.RuleFile

/-! ## Changes of scope -/

/-- how often the scope changes from one rule to the next, with a scope in force before the first -/
def scopeChanges (scope : Option Text) (ws : List WrittenRule) : ℕ :=
  ((scope :: ws.map (·.scope)).zip (ws.map (·.scope))).countP fun p => p.1 ≠ p.2

@[simp] theorem scopeChanges_nil (scope : Option Text) : scopeChanges scope [] = 0 := rfl

theorem scopeChanges_cons (scope : Option Text) (w : WrittenRule) (ws : List WrittenRule) :
    scopeChanges scope (w :: ws) = scopeChanges w.scope ws + if w.scope = scope then 0 else 1 := by
  by_cases h : w.scope = scope
  · simp [scopeChanges, h]
  · simp [scopeChanges, h, Ne.symm h]

/-- **The scope in front** matters to the first rule only. -/
theorem scopeChanges_le (scope new : Option Text) (ws : List WrittenRule) :
    scopeChanges scope ws ≤ scopeChanges new ws + 1 := by
  cases ws with
  | nil => exact Nat.zero_le _
  | cons w ws =>
    rw [scopeChanges_cons, scopeChanges_cons]
    split_ifs <;> omega

/-! ## Lines of the written form -/

/-- the line holds a rule -/
def isRuleLine (l : Text) : Bool := l.head? = some '+' || l.head? = some '-'

/-- the line of a rule, as it is found in a text -/
def ruleText (w : WrittenRule) : Text := w.action.sigil :: withoutLast '\r' w.pattern

/-- the line that puts a scope in force, as it is found in a text -/
def scopeText : Option Text → Text
  | some s => '>' :: withoutLast '\r' s
  | none => ['<']

@[simp] theorem isRuleLine_ruleText (w : WrittenRule) : isRuleLine (ruleText w) = true := by
  obtain ⟨_ | _, p, s⟩ := w <;> rfl

@[simp] theorem isScopeLine_ruleText (w : WrittenRule) : isScopeLine (ruleText w) = false := by
  obtain ⟨_ | _, p, s⟩ := w <;> rfl

@[simp] theorem isRuleLine_scopeText (s : Option Text) : isRuleLine (scopeText s) = false := by
  cases s <;> rfl

@[simp] theorem isScopeLine_scopeText (s : Option Text) : isScopeLine (scopeText s) = true := by
  cases s <;> rfl

/-- the lines of rules, with a scope in force before the first: one line for each rule, and one in front of it if its
scope is another one -/
inductive Canonical : Option Text → List WrittenRule → List Text → Prop where
  | nil (scope : Option Text) : Canonical scope [] []
  | same (w : WrittenRule) {ws : List WrittenRule} {ls : List Text} (h : Canonical w.scope ws ls) :
      Canonical w.scope (w :: ws) (ruleText w :: ls)
  | change {scope : Option Text} (w : WrittenRule) {ws : List WrittenRule} {ls : List Text} (hw : w.scope ≠ scope)
      (h : Canonical w.scope ws ls) : Canonical scope (w :: ws) (scopeText w.scope :: ruleText w :: ls)

theorem lines_ruleLine {w : WrittenRule} (h : '\n' ∉ w.pattern) (t : Text) :
    (ruleLine w ++ t).lines = ruleText w :: t.lines := by
  rw [ruleLine_append, Text.lines_line (notMem_ruleText w.action h), withoutLast_sigil, ruleText]

theorem lines_scopeLine {scope : Option Text} (h : ∀ s ∈ scope, '\n' ∉ s) (t : Text) :
    (scopeLine scope ++ t).lines = scopeText scope :: t.lines := by
  cases scope with
  | none => exact Text.lines_line (l := ['<']) (by decide) t
  | some s =>
    have hs : '\n' ∉ '>' :: s := by simpa using h s rfl
    rw [scopeLine_some_append, Text.lines_line hs, withoutLast_cons (by decide), scopeText]

/-- **Rules are written in canonical form,** if each can be written on one line. -/
theorem canonical_lines_writeFrom (scope : Option Text) {ws : List WrittenRule} (h : ∀ w ∈ ws, OneLine w) :
    Canonical scope ws (writeFrom scope ws).lines := by
  induction ws generalizing scope with
  | nil => exact .nil scope
  | cons w ws ih =>
    obtain ⟨hp, hs⟩ := h w List.mem_cons_self
    have ih := ih w.scope fun v hv => h v (List.mem_cons_of_mem w hv)
    by_cases hsc : w.scope = scope
    · subst hsc
      rw [writeFrom, if_pos rfl, List.nil_append, lines_ruleLine hp]
      exact .same w ih
    · rw [writeFrom, if_neg hsc, List.append_assoc, lines_scopeLine hs, lines_ruleLine hp]
      exact .change w hsc ih

namespace Canonical

variable {scope : Option Text} {ws : List WrittenRule} {ls : List Text}

theorem countP_isRuleLine (h : Canonical scope ws ls) : ls.countP isRuleLine = ws.length := by
  induction h with
  | nil => rfl
  | same w _ ih => simp [ih]
  | change w _ _ ih => simp [ih]

theorem countP_isScopeLine (h : Canonical scope ws ls) : ls.countP isScopeLine = scopeChanges scope ws := by
  induction h with
  | nil => rfl
  | same w _ ih => simp [ih, scopeChanges_cons]
  | change w hw _ ih => simp [ih, scopeChanges_cons, hw]

theorem length_eq (h : Canonical scope ws ls) : ls.length = ws.length + scopeChanges scope ws := by
  induction h with
  | nil => rfl
  | same w _ ih =>
    rw [List.length_cons, ih, List.length_cons, scopeChanges_cons, if_pos rfl]
    omega
  | change w hw _ ih =>
    rw [List.length_cons, List.length_cons, ih, List.length_cons, scopeChanges_cons, if_neg hw]
    omega

/-- below a scope line stands a rule -/
theorem followed (h : Canonical scope ws ls) {k : ℕ} {l : Text} (hl : ls[k]? = some l) (hs : isScopeLine l = true) :
    ∃ r, ls[k + 1]? = some r ∧ isRuleLine r = true := by
  induction h generalizing k with
  | nil => simp at hl
  | same w _ ih =>
    cases k with
    | zero =>
      obtain rfl : ruleText w = l := by simpa using hl
      simp at hs
    | succ k => exact ih (by simpa using hl)
  | change w _ _ ih =>
    match k with
    | 0 => exact ⟨ruleText w, rfl, isRuleLine_ruleText w⟩
    | 1 =>
      obtain rfl : ruleText w = l := by simpa using hl
      simp at hs
    | k + 2 => exact ih (by simpa using hl)

end Canonical

/-! ## No file is shorter -/

/-- **One line** gives a rule in the scope in force, which it leaves as it is, or no rule. -/
theorem readItem_written_cases {n : ℕ} {scope : Option Text} {x : Except ReadError Text} {ws : List WrittenRule}
    (h : readItem .written n scope x = .ok ws) :
    ws = [] ∨ ∃ w : WrittenRule, ws = [w] ∧ w.scope = scope ∧ nextScope scope x = scope := by
  obtain ⟨raw, line, rfl, hl, hg⟩ := readItem_eq_ok_iff.1 h
  cases line with
  | rule a p =>
    obtain ⟨w, hw, rfl⟩ := hg
    cases hw
    exact .inr ⟨_, rfl, rfl, by simp only [nextScope, hl]⟩
  | _ => exact .inl hg

/-- **Any number of lines** are no fewer than the rules they give and the changes of scope among these. -/
theorem length_add_scopeChanges_le {n : ℕ} {scope : Option Text} {i : Input} {ws : List WrittenRule}
    (h : rulesFrom .written n scope i = .ok ws) : ws.length + scopeChanges scope ws ≤ i.length := by
  induction i generalizing n scope ws with
  | nil =>
    cases h
    exact Nat.le_refl 0
  | cons x i ih =>
    obtain ⟨ps, qs, hp, hq, rfl⟩ := rulesFrom_cons_eq_ok_iff.1 h
    have hrest := ih hq
    rw [List.length_cons]
    rcases readItem_written_cases hp with rfl | ⟨w, rfl, rfl, hscope⟩
    · -- a line without a rule saves one change at most
      have hchange := scopeChanges_le scope (nextScope scope x) qs
      rw [List.nil_append]
      omega
    · rw [hscope] at hrest
      rw [List.singleton_append, List.length_cons, scopeChanges_cons, if_pos rfl]
      omega

theorem length_lines_write_le {u : Text} {ws : List WrittenRule} (h : parseWritten u = .ok ws) :
    (write ws).lines.length ≤ u.lines.length := by
  have hlow : ws.length + scopeChanges none ws ≤ (Input.ofText u).length :=
    length_add_scopeChanges_le (n := 1) (by rwa [parseWritten, read_eq] at h)
  rw [Input.ofText, List.length_map] at hlow
  rwa [write, (canonical_lines_writeFrom none (oneLine_of_parseWritten h)).length_eq]

/-! ## Formatting -/

/-- what is printed when the file of a text is formatted -/
theorem fmt_eq_write {files : Files} {s : RuleSource} {f : Flavor} {t out : Text} {ws : List WrittenRule}
    (ht : s.text files = .ok t) (hw : parseWritten t = .ok ws) (h : Command.fmt files s f = .ok out) :
    out = write ws := by
  unfold Command.fmt at h
  rw [RuleSource.load_of_text ht] at h
  obtain ⟨rs, hrs, hout⟩ := except_bind_eq_ok.1 h
  have hparse : parse f t = .ok rs := except_mapError_eq_ok.1 hrs
  rw [(parse_eq_ok_iff.1 hparse).1, Except.ok.injEq] at hw
  cases hout
  rw [writeRules, hw]

/-- **The written form is the shortest.** The rules of a text are written as a line for each and a scope line in front
of each whose scope is not that of the rule before it, none being in force before the first. So there are as many rule
lines as rules and as many scope lines as changes of scope, and below each scope line stands a rule line. Every text
that is read as these rules has at least as many lines, the one they came from among them, and formatting the file of
that text prints this form. -/
theorem write_is_shortest {t : Text} {ws : List WrittenRule} (h : parseWritten t = .ok ws) :
    Canonical none ws (write ws).lines ∧
      (write ws).lines.countP isRuleLine = ws.length ∧
      (write ws).lines.countP isScopeLine = scopeChanges none ws ∧
      (write ws).lines.length = ws.length + scopeChanges none ws ∧
      (∀ k l, (write ws).lines[k]? = some l → isScopeLine l = true →
        ∃ r, (write ws).lines[k + 1]? = some r ∧ isRuleLine r = true) ∧
      (∀ u, parseWritten u = .ok ws → (write ws).lines.length ≤ u.lines.length) ∧
      ∀ files s f out, RuleSource.text files s = .ok t → Command.fmt files s f = .ok out → out = write ws := by
  have hc : Canonical none ws (write ws).lines := canonical_lines_writeFrom none (oneLine_of_parseWritten h)
  exact ⟨hc, hc.countP_isRuleLine, hc.countP_isScopeLine, hc.length_eq, fun k l hl hs => hc.followed hl hs,
    fun u hu => length_lines_write_le hu, fun files s f out ht hout => fmt_eq_write ht h hout⟩

/-- scopes opened over one another, opened twice, and opened and closed again for nothing -/
theorem write_is_shortest_overwritten :
    let t : Text := "#\n>a\n> B.\n+x\n>b\n-y\n<\n>b\n<\n+z".toList
    let ws : List WrittenRule :=
      [⟨.accept, "x".toList, some "b".toList⟩, ⟨.reject, "y".toList, some "b".toList⟩, ⟨.accept, "z".toList, none⟩]
    let files : Files := fun _ => .file (Utf8.encode t)
    parseWritten t = .ok ws ∧ (write ws).lines.length = 3 + 2 ∧ (write ws).lines.length ≤ t.lines.length ∧
      Command.fmt files (.file "rules".toList) .basic = .ok ">b\n+x\n-y\n<\n+z\n".toList ∧
      ">b\n+x\n-y\n<\n+z\n".toList = write ws := by
  intro t ws files
  have hws : parseWritten t = .ok ws := by decide
  have htext : RuleSource.text files (.file "rules".toList) = .ok t := RuleSource.text_file_eq_ok_iff.2 rfl
  have hout : Command.fmt files (.file "rules".toList) .basic = .ok ">b\n+x\n-y\n<\n+z\n".toList := by
    unfold Command.fmt
    rw [RuleSource.load_of_text htext]
    rfl
  obtain ⟨-, -, -, hlength, -, hshort, hfmt⟩ := write_is_shortest hws
  exact ⟨hws, hlength, hshort t hws, hout, hfmt _ _ _ _ htext hout⟩

end CrawlFilter.RuleFile
