/-
How a rule file is read, item by item. An item is a line or the error that stands in its place; it gives at most one
rule, and it leaves a scope in force for the items after it. Reading is nothing but this, so everything about whole
files follows from what one item does.

- `rulesFrom_append`: a file in two parts gives the rules of the first and then those of the second, which is read in
  the scope that the first left in force and numbered after it; the first error wins.
- `rulesFrom_renumber`: numbers of lines matter to errors only.
- `rulesFrom_openLine` / `rulesFrom_closeLine`: a line that opens or closes a scope does nothing else.
- `rulesFrom_eq_ok_iff_written`: a file compiles exactly when it can be read as written and each of its rules compiles.
- `rulesFrom_rescope`: where no scope opens or closes, another scope in force changes the scope of each rule and
  nothing else.
- `oneLine_of_parseWritten`: nothing that is read out of a text holds a line feed.
-/
import Mathlib.Data.List.Forall2
import CrawlFilter.Proofs.Lines
import CrawlFilter.Proofs.Outcomes
import CrawlFilter.RuleFile.Reader

namespace CrawlFilter

namespace RuleLine

/-- how a line is read, by its first character -/
inductive Reads : Text → Except Char RuleLine → Prop where
  | empty : Reads [] (.ok .nothing)
  | rule (a : Action) (p : Text) : Reads (a.sigil :: p) (.ok (.rule a p))
  | comment (c : Char) (s : Text) (h : c = ' ' ∨ c = '#') : Reads (c :: s) (.ok .nothing)
  | openScope (s : Text) : Reads ('>' :: s) (.ok (.openScope (Text.trim s)))
  | closeScope (s : Text) : Reads ('<' :: s) (.ok .closeScope)
  | invalid (c : Char) (s : Text) (h : c ∉ ['+', '-', ' ', '#', '>', '<']) : Reads (c :: s) (.error c)

theorem reads_ofText (l : Text) : Reads l (ofText l) := by
  unfold ofText
  split
  · exact .empty
  · rename_i c cs
    cases hs : Action.ofSigil? c with
    | some a =>
      have hc : c = a.sigil := by
        unfold Action.ofSigil? at hs
        split at hs <;> cases hs <;> rfl
      subst hc
      exact .rule a cs
    | none =>
      have hp : c ≠ '+' := by rintro rfl; cases hs
      have hm : c ≠ '-' := by rintro rfl; cases hs
      simp only
      split_ifs with h1 h2 h3
      · exact .comment c cs h1
      · subst h2; exact .openScope cs
      · subst h3; exact .closeScope cs
      · refine .invalid c cs ?_
        rw [not_or] at h1
        simp [hp, hm, h1, h2, h3]

@[simp] theorem ofText_rule (a : Action) (p : Text) : ofText (a.sigil :: p) = .ok (.rule a p) := by
  cases a <;> rfl

@[simp] theorem ofText_openScope (s : Text) : ofText ('>' :: s) = .ok (.openScope (Text.trim s)) := rfl

@[simp] theorem ofText_closeScope (s : Text) : ofText ('<' :: s) = .ok .closeScope := rfl

end RuleLine

namespace RuleFile

variable {α : Type} {build : RuleBuilder α}

/-! ## One item -/

/-- the scope in force after an item, with one in force before it -/
def nextScope (scope : Option Text) : Except ReadError Text → Option Text
  | .error _ => scope
  | .ok raw =>
    match RuleLine.ofText (withoutLast '\r' raw) with
    | .ok (.openScope name) => some (normalizeHost name)
    | .ok .closeScope => none
    | _ => scope

/-- what a line that was read does to the scope in force, by its first character -/
theorem nextScope_ok (scope : Option Text) (raw : Text) :
    nextScope scope (.ok raw) =
      match withoutLast '\r' raw with
      | '>' :: s => some (normalizeHost (Text.trim s))
      | '<' :: _ => none
      | _ => scope := by
  have hr := RuleLine.reads_ofText (withoutLast '\r' raw)
  unfold nextScope
  simp only
  generalize RuleLine.ofText (withoutLast '\r' raw) = o at hr
  generalize withoutLast '\r' raw = line at hr
  cases hr with
  | empty => rfl
  | rule a p => cases a <;> rfl
  | comment c s h => rcases h with rfl | rfl <;> rfl
  | openScope s => rfl
  | closeScope s => rfl
  | invalid c s h =>
    change scope = _
    split
    · rename_i e
      cases e
      exact absurd (by simp) h
    · rename_i e
      cases e
      exact absurd (by simp) h
    · rfl

/-- the rules that item `n` gives in a scope, one or none -/
def readItem (build : RuleBuilder α) (n : ℕ) (scope : Option Text) :
    Except ReadError Text → Except RuleFileError (List α)
  | .error e => .error (.unreadable e)
  | .ok raw =>
    let line := withoutLast '\r' raw
    match RuleLine.ofText line with
    | .error c => .error (.invalidFirst n line c)
    | .ok (.rule a p) => ((build a p scope).mapError (.invalidPattern n line)).map ([·])
    | .ok _ => .ok []

/-- what a rule file's line gives in a scope -/
def Gives (build : RuleBuilder α) (scope : Option Text) : RuleLine → List α → Prop
  | .rule a p, rs => ∃ r, build a p scope = .ok r ∧ rs = [r]
  | _, rs => rs = []

theorem readItem_eq_ok_iff {n : ℕ} {scope : Option Text} {x : Except ReadError Text} {rs : List α} :
    readItem build n scope x = .ok rs ↔
      ∃ raw line, x = .ok raw ∧ RuleLine.ofText (withoutLast '\r' raw) = .ok line ∧ Gives build scope line rs := by
  cases x with
  | error e => simp [readItem]
  | ok raw =>
    cases hl : RuleLine.ofText (withoutLast '\r' raw) with
    | error c => simp [readItem, hl]
    | ok line =>
      cases line with
      | rule a p =>
        cases hb : build a p scope with
        | error e => simp [readItem, hl, Gives, hb, Except.mapError, Except.map]
        | ok r => simp [readItem, hl, Gives, hb, Except.mapError, Except.map, eq_comm]
      | _ => simp [readItem, hl, Gives, eq_comm]

theorem withoutLast_sigil (a : Action) (p : Text) :
    withoutLast '\r' (a.sigil :: p) = a.sigil :: withoutLast '\r' p :=
  withoutLast_cons (by cases a <;> decide) p

theorem notMem_ruleText (a : Action) {p : Text} (hp : '\n' ∉ p) : '\n' ∉ a.sigil :: p :=
  List.not_mem_cons_of_ne_of_not_mem (by cases a <;> decide) hp

/-- a rule line as it is written, its number and its terminator apart -/
theorem readItem_rule {n : ℕ} {scope : Option Text} {a : Action} {p : Text} {r : α}
    (h : build a (withoutLast '\r' p) scope = .ok r) : readItem build n scope (.ok (a.sigil :: p)) = .ok [r] :=
  readItem_eq_ok_iff.2 ⟨_, .rule a _, rfl, by rw [withoutLast_sigil, RuleLine.ofText_rule], r, h, rfl⟩

@[simp] theorem nextScope_rule (scope : Option Text) (a : Action) (p : Text) :
    nextScope scope (.ok (a.sigil :: p)) = scope := by
  simp [nextScope, withoutLast_sigil]

@[simp] theorem readItem_openScope (n : ℕ) (scope : Option Text) (s : Text) :
    readItem build n scope (.ok ('>' :: s)) = .ok [] := by
  simp [readItem, withoutLast_cons (show '>' ≠ '\r' by decide)]

@[simp] theorem nextScope_openScope (scope : Option Text) (s : Text) :
    nextScope scope (.ok ('>' :: s)) = some (normalizeHost s) := by
  simp [nextScope, withoutLast_cons (show '>' ≠ '\r' by decide), normalizeHost_trim, normalizeHost_withoutLast_cr]

@[simp] theorem readItem_closeScope (n : ℕ) (scope : Option Text) (s : Text) :
    readItem build n scope (.ok ('<' :: s)) = .ok [] := by
  simp [readItem, withoutLast_cons (show '<' ≠ '\r' by decide)]

@[simp] theorem nextScope_closeScope (scope : Option Text) (s : Text) : nextScope scope (.ok ('<' :: s)) = none := by
  simp [nextScope, withoutLast_cons (show '<' ≠ '\r' by decide)]

/-! ## Whole files -/

/-- the rules of the items from number `n` on, with a scope in force before them -/
def rulesFrom (build : RuleBuilder α) (n : ℕ) (scope : Option Text) (i : Input) : Except RuleFileError (List α) :=
  (readFrom build n scope i).value

@[simp] theorem rulesFrom_nil (n : ℕ) (scope : Option Text) : rulesFrom build n scope [] = .ok [] := rfl

theorem rulesFrom_cons (n : ℕ) (scope : Option Text) (x : Except ReadError Text) (i : Input) :
    rulesFrom build n scope (x :: i) = do
      let rs ← readItem build n scope x
      let qs ← rulesFrom build (n + 1) (nextScope scope x) i
      return rs ++ qs := by
  cases x with
  | error e => rfl
  | ok raw =>
    unfold rulesFrom readItem nextScope
    rw [readFrom]
    cases hl : RuleLine.ofText (withoutLast '\r' raw) with
    | error c => simp only [hl]; rfl
    | ok line =>
      simp only [hl]
      cases line with
      | rule a p =>
        simp only [Logged.value_bind]
        cases build a p scope with
        | error e => rfl
        | ok r =>
          simp only [Logged.value_map]
          cases (readFrom build (n + 1) scope i).value <;> rfl
      | nothing => cases (readFrom build (n + 1) scope i).value <;> rfl
      | openScope name => cases (readFrom build (n + 1) (some (normalizeHost name)) i).value <;> rfl
      | closeScope => cases (readFrom build (n + 1) none i).value <;> rfl

theorem rulesFrom_cons_of_nil {n : ℕ} {scope : Option Text} {x : Except ReadError Text}
    (h : readItem build n scope x = .ok []) (i : Input) :
    rulesFrom build n scope (x :: i) = rulesFrom build (n + 1) (nextScope scope x) i := by
  rw [rulesFrom_cons, h]
  cases rulesFrom build (n + 1) (nextScope scope x) i <;> rfl

theorem rulesFrom_cons_of_single {n : ℕ} {scope : Option Text} {x : Except ReadError Text} {r : α}
    (h : readItem build n scope x = .ok [r]) (i : Input) :
    rulesFrom build n scope (x :: i) = (rulesFrom build (n + 1) (nextScope scope x) i).map (r :: ·) := by
  rw [rulesFrom_cons, h]
  cases rulesFrom build (n + 1) (nextScope scope x) i <;> rfl

theorem read_eq (i : Input) : read build i = rulesFrom build 1 none i := by
  unfold read readLogged rulesFrom
  simp only [Logged.value_bind]
  cases (readFrom build 1 none i).value <;> rfl

theorem rulesFrom_append (n : ℕ) (scope : Option Text) (i j : Input) :
    rulesFrom build n scope (i ++ j) = do
      let rs ← rulesFrom build n scope i
      let qs ← rulesFrom build (n + i.length) (i.foldl nextScope scope) j
      return rs ++ qs := by
  induction i generalizing n scope with
  | nil =>
    change rulesFrom build n scope j = rulesFrom build n scope j >>= pure
    rw [bind_pure]
  | cons x i ih =>
    have hn : n + (x :: i).length = n + 1 + i.length := by simp only [List.length_cons]; omega
    rw [List.cons_append, rulesFrom_cons, ih, rulesFrom_cons, hn, List.foldl_cons]
    simp only [bind_assoc, pure_bind, List.append_assoc]

theorem rulesFrom_append_eq_ok_iff {n : ℕ} {scope : Option Text} {i j : Input} {rs : List α} :
    rulesFrom build n scope (i ++ j) = .ok rs ↔
      ∃ ps qs, rulesFrom build n scope i = .ok ps ∧
        rulesFrom build (n + i.length) (i.foldl nextScope scope) j = .ok qs ∧ rs = ps ++ qs := by
  rw [rulesFrom_append, except_append_eq_ok]

theorem rulesFrom_cons_eq_ok_iff {n : ℕ} {scope : Option Text} {x : Except ReadError Text} {i : Input} {rs : List α} :
    rulesFrom build n scope (x :: i) = .ok rs ↔
      ∃ ps qs, readItem build n scope x = .ok ps ∧ rulesFrom build (n + 1) (nextScope scope x) i = .ok qs ∧
        rs = ps ++ qs := by
  rw [rulesFrom_cons, except_append_eq_ok]

theorem rulesFrom_renumber {n : ℕ} (m : ℕ) {scope : Option Text} {i : Input} {rs : List α}
    (h : rulesFrom build n scope i = .ok rs) : rulesFrom build m scope i = .ok rs := by
  induction i generalizing n m scope rs with
  | nil => exact h
  | cons x i ih =>
    obtain ⟨ps, qs, hp, hq, rfl⟩ := rulesFrom_cons_eq_ok_iff.1 h
    exact rulesFrom_cons_eq_ok_iff.2 ⟨ps, qs, readItem_eq_ok_iff.2 (readItem_eq_ok_iff.1 hp), ih (m + 1) hq, rfl⟩

/-- a line that opens a scope gives no rule and puts its scope in force -/
theorem rulesFrom_openLine (build : RuleBuilder α) (n : ℕ) (scope : Option Text) {s : Text} (h : '\n' ∉ s) (t : Text) :
    rulesFrom build n scope (.ofText ('>' :: s ++ '\n' :: t)) =
      rulesFrom build (n + 1) (some (normalizeHost s)) (.ofText t) := by
  have hs : '\n' ∉ '>' :: s := by simpa using h
  rw [Input.ofText_line hs, withoutLast_cons (by decide), rulesFrom_cons_of_nil (readItem_openScope n scope _),
    nextScope_openScope, normalizeHost_withoutLast_cr]

/-- a line that closes a scope gives no rule and leaves none in force -/
theorem rulesFrom_closeLine (build : RuleBuilder α) (n : ℕ) (scope : Option Text) (t : Text) :
    rulesFrom build n scope (.ofText ("<\n".toList ++ t)) = rulesFrom build (n + 1) none (.ofText t) := by
  have e : "<\n".toList ++ t = ['<'] ++ '\n' :: t := rfl
  have hl : withoutLast '\r' ['<'] = '<' :: [] := rfl
  rw [e, Input.ofText_line (by decide), hl, rulesFrom_cons_of_nil (readItem_closeScope n scope []),
    nextScope_closeScope]

/-! ## Rules as written and rules as built -/

/-- `r` is what the written rule `w` is turned into -/
def BuiltFrom (build : RuleBuilder α) (r : α) (w : WrittenRule) : Prop := build w.action w.pattern w.scope = .ok r

theorem readItem_eq_ok_iff_written {n : ℕ} {scope : Option Text} {x : Except ReadError Text} {rs : List α} :
    readItem build n scope x = .ok rs ↔
      ∃ ws, readItem .written n scope x = .ok ws ∧ List.Forall₂ (BuiltFrom build) rs ws := by
  simp only [readItem_eq_ok_iff]
  constructor
  · rintro ⟨raw, line, hx, hl, hg⟩
    cases line with
    | rule a p =>
      obtain ⟨r, hr, rfl⟩ := hg
      exact ⟨[⟨a, p, scope⟩], ⟨raw, _, hx, hl, _, rfl, rfl⟩, .cons hr .nil⟩
    | _ => cases hg; exact ⟨[], ⟨raw, _, hx, hl, rfl⟩, .nil⟩
  · rintro ⟨ws, ⟨raw, line, hx, hl, hg⟩, hf⟩
    refine ⟨raw, line, hx, hl, ?_⟩
    cases line with
    | rule a p =>
      obtain ⟨w, hw, rfl⟩ := hg
      cases hw
      obtain ⟨r, rs', hr, hf', rfl⟩ := List.forall₂_cons_right_iff.1 hf
      exact ⟨r, hr, by rw [List.forall₂_nil_right_iff.1 hf']⟩
    | _ => cases hg; exact List.forall₂_nil_right_iff.1 hf

/-- **A file compiles exactly when** it can be read as written and each of its rules compiles. -/
theorem rulesFrom_eq_ok_iff_written {n : ℕ} {scope : Option Text} {i : Input} {rs : List α} :
    rulesFrom build n scope i = .ok rs ↔
      ∃ ws, rulesFrom .written n scope i = .ok ws ∧ List.Forall₂ (BuiltFrom build) rs ws := by
  induction i generalizing n scope rs with
  | nil =>
    simp only [rulesFrom_nil, Except.ok.injEq]
    constructor
    · rintro rfl; exact ⟨[], rfl, .nil⟩
    · rintro ⟨ws, rfl, hf⟩; exact (List.forall₂_nil_right_iff.1 hf).symm
  | cons x i ih =>
    simp only [rulesFrom_cons_eq_ok_iff]
    constructor
    · rintro ⟨ps, qs, hp, hq, rfl⟩
      obtain ⟨ws₁, hw₁, hf₁⟩ := readItem_eq_ok_iff_written.1 hp
      obtain ⟨ws₂, hw₂, hf₂⟩ := ih.1 hq
      exact ⟨ws₁ ++ ws₂, ⟨ws₁, ws₂, hw₁, hw₂, rfl⟩, List.rel_append hf₁ hf₂⟩
    · rintro ⟨ws, ⟨ws₁, ws₂, hw₁, hw₂, rfl⟩, hf⟩
      exact ⟨_, _, readItem_eq_ok_iff_written.2 ⟨ws₁, hw₁, List.forall₂_take_append _ _ _ hf⟩,
        ih.2 ⟨ws₂, hw₂, List.forall₂_drop_append _ _ _ hf⟩, (List.take_append_drop _ _).symm⟩

/-! ## Texts on one line -/

/-- a rule that can be written without a line feed -/
def OneLine (w : WrittenRule) : Prop := '\n' ∉ w.pattern ∧ ∀ s ∈ w.scope, '\n' ∉ s

theorem notMem_nextScope {scope : Option Text} {x : Except ReadError Text} (hs : ∀ s ∈ scope, '\n' ∉ s)
    (hx : ∀ raw, x = .ok raw → '\n' ∉ raw) : ∀ s ∈ nextScope scope x, '\n' ∉ s := by
  cases x with
  | error e => exact hs
  | ok raw =>
    have hraw : '\n' ∉ withoutLast '\r' raw := fun hm => hx raw rfl (withoutLast_subset _ _ hm)
    rw [nextScope_ok]
    split
    · rename_i s hl
      rw [hl] at hraw
      intro s' hm
      cases hm
      rw [normalizeHost_trim]
      exact notMem_normalizeHost fun hm => hraw (List.mem_cons_of_mem _ hm)
    · intro s hm
      cases hm
    · exact hs

theorem oneLine_of_readItem {n : ℕ} {scope : Option Text} {x : Except ReadError Text} {ws : List WrittenRule}
    (hs : ∀ s ∈ scope, '\n' ∉ s) (hx : ∀ raw, x = .ok raw → '\n' ∉ raw)
    (h : readItem .written n scope x = .ok ws) : ∀ w ∈ ws, OneLine w := by
  obtain ⟨raw, line, rfl, hl, hg⟩ := readItem_eq_ok_iff.1 h
  have hraw : '\n' ∉ withoutLast '\r' raw := fun hm => hx raw rfl (withoutLast_subset _ _ hm)
  have hr := RuleLine.reads_ofText (withoutLast '\r' raw)
  rw [hl] at hr
  generalize withoutLast '\r' raw = text at hr hraw
  intro w hw
  cases hr with
  | rule a p =>
    obtain ⟨r, hr, rfl⟩ := hg
    cases hr
    rw [List.mem_singleton.1 hw]
    exact ⟨fun hm => hraw (List.mem_cons_of_mem _ hm), hs⟩
  | _ => cases hg; cases hw

theorem oneLine_of_rulesFrom {n : ℕ} {scope : Option Text} {i : Input} {ws : List WrittenRule}
    (hs : ∀ s ∈ scope, '\n' ∉ s) (hi : ∀ raw, .ok raw ∈ i → '\n' ∉ raw)
    (h : rulesFrom .written n scope i = .ok ws) : ∀ w ∈ ws, OneLine w := by
  induction i generalizing n scope ws with
  | nil => cases h; simp
  | cons x i ih =>
    obtain ⟨ps, qs, hp, hq, rfl⟩ := rulesFrom_cons_eq_ok_iff.1 h
    have hx : ∀ raw, x = .ok raw → '\n' ∉ raw := fun raw e => hi raw (e ▸ List.mem_cons_self)
    intro w hw
    rcases List.mem_append.1 hw with hw | hw
    · exact oneLine_of_readItem hs hx hp w hw
    · exact ih (notMem_nextScope hs hx) (fun raw hm => hi raw (List.mem_cons_of_mem x hm)) hq w hw

/-- **What is read out of a text can be written on one line.** -/
theorem oneLine_of_parseWritten {t : Text} {ws : List WrittenRule} (h : parseWritten t = .ok ws) :
    ∀ w ∈ ws, OneLine w := by
  rw [parseWritten, read_eq] at h
  refine oneLine_of_rulesFrom (by simp) (fun raw hm => ?_) h
  obtain ⟨l, hl, e⟩ := List.mem_map.1 hm
  cases e
  exact Text.notMem_of_mem_lines hl

/-! ## Compiled rules -/

/-- a text is compiled or refused under its own name, anchored or not -/
theorem compile_cases (f : Flavor) (t : Text) :
    (∃ e, Pattern.compile f t = .ok ⟨t, e⟩) ∨ ∃ r, Pattern.compile f t = .error ⟨t, r⟩ := by
  have hs : ∀ text, (∃ e, Pattern.compileAs t text = .ok ⟨t, e⟩) ∨ ∃ r, Pattern.compileAs t text = .error ⟨t, r⟩ := by
    intro text
    unfold Pattern.compileAs
    cases Regex.compile text with
    | ok e => exact .inl ⟨e, rfl⟩
    | error r => exact .inr ⟨r, rfl⟩
  cases f with
  | basic => exact hs t
  | anchored =>
    unfold Pattern.compile
    rcases hs t with ⟨e, he⟩ | ⟨r, hr⟩
    · rw [he]
      exact hs (Pattern.whole t)
    · exact .inr ⟨r, by rw [hr]; rfl⟩

theorem source_of_compile {f : Flavor} {t : Text} {p : Pattern} (h : Pattern.compile f t = .ok p) : p.source = t := by
  rcases compile_cases f t with ⟨e, he⟩ | ⟨r, hr⟩
  · cases he.symm.trans h
    rfl
  · cases hr.symm.trans h

theorem pattern_of_compile {f : Flavor} {t : Text} {e : PatternError} (h : Pattern.compile f t = .error e) :
    e.pattern = t := by
  rcases compile_cases f t with ⟨q, hq⟩ | ⟨r, hr⟩
  · cases hq.symm.trans h
  · cases hr.symm.trans h
    rfl

theorem compile_eq_ok_iff {f : Flavor} {a : Action} {t : Text} {scope : Option Text} {r : Rule} :
    Rule.compile f a t scope = .ok r ↔ ∃ p, Pattern.compile f t = .ok p ∧ r = ⟨a, p, scope⟩ := by
  unfold Rule.compile
  cases Pattern.compile f t <;> simp [Except.map, eq_comm]

/-- compiling a rule keeps what is written -/
theorem written_of_builtFrom {f : Flavor} {r : Rule} {w : WrittenRule} (h : BuiltFrom (Rule.compile f) r w) :
    r.written = w := by
  obtain ⟨p, hp, rfl⟩ := compile_eq_ok_iff.1 h
  rw [Rule.written, source_of_compile hp]

theorem parse_eq_ok_iff {f : Flavor} {t : Text} {rs : List Rule} :
    parse f t = .ok rs ↔
      parseWritten t = .ok (rs.map Rule.written) ∧ ∀ r ∈ rs, BuiltFrom (Rule.compile f) r r.written := by
  rw [parse, parseWritten, read_eq, read_eq, rulesFrom_eq_ok_iff_written]
  constructor
  · rintro ⟨ws, hw, hf⟩
    have he : rs.map Rule.written = ws := by
      rw [← List.forall₂_eq_eq_eq, List.forall₂_map_left_iff]
      exact hf.imp fun _ _ h => written_of_builtFrom h
    subst he
    exact ⟨hw, by simpa [List.forall₂_map_right_iff, List.forall₂_same] using hf⟩
  · rintro ⟨hw, hb⟩
    exact ⟨_, hw, by simpa [List.forall₂_map_right_iff, List.forall₂_same] using hb⟩

/-! ## Scopes that stay in force -/

/-- a line that begins with no scope sigil leaves the scope as it is -/
theorem nextScope_eq_self {raw : Text} (ho : raw.head? ≠ some '>') (hc : raw.head? ≠ some '<')
    (scope : Option Text) : nextScope scope (.ok raw) = scope := by
  have hh : ∀ {c : Char} {s : Text}, withoutLast '\r' raw = c :: s → raw.head? = some c := by
    intro c s e
    rcases withoutLast_eq_or '\r' raw with h | h
    · rw [← h, e]; rfl
    · rw [h, e]; rfl
  rw [nextScope_ok]
  split
  · exact absurd (hh ‹_›) ho
  · exact absurd (hh ‹_›) hc
  · rfl

theorem foldl_nextScope_eq_self {i : Input} {scope : Option Text} (hi : ∀ x ∈ i, nextScope scope x = scope) :
    i.foldl nextScope scope = scope := by
  induction i with
  | nil => rfl
  | cons x i ih =>
    rw [List.foldl_cons, hi x List.mem_cons_self]
    exact ih fun y hy => hi y (List.mem_cons_of_mem x hy)

theorem readItem_rescope {f : Flavor} {n : ℕ} {scope : Option Text} {x : Except ReadError Text} {rs : List Rule}
    (m : ℕ) (new : Option Text) (h : readItem (Rule.compile f) n scope x = .ok rs) :
    readItem (Rule.compile f) m new x = .ok (rs.map ({ · with scope := new })) := by
  obtain ⟨raw, line, hx, hl, hg⟩ := readItem_eq_ok_iff.1 h
  refine readItem_eq_ok_iff.2 ⟨raw, line, hx, hl, ?_⟩
  cases line with
  | rule a p =>
    obtain ⟨r, hr, rfl⟩ := hg
    obtain ⟨q, hq, rfl⟩ := compile_eq_ok_iff.1 hr
    exact ⟨_, compile_eq_ok_iff.2 ⟨q, hq, rfl⟩, rfl⟩
  | _ => cases hg; rfl

theorem rulesFrom_rescope {f : Flavor} {n : ℕ} {scope : Option Text} {i : Input} {rs : List Rule}
    (m : ℕ) (new : Option Text) (hi : ∀ x ∈ i, ∀ s, nextScope s x = s)
    (h : rulesFrom (Rule.compile f) n scope i = .ok rs) :
    rulesFrom (Rule.compile f) m new i = .ok (rs.map ({ · with scope := new })) := by
  induction i generalizing n m rs with
  | nil => cases h; rfl
  | cons x i ih =>
    obtain ⟨ps, qs, hp, hq, rfl⟩ := rulesFrom_cons_eq_ok_iff.1 h
    rw [hi x List.mem_cons_self] at hq
    have hq' := ih (m + 1) (fun y hy => hi y (List.mem_cons_of_mem x hy)) hq
    refine rulesFrom_cons_eq_ok_iff.2 ⟨_, _, readItem_rescope m new hp, ?_, List.map_append⟩
    rw [hi x List.mem_cons_self, hq']

end RuleFile

end CrawlFilter
