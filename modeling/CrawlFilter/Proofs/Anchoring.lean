/-
What anchoring does to a pattern. The anchored pattern is compiled from a text, with the pattern between `^(?:` and
`)$`, so it is right only as far as the characters put around a pattern are read as what they are there for.

That fails in one case: in verbose mode a pattern can end in a comment, and then `)$` belongs to the comment.

- `parse_whole`: the tree of the text around a pattern, or the group that such a comment leaves open.
- `whole_matches_iff`: the expression around another one matches the whole of a text or nothing.
- `anchored_accepts_iff`: anchoring accepts what is accepted bare and leaves no comment open, within the limits.
- `anchored_refuses_open_comment`: a pattern that is refused for its comment.
- `anchored_describes_whole`: an anchored pattern describes the URLs that the bare one matches from end to end.
-/
import CrawlFilter.Pattern
import CrawlFilter.Proofs.Compiling
import CrawlFilter.Proofs.PatternReading
import CrawlFilter.Proofs.Search

namespace CrawlFilter.Regex

/-! ## The text around a pattern -/

/-- whatever follows the text on its last line is not read -/
def LeavesCommentOpen (t : Text) : Prop := ∀ s, '\n' ∉ s → parse (t ++ s) = parse t

/-- the tree around a pattern that is anchored -/
def Ast.whole (a : Ast) : Ast := .concat (.anchor .lineStart) (.concat (.group false [] a) (.anchor .lineEnd))

/-- the group that is opened around a pattern, in the level with the anchor before it -/
def wholeBase : List (Opening × Level) := [(.plain [], ⟨false, [], [.anchor .lineStart]⟩)]

theorem reads_whole (t : Text) :
    Reader.start.reads (Pattern.whole t) = (Reader.start.within wholeBase).reads (t ++ ")$".toList) := by
  have htext : Pattern.whole t = '^' :: '(' :: '?' :: ':' :: (t ++ ")$".toList) := by
    unfold Pattern.whole
    rw [List.append_assoc]
    rfl
  have hline : ∀ cs, Token.next false ('^' :: cs) = .ok (some (.unit (.anchor .lineStart), cs)) := fun cs => rfl
  have hgroup : ∀ cs, Token.next false ('(' :: '?' :: ':' :: cs) = .ok (some (.openGroup (.plain []), cs)) := fun cs =>
    rfl
  let anchored : Reader := ⟨⟨false, [], [.anchor .lineStart]⟩, [], []⟩
  rw [htext]
  calc Reader.start.reads ('^' :: '(' :: '?' :: ':' :: (t ++ ")$".toList))
      = anchored.reads ('(' :: '?' :: ':' :: (t ++ ")$".toList)) := Reader.reads_of_token (r := Reader.start) (hline _)
    _ = (Reader.start.within wholeBase).reads (t ++ ")$".toList) := Reader.reads_of_token (r := anchored) (hgroup _)

/-- a closing parenthesis is read as one wherever the reader stands -/
theorem reads_closing (r : Reader) (cs : Text) :
    r.reads (')' :: cs) = r.feed .closeGroup >>= fun r' => r'.reads cs := by
  refine Reader.reads_of_token ?_
  rw [skip_of_closing _ rfl]
  rfl

theorem reads_dollar (l : Level) (hl : l.verbose = false) (names : List Text) :
    Reader.reads ⟨l, [], names⟩ ['$'] = .ok ⟨l.push (.anchor .lineEnd), [], names⟩ := by
  have hnext : Token.next l.verbose (skip l.verbose ['$']) = .ok (some (.unit (.anchor .lineEnd), [])) := by
    rw [hl]
    rfl
  let ended : Reader := ⟨l.push (.anchor .lineEnd), [], names⟩
  calc Reader.reads ⟨l, [], names⟩ ['$'] = ended.reads [] := Reader.reads_of_token (r := ⟨l, [], names⟩) hnext
    _ = .ok ended := Reader.reads_of_end (skip_nil _)

/-- **The text around a pattern** is read as its tree with an anchor on both sides, unless the pattern leaves a comment
open: then the group that was opened before it is never closed. -/
theorem parse_whole {t : Text} {a : Ast} (h : parse t = .ok a) :
    (¬ LeavesCommentOpen t ∧
      parse (Pattern.whole t) = if a.whole.depth .none ≤ maxDepth then .ok a.whole else .error .nestingTooDeep) ∨
    LeavesCommentOpen t ∧ EndsInComment t ∧ parse (Pattern.whole t) = .error .groupUnclosed := by
  obtain ⟨r, hr, hfin, hd⟩ := parse_eq_ok_iff.1 h
  obtain ⟨hout, rfl⟩ := Reader.finish_eq_ok_iff.1 hfin
  obtain ⟨level, outer, names⟩ := r
  obtain rfl : outer = [] := hout
  rcases Reader.reads_append hr with hread | ⟨hend, hread⟩
  · refine .inl ⟨fun hopen => ?_, ?_⟩
    · -- one more closing parenthesis would close nothing
      have hmore := hopen [')'] (by decide)
      have hclose : Reader.start.reads (t ++ [')']) = .error .groupUnopened := by
        have := hread [] [')'] rfl
        rw [reads_closing] at this
        exact this
      rw [h, parse_eq, hclose] at hmore
      cases hmore
    · have hclose := hread wholeBase ")$".toList rfl
      have hread : Reader.start.reads (Pattern.whole t) =
          .ok ⟨⟨false, [], [.anchor .lineEnd, .group false [] level.toAst, .anchor .lineStart]⟩, [], names⟩ := by
        rw [reads_whole, hclose]
        change Reader.reads _ (')' :: ['$']) = _
        rw [reads_closing]
        exact reads_dollar ⟨false, [], [.group false [] level.toAst, .anchor .lineStart]⟩ rfl names
      rw [parse_eq, hread]
      rfl
  · refine .inr ⟨fun s hs => ?_, hend, ?_⟩
    · have hmore : Reader.start.reads (t ++ s) = .ok ⟨level, [], names⟩ := hread [] s hs
      rw [parse_eq, parse_eq, hmore, hr]
    · rw [parse_eq, reads_whole, hread wholeBase _ (by decide)]
      rfl

/-! ## The expression around a pattern -/

/-- the expression around another one that is anchored -/
def Expr.whole (e : Expr Atom) : Expr Atom :=
  .concat (.atom (.look .textStart)) (.concat (.group false e) (.atom (.look .textEnd)))

/-- Flags, branches and anchors of a pattern end with the group around it. -/
theorem interpret_whole (a : Ast) :
    a.whole.interpret .initial = (a.interpret .initial).map fun r => (r.1.whole, .initial) := by
  have hedit : Settings.edit .initial [] = .initial := rfl
  have hstart : Anchor.look .initial .lineStart = .textStart := rfl
  have hend : Anchor.look .initial .lineEnd = .textEnd := rfl
  cases h : a.interpret .initial <;>
    simp [Ast.whole, Ast.interpret, Expr.whole, hedit, hstart, hend, h, bind, Except.bind, pure, Except.pure,
      Except.map]

theorem compile_eq_ok_iff {t : Text} {e : Expr Atom} :
    compile t = .ok e ↔ ∃ a s, parse t = .ok a ∧ a.interpret .initial = .ok (e, s) ∧ e.fits = true := by
  unfold compile
  cases hp : parse t with
  | error f => simp [Except.bind]
  | ok a =>
    cases hi : a.interpret .initial with
    | error f => simp [Except.bind, hi]
    | ok r =>
      by_cases hf : r.1.fits = true
      · simp only [Except.bind, hi, if_pos hf]
        constructor
        · rintro ⟨⟩
          exact ⟨a, r.2, rfl, hi, hf⟩
        · rintro ⟨_, s, ⟨⟩, hi', -⟩
          rw [hi] at hi'
          cases hi'
          rfl
      · simp only [Except.bind, hi, if_neg hf, reduceCtorEq, false_iff]
        rintro ⟨_, s, ⟨⟩, hi', hf'⟩
        rw [hi] at hi'
        cases hi'
        exact hf hf'

/-- neither nested too deeply nor too large -/
def WithinLimits (t : Text) : Prop := compile t ≠ .error (.fault .nestingTooDeep) ∧ compile t ≠ .error .tooBig

theorem withinLimits_of_compile {t : Text} {e : Expr Atom} (h : compile t = .ok e) : WithinLimits t := by
  unfold WithinLimits
  rw [h]
  exact ⟨nofun, nofun⟩

/-- **The text around a pattern** compiles to the expression around that of the pattern, if it is within the limits and
the pattern leaves no comment open. -/
theorem compile_whole {t : Text} {e : Expr Atom} (h : compile t = .ok e) :
    ¬ LeavesCommentOpen t ∧ (WithinLimits (Pattern.whole t) → compile (Pattern.whole t) = .ok e.whole) ∨
    LeavesCommentOpen t ∧ EndsInComment t ∧ compile (Pattern.whole t) = .error (.fault .groupUnclosed) := by
  obtain ⟨a, s, hp, hi, -⟩ := compile_eq_ok_iff.1 h
  rcases parse_whole hp with ⟨hopen, hw⟩ | ⟨hopen, hend, hw⟩
  · refine .inl ⟨hopen, fun hlim => ?_⟩
    have hint : a.whole.interpret .initial = .ok (e.whole, .initial) := by
      rw [interpret_whole, hi]
      rfl
    unfold WithinLimits compile at hlim
    unfold compile
    rw [hw] at hlim ⊢
    by_cases hd : a.whole.depth .none ≤ maxDepth
    · simp only [if_pos hd, Except.bind, hint] at hlim ⊢
      by_cases hf : e.whole.fits = true
      · rw [if_pos hf]
      · rw [if_neg hf] at hlim
        exact absurd rfl hlim.2
    · simp only [if_neg hd] at hlim
      exact absurd rfl hlim.1
  · refine .inr ⟨hopen, hend, ?_⟩
    unfold compile
    rw [hw]
    rfl

/-! ## What the expression around a pattern matches -/

/-- The expression around another one matches the whole of a text, where the other one does, or nothing. -/
theorem whole_matches_iff {e : Expr Atom} {u : Text} {i j : ℕ} :
    e.whole.Matches u i j ↔ i = 0 ∧ j = u.length ∧ e.Matches u 0 u.length := by
  have hstart : ∀ i k, Atom.Spans u i k (.look .textStart) ↔ k = i ∧ i = 0 := by
    intro i k
    simp only [Atom.Spans, Look.holds, Option.isNone_iff_eq_none, List.getLast?_eq_none_iff, List.take_eq_nil_iff]
    constructor
    · rintro ⟨hk, hi, rfl | rfl⟩
      · exact ⟨hk, rfl⟩
      · exact ⟨hk, Nat.le_zero.1 hi⟩
    · rintro ⟨hk, rfl⟩
      exact ⟨hk, Nat.zero_le _, .inl rfl⟩
  have hend : ∀ k j, Atom.Spans u k j (.look .textEnd) ↔ j = k ∧ k = u.length := by
    intro k j
    simp only [Atom.Spans, Look.holds, Option.isNone_iff_eq_none, List.getElem?_eq_none_iff]
    exact and_congr_right fun _ => ⟨fun h => Nat.le_antisymm h.1 h.2, fun h => ⟨h.le, h.ge⟩⟩
  simp only [Expr.Matches, Expr.whole, Expr.spans_concat_iff, Expr.spans_atom_iff, Expr.spans_group_iff, hstart, hend]
  constructor
  · rintro ⟨-, k, ⟨rfl, rfl⟩, m, hm, rfl, rfl⟩
    exact ⟨rfl, rfl, Nat.zero_le _, hm⟩
  · rintro ⟨rfl, rfl, -, hm⟩
    exact ⟨Nat.zero_le _, 0, ⟨rfl, rfl⟩, u.length, hm, rfl, rfl⟩

/-! ## Bounds of repetitions -/

theorem ordered_repeated {x : Expr Atom} (hx : x.Ordered) (greedy : Bool) {least : ℕ} {most : Option ℕ}
    (hm : ∀ m ∈ most, least ≤ m) : (x.repeated greedy least most).Ordered := by
  have hone : ∀ m ∈ some (min (most.getD 1) 1), min least 1 ≤ m := by
    intro m hmem
    obtain rfl := Option.some.inj hmem
    cases most with
    | none => exact Nat.min_le_right least 1
    | some m =>
      have := hm m rfl
      simp only [Option.getD_some]
      omega
  have hform : ∀ (least : ℕ) (most : Option ℕ), (∀ m ∈ most, least ≤ m) →
      (if most = some 0 then Expr.empty
        else if least = 1 ∧ most = some 1 then x else .repetition x greedy least most).Ordered := by
    intro least most hm
    split_ifs
    · trivial
    · exact hx
    · exact ⟨hx, hm⟩
  unfold Expr.repeated
  split_ifs
  · exact hform _ _ hone
  · exact hform _ _ hm

theorem ordered_of_interpret {a : Ast} {s s' : Settings} {e : Expr Atom} (ha : a.Ordered)
    (h : a.interpret s = .ok (e, s')) : e.Ordered := by
  induction a generalizing s s' e with
  | empty | setFlags | anchor =>
    cases h
    trivial
  | literal | dot | property | shorthand =>
    obtain ⟨c, -, he⟩ := except_map_eq_ok.1 h
    cases he
    trivial
  | bracket n inner =>
    rw [Ast.interpret] at h
    obtain ⟨c, -, h⟩ := except_bind_eq_ok.1 h
    obtain ⟨c', -, h⟩ := except_bind_eq_ok.1 h
    cases h
    trivial
  | repetition a greedy least most ih =>
    rw [Ast.interpret] at h
    obtain ⟨⟨x, s1⟩, hx, h⟩ := except_bind_eq_ok.1 h
    cases h
    exact ordered_repeated (ih ha.1 hx) _ ha.2
  | group c f a ih =>
    rw [Ast.interpret] at h
    obtain ⟨⟨x, s1⟩, hx, h⟩ := except_bind_eq_ok.1 h
    cases h
    have hord : x.Ordered := ih ha hx
    exact hord
  | concat a b iha ihb | alternate a b iha ihb =>
    rw [Ast.interpret] at h
    obtain ⟨⟨x, s1⟩, hx, h⟩ := except_bind_eq_ok.1 h
    obtain ⟨⟨y, s2⟩, hy, h⟩ := except_bind_eq_ok.1 h
    cases h
    exact ⟨iha ha.1 hx, ihb ha.2 hy⟩

theorem ordered_of_compile {t : Text} {e : Expr Atom} (h : compile t = .ok e) : e.Ordered := by
  obtain ⟨a, s, hp, hi, -⟩ := compile_eq_ok_iff.1 h
  exact ordered_of_interpret (ordered_of_parse hp) hi

end CrawlFilter.Regex

/-! ## Patterns -/

namespace CrawlFilter.Pattern

open Regex (EndsInComment LeavesCommentOpen WithinLimits)

theorem compile_basic_eq_ok_iff {t : Text} {p : Pattern} :
    compile .basic t = .ok p ↔ ∃ e, Regex.compile t = .ok e ∧ p = ⟨t, e⟩ := by
  unfold compile compileAs
  cases Regex.compile t <;> simp [eq_comm]

theorem compile_anchored_eq_ok_iff {t : Text} {p : Pattern} :
    compile .anchored t = .ok p ↔ ∃ e e', Regex.compile t = .ok e ∧ Regex.compile (whole t) = .ok e' ∧ p = ⟨t, e'⟩ := by
  unfold compile compileAs
  cases Regex.compile t <;> cases Regex.compile (whole t) <;> simp [Except.bind, eq_comm]

theorem exists_compile_basic_iff {t : Text} : (∃ p, compile .basic t = .ok p) ↔ ∃ e, Regex.compile t = .ok e := by
  simp only [compile_basic_eq_ok_iff]
  constructor
  · rintro ⟨p, e, he, -⟩
    exact ⟨e, he⟩
  · rintro ⟨e, he⟩
    exact ⟨_, e, he, rfl⟩

/-- what anchoring takes away from the patterns that are accepted -/
theorem exists_compile_anchored_iff {t : Text} (ht : WithinLimits (whole t)) :
    (∃ p, compile .anchored t = .ok p) ↔ (∃ p, compile .basic t = .ok p) ∧ ¬ LeavesCommentOpen t := by
  simp only [compile_anchored_eq_ok_iff, exists_compile_basic_iff]
  constructor
  · rintro ⟨p, e, e', he, he', -⟩
    refine ⟨⟨e, he⟩, ?_⟩
    rcases Regex.compile_whole he with ⟨hopen, -⟩ | ⟨-, -, hw⟩
    · exact hopen
    · rw [hw] at he'
      cases he'
  · rintro ⟨⟨e, he⟩, hopen⟩
    rcases Regex.compile_whole he with ⟨-, hw⟩ | ⟨hopen', -⟩
    · exact ⟨_, e, e.whole, he, hw ht, rfl⟩
    · exact absurd hopen' hopen

theorem endsInComment_of_leavesCommentOpen {t : Text} (h : ∃ p, compile .basic t = .ok p) (ht : LeavesCommentOpen t) :
    EndsInComment t := by
  obtain ⟨e, he⟩ := exists_compile_basic_iff.1 h
  rcases Regex.compile_whole he with ⟨hopen, -⟩ | ⟨-, hend, -⟩
  · exact absurd ht hopen
  · exact hend

/-- **Anchoring accepts what is accepted bare and leaves no comment open,** within the limits. So a file of such
patterns is valid in both flavors or in none, and its rules say the same in both. -/
theorem anchored_accepts_iff (t f : Text) :
    (WithinLimits (whole t) →
      ((∃ p, compile .anchored t = .ok p) ↔ (∃ p, compile .basic t = .ok p) ∧ ¬ LeavesCommentOpen t)) ∧
    ((∃ p, compile .basic t = .ok p) → LeavesCommentOpen t → EndsInComment t) ∧
    ((∀ ws, RuleFile.parseWritten f = .ok ws → ∀ w ∈ ws, WithinLimits (whole w.pattern)) →
      ((∃ rs, RuleFile.parse .anchored f = .ok rs) ↔ (∃ rs, RuleFile.parse .basic f = .ok rs) ∧
        ∀ ws, RuleFile.parseWritten f = .ok ws → ∀ w ∈ ws, ¬ LeavesCommentOpen w.pattern)) ∧
    ∀ rs rs', RuleFile.parse .anchored f = .ok rs → RuleFile.parse .basic f = .ok rs' →
      rs.map Rule.written = rs'.map Rule.written := by
  refine ⟨exists_compile_anchored_iff, endsInComment_of_leavesCommentOpen, fun hf => ?_, ?_⟩
  · rw [RuleFile.exists_parse_iff, RuleFile.exists_parse_iff]
    constructor
    · rintro ⟨ws, hws, hall⟩
      have hboth := fun w hw => (exists_compile_anchored_iff (hf ws hws w hw)).1 (hall w hw)
      refine ⟨⟨ws, hws, fun w hw => (hboth w hw).1⟩, fun ws' hws' w hw => ?_⟩
      rw [hws] at hws'
      cases hws'
      exact (hboth w hw).2
    · rintro ⟨⟨ws, hws, hall⟩, hopen⟩
      exact ⟨ws, hws, fun w hw => (exists_compile_anchored_iff (hf ws hws w hw)).2 ⟨hall w hw, hopen ws hws w hw⟩⟩
  · intro rs rs' h h'
    have hw := (RuleFile.parse_eq_ok_iff.1 h).1
    rw [(RuleFile.parse_eq_ok_iff.1 h').1] at hw
    exact (Except.ok.inj hw).symm

/-- a comment that ends before the pattern does, one that does not, and a file -/
theorem anchored_accepts_iff_verbose :
    let closed := "(?x) news | \\.shop # both\n".toList
    let unclosed := "(?x)#".toList
    let file := "> example.com\n+(?x) news | shop\n-/a*$\n".toList
    (WithinLimits (whole closed) ∧ (∃ p, compile .anchored closed = .ok p) ∧ ¬ LeavesCommentOpen closed) ∧
      (WithinLimits (whole unclosed) ∧ LeavesCommentOpen unclosed ∧ EndsInComment unclosed) ∧
      ∃ ws rs rs', RuleFile.parseWritten file = .ok ws ∧ (∀ w ∈ ws, ¬ LeavesCommentOpen w.pattern) ∧
        RuleFile.parse .anchored file = .ok rs ∧ RuleFile.parse .basic file = .ok rs' ∧
        rs.map Rule.written = rs'.map Rule.written := by
  intro closed unclosed file
  obtain ⟨hpattern, -, hfile, hwritten⟩ := anchored_accepts_iff closed file
  obtain ⟨hrefused, hcomment, -, -⟩ := anchored_accepts_iff unclosed file
  obtain ⟨e, he⟩ : ∃ e, Regex.compile (whole closed) = .ok e := ⟨_, rfl⟩
  have hclosed : WithinLimits (whole closed) := Regex.withinLimits_of_compile he
  have hwhole : Regex.compile (whole unclosed) = .error (.fault .groupUnclosed) := rfl
  have hunclosed : WithinLimits (whole unclosed) := by
    unfold WithinLimits
    rw [hwhole]
    exact ⟨nofun, nofun⟩
  have haccepted : ∃ p, compile .basic unclosed = .ok p := ⟨_, rfl⟩
  have hopen : LeavesCommentOpen unclosed := by
    by_contra hopen
    obtain ⟨p, hp⟩ := (hrefused hunclosed).2 ⟨haccepted, hopen⟩
    have hanchored : compile .anchored unclosed = .error ⟨unclosed, .fault .groupUnclosed⟩ := rfl
    rw [hanchored] at hp
    cases hp
  let ws : List WrittenRule :=
    [⟨.accept, "(?x) news | shop".toList, some "example.com".toList⟩,
      ⟨.reject, "/a*$".toList, some "example.com".toList⟩]
  have hws : RuleFile.parseWritten file = .ok ws := rfl
  have hall : ∀ w ∈ ws, ∃ e, Regex.compile (whole w.pattern) = .ok e := by
    intro w hw
    simp only [ws, List.mem_cons, List.not_mem_nil, or_false] at hw
    rcases hw with rfl | rfl
    · exact ⟨_, rfl⟩
    · exact ⟨_, rfl⟩
  have hlims : ∀ ws', RuleFile.parseWritten file = .ok ws' → ∀ w ∈ ws', WithinLimits (whole w.pattern) := by
    intro ws' hws' w hw
    rw [hws] at hws'
    cases hws'
    obtain ⟨e, he⟩ := hall w hw
    exact Regex.withinLimits_of_compile he
  obtain ⟨rs, hrs⟩ : ∃ rs, RuleFile.parse .anchored file = .ok rs := ⟨_, rfl⟩
  obtain ⟨⟨rs', hrs'⟩, hnone⟩ := (hfile hlims).1 ⟨rs, hrs⟩
  exact ⟨⟨hclosed, ⟨_, rfl⟩, ((hpattern hclosed).1 ⟨_, rfl⟩).2⟩,
    ⟨hunclosed, hopen, hcomment haccepted hopen⟩,
    ws, rs, rs', hws, hnone ws hws, hrs, hrs', hwritten rs rs' hrs hrs'⟩

/-- **A pattern that is refused for its comment.** It is accepted bare, and the text around it is refused because the
comment goes on to its end. A file with this pattern is valid in the one flavor only. -/
theorem anchored_refuses_open_comment :
    let t := "(?x)#".toList
    WithinLimits (whole t) ∧ (∃ p, compile .basic t = .ok p) ∧ (∀ p, compile .anchored t ≠ .ok p) ∧
      (∃ rs, RuleFile.parse .basic ('+' :: t) = .ok rs) ∧ ∀ rs, RuleFile.parse .anchored ('+' :: t) ≠ .ok rs := by
  intro t
  have hwhole : Regex.compile (whole t) = .error (.fault .groupUnclosed) := rfl
  have hanchored : compile .anchored t = .error ⟨t, .fault .groupUnclosed⟩ := rfl
  have hfile : ∃ e, RuleFile.parse .anchored ('+' :: t) = .error e := ⟨_, rfl⟩
  refine ⟨?_, ⟨_, rfl⟩, ?_, ⟨_, rfl⟩, ?_⟩
  · unfold WithinLimits
    rw [hwhole]
    exact ⟨nofun, nofun⟩
  · intro p hp
    rw [hanchored] at hp
    cases hp
  · intro rs hrs
    obtain ⟨e, he⟩ := hfile
    rw [he] at hrs
    cases hrs

/-- **An anchored pattern describes the whole of a URL.** It describes those that the bare pattern matches from end to
end, in whatever way, and whatever flags, branches and anchors the pattern has; and what it matches in them is all of
the URL. So the bare pattern describes them too. -/
theorem anchored_describes_whole {t : Text} {p : Pattern} (h : compile .anchored t = .ok p) :
    ∃ q, compile .basic t = .ok q ∧ ∀ u,
      (p.describes u = true ↔ q.expr.Matches u 0 u.length) ∧ (p.describes u = true → q.describes u = true) ∧
        ∀ i j, p.expr.Matches u i j ↔ i = 0 ∧ j = u.length ∧ q.expr.Matches u 0 u.length := by
  obtain ⟨e, e', he, he', rfl⟩ := compile_anchored_eq_ok_iff.1 h
  obtain rfl : e' = e.whole := by
    rcases Regex.compile_whole he with ⟨-, hw⟩ | ⟨-, -, hw⟩
    · rw [hw (Regex.withinLimits_of_compile he')] at he'
      exact (Except.ok.inj he').symm
    · rw [hw] at he'
      cases he'
  refine ⟨⟨t, e⟩, compile_basic_eq_ok_iff.2 ⟨e, he, rfl⟩, fun u => ?_⟩
  have hwhole : (describes ⟨t, e.whole⟩ u = true ↔ e.Matches u 0 u.length) := by
    unfold describes
    rw [Regex.foundIn_iff (Regex.ordered_of_compile he')]
    simp only [Regex.whole_matches_iff]
    constructor
    · rintro ⟨i, j, -, -, hm⟩
      exact hm
    · intro hm
      exact ⟨0, u.length, rfl, rfl, hm⟩
  refine ⟨hwhole, fun hd => ?_, fun i j => Regex.whole_matches_iff⟩
  exact (Regex.foundIn_iff (Regex.ordered_of_compile he) u).2 ⟨0, u.length, hwhole.1 hd⟩

/-- A pattern with a branch that ends lines and with another one: what ends in a line feed is not described, though its
line is found. -/
theorem anchored_describes_whole_multiline :
    ∃ p q, compile .anchored "(?m)a|ab$".toList = .ok p ∧ compile .basic "(?m)a|ab$".toList = .ok q ∧
      p.describes "ab".toList = true ∧ q.expr.Matches "ab".toList 0 2 ∧
      p.describes "ab\n".toList = false ∧ q.describes "ab\n".toList = true := by
  obtain ⟨p, hp, hyes, hno⟩ : ∃ p, compile .anchored "(?m)a|ab$".toList = .ok p ∧ p.describes "ab".toList = true ∧
      p.describes "ab\n".toList = false := ⟨_, rfl, rfl, rfl⟩
  obtain ⟨q, hq, hall⟩ := anchored_describes_whole hp
  have hfound : q.describes "ab\n".toList = true := by
    obtain ⟨q', hq', hfound⟩ : ∃ q', compile .basic "(?m)a|ab$".toList = .ok q' ∧ q'.describes "ab\n".toList = true :=
      ⟨_, rfl, rfl⟩
    rw [hq] at hq'
    exact Except.ok.inj hq' ▸ hfound
  exact ⟨p, q, hp, hq, hyes, (hall _).1.1 hyes, hno, hfound⟩

end CrawlFilter.Pattern
