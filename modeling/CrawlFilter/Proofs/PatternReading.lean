/-
Reading a whole pattern, token by token. The reader stops at the end of a text with the groups that are open then; what
it did with the text it does again where the text stands between others, unless the text ends in a comment.

- `run_eq_reads`: more rounds than characters are enough, so the number of rounds can be left out.
- `feed_within`: a token that is taken is taken alike inside further groups.
- `reads_append`: a text that is read is read alike inside further groups and where more follows; or else it leaves a
  comment open, and what follows on the line is not read.
- `ordered_of_parse`: no repetition of a pattern asks for more than it allows.
-/
import CrawlFilter.Proofs.Tokens
import CrawlFilter.Regex.Parse

namespace CrawlFilter.Regex

namespace Reader

variable {r r' : Reader} {t : Text}

/-! ## Rounds -/

theorem run_succ (n : ℕ) (r : Reader) (t : Text) :
    run (n + 1) r t = Token.next r.level.verbose (skip r.level.verbose t) >>= fun
      | none => .ok r
      | some (k, rest) => r.feed k >>= fun r' => run n r' rest := rfl

/-- Rounds beyond the number of characters change nothing. -/
theorem run_congr {n m : ℕ} (hn : t.length < n) (hm : t.length < m) (r : Reader) : run n r t = run m r t := by
  induction n generalizing m r t with
  | zero => exact absurd hn (Nat.not_lt_zero _)
  | succ n ih =>
    obtain ⟨m, rfl⟩ : ∃ k, m = k + 1 := ⟨m - 1, by omega⟩
    rw [run_succ, run_succ]
    cases hk : Token.next r.level.verbose (skip r.level.verbose t) with
    | error e => rfl
    | ok x =>
      rcases x with _ | ⟨k, rest⟩
      · rfl
      · have hlt := (Token.next_append hk).2.1
        have hle := (skip_suffix r.level.verbose t).length_le
        change (r.feed k >>= fun r' => run n r' rest) = (r.feed k >>= fun r' => run m r' rest)
        cases r.feed k with
        | error e => rfl
        | ok r1 => exact ih (by omega) (by omega) r1

/-- reads all tokens of a text, in as many rounds as it takes -/
def reads (r : Reader) (t : Text) : Except Fault Reader := r.run (t.length + 1) t

theorem run_eq_reads {n : ℕ} (hn : t.length < n) (r : Reader) : run n r t = r.reads t :=
  run_congr hn (Nat.lt_succ_self _) r

theorem reads_eq (r : Reader) (t : Text) :
    r.reads t = Token.next r.level.verbose (skip r.level.verbose t) >>= fun
      | none => .ok r
      | some (k, rest) => r.feed k >>= fun r' => r'.reads rest := by
  rw [reads, run_succ]
  cases hk : Token.next r.level.verbose (skip r.level.verbose t) with
  | error e => rfl
  | ok x =>
    rcases x with _ | ⟨k, rest⟩
    · rfl
    · have hlt := (Token.next_append hk).2.1
      have hle := (skip_suffix r.level.verbose t).length_le
      have hrun : ∀ r1, run t.length r1 rest = r1.reads rest := fun r1 => run_eq_reads (by omega) r1
      change (r.feed k >>= fun r' => run t.length r' rest) = _
      simp only [hrun]
      rfl

/-- what is passed over makes no difference -/
theorem reads_congr {t' : Text} (h : skip r.level.verbose t = skip r.level.verbose t') : r.reads t = r.reads t' := by
  rw [reads_eq, h, ← reads_eq]

theorem reads_of_end (h : skip r.level.verbose t = []) : r.reads t = .ok r := by
  rw [reads_eq, h]
  rfl

theorem reads_of_token {k : Token} {rest : Text}
    (h : Token.next r.level.verbose (skip r.level.verbose t) = .ok (some (k, rest))) :
    r.reads t = r.feed k >>= fun r' => r'.reads rest := by
  rw [reads_eq, h]
  rfl

/-- a text that is read is at its end, or it starts with a token and goes on with the rest -/
theorem reads_eq_ok_iff :
    r.reads t = .ok r' ↔ skip r.level.verbose t = [] ∧ r' = r ∨
      ∃ k rest r1, Token.next r.level.verbose (skip r.level.verbose t) = .ok (some (k, rest)) ∧
        r.feed k = .ok r1 ∧ r1.reads rest = .ok r' := by
  constructor
  · intro h
    cases hs : skip r.level.verbose t with
    | nil =>
      rw [reads_of_end hs] at h
      exact .inl ⟨rfl, (Except.ok.inj h).symm⟩
    | cons c cs =>
      have hk := h
      rw [reads_eq, hs] at hk
      obtain ⟨x, hx, -⟩ := except_bind_eq_ok.1 hk
      obtain ⟨⟨k, rest⟩, hxk⟩ : ∃ y, x = some y := by
        rw [Token.next_cons] at hx
        obtain ⟨y, -, he⟩ := except_map_eq_ok.1 hx
        exact ⟨y, he.symm⟩
      subst hxk
      rw [← hs] at hx
      rw [reads_of_token hx] at h
      obtain ⟨r1, hf, hr⟩ := except_bind_eq_ok.1 h
      rw [hs] at hx
      exact .inr ⟨k, rest, r1, hx, hf, hr⟩
  · rintro (⟨hs, rfl⟩ | ⟨k, rest, r1, hk, hf, hr⟩)
    · exact reads_of_end hs
    · rw [reads_of_token hk, hf]
      exact hr

/-! ## Further groups -/

/-- the reader with further groups open around those it has -/
def within (r : Reader) (base : List (Opening × Level)) : Reader :=
  { r with outer := r.outer ++ base }

@[simp] theorem level_within (r : Reader) (base : List (Opening × Level)) : (r.within base).level = r.level := rfl

/-- A token that is taken is taken alike inside further groups: it closes no group that the reader did not open. -/
theorem feed_within {k : Token} (h : r.feed k = .ok r') (base : List (Opening × Level)) :
    (r.within base).feed k = .ok (r'.within base) := by
  cases k with
  | unit a =>
    cases h
    rfl
  | flags e =>
    cases h
    rfl
  | bar =>
    cases h
    rfl
  | openGroup o =>
    rcases o with (_ | n) | e
    · cases h
      rfl
    · simp only [feed] at h ⊢
      split_ifs at h with hn
      cases h
      exact if_neg hn
    · cases h
      rfl
  | closeGroup =>
    obtain ⟨level, outer, names⟩ := r
    cases outer with
    | nil => cases h
    | cons o outer =>
      cases h
      rfl
  | repetition greedy least most =>
    have hrow : (r.within base).feed (.repetition greedy least most) =
        (r.feed (.repetition greedy least most)).map (·.within base) := by
      simp only [feed, level_within]
      split <;> rfl
    rw [hrow, h]
    rfl

/-- **A text that is read is read alike inside further groups and where more follows,** if that starts with a closing
parenthesis; or else the text leaves a comment open, and what follows on the line is not read. -/
theorem reads_append (h : r.reads t = .ok r') :
    (∀ base s, s.head? = some ')' → (r.within base).reads (t ++ s) = (r'.within base).reads s) ∨
      EndsInComment t ∧ ∀ base s, '\n' ∉ s → (r.within base).reads (t ++ s) = .ok (r'.within base) := by
  induction hn : t.length using Nat.strong_induction_on generalizing r t with
  | _ n ih =>
    rcases reads_eq_ok_iff.1 h with ⟨hs, rfl⟩ | ⟨k, rest, r1, hk, hf, hr⟩
    · rcases skip_eq_nil r'.level.verbose hs with hclosed | ⟨hend, hopen⟩
      · refine .inl fun base s hs' => reads_congr ?_
        rw [level_within, hclosed s hs', skip_of_closing _ hs']
      · exact .inr ⟨hend, fun base s hs' => reads_of_end (hopen s hs')⟩
    · obtain ⟨hsuf, hlt, hnext⟩ := Token.next_append hk
      have hskip := skip_suffix r.level.verbose t
      have hle := hskip.length_le
      have hne : skip r.level.verbose t ≠ [] := by
        intro h0
        rw [h0] at hlt
        exact absurd hlt (Nat.not_lt_zero _)
      -- the token again where the text goes on, and then what is left
      have hstep : ∀ base s mid, Token.next r.level.verbose (skip r.level.verbose t ++ s) = .ok (some (k, mid)) →
          (r.within base).reads (t ++ s) = (r1.within base).reads mid := by
        intro base s mid hk'
        rw [← skip_append _ hne] at hk'
        rw [reads_of_token (r := r.within base) hk', feed_within hf]
        rfl
      rcases hnext with hnext | ⟨rfl, hend, hnext⟩
      · rcases ih rest.length (by omega) hr rfl with hi | ⟨hend, hi⟩
        · refine .inl fun base s hs => ?_
          rw [hstep base s _ (hnext s (.inr hs)), hi base s hs]
        · refine .inr ⟨hend.of_suffix (hsuf.trans hskip), fun base s hs => ?_⟩
          rw [hstep base s _ (hnext s (.inl hend.ne_nil)), hi base s hs]
      · refine .inr ⟨hend.of_suffix hskip, fun base s hs => ?_⟩
        rw [hstep base s _ (hnext s hs), reads_of_end (skip_nil _)]
        rw [reads_of_end (skip_nil _)] at hr
        rw [Except.ok.inj hr]

end Reader

/-! ## Whole patterns -/

theorem parse_eq (t : Text) :
    parse t = Reader.start.reads t >>= fun r => r.finish >>= fun a =>
      if a.depth .none ≤ maxDepth then .ok a else .error .nestingTooDeep := rfl

theorem parse_eq_ok_iff {t : Text} {a : Ast} :
    parse t = .ok a ↔ ∃ r, Reader.start.reads t = .ok r ∧ r.finish = .ok a ∧ a.depth .none ≤ maxDepth := by
  simp only [parse_eq, except_bind_eq_ok]
  constructor
  · rintro ⟨r, hr, b, hb, h⟩
    split_ifs at h with hd
    cases h
    exact ⟨r, hr, hb, hd⟩
  · rintro ⟨r, hr, ha, hd⟩
    exact ⟨r, hr, a, ha, if_pos hd⟩

theorem Reader.finish_eq_ok_iff {r : Reader} {a : Ast} : r.finish = .ok a ↔ r.outer = [] ∧ r.level.toAst = a := by
  unfold Reader.finish
  split
  · rename_i h
    simp [h]
  · rename_i h
    simp [h]

/-! ## Bounds of repetitions -/

/-- all that was read at a level is in order -/
def Level.Ordered (l : Level) : Prop := (∀ a ∈ l.branches, a.Ordered) ∧ ∀ a ∈ l.items, a.Ordered

def Reader.Ordered (r : Reader) : Prop := r.level.Ordered ∧ ∀ x ∈ r.outer, x.2.Ordered

theorem ordered_chain (join : Ast → Ast → Ast) (hjoin : ∀ a b, a.Ordered → b.Ordered → (join a b).Ordered)
    {as : List Ast} (has : ∀ a ∈ as, a.Ordered) : (chain Ast.empty join as).Ordered := by
  induction as with
  | nil => trivial
  | cons a as ih =>
    rw [List.forall_mem_cons] at has
    cases as with
    | nil => exact has.1
    | cons b bs => exact hjoin a _ has.1 (ih has.2)

namespace Level

variable {l : Level}

theorem Ordered.push (h : l.Ordered) {a : Ast} (ha : a.Ordered) : (l.push a).Ordered :=
  ⟨h.1, List.forall_mem_cons.2 ⟨ha, h.2⟩⟩

theorem Ordered.branch (h : l.Ordered) : l.branch.Ordered :=
  ordered_chain .concat (fun _ _ ha hb => ⟨ha, hb⟩) fun a ha => h.2 a (List.mem_reverse.1 ha)

theorem Ordered.endBranch (h : l.Ordered) : l.endBranch.Ordered :=
  ⟨List.forall_mem_cons.2 ⟨h.branch, h.1⟩, nofun⟩

theorem Ordered.toAst (h : l.Ordered) : l.toAst.Ordered :=
  ordered_chain .alternate (fun _ _ ha hb => ⟨ha, hb⟩) fun a ha => h.endBranch.1 a (List.mem_reverse.1 ha)

end Level

namespace Reader

variable {r r' : Reader}

theorem Ordered.feed (hr : r.Ordered) {k : Token} (hk : k.Ordered) (h : r.feed k = .ok r') : r'.Ordered := by
  obtain ⟨hl, ho⟩ := hr
  have hnew : ∀ v, (⟨v, [], []⟩ : Level).Ordered := fun v => ⟨nofun, nofun⟩
  cases k with
  | unit a =>
    cases h
    exact ⟨hl.push hk, ho⟩
  | flags e =>
    cases h
    exact ⟨hl.push (a := .setFlags e) trivial, ho⟩
  | bar =>
    cases h
    exact ⟨hl.endBranch, ho⟩
  | openGroup o =>
    have hin : ∀ x ∈ (o, r.level) :: r.outer, x.2.Ordered := List.forall_mem_cons.2 ⟨hl, ho⟩
    rcases o with (_ | n) | e
    · cases h
      exact ⟨hnew _, hin⟩
    · simp only [Reader.feed] at h
      split_ifs at h
      cases h
      exact ⟨hnew _, hin⟩
    · cases h
      exact ⟨hnew _, hin⟩
  | closeGroup =>
    obtain ⟨level, outer, names⟩ := r
    cases outer with
    | nil => cases h
    | cons x outer =>
      obtain ⟨o, l⟩ := x
      cases h
      rw [List.forall_mem_cons] at ho
      refine ⟨ho.1.push ?_, ho.2⟩
      cases o <;> exact hl.toAst
  | repetition greedy least most =>
    simp only [Reader.feed] at h
    split at h
    · cases h
    · cases h
    · rename_i a items _ hi
      cases h
      have hitems := hl.2
      rw [hi, List.forall_mem_cons] at hitems
      exact ⟨⟨hl.1, List.forall_mem_cons.2 ⟨⟨hitems.1, hk⟩, hitems.2⟩⟩, ho⟩

theorem Ordered.run {n : ℕ} {t : Text} (hr : r.Ordered) (h : r.run n t = .ok r') : r'.Ordered := by
  induction n generalizing r t with
  | zero =>
    cases h
    exact hr
  | succ n ih =>
    rw [run_succ] at h
    obtain ⟨x, hx, h⟩ := except_bind_eq_ok.1 h
    rcases x with _ | ⟨k, rest⟩
    · cases h
      exact hr
    · obtain ⟨r1, hf, h⟩ := except_bind_eq_ok.1 h
      exact ih (hr.feed (Token.ordered_of_next hx) hf) h

end Reader

theorem ordered_of_parse {t : Text} {a : Ast} (h : parse t = .ok a) : a.Ordered := by
  obtain ⟨r, hr, ha, -⟩ := parse_eq_ok_iff.1 h
  obtain ⟨-, rfl⟩ := Reader.finish_eq_ok_iff.1 ha
  have hstart : Reader.start.Ordered := ⟨⟨nofun, nofun⟩, nofun⟩
  exact (hstart.run hr).1.toAst

end CrawlFilter.Regex
