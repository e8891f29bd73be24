/-
One token of a pattern. What is read as the next token does not depend on how the pattern goes on, with one exception: a
count and an opening parenthesis are read together with the blanks and comments behind them, and so they take in what
follows on the line of a comment that the pattern leaves open.

- `Settled`: what a reader may depend on, and `settled_readGroup`, `settled_readCount` for the two readers above.
- `Token.next_append`: a token is read again where more follows, and each token takes at least one character.
- `Token.ordered_of_next`: a repetition that is read does not ask for more than it allows.
-/
import CrawlFilter.Proofs.Readers

namespace CrawlFilter.Regex

/-! ## Flags and names -/

/-- flags with the character that ended them -/
def flagsTo (off dangling : Bool) (e : FlagEdit) (t : Text) : Except Fault ((FlagEdit × Char) × Text) :=
  (readFlags off dangling e t).map fun r => ((r.1, r.2.1), r.2.2)

theorem flagsTo_cons (off dangling : Bool) (e : FlagEdit) (c : Char) (cs : Text) :
    flagsTo off dangling e (c :: cs) =
      if c = ':' ∨ c = ')' then
        if dangling then .error .flagDangling else .ok ((e.reverse, c), cs)
      else if c = '-' then
        if off then .error .flagRepeated else flagsTo true true e cs
      else match Flag.ofChar? c with
        | none => .error .flagUnknown
        | some f =>
          if (e.lookup f).isSome then .error .flagRepeated else flagsTo off false ((f, !off) :: e) cs := by
  unfold flagsTo
  rw [readFlags]
  split_ifs
  · rfl
  · rfl
  · rfl
  · rfl
  · cases Flag.ofChar? c with
    | none => rfl
    | some f =>
      dsimp only
      split_ifs <;> rfl

theorem steady_flagsTo (off dangling : Bool) (e : FlagEdit) : Steady (flagsTo off dangling e) := by
  intro t s
  induction t generalizing off dangling e with
  | nil => exact .error _ _
  | cons c cs ih =>
    have hcons := List.suffix_cons c cs
    rw [List.cons_append, flagsTo_cons, flagsTo_cons]
    split_ifs
    · exact .error _ _
    · exact .done _ hcons
    · exact .error _ _
    · exact (ih _ _ _).mono hcons
    · cases Flag.ofChar? c with
      | none => exact .error _ _
      | some f =>
        dsimp only
        split_ifs
        · exact .error _ _
        · exact (ih _ _ _).mono hcons

theorem steady_readName : Steady readName := by
  intro t s
  unfold readName
  cases hd : t.dropWhile (· != '>') with
  | nil => exact .error _ _
  | cons d rest =>
    have hsuf : rest <:+ t := (List.suffix_cons d rest).trans (hd ▸ List.dropWhile_suffix _)
    obtain ⟨ht, hd'⟩ := scan_append hd s
    rw [ht, hd']
    dsimp only
    cases t.takeWhile (· != '>') with
    | nil => exact .error _ _
    | cons c cs => exact .check _ _ _ hsuf

/-! ## Groups -/

/-- Steady at `t`, or `t` ends in a comment that swallows what follows on its line. -/
def Settled {α : Type} (f : Text → Except Fault (α × Text)) (t : Text) : Prop :=
  ∀ x rest, f t = .ok (x, rest) → rest <:+ t ∧
    ((∀ s, rest ≠ [] ∨ s.head? = some ')' → f (t ++ s) = .ok (x, rest ++ s)) ∨
      rest = [] ∧ EndsInComment t ∧ ∀ s, '\n' ∉ s → f (t ++ s) = .ok (x, []))

theorem Steady.settled {α : Type} {f : Text → Except Fault (α × Text)} (h : Steady f) (t : Text) : Settled f t := by
  intro x rest hx
  exact ⟨(h t [] x rest hx).1, .inl fun s => (h t s x rest hx).2⟩

section Groups

variable {c : Char} (cs : Text)

theorem readGroup_capture (hc : c ≠ '?') : readGroup false (c :: cs) = .ok (.openGroup (.capture none), c :: cs) := by
  unfold readGroup skip
  simp [hc]

theorem readGroup_name (he : c ≠ '=') (hn : c ≠ '!') :
    readGroup false ('?' :: '<' :: c :: cs) =
      (readName (c :: cs)).map fun r => (.openGroup (.capture (some r.1)), r.2) := by
  unfold readGroup skip
  simp [he, hn]

/-- a capital P stands for no flag -/
theorem readGroup_not_name (hl : c ≠ '<') : readGroup false ('?' :: 'P' :: c :: cs) = .error .flagUnknown := by
  unfold readGroup skip
  simp [hl, readFlags, Flag.ofChar?]
  rfl

theorem readGroup_flags (he : c ≠ '=') (hn : c ≠ '!') (hl : c ≠ '<') (hp : c ≠ 'P') :
    readGroup false ('?' :: c :: cs) = flagsTo false false [] (c :: cs) >>= fun r =>
      if r.1.2 = ':' then .ok (.openGroup (.plain r.1.1), r.2)
      else if r.1.1.isEmpty then .error .repetitionOfNothing
      else .ok (.flags r.1.1, r.2) := by
  have hrow : readGroup false ('?' :: c :: cs) = readFlags false false [] (c :: cs) >>= fun r =>
      if r.2.1 = ':' then .ok (.openGroup (.plain r.1), r.2.2)
      else if r.1.isEmpty then .error .repetitionOfNothing
      else .ok (.flags r.1, r.2.2) := by
    unfold readGroup skip
    simp [he, hn, hl, hp, pure, Except.pure]
  rw [hrow, flagsTo]
  cases readFlags false false [] (c :: cs) <;> rfl

end Groups

/-- The characters that tell what a group is are there already if it is one. -/
theorem extends_readGroup (c : Char) (cs s : Text) :
    Extends (c :: cs) s (readGroup false (c :: cs)) (readGroup false (c :: (cs ++ s))) := by
  have hcons : ∀ d (ds : Text), ds <:+ d :: ds := List.suffix_cons
  by_cases hc : c ≠ '?'
  · rw [readGroup_capture _ hc, readGroup_capture _ hc]
    exact .done _ List.suffix_rfl
  obtain rfl := not_not.1 hc
  rcases cs with _ | ⟨d, ds⟩
  · exact .error _ _
  by_cases he : d = '='
  · subst he
    exact .error _ _
  by_cases hn : d = '!'
  · subst hn
    exact .error _ _
  by_cases hl : d = '<'
  · subst hl
    rcases ds with _ | ⟨e, es⟩
    · exact .error _ _
    by_cases he' : e = '='
    · subst he'
      exact .error _ _
    by_cases hn' : e = '!'
    · subst hn'
      exact .error _ _
    rw [List.cons_append, List.cons_append, readGroup_name _ he' hn', readGroup_name _ he' hn']
    exact ((steady_readName (e :: es) s).map fun n => Token.openGroup (.capture (some n))).mono
      ((hcons _ _).trans (hcons _ _))
  by_cases hp : d = 'P'
  · subst hp
    rcases ds with _ | ⟨e, es⟩
    · exact .error _ _
    by_cases hl' : e = '<'
    · subst hl'
      exact ((steady_readName es s).map fun n => Token.openGroup (.capture (some n))).mono
        (((hcons _ _).trans (hcons _ _)).trans (hcons _ _))
    rw [readGroup_not_name es hl']
    exact .error _ _
  rw [List.cons_append, readGroup_flags _ he hn hl hp, readGroup_flags _ he hn hl hp]
  refine Extends.mono ((steady_flagsTo false false [] (d :: ds) s).bind fun x rest => ?_) (hcons _ _)
  dsimp only
  split_ifs
  · exact .done _ List.suffix_rfl
  · exact .error _ _
  · exact .done _ List.suffix_rfl

theorem settled_readGroup (v : Bool) (t : Text) : Settled (readGroup v) t := by
  have hskip : ∀ t, readGroup v t = readGroup false (skip v t) := fun t => rfl
  intro x rest h
  rw [hskip] at h
  rcases skip_cases v t with hs | ⟨c, cs, hs, hsuf, happ⟩
  · rw [hs] at h
    cases h
    refine ⟨List.nil_suffix, ?_⟩
    rcases skip_eq_nil v hs with hclosed | ⟨hend, hopen⟩
    · refine .inl fun s hs' => ?_
      obtain ⟨cs, rfl⟩ := List.head?_eq_some_iff.1 (hs'.resolve_left fun h => h rfl)
      rw [hskip, hclosed _ rfl]
      rfl
    · refine .inr ⟨rfl, hend, fun s hs' => ?_⟩
      rw [hskip, hopen s hs']
      rfl
  · rw [hs] at h
    have hext := fun s => extends_readGroup c cs s x rest h
    refine ⟨(hext []).1.trans hsuf, .inl fun s hs' => ?_⟩
    rw [hskip, happ]
    exact (hext s).2 hs'

/-! ## Counts -/

section Counts

variable (v : Bool)

theorem readDecimal_suffix (t : Text) : (readDecimal v t).2 <:+ t := by
  have hspan := spanSignificant_suffix v Char.isDigit false (t.dropWhile Text.isBlank)
  have hrest := (List.dropWhile_suffix Text.isBlank).trans (hspan.trans (List.dropWhile_suffix Text.isBlank))
  unfold readDecimal
  dsimp only
  split_ifs <;> exact hrest

theorem readDecimal_append {t : Text} (h : (readDecimal v t).2 ≠ []) (s : Text) :
    readDecimal v (t ++ s) = ((readDecimal v t).1, (readDecimal v t).2 ++ s) := by
  have hrest : (readDecimal v t).2 =
      (spanSignificant v Char.isDigit false (t.dropWhile Text.isBlank)).2.dropWhile Text.isBlank := by
    unfold readDecimal
    dsimp only
    split_ifs <;> rfl
  obtain ⟨c, cs, hc⟩ := List.exists_cons_of_ne_nil (hrest ▸ h)
  rcases spanSignificant_cases v Char.isDigit (t.dropWhile Text.isBlank) with hr | ⟨e, es, hr, hsuf, happ⟩
  · rw [hr] at hc
    cases hc
  · obtain ⟨d, ds, hd⟩ : ∃ d ds, t.dropWhile Text.isBlank = d :: ds :=
      List.exists_cons_of_ne_nil fun h0 => List.cons_ne_nil e es (List.suffix_nil.1 (h0 ▸ hsuf))
    have hdrop : (t ++ s).dropWhile Text.isBlank = t.dropWhile Text.isBlank ++ s := by
      rw [(scan_append hd s).2, hd, List.cons_append]
    have hblank := (scan_append hc s).2
    rw [hr, List.cons_append] at hblank
    unfold readDecimal
    rw [hdrop, happ s]
    dsimp only
    rw [hblank, hc]
    split_ifs <;> rfl

/-- the bounds of a count whose first number was read, up to the closing brace -/
def boundsFrom (first : Except Fault ℕ) : Text → Except Fault ((ℕ × Option ℕ) × Text)
  | ',' :: cs =>
    match skip v cs with
    | [] => .error .countUnclosed
    | '}' :: cs => first.map fun n => ((n, none), '}' :: cs)
    | cs => do
      let n ← first
      (readDecimal v cs).1.map fun m => ((n, some m), (readDecimal v cs).2)
  | rest => first.map fun n => ((n, some n), rest)

theorem readCount_eq (t : Text) :
    readCount v t = boundsFrom v (readDecimal v (skip v t)).1 (readDecimal v (skip v t)).2 >>= fun r =>
      match r.2 with
      | '}' :: cs =>
        if r.1.2.all (r.1.1 ≤ ·) then .ok (withGreed r.1.1 r.1.2 (skip v cs)) else .error .countOrder
      | _ => .error .countUnclosed := by
  unfold readCount
  obtain ⟨first, rest⟩ := readDecimal v (skip v t)
  dsimp only
  fun_cases boundsFrom v first rest
  case case1 cs h =>
    simp only [h]
    rfl
  case case2 cs cs' h =>
    simp only [h]
    cases first <;> rfl
  case case3 cs hnil hclose =>
    split
    · rename_i heq
      cases heq
      split
      · exact (hnil ‹_›).elim
      · exact (hclose _ ‹_›).elim
      · cases first with
        | error e => rfl
        | ok n => cases (readDecimal v (skip v cs)).1 <;> rfl
    · rename_i h
      exact (h _ rfl).elim
  case case4 h =>
    split
    · exact (h _ rfl).elim
    · cases first <;> rfl

/-- bounds that end before the text does end there however the text goes on -/
theorem boundsFrom_append {first : Except Fault ℕ} {u rest : Text} {b : ℕ × Option ℕ}
    (h : boundsFrom v first u = .ok (b, rest)) (hrest : rest ≠ []) :
    rest <:+ u ∧ ∀ s, boundsFrom v first (u ++ s) = .ok (b, rest ++ s) := by
  revert h
  fun_cases boundsFrom v first u
  case case1 => exact nofun
  case case2 cs cs' hs =>
    intro h
    obtain ⟨n, rfl, he⟩ := except_map_eq_ok.1 h
    cases he
    rcases skip_cases v cs with hs' | ⟨d, ds, hs', hsuf, happ⟩
    · rw [hs'] at hs
      cases hs
    · rw [hs'] at hs
      cases hs
      refine ⟨hsuf.trans (List.suffix_cons _ cs), fun s => ?_⟩
      rw [List.cons_append, boundsFrom, happ s]
      rfl
  case case3 cs hnil hclose =>
    intro h
    obtain ⟨n, rfl, h⟩ := except_bind_eq_ok.1 h
    obtain ⟨m, hm, he⟩ := except_map_eq_ok.1 h
    cases he
    rcases skip_cases v cs with hs | ⟨d, ds, hs, hsuf, happ⟩
    · exact (hnil hs).elim
    · rw [hs] at hclose hm hrest ⊢
      have hd : d ≠ '}' := by
        rintro rfl
        exact hclose ds rfl
      refine ⟨(readDecimal_suffix v _).trans (hsuf.trans (List.suffix_cons _ cs)), fun s => ?_⟩
      have hdec := readDecimal_append v hrest s
      rw [List.cons_append] at hdec
      rw [List.cons_append, boundsFrom, happ s]
      split
      · contradiction
      · rename_i heq
        cases heq
        exact (hd rfl).elim
      · rw [hdec, hm]
        rfl
  case case4 hcomma =>
    intro h
    obtain ⟨n, rfl, he⟩ := except_map_eq_ok.1 h
    cases he
    refine ⟨List.suffix_rfl, fun s => ?_⟩
    obtain ⟨c, cs, rfl⟩ := List.exists_cons_of_ne_nil hrest
    have hc : c ≠ ',' := by
      rintro rfl
      exact hcomma cs rfl
    rw [List.cons_append, boundsFrom]
    · rfl
    · rintro cs' ⟨⟩
      exact hc rfl

theorem withGreed_suffix (least : ℕ) (most : Option ℕ) (u : Text) : (withGreed least most u).2 <:+ u := by
  unfold withGreed readGreed
  split
  · exact List.suffix_cons _ _
  · exact List.suffix_rfl

theorem withGreed_append (least : ℕ) (most : Option ℕ) {u s : Text} (h : u ≠ [] ∨ s.head? = some ')') :
    withGreed least most (u ++ s) = ((withGreed least most u).1, (withGreed least most u).2 ++ s) := by
  rcases u with _ | ⟨c, cs⟩
  · obtain ⟨cs, rfl⟩ := List.head?_eq_some_iff.1 (h.resolve_left fun h => h rfl)
    rfl
  · by_cases hc : c = '?'
    · subst hc
      rfl
    · simp [withGreed, readGreed, hc]

/-- A count ends at its closing brace. The mark that makes it lazy is looked for behind the blanks and comments after
that, and so those are read with it. -/
theorem readCount_eq_ok {t rest : Text} {k : Token} (h : readCount v t = .ok (k, rest)) :
    ∃ least most cs, (∀ m ∈ most, least ≤ m) ∧ cs <:+ t ∧ withGreed least most (skip v cs) = (k, rest) ∧
      ∀ s, readCount v (t ++ s) = .ok (withGreed least most (skip v (cs ++ s))) := by
  rw [readCount_eq] at h
  obtain ⟨⟨⟨least, most⟩, mid⟩, hb, h⟩ := except_bind_eq_ok.1 h
  dsimp only at h
  split at h
  · rename_i cs
    split_ifs at h with hle
    cases h
    have hne : (readDecimal v (skip v t)).2 ≠ [] := by
      intro h0
      rw [h0] at hb
      obtain ⟨n, -, he⟩ := except_map_eq_ok.1 hb
      cases he
    obtain ⟨hsuf, happ⟩ := boundsFrom_append v hb (List.cons_ne_nil _ cs)
    have hdec := hsuf.trans ((readDecimal_suffix v _).trans (skip_suffix v t))
    refine ⟨least, most, cs, by cases most <;> simp_all, (List.suffix_cons _ cs).trans hdec, rfl, fun s => ?_⟩
    have hskip : skip v t ≠ [] := by
      intro h0
      rw [h0] at hne
      exact hne rfl
    rw [readCount_eq, skip_append v hskip, readDecimal_append v hne s]
    dsimp only
    rw [happ s]
    exact if_pos hle
  · cases h

theorem settled_readCount (t : Text) : Settled (readCount v) t := by
  intro k rest h
  obtain ⟨least, most, cs, -, hsuf, hw, happ⟩ := readCount_eq_ok v h
  rcases skip_cases v cs with hs | ⟨d, ds, hs, hsuf', happ'⟩
  · rw [hs] at hw
    cases hw
    refine ⟨List.nil_suffix, ?_⟩
    rcases skip_eq_nil v hs with hclosed | ⟨hend, hopen⟩
    · refine .inl fun s hs' => ?_
      have hclose := hs'.resolve_left fun h => h rfl
      rw [happ, hclosed s hclose]
      exact congrArg _ (withGreed_append least most (u := []) hs')
    · refine .inr ⟨rfl, hend.of_suffix hsuf, fun s hs' => ?_⟩
      rw [happ, hopen s hs']
      rfl
  · rw [hs] at hw
    have hrest := withGreed_suffix least most (d :: ds)
    rw [hw] at hrest
    refine ⟨hrest.trans (hsuf'.trans hsuf), .inl fun s _ => ?_⟩
    rw [happ, happ', ← List.cons_append, withGreed_append least most (.inl (List.cons_ne_nil d ds)), hw]

end Counts

/-! ## Tokens -/

/-- the reader of a token that starts with this character, after it -/
def Token.startingWith (v : Bool) : Char → Text → Except Fault (Token × Text)
  | '(' => readGroup v
  | ')' => fun cs => .ok (.closeGroup, cs)
  | '|' => fun cs => .ok (.bar, cs)
  | '[' => fun cs => (readClass v cs).map fun r => (.unit (.bracket r.1.1 r.1.2), r.2)
  | '?' => fun cs => .ok (withGreed 0 (some 1) cs)
  | '*' => fun cs => .ok (withGreed 0 none cs)
  | '+' => fun cs => .ok (withGreed 1 none cs)
  | '{' => readCount v
  | '\\' => fun cs => (readEscape v cs).map fun r => (.unit r.1.toAst, r.2)
  | '.' => fun cs => .ok (.unit .dot, cs)
  | '^' => fun cs => .ok (.unit (.anchor .lineStart), cs)
  | '$' => fun cs => .ok (.unit (.anchor .lineEnd), cs)
  | c => fun cs => .ok (.unit (.literal ⟨c, false⟩), cs)

theorem Token.next_cons (v : Bool) (c : Char) (cs : Text) :
    Token.next v (c :: cs) = (Token.startingWith v c cs).map some := by
  unfold Token.startingWith
  split
  case h_4 => cases h : readClass v cs <;> simp [Token.next, h, Except.map]
  case h_9 => cases h : readEscape v cs <;> simp [Token.next, h, Except.map]
  case h_13 => simp_all [Token.next, Except.map]
  all_goals rfl

theorem steady_withGreed (least : ℕ) (most : Option ℕ) : Steady fun cs => .ok (withGreed least most cs) := by
  intro t s k rest h
  have hw := Except.ok.inj h
  have hsuf := withGreed_suffix least most t
  rw [hw] at hsuf
  refine ⟨hsuf, fun hs => ?_⟩
  dsimp only
  rw [withGreed_append least most (goesOn_of_suffix hsuf hs), hw]

theorem settled_startingWith (v : Bool) (c : Char) (cs : Text) : Settled (Token.startingWith v c) cs := by
  have hone : ∀ k : Token, Steady fun cs => .ok (k, cs) := fun k t s => .done k List.suffix_rfl
  unfold Token.startingWith
  split
  case h_1 => exact settled_readGroup v cs
  case h_4 => exact Steady.settled (fun t s => (steady_readClass v t s).map fun x => Token.unit (.bracket x.1 x.2)) cs
  case h_5 => exact (steady_withGreed 0 (some 1)).settled cs
  case h_6 => exact (steady_withGreed 0 none).settled cs
  case h_7 => exact (steady_withGreed 1 none).settled cs
  case h_8 => exact settled_readCount v cs
  case h_9 => exact Steady.settled (fun t s => (steady_readEscape v t s).map fun e => Token.unit e.toAst) cs
  all_goals exact (hone _).settled cs

/-- **A token is read again where the text goes on,** and it takes at least one character. It is all the same what
follows, if some of the text is left; and if none is left, either a closing parenthesis may follow, or a comment is
open at the end of the text and whatever follows on its line belongs to it. -/
theorem Token.next_append {v : Bool} {u rest : Text} {k : Token} (h : Token.next v u = .ok (some (k, rest))) :
    rest <:+ u ∧ rest.length < u.length ∧
      ((∀ s, rest ≠ [] ∨ s.head? = some ')' → Token.next v (u ++ s) = .ok (some (k, rest ++ s))) ∨
        rest = [] ∧ EndsInComment u ∧ ∀ s, '\n' ∉ s → Token.next v (u ++ s) = .ok (some (k, []))) := by
  cases u with
  | nil => cases h
  | cons c cs =>
    rw [Token.next_cons] at h
    obtain ⟨r, hr, he⟩ := except_map_eq_ok.1 h
    cases he
    obtain ⟨hsuf, happ⟩ := settled_startingWith v c cs k rest hr
    have hrow : ∀ s, Token.next v (c :: cs ++ s) = (Token.startingWith v c (cs ++ s)).map some := fun s =>
      Token.next_cons v c (cs ++ s)
    simp only [hrow]
    refine ⟨hsuf.trans (List.suffix_cons c cs), Nat.lt_succ_of_le hsuf.length_le, ?_⟩
    rcases happ with happ | ⟨hrest, hend, happ⟩
    · refine .inl fun s hs => ?_
      rw [happ s hs]
      rfl
    · refine .inr ⟨hrest, hend.of_suffix (List.suffix_cons c cs), fun s hs => ?_⟩
      rw [happ s hs]
      rfl

/-! ## Bounds of repetitions -/

/-- no repetition in the tree asks for more than it allows -/
def Ast.Ordered : Ast → Prop
  | .concat a b | .alternate a b => a.Ordered ∧ b.Ordered
  | .repetition a _ least most => a.Ordered ∧ ∀ m ∈ most, least ≤ m
  | .group _ _ a => a.Ordered
  | _ => True

def Token.Ordered : Token → Prop
  | .unit a => a.Ordered
  | .repetition _ least most => ∀ m ∈ most, least ≤ m
  | _ => True

theorem ordered_of_readGroup {v : Bool} {t rest : Text} {k : Token} (h : readGroup v t = .ok (k, rest)) :
    k.Ordered := by
  unfold readGroup at h
  split at h
  case h_5 | h_6 =>
    obtain ⟨r, -, he⟩ := except_map_eq_ok.1 h
    cases he
    trivial
  case h_7 =>
    obtain ⟨r, -, h⟩ := except_bind_eq_ok.1 h
    dsimp only at h
    split_ifs at h
    all_goals
      cases h
      trivial
  case h_8 =>
    cases h
    trivial
  all_goals cases h

theorem ordered_of_withGreed {least : ℕ} {most : Option ℕ} (hm : ∀ m ∈ most, least ≤ m) {t rest : Text} {k : Token}
    (h : withGreed least most t = (k, rest)) : k.Ordered := by
  unfold withGreed at h
  cases h
  exact hm

theorem Token.ordered_of_next {v : Bool} {u rest : Text} {k : Token} (h : Token.next v u = .ok (some (k, rest))) :
    k.Ordered := by
  cases u with
  | nil => cases h
  | cons c cs =>
    rw [Token.next_cons] at h
    obtain ⟨r, hr, he⟩ := except_map_eq_ok.1 h
    cases he
    unfold Token.startingWith at hr
    split at hr
    case h_1 => exact ordered_of_readGroup hr
    case h_4 =>
      obtain ⟨x, -, he⟩ := except_map_eq_ok.1 hr
      cases he
      trivial
    case h_5 => exact ordered_of_withGreed (by simp) (Except.ok.inj hr)
    case h_6 => exact ordered_of_withGreed (by simp) (Except.ok.inj hr)
    case h_7 => exact ordered_of_withGreed (by simp) (Except.ok.inj hr)
    case h_8 =>
      obtain ⟨least, most, cs', hm, -, hw, -⟩ := readCount_eq_ok v hr
      exact ordered_of_withGreed hm hw
    case h_9 =>
      obtain ⟨⟨e, rest'⟩, -, he⟩ := except_map_eq_ok.1 hr
      cases he
      cases e <;> trivial
    all_goals
      cases hr
      trivial

end CrawlFilter.Regex
