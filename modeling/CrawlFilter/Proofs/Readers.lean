/-
What is read from the front of a pattern does not depend on how the pattern goes on, provided that something is left of
it or that a closing parenthesis comes next. No reader takes such a parenthesis for part of what it reads, but for one
that a bracket or a pair of braces was opened before, and those have to be closed for the reader to succeed.

A reader is compared with itself on a longer text. `Extends` says how the two results are related, and it is proved for
each reader along its own cases.

- `skip_cases` / `skip_eq_nil`: what passing over blanks and comments does to a text that goes on.
- `steady_readEscape`, `steady_readClass`: escapes and classes.
-/
import Mathlib.Data.List.Infix
import CrawlFilter.Proofs.Outcomes
import CrawlFilter.Proofs.Scans
import CrawlFilter.Regex.Token

namespace CrawlFilter.Regex

/-! ## Blanks and comments -/

theorem dropIgnored_suffix (b : Bool) (t : Text) : dropIgnored b t <:+ t := by
  induction t generalizing b with
  | nil => exact List.suffix_rfl
  | cons c cs ih =>
    rw [dropIgnored]
    split_ifs
    · exact (ih _).trans (List.suffix_cons c cs)
    · exact (ih _).trans (List.suffix_cons c cs)
    · exact (ih _).trans (List.suffix_cons c cs)
    · exact List.suffix_rfl

theorem dropIgnored_append {b : Bool} {t : Text} (h : dropIgnored b t ≠ []) (s : Text) :
    dropIgnored b (t ++ s) = dropIgnored b t ++ s := by
  induction t generalizing b with
  | nil => exact absurd rfl h
  | cons c cs ih =>
    rw [List.cons_append, dropIgnored, dropIgnored]
    rw [dropIgnored] at h
    split_ifs at h ⊢
    · exact ih h
    · exact ih h
    · exact ih h
    · rfl

/-- a number sign stands in the last line, so that a comment can be open at the end -/
def EndsInComment (t : Text) : Prop := ∃ a c, t = a ++ '#' :: c ∧ '\n' ∉ c

theorem EndsInComment.of_suffix {t u : Text} (h : EndsInComment u) (hu : u <:+ t) : EndsInComment t := by
  obtain ⟨p, rfl⟩ := hu
  obtain ⟨a, c, rfl, hc⟩ := h
  exact ⟨p ++ a, c, by rw [List.append_assoc], hc⟩

theorem EndsInComment.ne_nil {t : Text} (h : EndsInComment t) : t ≠ [] := by
  rintro rfl
  obtain ⟨a, c, he, -⟩ := h
  simp at he

/-- a text without significant characters, where a comment is open at the end or not -/
theorem dropIgnored_eq_nil {b : Bool} {t : Text} (h : dropIgnored b t = []) :
    (∀ s, dropIgnored b (t ++ s) = dropIgnored false s) ∨
      (∀ s, dropIgnored b (t ++ s) = dropIgnored true s) ∧ (EndsInComment t ∨ b = true ∧ '\n' ∉ t) := by
  induction t generalizing b with
  | nil =>
    cases b with
    | false => exact .inl fun s => rfl
    | true => exact .inr ⟨fun s => rfl, .inr ⟨rfl, List.not_mem_nil⟩⟩
  | cons c cs ih =>
    have hcons := List.suffix_cons c cs
    simp only [List.cons_append, dropIgnored] at h ⊢
    split_ifs at h ⊢ with hb hblank hsign
    · refine (ih h).imp id (And.imp id (Or.imp (·.of_suffix hcons) ?_))
      rintro ⟨hc, hn⟩
      refine ⟨hb, ?_⟩
      rw [List.mem_cons, not_or]
      exact ⟨Ne.symm (bne_iff_ne.1 hc), hn⟩
    · exact (ih h).imp id (And.imp id (Or.imp (·.of_suffix hcons) fun hf => absurd hf.1 (by decide)))
    · subst hsign
      refine (ih h).imp id (And.imp id fun hend => .inl ?_)
      rcases hend with hend | ⟨-, hn⟩
      · exact hend.of_suffix hcons
      · exact ⟨[], cs, rfl, hn⟩

theorem dropIgnored_blanks {w : Text} (hw : ∀ c ∈ w, Text.isBlank c = true) (b : Bool) : dropIgnored b w = [] := by
  induction w generalizing b with
  | nil => rfl
  | cons c cs ih =>
    rw [List.forall_mem_cons] at hw
    rw [dropIgnored, if_pos hw.1]
    split_ifs
    · exact ih hw.2 _
    · exact ih hw.2 _

theorem dropIgnored_blanks_append {w : Text} (hw : ∀ c ∈ w, Text.isBlank c = true) (t : Text) :
    dropIgnored false (w ++ t) = dropIgnored false t := by
  induction w with
  | nil => rfl
  | cons c cs ih =>
    rw [List.forall_mem_cons] at hw
    rw [List.cons_append, dropIgnored, hw.1]
    exact ih hw.2

theorem dropIgnored_comment {s : Text} (h : '\n' ∉ s) : dropIgnored true s = [] := by
  induction s with
  | nil => rfl
  | cons c cs ih =>
    rw [List.mem_cons, not_or] at h
    have hc : (c != '\n') = true := bne_iff_ne.2 (Ne.symm h.1)
    rw [dropIgnored, if_pos rfl, hc, ih h.2]

section Skip

variable (v : Bool)

theorem skip_suffix (t : Text) : skip v t <:+ t := by
  unfold skip
  split_ifs
  · exact dropIgnored_suffix false t
  · exact List.suffix_rfl

theorem skip_nil : skip v [] = [] := by
  cases v <;> rfl

/-- nothing is passed over in front of a closing parenthesis -/
theorem skip_of_closing {s : Text} (h : s.head? = some ')') : skip v s = s := by
  obtain ⟨cs, rfl⟩ := List.head?_eq_some_iff.1 h
  cases v <;> rfl

theorem skip_append {t : Text} (h : skip v t ≠ []) (s : Text) : skip v (t ++ s) = skip v t ++ s := by
  unfold skip at h ⊢
  split_ifs at h ⊢
  · exact dropIgnored_append h s
  · rfl

/-- nothing is left, or a character is left and then it is the same however the text goes on -/
theorem skip_cases (t : Text) :
    skip v t = [] ∨ ∃ c cs, skip v t = c :: cs ∧ c :: cs <:+ t ∧ ∀ s, skip v (t ++ s) = c :: (cs ++ s) := by
  cases hs : skip v t with
  | nil => exact .inl rfl
  | cons c cs =>
    have hne : skip v t ≠ [] := by
      rw [hs]
      exact List.cons_ne_nil c cs
    exact .inr ⟨c, cs, rfl, hs ▸ skip_suffix v t, fun s => by rw [skip_append v hne, hs, List.cons_append]⟩

/-- Where nothing is left, either a closing parenthesis after it is seen, or a comment is open and swallows the line. -/
theorem skip_eq_nil {t : Text} (h : skip v t = []) :
    (∀ s, s.head? = some ')' → skip v (t ++ s) = s) ∨ EndsInComment t ∧ ∀ s, '\n' ∉ s → skip v (t ++ s) = [] := by
  cases v with
  | false => exact .inl fun s _ => by rw [show t = [] from h]; rfl
  | true =>
    rcases dropIgnored_eq_nil (show dropIgnored false t = [] from h) with hs | ⟨hs, hend | ⟨hf, -⟩⟩
    · exact .inl fun s hs' => (hs s).trans (skip_of_closing true hs')
    · exact .inr ⟨hend, fun s hs' => (hs s).trans (dropIgnored_comment hs')⟩
    · cases hf

end Skip

/-! ## Results on a longer text -/

section Extends

variable {α β : Type} {t u s : Text} {y z : Except Fault (α × Text)}

/-- `y` is read from `t`, and `z` from `t` with `s` after it. What `y` leaves is an end of `t`; and if that is not
empty, or `s` starts with a closing parenthesis, then `z` is the same with `s` after it. -/
def Extends (t s : Text) (y z : Except Fault (α × Text)) : Prop :=
  ∀ x rest, y = .ok (x, rest) → rest <:+ t ∧ (rest ≠ [] ∨ s.head? = some ')' → z = .ok (x, rest ++ s))

/-- a reader that does not depend on how the text goes on -/
def Steady (f : Text → Except Fault (α × Text)) : Prop :=
  ∀ t s, Extends t s (f t) (f (t ++ s))

/-- what reads on from where another reader stopped has something before it where that one has -/
theorem goesOn_of_suffix (hu : u <:+ t) (h : u ≠ [] ∨ s.head? = some ')') : t ≠ [] ∨ s.head? = some ')' := by
  refine h.imp (fun hne => ?_) id
  rintro rfl
  exact hne (List.suffix_nil.1 hu)

namespace Extends

theorem error (e : Fault) (z : Except Fault (α × Text)) : Extends t s (.error e) z := nofun

theorem done (x : α) (h : u <:+ t) : Extends t s (.ok (x, u)) (.ok (x, u ++ s)) := by
  intro x' rest he
  cases he
  exact ⟨h, fun _ => rfl⟩

/-- a value that was read before, with the rest at which it was found -/
theorem value (x : Except Fault β) (f : β → α) (h : u <:+ t) :
    Extends t s (x.map fun b => (f b, u)) (x.map fun b => (f b, u ++ s)) := by
  cases x with
  | error e => exact .error e _
  | ok b => exact .done (f b) h

/-- a condition that has nothing to do with the rest -/
theorem check (p : Prop) [Decidable p] (x : α) (e : Fault) (h : u <:+ t) :
    Extends t s (if p then .ok (x, u) else .error e) (if p then .ok (x, u ++ s) else .error e) := by
  split_ifs
  · exact .done x h
  · exact .error e _

theorem mono (h : Extends u s y z) (hu : u <:+ t) : Extends t s y z := by
  intro x rest hy
  obtain ⟨hsuf, happ⟩ := h x rest hy
  exact ⟨hsuf.trans hu, happ⟩

theorem map (h : Extends t s y z) (f : α → β) :
    Extends t s (y.map fun r => (f r.1, r.2)) (z.map fun r => (f r.1, r.2)) := by
  intro b rest hy
  obtain ⟨⟨x, rest'⟩, hx, he⟩ := except_map_eq_ok.1 hy
  cases he
  obtain ⟨hsuf, happ⟩ := h x rest' hx
  refine ⟨hsuf, fun hs => ?_⟩
  rw [happ hs]
  rfl

/-- reading on from where something else was read -/
theorem bind (h : Extends t s y z) {f : α × Text → Except Fault (β × Text)}
    (hf : ∀ x rest, Extends rest s (f (x, rest)) (f (x, rest ++ s))) : Extends t s (y >>= f) (z >>= f) := by
  intro b rest hy
  obtain ⟨⟨x, mid⟩, hx, hb⟩ := except_bind_eq_ok.1 hy
  obtain ⟨hmid, happ⟩ := h x mid hx
  obtain ⟨hrest, happ'⟩ := hf x mid b rest hb
  refine ⟨hrest.trans hmid, fun hs => ?_⟩
  rw [happ (goesOn_of_suffix hrest hs)]
  exact happ' hs

end Extends

end Extends

/-! ## Spans -/

theorem spanSignificant_suffix (v : Bool) (p : Char → Bool) (b : Bool) (t : Text) :
    (spanSignificant v p b t).2 <:+ t := by
  induction t generalizing b with
  | nil => exact List.suffix_rfl
  | cons c cs ih =>
    rw [spanSignificant]
    split_ifs
    · exact (ih _).trans (List.suffix_cons c cs)
    · exact (ih _).trans (List.suffix_cons c cs)
    · exact (ih _).trans (List.suffix_cons c cs)
    · exact (ih _).trans (List.suffix_cons c cs)
    · exact List.suffix_rfl

/-- a span that ends before the text does ends there however the text goes on -/
theorem spanSignificant_append {v : Bool} {p : Char → Bool} {b : Bool} {t : Text}
    (h : (spanSignificant v p b t).2 ≠ []) (s : Text) :
    spanSignificant v p b (t ++ s) = ((spanSignificant v p b t).1, (spanSignificant v p b t).2 ++ s) := by
  induction t generalizing b with
  | nil => exact absurd rfl h
  | cons c cs ih =>
    rw [List.cons_append, spanSignificant, spanSignificant]
    rw [spanSignificant] at h
    split_ifs at h ⊢
    · exact ih h
    · exact ih h
    · exact ih h
    · simp only [ih h]
    · rfl

/-- a span takes all of the text, or it ends before a character and then there however the text goes on -/
theorem spanSignificant_cases (v : Bool) (p : Char → Bool) (t : Text) :
    (spanSignificant v p false t).2 = [] ∨ ∃ d ds, (spanSignificant v p false t).2 = d :: ds ∧ d :: ds <:+ t ∧
      ∀ s, spanSignificant v p false (t ++ s) = ((spanSignificant v p false t).1, d :: (ds ++ s)) := by
  cases hr : (spanSignificant v p false t).2 with
  | nil => exact .inl rfl
  | cons d ds =>
    have hne : (spanSignificant v p false t).2 ≠ [] := by
      rw [hr]
      exact List.cons_ne_nil d ds
    exact .inr ⟨d, ds, rfl, hr ▸ spanSignificant_suffix v p false t, fun s => by
      rw [spanSignificant_append hne s, hr, List.cons_append]⟩

/-- A reader that starts with the next significant character is steady if, for each such character, it is on the text
after it. -/
theorem steady_skip {α : Type} {v : Bool} {f : Text → Except Fault (α × Text)}
    (hnil : ∀ t, skip v t = [] → ∀ y, f t ≠ .ok y)
    (hrow : ∀ c, ∃ g : Text → Except Fault (α × Text), (∀ t cs, skip v t = c :: cs → f t = g cs) ∧
      ∀ cs s, Extends (c :: cs) s (g cs) (g (cs ++ s))) : Steady f := by
  intro t s
  rcases skip_cases v t with hs | ⟨c, cs, hs, hsuf, happ⟩
  · exact fun x rest hy => absurd hy (hnil t hs _)
  · obtain ⟨g, hg, hext⟩ := hrow c
    rw [hg t cs hs, hg (t ++ s) (cs ++ s) (happ s)]
    exact (hext cs s).mono hsuf

/-- a name up to a closing brace, and then `f` with the name and the rest -/
def braced {α : Type} (v : Bool) (f : Text → Text → Except Fault (α × Text)) (t : Text) : Except Fault (α × Text) :=
  match (spanSignificant v (· != '}') false t).2 with
  | [] => .error .escapeAtEnd
  | _ :: rest => f (spanSignificant v (· != '}') false t).1 rest

theorem steady_braced {α : Type} (v : Bool) {f : Text → Text → Except Fault (α × Text)}
    (hf : ∀ name, Steady (f name)) : Steady (braced v f) := by
  intro t s
  unfold braced
  rcases spanSignificant_cases v (· != '}') t with hr | ⟨d, rest, hr, hsuf, happ⟩
  · rw [hr]
    exact .error _ _
  · rw [hr, happ s]
    exact (hf _ rest s).mono ((List.suffix_cons d rest).trans hsuf)

/-! ## Escapes -/

section Escapes

variable (v : Bool)

theorem steady_readHexDigits (n : ℕ) : Steady (readHexDigits v n) := by
  induction n with
  | zero => exact fun t s => .done [] List.suffix_rfl
  | succ n ih =>
    refine steady_skip (v := v) (fun t h => ?_) fun c => ?_
    · rw [readHexDigits, h]
      exact nofun
    · refine ⟨fun cs => if isHexDigit c then (readHexDigits v n cs).map fun r => (c :: r.1, r.2) else .error .hexDigit,
        fun t cs h => by rw [readHexDigits, h], fun cs s => ?_⟩
      split_ifs
      · exact ((ih cs s).map (c :: ·)).mono (List.suffix_cons c cs)
      · exact .error _ _

theorem steady_readHex (n : ℕ) : Steady (readHex v n) := by
  refine steady_skip (v := v) (fun t h => ?_) fun c => ?_
  · unfold readHex
    rw [h]
    exact nofun
  · by_cases hc : c = '{'
    · refine ⟨braced v fun ds rest =>
        if ds.all isHexDigit then
          if ds.isEmpty then .error .hexEmpty
          else (scalar (CharSet.hexValue ds)).map fun c => (⟨c, false⟩, rest)
        else .error .hexDigit, fun t cs h => ?_, fun cs s => ?_⟩
      · unfold readHex
        rw [h, hc]
        rfl
      · refine Extends.mono (steady_braced v (fun ds rest s => ?_) cs s) (List.suffix_cons c cs)
        split_ifs
        · exact .error _ _
        · exact .value _ _ List.suffix_rfl
        · exact .error _ _
    · refine ⟨fun cs => readHexDigits v n (c :: cs) >>= fun r =>
        (scalar (CharSet.hexValue r.1)).map fun x => (⟨x, n = 2⟩, r.2), fun t cs h => ?_, fun cs s => ?_⟩
      · unfold readHex
        rw [h]
        split
        · contradiction
        · simp_all
        · rfl
      · refine (steady_readHexDigits v n (c :: cs) s).bind fun x rest => ?_
        exact .value (scalar (CharSet.hexValue x)) _ List.suffix_rfl

theorem steady_readProperty : Steady (readProperty v) := by
  refine steady_skip (v := v) (fun t h => ?_) fun c => ?_
  · unfold readProperty
    rw [h]
    exact nofun
  · by_cases hb : c = '{'
    · refine ⟨braced v fun name rest => .ok (readQuery name, rest), fun t cs h => ?_, fun cs s => ?_⟩
      · unfold readProperty
        rw [h, hb]
        rfl
      · refine Extends.mono (steady_braced v (fun name rest s => ?_) cs s) (List.suffix_cons c cs)
        exact .done (readQuery name) List.suffix_rfl
    · by_cases hs : c = '\\'
      · refine ⟨fun _ => .error .propertyUnknown, fun t cs h => ?_, fun cs s => .error _ _⟩
        unfold readProperty
        rw [h, hs]
        rfl
      · refine ⟨fun cs => .ok ((false, .name [c]), cs), fun t cs h => ?_, fun cs s => .done _ (List.suffix_cons c cs)⟩
        unfold readProperty
        rw [h]
        split
        · contradiction
        · simp_all
        · simp_all
        · simp_all

theorem readBoundary_brace {cs ds : Text} {d : Char} (h : skip v cs = d :: ds) :
    readBoundary v ('{' :: cs) =
      if isBoundaryChar d then
        match (spanSignificant v isBoundaryChar false (d :: ds)).2 with
        | '}' :: rest =>
          match boundary? (spanSignificant v isBoundaryChar false (d :: ds)).1 with
          | some a => .ok (a, rest)
          | none => .error .boundaryUnknown
        | _ => .error .boundaryUnclosed
      else .ok (.wordBoundary, '{' :: cs) := by
  rw [readBoundary]
  generalize skip v cs = u at h ⊢
  subst h
  rfl

theorem steady_readBoundary : Steady (readBoundary v) := by
  intro t s
  cases t with
  | nil =>
    rintro x rest ⟨⟩
    refine ⟨List.suffix_rfl, fun h => ?_⟩
    obtain ⟨cs, rfl⟩ := List.head?_eq_some_iff.1 (h.resolve_left fun h => h rfl)
    rfl
  | cons c cs =>
    by_cases hc : c = '{'
    · subst hc
      rcases skip_cases v cs with hs | ⟨d, ds, hs, hsuf, happ⟩
      · rw [readBoundary, hs]
        exact .error _ _
      · rw [readBoundary_brace v hs, List.cons_append, readBoundary_brace v (happ s)]
        split_ifs
        · rcases spanSignificant_cases v isBoundaryChar (d :: ds) with hr | ⟨e, rest, hr, hspan, happ'⟩
          · rw [hr]
            exact .error _ _
          · rw [← List.cons_append, hr, happ' s]
            by_cases he : e = '}'
            · subst he
              cases boundary? (spanSignificant v isBoundaryChar false (d :: ds)).1 with
              | none => exact .error _ _
              | some a => exact .done a ((((List.suffix_cons _ _).trans hspan).trans hsuf).trans (List.suffix_cons _ _))
            · split
              · simp_all
              · exact .error _ _
        · exact .done _ List.suffix_rfl
    · have row : ∀ cs, readBoundary v (c :: cs) = .ok (.wordBoundary, c :: cs) := by
        intro cs
        unfold readBoundary
        split
        · simp_all
        · rfl
      rw [List.cons_append, row, row]
      exact .done _ List.suffix_rfl

theorem steady_readEscape : Steady (readEscape v) := by
  intro t s
  cases t with
  | nil => exact .error _ _
  | cons c cs =>
    refine Extends.mono ?_ (List.suffix_cons c cs)
    rw [List.cons_append]
    unfold readEscape
    dsimp only
    split
    case h_1 => exact (steady_readHex v 2 cs s).map _
    case h_2 => exact (steady_readHex v 4 cs s).map _
    case h_3 => exact (steady_readHex v 8 cs s).map _
    case h_4 => exact (steady_readProperty v cs s).map fun r => Escape.property r.1 r.2
    case h_5 => exact (steady_readProperty v cs s).map fun r => Escape.property (!r.1) r.2
    case h_20 => exact (steady_readBoundary v cs s).map _
    case h_24 =>
      split_ifs
      · exact .done _ List.suffix_rfl
      · exact .error _ _
      · exact .error _ _
    all_goals exact .done _ List.suffix_rfl

end Escapes

/-! ## Named classes -/

theorem notMem_of_asciiClass {name : Text} {k : AsciiClass} (h : asciiClass? name = some k) : ']' ∉ name := by
  have hn : ∀ n : String, String.ofList name = n → ']' ∉ n.toList → ']' ∉ name := by
    rintro n rfl hn
    rwa [String.toList_ofList] at hn
  unfold asciiClass? at h
  split at h
  case h_15 => cases h
  all_goals exact hn _ (by assumption) (by decide)

/-- a named class after its colon and the caret that can follow it -/
def namedClass? (negated : Bool) (body : Text) : Option (ClassAst × Text) :=
  match body.dropWhile (· != ':') with
  | ':' :: ']' :: rest => (asciiClass? (body.takeWhile (· != ':'))).map fun k => (.ascii negated k, rest)
  | _ => none

theorem namedClass?_append {negated : Bool} {body : Text} {r : ClassAst × Text}
    (h : namedClass? negated body = some r) :
    r.2 <:+ body ∧ ∀ s, namedClass? negated (body ++ s) = some (r.1, r.2 ++ s) := by
  unfold namedClass? at h ⊢
  split at h
  · rename_i rest hd
    obtain ⟨k, hk, rfl⟩ := Option.map_eq_some_iff.1 h
    refine ⟨?_, fun s => ?_⟩
    · have hsuf : ':' :: ']' :: rest <:+ body := hd ▸ List.dropWhile_suffix _
      exact ((List.suffix_cons _ _).trans (List.suffix_cons _ _)).trans hsuf
    · obtain ⟨ht, hd'⟩ := scan_append hd s
      rw [hd', ht]
      simp only [List.cons_append, hk]
      rfl
  · cases h

/-- a text with a closing bracket that does not start with a named class does not start with one if it goes on -/
theorem namedClass?_append_eq_none {negated : Bool} {body : Text} (h : namedClass? negated body = none)
    (hb : ']' ∈ body) (s : Text) : namedClass? negated (body ++ s) = none := by
  -- no name of a class holds the bracket
  have hname : ']' ∈ (body ++ s).takeWhile (· != ':') → namedClass? negated (body ++ s) = none := by
    intro hm
    unfold namedClass?
    split
    · rw [Option.map_eq_none_iff, Option.eq_none_iff_forall_ne_some]
      exact fun k hk => notMem_of_asciiClass hk hm
    · rfl
  cases hd : body.dropWhile (· != ':') with
  | nil =>
    obtain ⟨hbody, hfree, -⟩ := scan_iff.1 ⟨rfl, hd⟩
    rw [List.append_nil] at hbody
    apply hname
    rw [← hbody] at hfree
    rw [List.takeWhile_append_of_pos hfree]
    exact List.mem_append_left _ hb
  | cons d ds =>
    obtain ⟨ht, hd'⟩ := scan_append hd s
    obtain ⟨hbody, -, hcolon⟩ := scan_ne_iff.1 ⟨rfl, hd⟩
    obtain rfl : d = ':' := hcolon d rfl
    rw [hbody, List.mem_append, List.mem_cons] at hb
    rcases hb with hb | hb | hb
    · exact hname (ht ▸ hb)
    · cases hb
    · obtain ⟨e, es, rfl⟩ := List.exists_cons_of_ne_nil (List.ne_nil_of_mem hb)
      unfold namedClass? at h ⊢
      rw [hd] at h
      rw [ht, hd']
      by_cases he : e = ']'
      · subst he
        rw [List.cons_append]
        simpa using h
      · simp [he]

/-- how the start of a text is read as a named class, unless it is too short to tell -/
theorem readAsciiClass?_cases (t : Text) :
    (t = [] ∨ t = [':']) ∨ (∀ s, readAsciiClass? (t ++ s) = none) ∨
      ∃ negated p body, t = p ++ body ∧ ']' ∉ p ∧ ∀ s, readAsciiClass? (t ++ s) = namedClass? negated (body ++ s) := by
  rcases t with _ | ⟨c, _ | ⟨d, ds⟩⟩
  · exact .inl (.inl rfl)
  · by_cases hc : c = ':'
    · exact .inl (.inr (by rw [hc]))
    · exact .inr (.inl fun s => by simp [readAsciiClass?, hc])
  · by_cases hc : c = ':'
    · subst hc
      by_cases hd : d = '^'
      · subst hd
        exact .inr (.inr ⟨true, [':', '^'], ds, rfl, by decide, fun s => rfl⟩)
      · refine .inr (.inr ⟨false, [':'], d :: ds, rfl, by decide, fun s => ?_⟩)
        simp only [readAsciiClass?, List.cons_append, List.head?_cons, Option.some.injEq, hd, decide_false]
        rfl
    · exact .inr (.inl fun s => by simp [readAsciiClass?, hc])

theorem readAsciiClass?_append {t : Text} {r : ClassAst × Text} (h : readAsciiClass? t = some r) :
    r.2 <:+ t ∧ ∀ s, readAsciiClass? (t ++ s) = some (r.1, r.2 ++ s) := by
  rcases readAsciiClass?_cases t with (rfl | rfl) | hn | ⟨negated, p, body, rfl, -, hb⟩
  · cases h
  · cases h
  · rw [← List.append_nil t, hn] at h
    cases h
  · have h0 := hb []
    rw [List.append_nil, List.append_nil, h] at h0
    obtain ⟨hsuf, happ⟩ := namedClass?_append h0.symm
    exact ⟨hsuf.trans (List.suffix_append p body), fun s => by rw [hb, happ]⟩

theorem readAsciiClass?_append_eq_none {t : Text} (h : readAsciiClass? t = none) (ht : ']' ∈ t) (s : Text) :
    readAsciiClass? (t ++ s) = none := by
  rcases readAsciiClass?_cases t with (rfl | rfl) | hn | ⟨negated, p, body, rfl, hp, hb⟩
  · cases ht
  · exact absurd ht (by decide)
  · exact hn s
  · have h0 := hb []
    rw [List.append_nil, List.append_nil, h] at h0
    rw [hb]
    exact namedClass?_append_eq_none h0.symm ((List.mem_append.1 ht).resolve_left hp) s

/-! ## Brackets -/

section Brackets

variable (v : Bool)

/-- whether a caret starts a bracket, and what follows it -/
def afterCaret (t : Text) : Bool × Text :=
  if (skip v t).head? = some '^' then (true, skip v (skip v t).tail) else (false, skip v t)

theorem afterCaret_suffix (t : Text) : (afterCaret v t).2 <:+ t := by
  unfold afterCaret
  split_ifs
  · exact (skip_suffix v _).trans ((List.tail_suffix _).trans (skip_suffix v t))
  · exact skip_suffix v t

theorem afterCaret_append {t : Text} (h : (afterCaret v t).2 ≠ []) (s : Text) :
    afterCaret v (t ++ s) = ((afterCaret v t).1, (afterCaret v t).2 ++ s) := by
  unfold afterCaret at h ⊢
  rcases skip_cases v t with hs | ⟨c, cs, hs, -, happ⟩
  · rw [hs] at h
    exact absurd rfl h
  · rw [happ s]
    rw [hs] at h ⊢
    by_cases hc : c = '^'
    · subst hc
      rcases skip_cases v cs with hs' | ⟨d, ds, hs', -, happ'⟩
      · exact absurd hs' h
      · simp [hs', happ' s]
    · simp [hc]

theorem readOpening_eq (t : Text) :
    readOpening v t =
      let r := spanSignificant v (· = '-') false (afterCaret v t).2
      match r.1.map fun c => ClassAst.literal ⟨c, false⟩, r.2 with
      | [], ']' :: rest => (⟨(afterCaret v t).1, none, [.literal ⟨']', false⟩]⟩, rest)
      | hs, rest => (⟨(afterCaret v t).1, none, hs⟩, rest) := by
  unfold readOpening afterCaret
  by_cases h : (skip v t).head? = some '^'
  · simp only [h]
    rfl
  · simp only [h]
    rfl

theorem readOpening_suffix (t : Text) : (readOpening v t).2 <:+ t := by
  have hspan := spanSignificant_suffix v (· = '-') false (afterCaret v t).2
  rw [readOpening_eq]
  dsimp only
  split
  · rename_i rest _ hr
    rw [hr] at hspan
    exact ((List.suffix_cons _ rest).trans hspan).trans (afterCaret_suffix v t)
  · exact hspan.trans (afterCaret_suffix v t)

theorem readOpening_append {t : Text} (h : (readOpening v t).2 ≠ []) (s : Text) :
    readOpening v (t ++ s) = ((readOpening v t).1, (readOpening v t).2 ++ s) := by
  rw [readOpening_eq] at h ⊢
  rw [readOpening_eq]
  rcases spanSignificant_cases v (· = '-') (afterCaret v t).2 with hr | ⟨d, ds, hr, hsuf, happ⟩
  · simp only [hr] at h
    split at h
    · contradiction
    · exact absurd rfl h
  · have hcaret : (afterCaret v t).2 ≠ [] := by
      intro h0
      rw [h0, List.suffix_nil] at hsuf
      cases hsuf
    rw [afterCaret_append v hcaret]
    dsimp only
    rw [happ s, hr]
    generalize (spanSignificant v (· = '-') false (afterCaret v t).2).1.map _ = hyphens
    cases hyphens with
    | nil =>
      by_cases hd : d = ']'
      · subst hd
        rfl
      · simp [hd]
    | cons x xs => rfl

/-! ## Items of a bracket -/

theorem readMember_of_ne {c : Char} (hc : c ≠ '\\') (cs : Text) :
    readMember v (c :: cs) = .ok (.literal ⟨c, false⟩, cs) := by
  simp [readMember]

theorem steady_readMember : Steady (readMember v) := by
  intro t s
  cases t with
  | nil => exact .error _ _
  | cons c cs =>
    refine Extends.mono ?_ (List.suffix_cons c cs)
    by_cases hc : c = '\\'
    · subst hc
      exact steady_readEscape v cs s
    · rw [List.cons_append, readMember_of_ne v hc, readMember_of_ne v hc]
      exact .done _ List.suffix_rfl

/-- In a verbose class the character that decides about a hyphen is found, or there are only blanks and a comment sign
among them. -/
theorem peekBeyond_cases (t : Text) :
    (∃ c, ∀ s, peekBeyond true (t ++ s) = some c) ∨
      dropIgnored false t = [] ∧ ∀ c ∈ peekBeyond true t, Text.isBlank c = true ∨ c = '#' := by
  have hhead : ∀ c ∈ t.head?, c ∈ t := fun c hc => List.mem_of_mem_head? hc
  cases hd : t.dropWhile Text.isBlank with
  | nil =>
    have hblank : ∀ c ∈ t, Text.isBlank c = true := by simpa using hd
    refine .inr ⟨dropIgnored_blanks hblank false, ?_⟩
    simp only [peekBeyond, hd, if_true]
    exact fun c hc => .inl (hblank c (hhead c hc))
  | cons c cs =>
    obtain ⟨ht, hw, -⟩ := scan_iff.1 ⟨rfl, hd⟩
    by_cases hc : c = '#'
    · subst hc
      cases hd' : cs.dropWhile Text.isBlank with
      | nil =>
        have hblank : ∀ c ∈ cs, Text.isBlank c = true := by simpa using hd'
        refine .inr ⟨?_, ?_⟩
        · rw [ht, dropIgnored_blanks_append hw]
          exact dropIgnored_blanks hblank true
        · simp only [peekBeyond, hd, hd', if_true]
          intro c hc
          have hmem := hhead c hc
          rw [ht, List.mem_append, List.mem_cons] at hmem
          rcases hmem with hmem | rfl | hmem
          · exact .inl (hw c hmem)
          · exact .inr rfl
          · exact .inl (hblank c hmem)
      | cons d ds =>
        refine .inl ⟨d, fun s => ?_⟩
        simp only [peekBeyond, (scan_append hd s).2, (scan_append hd' s).2, if_true]
    · refine .inl ⟨c, fun s => ?_⟩
      simp only [peekBeyond, (scan_append hd s).2, if_true]

/-- What decides about a hyphen is there already if something significant follows it or if it makes no range. -/
theorem peekBeyond_append {t : Text} (h : skip v t ≠ [] ∨ peekBeyond v t = some ']' ∨ peekBeyond v t = some '-')
    (s : Text) : peekBeyond v (t ++ s) = peekBeyond v t := by
  cases v with
  | false =>
    cases t with
    | nil => simp [skip, peekBeyond] at h
    | cons c cs => rfl
  | true =>
    rcases peekBeyond_cases t with ⟨c, hc⟩ | ⟨hnil, hc⟩
    · have h0 := hc []
      rw [List.append_nil] at h0
      rw [hc, h0]
    · rcases h with h | h | h
      · exact absurd hnil h
      · exact absurd (hc _ h) (by decide)
      · exact absurd (hc _ h) (by decide)

/-- an item whose first member is `m`, after the hyphen behind that -/
def afterHyphen (m : Escape) (cs : Text) : Except Fault (ClassAst × Text) :=
  if peekBeyond v cs = some ']' ∨ peekBeyond v cs = some '-' then m.toItem.map fun x => (x, '-' :: cs)
  else do
    let r ← readMember v (skip v cs)
    let lo ← m.toEnd
    let hi ← r.1.toEnd
    if lo.char.toNat ≤ hi.char.toNat then return (.range lo hi, r.2) else .error .classRangeOrder

theorem extends_afterHyphen (m : Escape) (cs s : Text) :
    Extends ('-' :: cs) s (afterHyphen v m cs) (afterHyphen v m (cs ++ s)) := by
  unfold afterHyphen
  by_cases hp : peekBeyond v cs = some ']' ∨ peekBeyond v cs = some '-'
  · rw [peekBeyond_append v (.inr hp), if_pos hp, if_pos hp]
    exact .value m.toItem _ List.suffix_rfl
  · rcases skip_cases v cs with hs | ⟨d, ds, hs, hsuf, happ⟩
    · rw [if_neg hp, hs]
      exact .error _ _
    · have hne : skip v cs ≠ [] := by
        rw [hs]
        exact List.cons_ne_nil d ds
      rw [peekBeyond_append v (.inl hne), if_neg hp, if_neg hp, hs, happ s]
      refine Extends.mono ?_ (hsuf.trans (List.suffix_cons '-' cs))
      refine (steady_readMember v (d :: ds) s).bind fun n rest => ?_
      dsimp only
      cases m.toEnd with
      | error e => exact .error _ _
      | ok lo =>
        cases n.toEnd with
        | error e => exact .error _ _
        | ok hi =>
          exact .check _ _ _ List.suffix_rfl

theorem steady_readItem : Steady (readItem v) := by
  intro t s
  unfold readItem
  refine (steady_readMember v t s).bind fun m rest => ?_
  dsimp only
  rcases skip_cases v rest with hs | ⟨c, cs, hs, hsuf, happ⟩
  · rw [hs]
    exact .error _ _
  · rw [hs, happ s]
    refine Extends.mono ?_ hsuf
    by_cases hc : c = '-'
    · subst hc
      exact extends_afterHyphen v m cs s
    · have row : ∀ u, Extends u s (m.toItem.map fun x => (x, u)) (m.toItem.map fun x => (x, u ++ s)) := fun u =>
        .value m.toItem _ List.suffix_rfl
      convert row (c :: cs) using 1
      · split <;> simp_all
        rfl
      · split <;> simp_all
        rfl

theorem readItem_singleton (c : Char) (r : ClassAst × Text) : readItem v [c] ≠ .ok r := by
  intro h
  unfold readItem at h
  obtain ⟨⟨m, rest⟩, hm, hr⟩ := except_bind_eq_ok.1 h
  obtain rfl : rest = [] := by
    by_cases hc : c = '\\'
    · subst hc
      cases hm
    · rw [readMember_of_ne v hc] at hm
      cases hm
      rfl
  simp only [skip_nil] at hr
  cases hr

/-! ## Whole brackets -/

/-- one round of a bracket, from a significant character on: what the bracket holds, or the brackets that are open
then -/
def bracketRound (outer : List OpenBracket) (b : OpenBracket) :
    Text → Except Fault (((Bool × ClassAst) ⊕ (List OpenBracket × OpenBracket)) × Text)
  | [] => .error .classUnclosed
  | '[' :: cs =>
    match readAsciiClass? cs with
    | some (item, rest) => .ok (.inr (outer, b.push item), rest)
    | none => .ok (.inr (b :: outer, (readOpening v cs).1), (readOpening v cs).2)
  | ']' :: cs =>
    match outer with
    | [] => .ok (.inl (b.negated, b.contents), cs)
    | o :: outer => .ok (.inr (outer, o.push (.bracket b.negated b.contents)), cs)
  | '&' :: '&' :: cs => .ok (.inr (outer, b.operator .inter), cs)
  | '-' :: '-' :: cs => .ok (.inr (outer, b.operator .diff), cs)
  | '~' :: '~' :: cs => .ok (.inr (outer, b.operator .symmDiff), cs)
  | cs => (readItem v cs).map fun r => (.inr (outer, b.push r.1), r.2)

theorem readBracket_succ (n : ℕ) (outer : List OpenBracket) (b : OpenBracket) (t : Text) :
    readBracket v (n + 1) outer b t = bracketRound v outer b (skip v t) >>= fun r =>
      match r.1 with
      | .inl x => .ok (x, r.2)
      | .inr (outer, b) => readBracket v n outer b r.2 := by
  rw [readBracket]
  generalize skip v t = u
  fun_cases bracketRound v outer b u
  case case2 cs item rest h =>
    simp only [h]
    rfl
  case case3 cs h =>
    simp only [h]
    rfl
  case case9 hnil hopen hclose hand hsub hxor =>
    split
    · exact (hnil rfl).elim
    · exact (hopen _ rfl).elim
    · exact (hclose _ rfl).elim
    · exact (hand _ rfl).elim
    · exact (hsub _ rfl).elim
    · exact (hxor _ rfl).elim
    · cases readItem v u <;> rfl
  all_goals rfl

theorem bracketRound_suffix {outer : List OpenBracket} {b : OpenBracket} {u rest : Text}
    {x : (Bool × ClassAst) ⊕ (List OpenBracket × OpenBracket)} (h : bracketRound v outer b u = .ok (x, rest)) :
    rest <:+ u ∧ (x.isLeft = true → ']' ∈ u) := by
  have hcons : ∀ c (cs : Text), cs <:+ c :: cs := List.suffix_cons
  revert h
  fun_cases bracketRound v outer b u
  case case1 => exact nofun
  case case2 cs item rest' hn =>
    rintro ⟨⟩
    exact ⟨(readAsciiClass?_append hn).1.trans (hcons _ cs), nofun⟩
  case case3 cs hn =>
    rintro ⟨⟩
    exact ⟨(readOpening_suffix v cs).trans (hcons _ cs), nofun⟩
  case case4 =>
    rintro ⟨⟩
    exact ⟨hcons _ _, fun _ => List.mem_cons_self⟩
  case case5 =>
    rintro ⟨⟩
    exact ⟨hcons _ _, nofun⟩
  case case9 =>
    intro h
    obtain ⟨⟨item, rest'⟩, hi, he⟩ := except_map_eq_ok.1 h
    cases he
    exact ⟨(steady_readItem v u [] item rest' hi).1, nofun⟩
  all_goals
    rintro ⟨⟩
    exact ⟨(hcons _ _).trans (hcons _ _), nofun⟩

/-- A round of a bracket that is closed later is the same however the text goes on. -/
theorem bracketRound_append {outer : List OpenBracket} {b : OpenBracket} {u rest : Text}
    {x : (Bool × ClassAst) ⊕ (List OpenBracket × OpenBracket)} (h : bracketRound v outer b u = .ok (x, rest))
    (hu : ']' ∈ u) (hrest : rest ≠ [] ∨ x.isLeft = true) (s : Text) :
    bracketRound v outer b (u ++ s) = .ok (x, rest ++ s) := by
  revert h
  fun_cases bracketRound v outer b u
  case case1 => exact nofun
  case case2 cs item rest' hn =>
    rintro ⟨⟩
    rw [List.cons_append, bracketRound, (readAsciiClass?_append hn).2 s]
  case case3 cs hn =>
    rintro ⟨⟩
    have hcs : ']' ∈ cs := by simpa using hu
    have hne : (readOpening v cs).2 ≠ [] := by simpa using hrest
    rw [List.cons_append, bracketRound, readAsciiClass?_append_eq_none hn hcs, readOpening_append v hne]
  case case9 hnil hopen hclose hand hsub hxor =>
    intro h
    obtain ⟨⟨item, rest'⟩, hi, he⟩ := except_map_eq_ok.1 h
    cases he
    have hne : rest' ≠ [] := by simpa using hrest
    obtain ⟨c, d, ds, rfl⟩ : ∃ c d ds, u = c :: d :: ds := by
      rcases u with _ | ⟨c, _ | ⟨d, ds⟩⟩
      · exact (hnil rfl).elim
      · exact absurd hi (readItem_singleton v c _)
      · exact ⟨c, d, ds, rfl⟩
    have hi' := (steady_readItem v (c :: d :: ds) s item rest' hi).2 (.inl hne)
    -- the first two characters decide that it is an item
    rw [List.cons_append, List.cons_append] at hi' ⊢
    rw [bracketRound.eq_def]
    split
    · contradiction
    · rename_i heq
      cases heq
      exact (hopen _ rfl).elim
    · rename_i heq
      cases heq
      exact (hclose _ rfl).elim
    · rename_i heq
      cases heq
      exact (hand _ rfl).elim
    · rename_i heq
      cases heq
      exact (hsub _ rfl).elim
    · rename_i heq
      cases heq
      exact (hxor _ rfl).elim
    · rw [hi']
      rfl
  all_goals
    rintro ⟨⟩
    rfl

/-- a bracket that was read was closed -/
theorem mem_of_readBracket {n : ℕ} {outer : List OpenBracket} {b : OpenBracket} {t : Text}
    {r : (Bool × ClassAst) × Text} (h : readBracket v n outer b t = .ok r) : ']' ∈ skip v t := by
  induction n generalizing outer b t with
  | zero => cases h
  | succ n ih =>
    rw [readBracket_succ] at h
    obtain ⟨⟨x, rest⟩, hr, hx⟩ := except_bind_eq_ok.1 h
    obtain ⟨hsuf, hleft⟩ := bracketRound_suffix v hr
    cases x with
    | inl x => exact hleft rfl
    | inr x => exact hsuf.subset ((skip_suffix v rest).subset (ih hx))

theorem extends_readBracket {n m : ℕ} (hnm : n ≤ m) (outer : List OpenBracket) (b : OpenBracket) (t s : Text) :
    Extends t s (readBracket v n outer b t) (readBracket v m outer b (t ++ s)) := by
  induction n generalizing m outer b t with
  | zero => exact .error _ _
  | succ n ih =>
    obtain ⟨m, rfl⟩ : ∃ k, m = k + 1 := ⟨m - 1, by omega⟩
    intro y rest h
    have hmem := mem_of_readBracket v h
    rw [readBracket_succ] at h ⊢
    obtain ⟨⟨x, mid⟩, hr, hx⟩ := except_bind_eq_ok.1 h
    have hmid := (bracketRound_suffix v hr).1
    rcases skip_cases v t with hs | ⟨c, cs, hs, hsuf, happ⟩
    · rw [hs] at hmem
      cases hmem
    · rw [hs] at hr hmem hmid
      rw [happ s, ← List.cons_append]
      cases x with
      | inl x =>
        cases hx
        refine ⟨hmid.trans hsuf, fun _ => ?_⟩
        rw [bracketRound_append v hr hmem (.inr rfl)]
        rfl
      | inr x =>
        have hmid' : mid ≠ [] := by
          rintro rfl
          have := mem_of_readBracket v hx
          rw [skip_nil] at this
          cases this
        obtain ⟨hrest, hext⟩ := ih (show n ≤ m by omega) x.1 x.2 mid y rest hx
        refine ⟨hrest.trans (hmid.trans hsuf), fun hs' => ?_⟩
        rw [bracketRound_append v hr hmem (.inl hmid')]
        exact hext hs'

theorem steady_readClass : Steady (readClass v) := by
  intro t s y rest h
  have hne : (readOpening v t).2 ≠ [] := by
    intro h0
    have hmem : ']' ∈ skip v (readOpening v t).2 := mem_of_readBracket v h
    rw [h0, skip_nil] at hmem
    cases hmem
  have hfuel : t.length + 1 ≤ (t ++ s).length + 1 := by simp
  obtain ⟨hrest, hext⟩ := extends_readBracket v hfuel [] (readOpening v t).1 (readOpening v t).2 s y rest h
  refine ⟨hrest.trans (readOpening_suffix v t), fun hs => ?_⟩
  unfold readClass
  rw [readOpening_append v hne]
  exact hext hs

end Brackets

end CrawlFilter.Regex
