/-
Suffix lists as unions of their lines. A text is read as a suffix list exactly if each of its lines is one, and the list
holds what its lines hold; so neither the order of the lines nor how often one stands there matters, nor does anything
in a line but its first word, nor the case of letters. A text that is no suffix list is blamed on its first line that is
none.

- `lines_lowerAscii`: the lines of a text in lower case are its lines in lower case.
- `parses_iff_lines` / `mem_rules_iff_lines`: what can be read, and what is read, line by line.
- `readFrom_eq_error_iff`: which line is blamed.
- `registrable?_congr`: domains depend on which rules a list has, and on nothing else.
- `SaysSame`: texts whose lines say the same, and `Rewording.saysSame`: how a text may be changed for that.
- `read_is_union_of_lines`: the whole of it.
-/
import CrawlFilter.Proofs.Lines
import CrawlFilter.Proofs.SuffixReading
import CrawlFilter.Proofs.SuffixWords

namespace CrawlFilter

namespace Text

theorem withoutLast_lowerAscii {x : Char} (hx : x.isAlpha = false) (t : Text) :
    withoutLast x (lowerAscii t) = lowerAscii (withoutLast x t) := by
  by_cases h : t.getLast? = some x
  · rw [withoutLast, withoutLast, if_pos h, if_pos ((getLast?_lowerAscii_iff hx).2 h), lowerAscii, lowerAscii, List.map_dropLast]
  · rw [withoutLast_eq_self_iff.2 h, withoutLast_eq_self_iff.2 (mt (getLast?_lowerAscii_iff hx).1 h)]

theorem lines_lowerAscii (t : Text) : (lowerAscii t).lines = t.lines.map lowerAscii := by
  have hlf : ∀ {l : Text}, '\n' ∉ l → '\n' ∉ lowerAscii l := fun h => mt (mem_lowerAscii_iff (by decide)).1 h
  induction t using Lines.line_induction '\n' with
  | nil => rfl
  | last l hne hl =>
    rw [lines_unended hl hne, lines_unended (hlf hl) (mt lowerAscii_eq_nil_iff.1 hne)]
    rfl
  | line l t hl ih =>
    have e : lowerAscii (l ++ '\n' :: t) = lowerAscii l ++ '\n' :: lowerAscii t := by simp [lowerAscii]
    rw [e, lines_line (hlf hl), ih, lines_line hl, List.map_cons, withoutLast_lowerAscii (by decide)]

end Text

namespace SuffixList

variable {l l' : SuffixList} {t t' line : Text}

/-! ## Lines on their own -/

/-- a text is a suffix list -/
def Parses (t : Text) : Prop := ∃ l, read (.ofText t) = .ok l

theorem parses_iff_readable : Parses t ↔ ∀ line ∈ t.lines, SuffixLine.ofText line ≠ .invalid := by
  have hreadable : ∀ line, Readable (.ok line) ↔ SuffixLine.ofText line ≠ .invalid := by
    intro line
    simp [Readable]
  rw [Parses, read, exists_readFrom_iff, Input.ofText, List.forall_mem_map]
  exact forall₂_congr fun line _ => hreadable line

/-- what a single line is as a text; the empty line has no lines, and says nothing -/
theorem forall_lines_iff {p : SuffixLine → Prop} (hp : p .nothing) (h : '\n' ∉ line) :
    (∀ m ∈ line.lines, p (SuffixLine.ofText m)) ↔ p (SuffixLine.ofText line) := by
  by_cases hne : line = []
  · subst hne
    exact iff_of_true (fun m hm => absurd hm List.not_mem_nil) hp
  · rw [Text.lines_unended h hne, List.forall_mem_singleton]

theorem parses_line_iff (h : '\n' ∉ line) : Parses line ↔ SuffixLine.ofText line ≠ .invalid := by
  rw [parses_iff_readable, forall_lines_iff (p := (· ≠ .invalid)) SuffixLine.noConfusion h]

/-- **A text is a suffix list** exactly if each of its lines is. -/
theorem parses_iff_lines : Parses t ↔ ∀ line ∈ t.lines, Parses line := by
  rw [parses_iff_readable]
  exact forall₂_congr fun line hl => (parses_line_iff (Text.notMem_of_mem_lines hl)).symm

theorem mem_rules_line_iff (h : '\n' ∉ line) (hl : read (.ofText line) = .ok l) (r : SuffixRule) :
    r ∈ l.rules ↔ SuffixLine.ofText line = .rule r := by
  have hall := forall_lines_iff (p := (· ≠ .rule r)) SuffixLine.noConfusion h
  rw [mem_rules_of_read_ofText hl]
  constructor
  · rintro ⟨m, hm, hs⟩
    by_contra hne
    exact hall.2 hne m hm hs
  · intro hs
    by_contra hnone
    exact hall.1 (fun m hm hs => hnone ⟨m, hm, hs⟩) hs

/-- **A list holds what its lines hold.** -/
theorem mem_rules_iff_lines (hl : read (.ofText t) = .ok l) (r : SuffixRule) :
    r ∈ l.rules ↔ ∃ line ∈ t.lines, ∃ l₁, read (.ofText line) = .ok l₁ ∧ r ∈ l₁.rules := by
  rw [mem_rules_of_read_ofText hl]
  constructor
  · rintro ⟨line, hm, hs⟩
    obtain ⟨l₁, h₁⟩ := parses_iff_lines.1 ⟨l, hl⟩ line hm
    exact ⟨line, hm, l₁, h₁, (mem_rules_line_iff (Text.notMem_of_mem_lines hm) h₁ r).2 hs⟩
  · rintro ⟨line, hm, l₁, h₁, hr⟩
    exact ⟨line, hm, (mem_rules_line_iff (Text.notMem_of_mem_lines hm) h₁ r).1 hr⟩

/-! ## The line that is blamed -/

/-- an error names the first line that cannot be read, where lines are numbered from `n` on -/
def Blames (n : ℕ) (lines : List Text) (e : SuffixListError) : Prop :=
  ∃ above line below, lines = above ++ line :: below ∧ (∀ m ∈ above, SuffixLine.ofText m ≠ .invalid) ∧
    SuffixLine.ofText line = .invalid ∧ e = .invalidRule (n + above.length) line

section Blames

variable {n : ℕ} {m : Text} {lines : List Text} {e : SuffixListError}

theorem blames_cons_of_invalid (h : SuffixLine.ofText m = .invalid) :
    Blames n (m :: lines) e ↔ e = .invalidRule n m := by
  constructor
  · rintro ⟨above, line, below, hl, habove, -, rfl⟩
    rcases List.cons_eq_append_iff.1 hl with ⟨rfl, hl⟩ | ⟨above', rfl, -⟩
    · cases hl
      rfl
    · exact absurd h (habove m List.mem_cons_self)
  · rintro rfl
    exact ⟨[], m, lines, rfl, fun x hx => absurd hx List.not_mem_nil, h, rfl⟩

theorem blames_cons_of_ne (h : SuffixLine.ofText m ≠ .invalid) :
    Blames n (m :: lines) e ↔ Blames (n + 1) lines e := by
  have hnum : ∀ above : List Text, n + (m :: above).length = n + 1 + above.length := fun above => by
    rw [List.length_cons, Nat.add_right_comm, Nat.add_assoc]
  constructor
  · rintro ⟨above, line, below, hl, habove, hline, rfl⟩
    rcases List.cons_eq_append_iff.1 hl with ⟨rfl, hl⟩ | ⟨above', rfl, rfl⟩
    · cases hl
      exact absurd hline h
    · exact ⟨above', line, below, rfl, (List.forall_mem_cons.1 habove).2, hline, by rw [hnum]⟩
  · rintro ⟨above, line, below, rfl, habove, hline, rfl⟩
    exact ⟨m :: above, line, below, rfl, List.forall_mem_cons.2 ⟨h, habove⟩, hline, by rw [hnum]⟩

theorem readFrom_eq_error_iff : l.readFrom n (lines.map .ok) = .error e ↔ Blames n lines e := by
  induction lines generalizing l n with
  | nil =>
    refine iff_of_false nofun ?_
    rintro ⟨above, line, below, hl, -⟩
    exact List.append_ne_nil_of_right_ne_nil above (List.cons_ne_nil line below) hl.symm
  | cons m lines ih =>
    rw [List.map_cons, readFrom]
    cases hm : SuffixLine.ofText m with
    | invalid => rw [blames_cons_of_invalid hm, Except.error.injEq, eq_comm]
    | nothing => rw [blames_cons_of_ne (by simp [hm]), ← ih]
    | rule r => rw [blames_cons_of_ne (by simp [hm]), ← ih]

end Blames

/-- **A text that is no suffix list** is blamed on its first line that is none. -/
theorem read_eq_error_iff {e : SuffixListError} :
    read (.ofText t) = .error e ↔ ∃ above line below, t.lines = above ++ line :: below ∧ (∀ m ∈ above, Parses m) ∧
      ¬ Parses line ∧ e = .invalidRule (above.length + 1) line := by
  rw [read, Input.ofText, readFrom_eq_error_iff, Blames]
  refine exists_congr fun above => exists_congr fun line => exists_congr fun below => and_congr_right fun ht => ?_
  have hlf : ∀ m ∈ above ++ line :: below, '\n' ∉ m := fun m hm => Text.notMem_of_mem_lines (ht ▸ hm)
  have habove : (∀ m ∈ above, Parses m) ↔ ∀ m ∈ above, SuffixLine.ofText m ≠ .invalid :=
    forall₂_congr fun m hm => parses_line_iff (hlf m (List.mem_append_left _ hm))
  rw [habove, parses_line_iff (hlf line (by simp)), not_not, Nat.add_comm 1]

/-! ## Lists with the same rules -/

theorem sameRules_iff : l.sameRules l' = true ↔ ∀ r, r ∈ l.rules ↔ r ∈ l'.rules := by
  simp only [sameRules, Bool.and_eq_true, List.all_eq_true, decide_eq_true_eq]
  exact ⟨fun h r => ⟨h.1 r, h.2 r⟩, fun h => ⟨fun r => (h r).1, fun r => (h r).2⟩⟩

theorem search_congr (h : ∀ r, r ∈ l.rules ↔ r ∈ l'.rules) (longer : Option (List Text)) (ls : List Text) :
    l.search longer ls = l'.search longer ls := by
  have hexact : ∀ name, l.isExact name = l'.isExact name := fun name => by simp [isExact, h]
  have hwildcard : ∀ name, l.isWildcard name = l'.isWildcard name := fun name => by simp [isWildcard, h]
  have hexception : ∀ name, l.isException name = l'.isException name := fun name => by simp [isException, h]
  induction ls generalizing longer with
  | nil => rfl
  | cons x rest ih => simp only [search, hexact, hwildcard, hexception, ih]

/-- **Domains depend on the rules of a list only,** not on how the list came to have them. -/
theorem registrable?_congr (h : ∀ r, r ∈ l.rules ↔ r ∈ l'.rules) (host : Text) :
    l.registrable? host = l'.registrable? host := by
  rw [registrable?, search_congr h, registrable?]

/-- no rule is counted twice, so lists are of one size if they have the same rules -/
theorem size_congr (h : ∀ r, r ∈ l.rules ↔ r ∈ l'.rules) : l.size = l'.size :=
  ((List.perm_ext_iff_of_nodup l.nodup l'.nodup).2 h).length_eq

/-! ## Changes that a list does not notice -/

/-- lines of the one text and of the other say the same, those apart that say nothing -/
def SaysSame (t t' : Text) : Prop :=
  ∀ s, s ≠ .nothing → (s ∈ t.lines.map SuffixLine.ofText ↔ s ∈ t'.lines.map SuffixLine.ofText)

theorem SaysSame.exists_read (h : SaysSame t t') (hl : read (.ofText t) = .ok l) :
    ∃ l', read (.ofText t') = .ok l' ∧ ∀ r, r ∈ l.rules ↔ r ∈ l'.rules := by
  have hparses : Parses t' := by
    rw [parses_iff_readable]
    intro line hline hinvalid
    have hmem := (h .invalid SuffixLine.noConfusion).2 (List.mem_map.2 ⟨line, hline, hinvalid⟩)
    obtain ⟨m, hm, hm'⟩ := List.mem_map.1 hmem
    exact parses_iff_readable.1 ⟨l, hl⟩ m hm hm'
  obtain ⟨l', hl'⟩ := hparses
  refine ⟨l', hl', ?_⟩
  intro r
  rw [mem_rules_of_read_ofText hl, mem_rules_of_read_ofText hl', ← List.mem_map, ← List.mem_map]
  exact h (.rule r) SuffixLine.noConfusion

/-- a line that says nothing: blanks, and a comment perhaps -/
inductive Idle : Text → Prop where
  | blank {line : Text} (h : ∀ c ∈ line, Text.isBlank c = true) : Idle line
  | comment {front : Text} (h : ∀ c ∈ front, Text.isBlank c = true) (rest : Text) : Idle (front ++ '/' :: '/' :: rest)

/-- a change of a text that the list read from it does not notice -/
inductive Rewording : Text → Text → Prop where
  /-- lines in another order, more often or less often, with other blanks around them -/
  | rearranged {t t' : Text} (h : ∀ line, line ∈ t.lines.map Text.trim ↔ line ∈ t'.lines.map Text.trim) :
      Rewording t t'
  /-- letters in another case -/
  | recased {t t' : Text} (h : Text.lowerAscii t = Text.lowerAscii t') : Rewording t t'
  /-- a blank line or a comment more -/
  | annotated {t t' line : Text} {above below : List Text} (ht : t.lines = above ++ below)
      (ht' : t'.lines = above ++ line :: below) (h : Idle line) : Rewording t t'
  /-- something else behind the first word of a line -/
  | extended {t t' front word rest rest' : Text} {above below : List Text}
      (ht : t.lines = above ++ (front ++ (word ++ rest)) :: below)
      (ht' : t'.lines = above ++ (front ++ (word ++ rest')) :: below)
      (hfront : ∀ c ∈ front, Text.isBlank c = true) (hword : word ≠ [] ∧ ∀ c ∈ word, Text.isBlank c = false)
      (hrest : ∀ c ∈ rest.head?, Text.isBlank c = true) (hrest' : ∀ c ∈ rest'.head?, Text.isBlank c = true) :
      Rewording t t'

theorem Idle.ofText (h : Idle line) : SuffixLine.ofText line = .nothing := by
  cases h with
  | blank h =>
    rw [SuffixLine.ofText, Text.firstWord?_eq_none_iff.2 h]
  | comment h rest =>
    refine SuffixLine.ofText_of_isComment (w := '/' :: '/' :: rest.takeWhile (!Text.isBlank ·)) ?_ ⟨_, rfl⟩
    rw [Text.firstWord?_blanks_append h, Text.firstWord?_eq_some_iff_scan]
    exact ⟨List.cons_ne_nil _ _, rfl⟩

theorem Rewording.saysSame (h : Rewording t t') : SaysSame t t' := by
  intro s hs
  cases h with
  | rearranged h =>
    have htrim : ∀ t : Text, t.lines.map SuffixLine.ofText = (t.lines.map Text.trim).map SuffixLine.ofText := by
      intro t
      rw [List.map_map]
      exact List.map_congr_left fun line _ => (SuffixLine.ofText_trim line).symm
    rw [htrim t, htrim t', List.mem_map, List.mem_map]
    exact exists_congr fun line => and_congr_left fun _ => h line
  | recased h =>
    have hlower : ∀ t : Text, t.lines.map SuffixLine.ofText = (Text.lowerAscii t).lines.map SuffixLine.ofText := by
      intro t
      rw [Text.lines_lowerAscii, List.map_map]
      exact List.map_congr_left fun line _ => (SuffixLine.ofText_lowerAscii line).symm
    rw [hlower t, hlower t', h]
  | annotated ht ht' h =>
    rw [ht, ht', List.map_append, List.map_append, List.map_cons, h.ofText]
    simp [hs]
  | @extended front word rest rest' above below ht ht' hfront hword hrest hrest' =>
    have hfirst : ∀ r : Text, (∀ c ∈ r.head?, Text.isBlank c = true) →
        Text.firstWord? (front ++ (word ++ r)) = some word := fun r hr =>
      Text.firstWord?_eq_some_iff.2 ⟨hword, front, r, rfl, hfront, hr⟩
    have hline : SuffixLine.ofText (front ++ (word ++ rest)) = SuffixLine.ofText (front ++ (word ++ rest')) :=
      SuffixLine.ofText_congr (by rw [hfirst rest hrest, hfirst rest' hrest'])
    rw [ht, ht', List.map_append, List.map_append, List.map_cons, List.map_cons, hline]

theorem saysSame_of_chain (h : Relation.ReflTransGen Rewording t t') : SaysSame t t' := by
  induction h with
  | refl => exact fun s _ => Iff.rfl
  | tail _ hlast ih => exact fun s hs => (ih s hs).trans (hlast.saysSame s hs)

/-- **A suffix list is the union of its lines.** A text is a suffix list exactly if each of its lines is one, and holds
the rules that these hold; otherwise the error names the first line that is none, by its number and as it stands. So a
list is the same, is as long and gives the same domains when the lines of its text are put in another order or repeated,
when letters change their case, when blank lines and comments are added, and when something is written behind the first
word of a line, any number of times and one after the other. -/
theorem read_is_union_of_lines (t : Text) :
    (Parses t ↔ ∀ line ∈ t.lines, Parses line) ∧
    (∀ l, read (.ofText t) = .ok l →
      ∀ r, r ∈ l.rules ↔ ∃ line ∈ t.lines, ∃ l₁, read (.ofText line) = .ok l₁ ∧ r ∈ l₁.rules) ∧
    (∀ e, read (.ofText t) = .error e ↔ ∃ above line below, t.lines = above ++ line :: below ∧
      (∀ m ∈ above, Parses m) ∧ ¬ Parses line ∧ e = .invalidRule (above.length + 1) line) ∧
    ∀ l t', read (.ofText t) = .ok l → Relation.ReflTransGen Rewording t t' →
      ∃ l', read (.ofText t') = .ok l' ∧ l.sameRules l' = true ∧ l.size = l'.size ∧
        ∀ host, l.registrable? host = l'.registrable? host := by
  refine ⟨parses_iff_lines, ?_, ?_, ?_⟩
  · intro l hl r
    exact mem_rules_iff_lines hl r
  · intro e
    exact read_eq_error_iff
  intro l t' hl h
  obtain ⟨l', hl', hrules⟩ := (saysSame_of_chain h).exists_read hl
  exact ⟨l', hl', sameRules_iff.2 hrules, size_congr hrules, registrable?_congr hrules⟩

/-- two lines in another order, in capitals, with a comment and with a word more, where one of them stands twice; and a
line that is none, below one that is -/
theorem read_is_union_of_lines_ck :
    (∃ l l', read (.ofText "com\n*.ck\n".toList) = .ok l ∧
      read (.ofText "// Cook Islands\n*.CK any\nCOM\nCOM\n".toList) = .ok l' ∧ l.sameRules l' = true ∧
      ∀ host, l.registrable? host = l'.registrable? host) ∧
    read (.ofText "com\n*com\n".toList) = .error (.invalidRule 2 "*com".toList) := by
  constructor
  · have hl : read (.ofText "com\n*.ck\n".toList) = .ok ⟨[.wildcard "ck".toList, .exact "com".toList], by decide⟩ := rfl
    have horder : Rewording "com\n*.ck\n".toList "*.ck\ncom\ncom\n".toList := by
      apply Rewording.rearranged
      intro line
      change line ∈ ["com".toList, "*.ck".toList] ↔ line ∈ ["*.ck".toList, "com".toList, "com".toList]
      simp only [List.mem_cons, List.not_mem_nil]
      tauto
    have hcase : Rewording "*.ck\ncom\ncom\n".toList "*.CK\nCOM\nCOM\n".toList := .recased (by decide)
    have hword : Rewording "*.CK\nCOM\nCOM\n".toList "*.CK any\nCOM\nCOM\n".toList := by
      apply @Rewording.extended _ _ [] "*.CK".toList [] " any".toList [] ["COM".toList, "COM".toList] rfl rfl
      · simp
      · simp [Text.isBlank]
      · simp
      · simp [Text.isBlank]
    have hcomment : Rewording "*.CK any\nCOM\nCOM\n".toList "// Cook Islands\n*.CK any\nCOM\nCOM\n".toList :=
      @Rewording.annotated _ _ _ [] _ rfl rfl (.comment (List.forall_mem_nil _) " Cook Islands".toList)
    obtain ⟨-, -, -, hreworded⟩ := read_is_union_of_lines "com\n*.ck\n".toList
    obtain ⟨l', hl', hsame, -, hdomain⟩ := hreworded _ _ hl ((((Relation.ReflTransGen.single horder).tail hcase).tail
      hword).tail hcomment)
    exact ⟨_, l', hl, hl', hsame, hdomain⟩
  · obtain ⟨-, -, herror, -⟩ := read_is_union_of_lines "com\n*com\n".toList
    refine (herror _).2 ⟨["com".toList], "*com".toList, [], rfl, List.forall_mem_singleton.2 ⟨_, rfl⟩, ?_, rfl⟩
    rintro ⟨l, hl⟩
    cases hl

end SuffixList

end CrawlFilter
