/-
The names that a suffix list keeps. What is read as a rule has its name normalized afterwards: the dots at its ends go,
and its letters become small. The marks are checked before that, so a word of dots leaves a rule with no name; and only
a name without a mark in front is checked for an exclamation mark.

- `normalizeSuffix_eq_nil_iff` / `mem_normalizeSuffix_iff`: what is left of a name.
- `WordSays.name_eq`: the name of a rule is what its word says, normalized.
- `TidyName` / `ProperName`: the shape of every name kept, and the shape that names are meant to have.
- `names_proper_iff`: the words for which they have it.
- `improper_names_kept`: words for which they have not.
-/
import CrawlFilter.Proofs.ByteStreams
import CrawlFilter.Proofs.SuffixReading
import CrawlFilter.Proofs.SuffixWords

namespace CrawlFilter

/-! ## Normalized names -/

namespace Text

variable {x c : Char} {t : Text}

theorem trimChar_sublist (x : Char) (t : Text) : (trimChar x t).Sublist t :=
  (List.rdropWhile_prefix (· == x) _).sublist.trans (List.dropWhile_suffix (· == x)).sublist

/-- only the character that is dropped can be lost -/
theorem mem_trimChar_iff (hc : c ≠ x) : c ∈ trimChar x t ↔ c ∈ t := by
  constructor
  · intro h
    exact (trimChar_sublist x t).subset h
  · intro h
    obtain ⟨front, back, ht, hfront, hback⟩ := exists_eq_append_dropped (· == x) t
    rw [← trimChar] at ht
    rw [ht, List.mem_append, List.mem_append] at h
    rcases h with (h | h) | h
    · exact absurd (beq_iff_eq.1 (hfront c h)) hc
    · exact h
    · exact absurd (beq_iff_eq.1 (hback c h)) hc

theorem trimChar_eq_nil_iff : trimChar x t = [] ↔ ∀ c ∈ t, c = x := by
  constructor
  · intro hnil c hc
    by_contra hne
    rw [← mem_trimChar_iff hne, hnil] at hc
    exact List.not_mem_nil hc
  · intro hall
    rw [trimChar, List.dropWhile_eq_nil_iff.2 fun c hc => beq_iff_eq.2 (hall c hc)]
    rfl

theorem head?_trimChar_ne (x : Char) (t : Text) : (trimChar x t).head? ≠ some x := by
  intro h
  have hkeep : (trimChar x t).dropWhile (· == x) = trimChar x t :=
    dropWhile_dropEndWhile _ (List.dropWhile_idempotent (· == x) t)
  obtain ⟨rest, hrest⟩ := List.head?_eq_some_iff.1 h
  rw [hrest] at hkeep
  exact List.dropWhile_eq_self_iff.1 hkeep (Nat.succ_pos _) (beq_self_eq_true x)

theorem getLast?_trimChar_ne (x : Char) (t : Text) : (trimChar x t).getLast? ≠ some x := by
  intro h
  have hkeep : dropEndWhile (· == x) (trimChar x t) = trimChar x t := List.rdropWhile_idempotent (· == x) _
  have hx : (x == x) = false := dropEndWhile_eq_self_iff.1 hkeep x h
  rw [beq_self_eq_true] at hx
  cases hx

end Text

section normalizeSuffix

variable {x : Char} {t : Text}

/-- nothing is left of a name that is made of dots -/
theorem normalizeSuffix_eq_nil_iff : normalizeSuffix t = [] ↔ ∀ c ∈ t, c = '.' := by
  rw [normalizeSuffix, Text.lowerAscii_eq_nil_iff, Text.trimChar_eq_nil_iff]

theorem mem_normalizeSuffix_iff (hx : x.isAlpha = false) (hdot : x ≠ '.') : x ∈ normalizeSuffix t ↔ x ∈ t := by
  rw [normalizeSuffix, Text.mem_lowerAscii_iff hx, Text.mem_trimChar_iff hdot]

end normalizeSuffix

/-! ## Names of rules -/

/-- the name that a rule is about -/
def SuffixRule.name : SuffixRule → Text
  | .exact name => name
  | .wildcard name => name
  | .exception name => name

/-- what stands behind the mark of a word, if it has one -/
def bareWord : Text → Text
  | '!' :: name => name
  | '*' :: '.' :: name => name
  | name => name

theorem bareWord_eq_self {w : Text} (hstar : '*' ∉ w) (hmark : '!' ∉ w) : bareWord w = w := by
  unfold bareWord
  split
  · exact absurd List.mem_cons_self hmark
  · exact absurd List.mem_cons_self hstar
  · rfl

theorem bareWord_suffix (w : Text) : bareWord w <:+ w := by
  unfold bareWord
  split
  · exact List.suffix_cons _ _
  · exact ⟨['*', '.'], rfl⟩
  · exact List.suffix_rfl

theorem WordSays.name_eq {w : Text} {r : SuffixRule} (h : WordSays w r) : r.name = normalizeSuffix (bareWord w) := by
  cases h with
  | exception => rfl
  | wildcard => rfl
  | exact _ hstar hmark => rw [bareWord_eq_self hstar hmark, SuffixRule.name]

theorem WordSays.notMem_bareWord {w : Text} {r : SuffixRule} (h : WordSays w r) : '*' ∉ bareWord w := by
  cases h with
  | exception _ hstar => exact hstar
  | wildcard _ hstar => exact hstar
  | exact _ hstar hmark => rwa [bareWord_eq_self hstar hmark]

/-- the shape of every name that a list keeps -/
structure TidyName (name : Text) : Prop where
  noStar : '*' ∉ name
  noBlank : ∀ c ∈ name, Text.isBlank c = false
  noCapital : ∀ c ∈ name, c.isUpper = false
  noDotInFront : name.head? ≠ some '.'
  noDotBehind : name.getLast? ≠ some '.'

/-- the shape that a name is meant to have -/
structure ProperName (name : Text) : Prop extends TidyName name where
  nonempty : name ≠ []
  noMark : '!' ∉ name

theorem tidyName_normalizeSuffix {t : Text} (hstar : '*' ∉ t) (hblank : ∀ c ∈ t, Text.isBlank c = false) :
    TidyName (normalizeSuffix t) where
  noStar := mt (mem_normalizeSuffix_iff (by decide) (by decide)).1 hstar
  noBlank := by
    intro c hc
    obtain ⟨d, hd, rfl⟩ := List.mem_map.1 hc
    rw [Text.isBlank_toLower]
    exact hblank d ((Text.trimChar_sublist '.' t).subset hd)
  noCapital := by
    intro c hc
    obtain ⟨d, -, rfl⟩ := List.mem_map.1 hc
    exact Text.isUpper_toLower d
  noDotInFront := by
    rw [normalizeSuffix, Ne, Text.head?_lowerAscii_iff (by decide)]
    exact Text.head?_trimChar_ne '.' t
  noDotBehind := by
    rw [normalizeSuffix, Ne, Text.getLast?_lowerAscii_iff (by decide)]
    exact Text.getLast?_trimChar_ne '.' t

/-- a word says more than dots behind its mark, and has no other mark -/
def Names (w : Text) : Prop := (∃ c ∈ bareWord w, c ≠ '.') ∧ '!' ∉ bareWord w

theorem properName_normalizeSuffix_iff {t : Text} (h : TidyName (normalizeSuffix t)) :
    ProperName (normalizeSuffix t) ↔ (∃ c ∈ t, c ≠ '.') ∧ '!' ∉ t := by
  have hempty : normalizeSuffix t ≠ [] ↔ ∃ c ∈ t, c ≠ '.' := by
    rw [Ne, normalizeSuffix_eq_nil_iff]
    push Not
    rfl
  have hmark : '!' ∉ normalizeSuffix t ↔ '!' ∉ t := not_congr (mem_normalizeSuffix_iff (by decide) (by decide))
  rw [← hempty, ← hmark]
  exact ⟨fun hp => ⟨hp.nonempty, hp.noMark⟩, fun ⟨hne, hm⟩ => { h with nonempty := hne, noMark := hm }⟩

theorem WordSays.tidyName {line w : Text} {r : SuffixRule} (h : WordSays w r) (hw : Text.firstWord? line = some w) :
    TidyName r.name := by
  obtain ⟨⟨-, hblank⟩, -⟩ := Text.firstWord?_eq_some_iff.1 hw
  rw [h.name_eq]
  exact tidyName_normalizeSuffix h.notMem_bareWord fun c hc => hblank c ((bareWord_suffix w).subset hc)

/-- what a word says has a proper name if the word names something -/
theorem WordSays.properName_iff {line w : Text} {r : SuffixRule} (h : WordSays w r)
    (hw : Text.firstWord? line = some w) : ProperName r.name ↔ Names w := by
  have htidy := h.tidyName hw
  rw [h.name_eq] at htidy ⊢
  exact properName_normalizeSuffix_iff htidy

/-- a word that begins no comment says a rule, if its line can be read -/
theorem SuffixLine.exists_wordSays {line w : Text} (hread : ofText line ≠ .invalid)
    (hw : Text.firstWord? line = some w) (hcomment : ¬ IsComment w) : ∃ r, WordSays w r := by
  obtain ⟨refused, x, hx, hrules⟩ := exists_ofText_eq hw hcomment
  cases refused with
  | true => exact absurd hx hread
  | false => exact ⟨x, (hrules x).2 ⟨rfl, rfl⟩⟩

/-! ## Names of lists -/

namespace SuffixList

variable {i : Input} {l : SuffixList}

/-- the rules of a list are those that the first words of its lines say -/
theorem mem_rules_iff_wordSays (h : read i = .ok l) (r : SuffixRule) :
    r ∈ l.rules ↔ ∃ line w, .ok line ∈ i ∧ Text.firstWord? line = some w ∧ WordSays w r := by
  rw [mem_rules_of_readFrom h]
  constructor
  · rintro (hr | ⟨x, hx, line, rfl, hs⟩)
    · exact absurd hr List.not_mem_nil
    · obtain ⟨w, hw, hr⟩ := SuffixLine.ofText_eq_rule_iff.1 hs
      exact ⟨line, w, hx, hw, hr⟩
  · rintro ⟨line, w, hx, hw, hr⟩
    exact .inr ⟨.ok line, hx, line, rfl, SuffixLine.ofText_eq_rule_iff.2 ⟨w, hw, hr⟩⟩

/-- **The names that a list keeps.** None of them has a star, a blank or a capital letter, or a dot at one of its ends.
All of them are nonempty and free of exclamation marks exactly if every word read, apart from comments, says more than
dots behind its mark, and has no exclamation mark there. -/
theorem names_proper_iff (h : read i = .ok l) :
    (∀ r ∈ l.rules, TidyName r.name) ∧
      ((∀ r ∈ l.rules, ProperName r.name) ↔
        ∀ line w, .ok line ∈ i → Text.firstWord? line = some w → ¬ IsComment w → Names w) := by
  refine ⟨?_, ?_, ?_⟩
  · intro r hr
    obtain ⟨line, w, -, hw, hr⟩ := (mem_rules_iff_wordSays h r).1 hr
    exact hr.tidyName hw
  · intro hall line w hx hw hcomment
    obtain ⟨m, e, hread⟩ := exists_readFrom_iff.1 ⟨l, h⟩ (.ok line) hx
    cases e
    obtain ⟨r, hr⟩ := SuffixLine.exists_wordSays hread hw hcomment
    have hmem : r ∈ l.rules := (mem_rules_iff_wordSays h r).2 ⟨line, w, hx, hw, hr⟩
    exact (hr.properName_iff hw).1 (hall r hmem)
  · intro hall r hr
    obtain ⟨line, w, hx, hw, hr⟩ := (mem_rules_iff_wordSays h r).1 hr
    exact (hr.properName_iff hw).2 (hall line w hx hw hr.not_isComment)

/-- a wildcard in capitals with dots around its name, from bytes, below a comment of dots -/
theorem names_proper_iff_ck :
    ∃ l, read (.ofBytes (Utf8.encode "//.!\n*..CK. !\n".toList)) = .ok l ∧ ∀ r ∈ l.rules, ProperName r.name := by
  have hinput : Input.ofBytes (Utf8.encode "//.!\n*..CK. !\n".toList) = [.ok "//.!".toList, .ok "*..CK. !".toList] := by
    rw [Input.ofBytes_encode]
    rfl
  rw [hinput]
  have hl : read [.ok "//.!".toList, .ok "*..CK. !".toList] = .ok ⟨[.wildcard "ck".toList], by decide⟩ := rfl
  refine ⟨_, hl, (names_proper_iff hl).2.2 ?_⟩
  intro line w hx hw hcomment
  rcases List.mem_cons.1 hx with hx | hx
  · cases hx
    cases hw
    exact absurd ⟨".!".toList, rfl⟩ hcomment
  · cases List.mem_singleton.1 hx
    cases hw
    exact ⟨⟨'C', by decide, by decide⟩, by decide⟩

/-- **The marks are checked before the dots go.** A word of one dot is read as a rule without a name, and behind a mark
another exclamation mark is taken for a part of the name. -/
theorem improper_names_kept :
    (read (.ofText ".\n".toList) = .ok ⟨[.exact []], by decide⟩ ∧ ¬ ProperName []) ∧
      (read (.ofText "!!a\n*.!a\n".toList) = .ok ⟨[.wildcard "!a".toList, .exception "!a".toList], by decide⟩ ∧
        ¬ ProperName "!a".toList) :=
  ⟨⟨rfl, fun h => h.nonempty rfl⟩, rfl, fun h => h.noMark List.mem_cons_self⟩

end SuffixList

end CrawlFilter
