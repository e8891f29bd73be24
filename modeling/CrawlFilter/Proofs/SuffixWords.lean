/-
Words of suffix lists. A line of a suffix list is read by its first word, and the word by the marks in front of it; what
follows the word, the blanks around it and the case of its letters are of no account.

- `firstWord?_eq_some_iff` / `firstWord?_eq_none_iff`: which text has which first word, and which has none.
- `firstWord?_trim` / `firstWord?_lowerAscii`: the first word of a text that was trimmed or put in lower case.
- `ofText_eq_rule_iff` / `ofText_eq_nothing_iff`: which lines say a rule, and which say nothing.
- `ofText_congr`: lines whose first words differ in the case of letters say the same.
-/
import CrawlFilter.Proofs.Scans
import CrawlFilter.Proofs.Trimming
import CrawlFilter.SuffixList

namespace CrawlFilter

/-! ## First words -/

namespace Text

theorem firstWord?_eq_some_iff_scan {t w : Text} :
    firstWord? t = some w ↔ w ≠ [] ∧ (t.dropWhile isBlank).takeWhile (!isBlank ·) = w := by
  unfold firstWord?
  split
  · rename_i h
    rw [h]
    constructor
    · rintro ⟨⟩
    · rintro ⟨hne, rfl⟩
      exact absurd rfl hne
  · rename_i h
    constructor
    · rintro ⟨⟩
      exact ⟨fun hw => h hw, rfl⟩
    · rintro ⟨-, rfl⟩
      rfl

/-- the first word of a text stands behind blanks and ends at the next blank or with the text -/
theorem firstWord?_eq_some_iff {t w : Text} :
    firstWord? t = some w ↔ (w ≠ [] ∧ ∀ c ∈ w, isBlank c = false) ∧
      ∃ front rest, t = front ++ (w ++ rest) ∧ (∀ c ∈ front, isBlank c = true) ∧ ∀ c ∈ rest.head?, isBlank c = true := by
  rw [firstWord?_eq_some_iff_scan]
  constructor
  · rintro ⟨hne, hw⟩
    obtain ⟨ht, hfront, -⟩ := (scan_iff (p := isBlank) (t := t)).1 ⟨rfl, rfl⟩
    obtain ⟨hd, hword, hrest⟩ := (scan_iff (p := (!isBlank ·)) (t := t.dropWhile isBlank)).1 ⟨hw, rfl⟩
    refine ⟨⟨hne, fun c hc => by simpa using hword c hc⟩, _, _, ?_, hfront, fun c hc => by simpa using hrest c hc⟩
    rw [← hd, ← ht]
  · rintro ⟨⟨hne, hw⟩, front, rest, rfl, hfront, hrest⟩
    have hhead : ∀ c ∈ (w ++ rest).head?, isBlank c = false := by
      intro c hc
      cases w with
      | nil => exact absurd rfl hne
      | cons x xs => exact hw c (by simp_all)
    have hword : ∀ c ∈ w, (!isBlank c) = true := fun c hc => by simp [hw c hc]
    have hend : ∀ c ∈ rest.head?, (!isBlank c) = false := fun c hc => by simp [hrest c hc]
    rw [(scan_iff.2 ⟨rfl, hfront, hhead⟩).2]
    exact ⟨hne, (scan_iff.2 ⟨rfl, hword, hend⟩).1⟩

theorem firstWord?_eq_none_iff {t : Text} : firstWord? t = none ↔ ∀ c ∈ t, isBlank c = true := by
  rw [← List.dropWhile_eq_nil_iff, Option.eq_none_iff_forall_ne_some]
  constructor
  · intro h
    by_contra hne
    obtain ⟨c, cs, hd⟩ := List.exists_cons_of_ne_nil hne
    -- what blanks are dropped in front of begins with a word
    have hc : isBlank c = false := (scan_iff.1 ⟨rfl, hd⟩).2.2 c rfl
    refine h _ (firstWord?_eq_some_iff_scan.2 ⟨?_, rfl⟩)
    rw [hd, List.takeWhile_cons_of_pos (by simp [hc])]
    exact List.cons_ne_nil _ _
  · intro hd w hw
    obtain ⟨hne, rfl⟩ := firstWord?_eq_some_iff_scan.1 hw
    rw [hd] at hne
    exact hne rfl

theorem firstWord?_blanks_append {front : Text} (h : ∀ c ∈ front, isBlank c = true) (t : Text) :
    firstWord? (front ++ t) = firstWord? t := by
  rw [firstWord?, List.dropWhile_append_of_pos h, firstWord?]

theorem firstWord?_append_blanks {back : Text} (h : ∀ c ∈ back, isBlank c = true) (t : Text) :
    firstWord? (t ++ back) = firstWord? t := by
  cases ht : firstWord? t with
  | none =>
    rw [firstWord?_eq_none_iff] at ht ⊢
    exact List.forall_mem_append.2 ⟨ht, h⟩
  | some w =>
    obtain ⟨hw, front, rest, rfl, hfront, hrest⟩ := firstWord?_eq_some_iff.1 ht
    refine firstWord?_eq_some_iff.2 ⟨hw, front, rest ++ back, by simp, hfront, fun c hc => ?_⟩
    rw [List.head?_append] at hc
    rcases Option.or_eq_some_iff.1 hc with hc | ⟨-, hc⟩
    · exact hrest c hc
    · exact h c (List.mem_of_mem_head? hc)

/-- what dropping at both ends takes away satisfies the condition -/
theorem exists_eq_append_dropped (p : Char → Bool) (t : Text) :
    ∃ front back, t = front ++ dropEndWhile p (t.dropWhile p) ++ back ∧ (∀ c ∈ front, p c = true) ∧
      ∀ c ∈ back, p c = true := by
  refine ⟨t.takeWhile p, (t.dropWhile p).rtakeWhile p, ?_, ?_, ?_⟩
  · rw [dropEndWhile_eq, List.append_assoc, List.rdropWhile_append_rtakeWhile, List.takeWhile_append_dropWhile]
  · exact fun c hc => List.mem_takeWhile_imp hc
  · exact fun c hc => List.mem_rtakeWhile_imp hc

theorem firstWord?_trim (t : Text) : firstWord? (trim t) = firstWord? t := by
  obtain ⟨front, back, ht, hfront, hback⟩ := exists_eq_append_dropped isBlank t
  rw [← trim] at ht
  conv_rhs => rw [ht]
  rw [firstWord?_append_blanks hback, firstWord?_blanks_append hfront]

theorem firstWord?_lowerAscii (t : Text) : firstWord? (lowerAscii t) = (firstWord? t).map lowerAscii := by
  have hblank : ∀ {b : Bool} {s : Text}, (∀ c ∈ s, isBlank c = b) → ∀ c ∈ lowerAscii s, isBlank c = b := by
    intro b s hs
    refine List.forall_mem_map.2 fun c hc => ?_
    rw [isBlank_toLower, hs c hc]
  cases h : firstWord? t with
  | none =>
    rw [firstWord?_eq_none_iff] at h
    exact firstWord?_eq_none_iff.2 (hblank h)
  | some w =>
    obtain ⟨⟨hne, hw⟩, front, rest, rfl, hfront, hrest⟩ := firstWord?_eq_some_iff.1 h
    have hne' : lowerAscii w ≠ [] := mt lowerAscii_eq_nil_iff.1 hne
    refine firstWord?_eq_some_iff.2
      ⟨⟨hne', hblank hw⟩, lowerAscii front, lowerAscii rest, by simp, hblank hfront, fun c hc => ?_⟩
    rw [lowerAscii, List.head?_map] at hc
    obtain ⟨d, hd, rfl⟩ := Option.map_eq_some_iff.1 hc
    rw [isBlank_toLower, hrest d hd]

/-- a text that in lower case begins with a character that is no letter begins with this character -/
theorem exists_cons_of_lowerAscii_eq {x : Char} (hx : x.isAlpha = false) {t s : Text}
    (h : lowerAscii t = lowerAscii (x :: s)) : ∃ s', t = x :: s' ∧ lowerAscii s' = lowerAscii s := by
  cases t with
  | nil => cases h
  | cons c cs =>
    obtain ⟨hc, hcs⟩ := List.cons.inj h
    rw [(toLower_eq_iff hx).2 rfl, toLower_eq_iff hx] at hc
    subst hc
    exact ⟨cs, rfl, hcs⟩

theorem mem_iff_of_lowerAscii_eq {x : Char} (hx : x.isAlpha = false) {s t : Text} (h : lowerAscii s = lowerAscii t) :
    x ∈ s ↔ x ∈ t := by
  rw [← mem_lowerAscii_iff hx, h, mem_lowerAscii_iff hx]

end Text

/-! ## What words say -/

theorem normalizeSuffix_congr {s t : Text} (h : Text.lowerAscii s = Text.lowerAscii t) :
    normalizeSuffix s = normalizeSuffix t := by
  have hdot : ∀ c : Char, (c.toLower == '.') = (c == '.') := Text.toLower_beq (by decide)
  have hlower : ∀ t, normalizeSuffix t = Text.trimChar '.' (Text.lowerAscii t) := by
    intro t
    rw [normalizeSuffix, Text.trimChar, Text.trimChar, Text.dropWhile_lowerAscii hdot, Text.dropEndWhile_lowerAscii hdot]
  rw [hlower, h, hlower]

/-- a word that begins a comment -/
def IsComment (w : Text) : Prop := ['/', '/'] <+: w

/-- the rule that a word says, unless it begins a comment -/
inductive WordSays : Text → SuffixRule → Prop where
  | exception {name : Text} (hne : name ≠ []) (hstar : '*' ∉ name) :
      WordSays ('!' :: name) (.exception (normalizeSuffix name))
  | wildcard {name : Text} (hne : name ≠ []) (hstar : '*' ∉ name) :
      WordSays ('*' :: '.' :: name) (.wildcard (normalizeSuffix name))
  | exact {name : Text} (hcomment : ¬ IsComment name) (hstar : '*' ∉ name) (hmark : '!' ∉ name) :
      WordSays name (.exact (normalizeSuffix name))

theorem isComment_of_lowerAscii_eq {w w' : Text} (h : Text.lowerAscii w' = Text.lowerAscii w) (hw : IsComment w) :
    IsComment w' := by
  obtain ⟨rest, rfl⟩ := hw
  obtain ⟨s, rfl, hs⟩ := Text.exists_cons_of_lowerAscii_eq (by decide) h
  obtain ⟨r, rfl, -⟩ := Text.exists_cons_of_lowerAscii_eq (by decide) hs
  exact ⟨r, rfl⟩

theorem WordSays.of_lowerAscii_eq {w w' : Text} {r : SuffixRule} (hw : WordSays w r)
    (h : Text.lowerAscii w' = Text.lowerAscii w) : WordSays w' r := by
  have hmem : ∀ {x : Char} {s t : Text}, x.isAlpha = false → Text.lowerAscii s = Text.lowerAscii t → x ∉ t → x ∉ s :=
    fun hx hst => mt (Text.mem_iff_of_lowerAscii_eq hx hst).1
  have hnil : ∀ {s t : Text}, Text.lowerAscii s = Text.lowerAscii t → t ≠ [] → s ≠ [] := by
    rintro s t hst hne rfl
    exact hne (Text.lowerAscii_eq_nil_iff.1 hst.symm)
  cases hw with
  | exception hne hstar =>
    obtain ⟨s, rfl, hs⟩ := Text.exists_cons_of_lowerAscii_eq (by decide) h
    rw [← normalizeSuffix_congr hs]
    exact .exception (hnil hs hne) (hmem (by decide) hs hstar)
  | wildcard hne hstar =>
    obtain ⟨s, rfl, hs⟩ := Text.exists_cons_of_lowerAscii_eq (by decide) h
    obtain ⟨s, rfl, hs'⟩ := Text.exists_cons_of_lowerAscii_eq (by decide) hs
    rw [← normalizeSuffix_congr hs']
    exact .wildcard (hnil hs' hne) (hmem (by decide) hs' hstar)
  | exact hcomment hstar hmark =>
    rw [← normalizeSuffix_congr h]
    exact .exact (mt (isComment_of_lowerAscii_eq h.symm) hcomment) (hmem (by decide) h hstar) (hmem (by decide) h hmark)

section WordSays

variable {name w : Text} {r : SuffixRule}

theorem wordSays_exception_iff :
    WordSays ('!' :: name) r ↔ (name ≠ [] ∧ '*' ∉ name) ∧ r = .exception (normalizeSuffix name) := by
  constructor
  · intro h
    cases h with
    | exception hne hstar => exact ⟨⟨hne, hstar⟩, rfl⟩
    | exact _ _ hmark => exact absurd List.mem_cons_self hmark
  · rintro ⟨⟨hne, hstar⟩, rfl⟩
    exact .exception hne hstar

theorem wordSays_wildcard_iff :
    WordSays ('*' :: '.' :: name) r ↔ (name ≠ [] ∧ '*' ∉ name) ∧ r = .wildcard (normalizeSuffix name) := by
  constructor
  · intro h
    cases h with
    | wildcard hne hstar => exact ⟨⟨hne, hstar⟩, rfl⟩
    | exact _ hstar _ => exact absurd List.mem_cons_self hstar
  · rintro ⟨⟨hne, hstar⟩, rfl⟩
    exact .wildcard hne hstar

theorem wordSays_exact_iff (hcomment : ¬ IsComment w) (hexception : ∀ name, w ≠ '!' :: name)
    (hwildcard : ∀ name, w ≠ '*' :: '.' :: name) :
    WordSays w r ↔ ('*' ∉ w ∧ '!' ∉ w) ∧ r = .exact (normalizeSuffix w) := by
  constructor
  · intro h
    cases h with
    | exception => exact absurd rfl (hexception _)
    | wildcard => exact absurd rfl (hwildcard _)
    | exact _ hstar hmark => exact ⟨⟨hstar, hmark⟩, rfl⟩
  · rintro ⟨⟨hstar, hmark⟩, rfl⟩
    exact .exact hcomment hstar hmark

theorem WordSays.not_isComment (h : WordSays w r) : ¬ IsComment w := by
  cases h with
  | exception => simp [IsComment]
  | wildcard => simp [IsComment]
  | exact hcomment => exact hcomment

end WordSays

namespace SuffixLine

variable {line : Text}

theorem ofText_of_isComment {w : Text} (h : Text.firstWord? line = some w) (hw : IsComment w) :
    ofText line = .nothing := by
  obtain ⟨rest, rfl⟩ := hw
  rw [ofText, h]
  rfl

/-- a word that begins no comment has one rule to say, and says it unless it is refused -/
theorem exists_ofText_eq {w : Text} (h : Text.firstWord? line = some w) (hw : ¬ IsComment w) :
    ∃ (refused : Bool) (x : SuffixRule), ofText line = (if refused then .invalid else .rule x) ∧
      ∀ r, WordSays w r ↔ refused = false ∧ r = x := by
  rw [ofText, h]
  split
  · rename_i heq
    cases heq
  · rename_i heq
    cases heq
    exact absurd ⟨_, rfl⟩ hw
  · rename_i name heq
    cases heq
    refine ⟨_, _, rfl, fun r => ?_⟩
    rw [wordSays_exception_iff]
    simp
  · rename_i name heq
    cases heq
    refine ⟨_, _, rfl, fun r => ?_⟩
    rw [wordSays_wildcard_iff]
    simp
  · rename_i name _ hexception hwildcard heq
    cases heq
    refine ⟨_, _, rfl, fun r => ?_⟩
    rw [wordSays_exact_iff hw (fun n e => hexception n (e ▸ rfl)) fun n e => hwildcard n (e ▸ rfl)]
    simp

theorem ofText_eq_rule_iff {r : SuffixRule} :
    ofText line = .rule r ↔ ∃ w, Text.firstWord? line = some w ∧ WordSays w r := by
  cases h : Text.firstWord? line with
  | none => simp [ofText, h]
  | some w =>
    simp only [Option.some.injEq, exists_eq_left']
    by_cases hw : IsComment w
    · rw [ofText_of_isComment h hw]
      exact iff_of_false SuffixLine.noConfusion fun hr => hr.not_isComment hw
    · obtain ⟨refused, x, hx, hrules⟩ := exists_ofText_eq h hw
      rw [hx, hrules]
      cases refused <;> simp [eq_comm]

theorem ofText_eq_nothing_iff : ofText line = .nothing ↔ ∀ w, Text.firstWord? line = some w → IsComment w := by
  cases h : Text.firstWord? line with
  | none => simp [ofText, h]
  | some w =>
    simp only [Option.some.injEq, forall_eq']
    refine ⟨fun hn => ?_, ofText_of_isComment h⟩
    by_contra hw
    obtain ⟨refused, x, hx, -⟩ := exists_ofText_eq h hw
    rw [hx] at hn
    cases refused <;> cases hn

/-- lines that say the same rules, and that say nothing alike, are read alike -/
theorem ext {s s' : SuffixLine} (hrule : ∀ r, s = .rule r ↔ s' = .rule r) (hnothing : s = .nothing ↔ s' = .nothing) :
    s = s' := by
  cases s with
  | nothing => exact (hnothing.1 rfl).symm
  | rule r => exact ((hrule r).1 rfl).symm
  | invalid =>
    cases s' with
    | nothing => exact hnothing.2 rfl
    | rule r => exact (hrule r).2 rfl
    | invalid => rfl

/-- **Lines whose first words differ in the case of letters** say the same. -/
theorem ofText_congr {line' : Text}
    (h : (Text.firstWord? line).map Text.lowerAscii = (Text.firstWord? line').map Text.lowerAscii) :
    ofText line = ofText line' := by
  cases hl : Text.firstWord? line with
  | none =>
    rw [hl, Option.map_none, eq_comm, Option.map_eq_none_iff] at h
    rw [ofText, ofText, hl, h]
  | some w =>
    rw [hl, Option.map_some, eq_comm, Option.map_eq_some_iff] at h
    obtain ⟨w', hl', hw⟩ := h
    apply ext
    · intro r
      simp only [ofText_eq_rule_iff, hl, hl', Option.some.injEq, exists_eq_left']
      exact ⟨fun hr => hr.of_lowerAscii_eq hw, fun hr => hr.of_lowerAscii_eq hw.symm⟩
    · simp only [ofText_eq_nothing_iff, hl, hl', Option.some.injEq, forall_eq']
      exact ⟨isComment_of_lowerAscii_eq hw, isComment_of_lowerAscii_eq hw.symm⟩

theorem ofText_trim (line : Text) : ofText (Text.trim line) = ofText line :=
  ofText_congr (by rw [Text.firstWord?_trim])

theorem ofText_lowerAscii (line : Text) : ofText (Text.lowerAscii line) = ofText line := by
  apply ofText_congr
  have hlower : Text.lowerAscii ∘ Text.lowerAscii = Text.lowerAscii :=
    funext fun t => Text.lowerAscii_eq_self_iff.2 fun c hc => by
      obtain ⟨d, -, rfl⟩ := List.mem_map.1 hc
      exact Text.isUpper_toLower d
  rw [Text.firstWord?_lowerAscii, Option.map_map, hlower]

end SuffixLine

end CrawlFilter
