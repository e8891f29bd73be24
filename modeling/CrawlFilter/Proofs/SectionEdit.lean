/-
Editing one section of a rule file. A section is what stands between the line that opens a scope and the next line that
closes it. Its rules carry its scope; the lines around it are read as if it were not there. So whatever is done inside
a section, URLs whose hosts do not lie within its scope are decided by the same rules as before.

- `read_withScope` / `parse_withScope_iff`: the line that opens a scope gives no rule, and the lines below it are read in
  its scope.
- `parse_withSection_iff`: a file with a section has the rules of what stands before it, those of the section with its
  scope, and those of what stands after it.
- `edit_inert_elsewhere`: an edit of a section changes no decision about other hosts.
-/
import CrawlFilter.Proofs.Domain
import CrawlFilter.Proofs.FirstMatch
import CrawlFilter.Proofs.Reading

namespace CrawlFilter.RuleFile

open Lines (Ended)

/-- a file with a section for the scope `s` between its parts `a` and `c` -/
def withSection (a s b c : Text) : Text :=
  a ++ '>' :: s ++ '\n' :: b ++ "<\n".toList ++ c

/-- no line opens or closes a scope -/
def NoScopeLine (t : Text) : Prop := ∀ l ∈ t.lines, l.head? ≠ some '>' ∧ l.head? ≠ some '<'

instance (t : Text) : Decidable (NoScopeLine t) :=
  inferInstanceAs (Decidable (∀ l ∈ t.lines, l.head? ≠ some '>' ∧ l.head? ≠ some '<'))

theorem NoScopeLine.nextScope_eq {t : Text} (h : NoScopeLine t) :
    ∀ x ∈ Input.ofText t, ∀ s, nextScope s x = s := by
  intro x hx s
  obtain ⟨l, hl, rfl⟩ := List.mem_map.1 hx
  exact nextScope_eq_self (h l hl).1 (h l hl).2 s

/-- a file with a line that opens the scope `s` between its parts `a` and `c` -/
def withScope (a s c : Text) : Text :=
  a ++ ('>' :: s ++ '\n' :: c)

/-- **A line that opens a scope** parts a file, and what follows is read in that scope. -/
theorem read_withScope {α : Type} (build : RuleBuilder α) {a s : Text} (ha : Ended '\n' a) (hs : '\n' ∉ s) (c : Text) :
    read build (.ofText (withScope a s c)) = do
      let ps ← read build (.ofText a)
      let qs ← rulesFrom build (1 + (Input.ofText a).length + 1) (some (normalizeHost s)) (.ofText c)
      return ps ++ qs := by
  rw [read_eq, read_eq, withScope, Input.ofText_append ha, rulesFrom_append, rulesFrom_openLine build _ _ hs]

/-- the lines below one that opens a scope, up to the next scope line or the end of the file, have that scope -/
theorem parse_withScope_iff {f : Flavor} {a s b c : Text} {rs : List Rule} (ha : Ended '\n' a) (hs : '\n' ∉ s)
    (hb : Ended '\n' b ∨ c = []) (hn : NoScopeLine b) :
    parse f (withScope a s (b ++ c)) = .ok rs ↔
      ∃ ra rb rc, parse f a = .ok ra ∧ parse f b = .ok rb ∧
        rulesFrom (Rule.compile f) 1 (some (normalizeHost s)) (.ofText c) = .ok rc ∧
        rs = ra ++ rb.map ({ · with scope := some (normalizeHost s) }) ++ rc := by
  have hbc : Input.ofText (b ++ c) = Input.ofText b ++ Input.ofText c := by
    rcases hb with hb | rfl
    · exact Input.ofText_append hb c
    · rw [List.append_nil]
      exact (List.append_nil _).symm
  rw [parse, read_withScope _ ha hs, except_append_eq_ok, hbc]
  simp only [rulesFrom_append_eq_ok_iff,
    foldl_nextScope_eq_self fun x hx => hn.nextScope_eq x hx (some (normalizeHost s)), parse]
  constructor
  · rintro ⟨ra, _, h1, ⟨qs, rc, h2, h3, rfl⟩, rfl⟩
    -- out of its scope and back into it, the section is read as before
    have hm := rulesFrom_rescope 1 none hn.nextScope_eq h2
    have hm' := rulesFrom_rescope 1 (some (normalizeHost s)) hn.nextScope_eq hm
    rw [rulesFrom_renumber 1 h2, Except.ok.injEq] at hm'
    exact ⟨ra, _, rc, h1, (read_eq _).trans hm, rulesFrom_renumber 1 h3, by rw [← hm', List.append_assoc]⟩
  · rintro ⟨ra, rb, rc, h1, h2, h3, rfl⟩
    rw [read_eq] at h2
    exact ⟨ra, _, h1, ⟨_, rc, rulesFrom_rescope _ (some (normalizeHost s)) hn.nextScope_eq h2,
      rulesFrom_renumber _ h3, rfl⟩, by rw [List.append_assoc]⟩

/-- **A file with a section** is read in three parts, and its section in the scope it names. -/
theorem parse_withSection_iff {f : Flavor} {a s b c : Text} {rs : List Rule} (ha : Ended '\n' a) (hs : '\n' ∉ s)
    (hb : Ended '\n' b) (hn : NoScopeLine b) :
    parse f (withSection a s b c) = .ok rs ↔
      ∃ ra rb rc, parse f a = .ok ra ∧ parse f b = .ok rb ∧ parse f c = .ok rc ∧
        rs = ra ++ rb.map ({ · with scope := some (normalizeHost s) }) ++ rc := by
  have e : withSection a s b c = withScope a s (b ++ ("<\n".toList ++ c)) := by simp [withSection, withScope]
  have hc : ∀ rc, rulesFrom (Rule.compile f) 1 (some (normalizeHost s)) (.ofText ("<\n".toList ++ c)) = .ok rc ↔
      parse f c = .ok rc := fun rc => by
    rw [rulesFrom_closeLine, parse, read_eq]
    exact ⟨rulesFrom_renumber 1, rulesFrom_renumber 2⟩
  rw [e, parse_withScope_iff ha hs (.inl hb) hn]
  simp only [hc]

/-- the rules of a section decide about no URL whose host does not lie within its scope -/
theorem decidesBy_section_eq_false {suffixes : Option SuffixList} {url s : Text} (rs : List Rule)
    (hu : ∀ host, (Resolver.ofSuffixes suffixes).host url = some host → ¬ Within s host) :
    ∀ r ∈ rs.map ({ · with scope := some s }),
      Engine.decidesBy (.ofSuffixes suffixes) url r = false := by
  intro r hr
  obtain ⟨r, -, rfl⟩ := List.mem_map.1 hr
  rw [Engine.decidesBy, Engine.decides, Bool.and_eq_false_iff]
  left
  by_contra h
  rw [Bool.not_eq_false] at h
  obtain ⟨host, hh, hw⟩ := Rule.within_of_inScope rfl h
  exact hu host hh hw

/-- **An edit of a section is inert elsewhere.** Two files that differ only inside one section decide alike about every
URL whose host does not lie within the scope of the section: both by default, or by the same rule before the section, or
by the same rule after it, whose index moves by as much as the section grows. -/
theorem edit_inert_elsewhere {f : Flavor} {a s b₁ b₂ c : Text} {rs₁ rs₂ : List Rule} (ha : Ended '\n' a)
    (hb₁ : Ended '\n' b₁) (hb₂ : Ended '\n' b₂) (hs : '\n' ∉ s) (hn₁ : NoScopeLine b₁) (hn₂ : NoScopeLine b₂)
    (h₁ : parse f (withSection a s b₁ c) = .ok rs₁) (h₂ : parse f (withSection a s b₂ c) = .ok rs₂)
    (suffixes : Option SuffixList) (url : Text)
    (hu : ∀ host, (Resolver.ofSuffixes suffixes).host url = some host → ¬ Within (normalizeHost s) host) :
    let d₁ := (Engine.mk rs₁ (.ofSuffixes suffixes)).evaluate url
    let d₂ := (Engine.mk rs₂ (.ofSuffixes suffixes)).evaluate url
    ∃ ra rb₁ rb₂ rc, parse f a = .ok ra ∧ parse f b₁ = .ok rb₁ ∧ parse f b₂ = .ok rb₂ ∧ parse f c = .ok rc ∧
      rs₁ = ra ++ rb₁.map ({ · with scope := some (normalizeHost s) }) ++ rc ∧
      rs₂ = ra ++ rb₂.map ({ · with scope := some (normalizeHost s) }) ++ rc ∧
      d₁.accepted = d₂.accepted ∧
      Engine.SameRule ra.length rb₁.length rb₂.length rc.length d₁.rule d₂.rule := by
  intro d₁ d₂
  obtain ⟨ra, rb₁, rc, hra, hrb₁, hrc, e₁⟩ := (parse_withSection_iff ha hs hb₁ hn₁).1 h₁
  obtain ⟨ra', rb₂, rc', hra', hrb₂, hrc', e₂⟩ := (parse_withSection_iff ha hs hb₂ hn₂).1 h₂
  rw [hra, Except.ok.injEq] at hra'
  rw [hrc, Except.ok.injEq] at hrc'
  subst hra' hrc'
  have i₁ := decidesBy_section_eq_false rb₁ hu
  have i₂ := decidesBy_section_eq_false rb₂ hu
  refine ⟨ra, rb₁, rb₂, rc, hra, hrb₁, hrb₂, hrc, e₁, e₂, ?_, ?_⟩
  · simp only [d₁, d₂, e₁, e₂]
    rw [Engine.accepted_evaluate_middle i₁, Engine.accepted_evaluate_middle i₂]
  · simpa [d₁, d₂, e₁, e₂] using Engine.sameRule_evaluate i₁ i₂

/-- a section gains a rule, and the URL of another host is decided alike, by a rule that has moved by one -/
theorem edit_inert_elsewhere_shop :
    ∃ rs₁ rs₂,
      parse .basic (withSection "+q\n".toList " Shop.example.com.\r".toList "-b\n".toList "-x\n".toList) = .ok rs₁ ∧
      parse .basic (withSection "+q\n".toList " Shop.example.com.\r".toList "-b\n# new\n+c\n".toList "-x\n".toList) =
        .ok rs₂ ∧
      ((Engine.mk rs₁ (.ofSuffixes none)).evaluate "http://notshop.example.com/c".toList).accepted =
        ((Engine.mk rs₂ (.ofSuffixes none)).evaluate "http://notshop.example.com/c".toList).accepted ∧
      ((Engine.mk rs₁ (.ofSuffixes none)).evaluate "http://notshop.example.com/c".toList).rule = some 2 ∧
      ((Engine.mk rs₂ (.ofSuffixes none)).evaluate "http://notshop.example.com/c".toList).rule = some 3 := by
  have hn₁ : NoScopeLine "-b\n".toList := by decide
  have hn₂ : NoScopeLine "-b\n# new\n+c\n".toList := by decide
  obtain ⟨ra, rb₁, rb₂, rc, -, -, -, -, -, -, h, -⟩ :=
    edit_inert_elsewhere (f := .basic) (a := "+q\n".toList) (s := " Shop.example.com.\r".toList)
      (c := "-x\n".toList) (Or.inr rfl) (Or.inr rfl) (Or.inr rfl) (by decide) hn₁ hn₂ rfl rfl none
      "http://notshop.example.com/c".toList (by rintro _ ⟨rfl⟩; decide)
  exact ⟨_, _, rfl, rfl, h, rfl, rfl⟩

end CrawlFilter.RuleFile
