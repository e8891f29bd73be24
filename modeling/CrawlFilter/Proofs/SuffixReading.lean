/-
Reading a suffix list. A list is read line by line; each line says one rule, or nothing, or cannot be read, and nothing
but the rules of its lines gets into the list.

- `exists_readFrom_iff`: a list can be read exactly if each of its lines can.
- `mem_rules_of_readFrom`: the rules of a list that was read are those that its lines say.
-/
import CrawlFilter.SuffixList

namespace CrawlFilter.SuffixList

/-! ## One line -/

theorem mem_rules_insert {l : SuffixList} {r s : SuffixRule} : r ∈ (l.insert s).rules ↔ r = s ∨ r ∈ l.rules := by
  unfold insert
  split
  · rename_i hs
    refine ⟨Or.inr, fun h => ?_⟩
    rcases h with rfl | h
    · exact hs
    · exact h
  · exact List.mem_cons

/-- an item can be read as a line of a suffix list -/
def Readable (x : Except ReadError Text) : Prop := ∃ line, x = .ok line ∧ SuffixLine.ofText line ≠ .invalid

/-- the rule that an item says -/
def Says (x : Except ReadError Text) (r : SuffixRule) : Prop := ∃ line, x = .ok line ∧ SuffixLine.ofText line = .rule r

/-- What is read behind a first item: the list with that item's rule, if it says one, and then the other items. -/
theorem readFrom_cons_of_readable {l : SuffixList} {n : Nat} {x : Except ReadError Text} (i : Input)
    (h : Readable x) :
    ∃ l₁ : SuffixList, l.readFrom n (x :: i) = l₁.readFrom (n + 1) i ∧ ∀ r, r ∈ l₁.rules ↔ Says x r ∨ r ∈ l.rules := by
  obtain ⟨line, rfl, hl⟩ := h
  cases hs : SuffixLine.ofText line with
  | invalid => exact absurd hs hl
  | nothing => exact ⟨l, by rw [readFrom, hs], fun r => by simp [Says, hs]⟩
  | rule s =>
    refine ⟨l.insert s, by rw [readFrom, hs], fun r => ?_⟩
    rw [mem_rules_insert]
    simp [Says, hs, eq_comm]

theorem readable_of_readFrom_cons {l l' : SuffixList} {n : Nat} {x : Except ReadError Text} {i : Input}
    (h : l.readFrom n (x :: i) = .ok l') : Readable x := by
  cases x with
  | error e => cases h
  | ok line =>
    refine ⟨line, rfl, fun hl => ?_⟩
    rw [readFrom, hl] at h
    cases h

/-! ## Whole lists -/

theorem exists_readFrom_iff {l : SuffixList} {n : Nat} {i : Input} :
    (∃ l', l.readFrom n i = .ok l') ↔ ∀ x ∈ i, Readable x := by
  induction i generalizing l n with
  | nil => exact ⟨fun _ x hx => (List.not_mem_nil hx).elim, fun _ => ⟨l, rfl⟩⟩
  | cons x i ih =>
    constructor
    · rintro ⟨l', h⟩
      have hx := readable_of_readFrom_cons h
      obtain ⟨l₁, h₁, -⟩ := readFrom_cons_of_readable (l := l) (n := n) i hx
      rw [h₁] at h
      exact List.forall_mem_cons.2 ⟨hx, ih.1 ⟨l', h⟩⟩
    · intro h
      obtain ⟨hx, hi⟩ := List.forall_mem_cons.1 h
      obtain ⟨l₁, h₁, -⟩ := readFrom_cons_of_readable (l := l) (n := n) i hx
      rw [h₁]
      exact ih.2 hi

/-- **The rules of a list that was read** are those that it had before and those that its lines say. -/
theorem mem_rules_of_readFrom {l l' : SuffixList} {n : Nat} {i : Input} (h : l.readFrom n i = .ok l')
    (r : SuffixRule) : r ∈ l'.rules ↔ r ∈ l.rules ∨ ∃ x ∈ i, Says x r := by
  induction i generalizing l n with
  | nil =>
    cases h
    simp
  | cons x i ih =>
    obtain ⟨l₁, h₁, hr⟩ := readFrom_cons_of_readable (l := l) (n := n) i (readable_of_readFrom_cons h)
    rw [h₁] at h
    rw [ih h, hr]
    simp only [List.mem_cons, exists_eq_or_imp]
    rw [or_assoc, or_left_comm]

/-- the rules of a text are those that its lines say -/
theorem mem_rules_of_read_ofText {l : SuffixList} {t : Text} (h : read (.ofText t) = .ok l) (r : SuffixRule) :
    r ∈ l.rules ↔ ∃ line ∈ t.lines, SuffixLine.ofText line = .rule r := by
  rw [mem_rules_of_readFrom h]
  constructor
  · rintro (hr | ⟨x, hx, line, rfl, hs⟩)
    · cases hr
    · obtain ⟨_, hl, e⟩ := List.mem_map.1 hx
      cases e
      exact ⟨line, hl, hs⟩
  · rintro ⟨line, hl, hs⟩
    exact Or.inr ⟨.ok line, List.mem_map_of_mem hl, line, rfl, hs⟩

end CrawlFilter.SuffixList
