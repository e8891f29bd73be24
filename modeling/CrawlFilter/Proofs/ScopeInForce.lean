/-
The scope of a rule. Reading a file carries a scope from line to line; looking back from a rule finds the same scope
without carrying anything: it is the one of the nearest line above the rule that opens or closes a scope.

- `nextScope_scopeBelow` / `foldl_nextScope_eq_scopeBelow`: one line, and any number of lines, keep the scope that is
  carried equal to the one that is found by looking back.
- `rulesFrom_concat`: so a file with one more line gives the rules of the file and then what that line gives in the
  scope found from it. Whole files go line by line from the first one on, by this.
- `parseWritten_eq_ok_iff_nearest`: a text is read exactly if each line begins as a line may, and its rules are then
  those of its rule lines in order, each with the scope of the nearest scope line above it.
-/
import CrawlFilter.Proofs.Reading

namespace CrawlFilter.RuleFile

/-- the lines of a text as a rule file has them, less one more carriage return at the end of each -/
def fileLines (t : Text) : List Text := t.lines.map (withoutLast '\r')

/-! ## Looking back -/

/-- the line opens or closes a scope -/
def isScopeLine (l : Text) : Bool := l.head? = some '>' || l.head? = some '<'

/-- the scope in force below these lines: what the last scope line says -/
def scopeBelow (above : List Text) : Option Text :=
  match above.reverse.find? isScopeLine with
  | some ('>' :: name) => some (normalizeHost (Text.trim name))
  | _ => none

theorem scopeBelow_concat_of_not {l : Text} (above : List Text) (h : isScopeLine l = false) :
    scopeBelow (above ++ [l]) = scopeBelow above := by
  unfold scopeBelow
  rw [List.reverse_concat, List.find?_cons_of_neg (by simp [h])]

@[simp] theorem scopeBelow_concat_open (above : List Text) (name : Text) :
    scopeBelow (above ++ ['>' :: name]) = some (normalizeHost (Text.trim name)) := by
  unfold scopeBelow
  rw [List.reverse_concat, List.find?_cons_of_pos rfl]
  rfl

@[simp] theorem scopeBelow_concat_close (above : List Text) (s : Text) :
    scopeBelow (above ++ ['<' :: s]) = none := by
  unfold scopeBelow
  rw [List.reverse_concat, List.find?_cons_of_pos rfl]
  rfl

/-- **One line:** the scope that is carried past it is the one found by looking back from below it. -/
theorem nextScope_scopeBelow (above : List Text) (raw : Text) :
    nextScope (scopeBelow above) (.ok raw) = scopeBelow (above ++ [withoutLast '\r' raw]) := by
  rw [nextScope_ok]
  generalize withoutLast '\r' raw = line
  split
  · exact (scopeBelow_concat_open above _).symm
  · exact (scopeBelow_concat_close above _).symm
  · rename_i ho hc
    refine (scopeBelow_concat_of_not above ?_).symm
    cases line with
    | nil => rfl
    | cons c s =>
      have hc' : c ≠ '<' := fun e => hc s (by rw [e])
      have ho' : c ≠ '>' := fun e => ho s (by rw [e])
      simp [isScopeLine, ho', hc']

/-- **A whole file:** the scope that is carried to its end is the one found by looking back from there. -/
theorem foldl_nextScope_eq_scopeBelow (raws : List Text) :
    (raws.map Except.ok).foldl nextScope none = scopeBelow (raws.map (withoutLast '\r')) := by
  induction raws using List.reverseRecOn with
  | nil => rfl
  | append_singleton raws raw ih =>
    rw [List.map_append, List.foldl_append, ih, List.map_append]
    exact nextScope_scopeBelow _ raw

/-! ## One line -/

/-- the characters that a line may begin with -/
def lineStarts : List Char := ['+', '-', ' ', '#', '>', '<']

/-- the line is empty or begins with a character that says what it is -/
def WellBegun (l : Text) : Prop := ∀ c ∈ l.head?, c ∈ lineStarts

/-- the rule that a line gives in a scope, with all that follows its sigil as the pattern -/
def ruleOn (scope : Option Text) : Text → Option WrittenRule
  | '+' :: p => some ⟨.accept, p, scope⟩
  | '-' :: p => some ⟨.reject, p, scope⟩
  | _ => none

@[simp] theorem ruleOn_sigil (scope : Option Text) (a : Action) (p : Text) :
    ruleOn scope (a.sigil :: p) = some ⟨a, p, scope⟩ := by
  cases a <;> rfl

theorem sigil_mem_lineStarts (a : Action) : a.sigil ∈ lineStarts := by cases a <;> decide

theorem readItem_written_eq_ok_iff {n : ℕ} {scope : Option Text} {raw : Text} {ws : List WrittenRule} :
    readItem .written n scope (.ok raw) = .ok ws ↔
      WellBegun (withoutLast '\r' raw) ∧ ws = (ruleOn scope (withoutLast '\r' raw)).toList := by
  have hr := RuleLine.reads_ofText (withoutLast '\r' raw)
  unfold readItem
  simp only
  generalize RuleLine.ofText (withoutLast '\r' raw) = o at hr
  generalize withoutLast '\r' raw = line at hr
  cases hr with
  | empty => simp [WellBegun, ruleOn, eq_comm]
  | rule a p =>
    simp [WellBegun, sigil_mem_lineStarts, RuleBuilder.written, Except.mapError, Except.map, eq_comm]
  | comment c s h => rcases h with rfl | rfl <;> simp [WellBegun, lineStarts, ruleOn, eq_comm]
  | openScope s => simp [WellBegun, lineStarts, ruleOn, eq_comm]
  | closeScope s => simp [WellBegun, lineStarts, ruleOn, eq_comm]
  | invalid c s h =>
    have hw : ¬ WellBegun (c :: s) := fun hw => h (hw c rfl)
    simp [hw]

/-! ## Whole files -/

variable {α : Type}

theorem rulesFrom_singleton (build : RuleBuilder α) (n : ℕ) (scope : Option Text) (x : Except ReadError Text) :
    rulesFrom build n scope [x] = readItem build n scope x := by
  rw [rulesFrom_cons]
  cases readItem build n scope x with
  | error e => rfl
  | ok rs => exact congrArg Except.ok (List.append_nil rs)

/-- **One more line** is read in the scope that looking back from it finds, under its own number. -/
theorem rulesFrom_concat (build : RuleBuilder α) (raws : List Text) (raw : Text) :
    rulesFrom build 1 none ((raws ++ [raw]).map .ok) = do
      let rs ← rulesFrom build 1 none (raws.map .ok)
      let qs ← readItem build (raws.length + 1) (scopeBelow (raws.map (withoutLast '\r'))) (.ok raw)
      return rs ++ qs := by
  have hl : 1 + (raws.map (.ok : Text → Except ReadError Text)).length = raws.length + 1 := by
    rw [List.length_map, Nat.add_comm]
  rw [List.map_append, rulesFrom_append, foldl_nextScope_eq_scopeBelow, hl, List.map_singleton, rulesFrom_singleton]

/-- the rule on line `k` of a file, whose first line is line 0, in the scope that looking back finds -/
def ruleAt (ls : List Text) (k : ℕ) : Option WrittenRule :=
  ls[k]?.bind (ruleOn (scopeBelow (ls.take k)))

theorem ruleAt_concat_of_lt {ls : List Text} {k : ℕ} (l : Text) (h : k < ls.length) :
    ruleAt (ls ++ [l]) k = ruleAt ls k := by
  unfold ruleAt
  rw [List.getElem?_append_left h, List.take_append_of_le_length h.le]

theorem ruleAt_concat_last (ls : List Text) (l : Text) :
    ruleAt (ls ++ [l]) ls.length = ruleOn (scopeBelow ls) l := by
  unfold ruleAt
  rw [List.getElem?_concat_length, List.take_left]
  rfl

/-- the rules of a file with one more line -/
theorem filterMap_ruleAt_concat (ls : List Text) (l : Text) :
    (List.range (ls ++ [l]).length).filterMap (ruleAt (ls ++ [l])) =
      (List.range ls.length).filterMap (ruleAt ls) ++ (ruleOn (scopeBelow ls) l).toList := by
  rw [List.length_append, List.length_singleton, List.range_succ, List.filterMap_append]
  congr 1
  · exact List.filterMap_congr fun k hk => ruleAt_concat_of_lt l (List.mem_range.1 hk)
  · rw [List.filterMap_cons, ruleAt_concat_last]
    cases ruleOn (scopeBelow ls) l <;> rfl

theorem rulesFrom_written_eq_ok_iff {raws : List Text} {ws : List WrittenRule} :
    rulesFrom .written 1 none (raws.map .ok) = .ok ws ↔
      (∀ l ∈ raws.map (withoutLast '\r'), WellBegun l) ∧
        ws = (List.range (raws.map (withoutLast '\r')).length).filterMap (ruleAt (raws.map (withoutLast '\r'))) := by
  induction raws using List.reverseRecOn generalizing ws with
  | nil => simp [eq_comm]
  | append_singleton raws raw ih =>
    rw [rulesFrom_concat, except_append_eq_ok, List.map_append, List.map_singleton, filterMap_ruleAt_concat]
    simp only [ih, readItem_written_eq_ok_iff, List.forall_mem_append, List.forall_mem_singleton]
    constructor
    · rintro ⟨_, _, ⟨hs, rfl⟩, ⟨hb, rfl⟩, rfl⟩
      exact ⟨⟨hs, hb⟩, rfl⟩
    · rintro ⟨⟨hs, hb⟩, rfl⟩
      exact ⟨_, _, ⟨hs, rfl⟩, ⟨hb, rfl⟩, rfl⟩

/-- **The scope of a rule is that of the nearest scope line above it.** A text is read exactly if each of its lines is
empty or begins with one of the six characters that begin a line. Its rules are then those of its rule lines, one for
each and in their order: the action of the sigil, the rest of the line as the pattern, and as the scope what the last
line above that begins with `>` or `<` says, none if there is no such line. -/
theorem parseWritten_eq_ok_iff_nearest (t : Text) (ws : List WrittenRule) :
    parseWritten t = .ok ws ↔
      (∀ l ∈ fileLines t, WellBegun l) ∧
        ws = (List.range (fileLines t).length).filterMap (ruleAt (fileLines t)) := by
  rw [parseWritten, read_eq]
  exact rulesFrom_written_eq_ok_iff

-- a scope opened over another one, a comment, a scope closed with more on its line and an empty pattern
example : parseWritten "+(\n>a\n>  Shop.Example. \n#\n-a \n< b\n+\n>c\n".toList =
    .ok [⟨.accept, "(".toList, none⟩, ⟨.reject, "a ".toList, some "shop.example".toList⟩,
      ⟨.accept, [], none⟩] := by
  decide

end CrawlFilter.RuleFile
