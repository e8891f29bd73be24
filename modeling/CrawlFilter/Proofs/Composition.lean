/-
Rule files put together from parts. The only thing that one line of a file hands on to the next is the scope in force,
and the number of a line matters to errors only. So a file that is continued below a line that closes the scope reads as
the two files one after the other, and lines that say nothing can stand anywhere: all that moves is the number of the
line that an error blames.

- `readItem_renumber` / `rulesFrom_add`: an item, and any number of them, read under other numbers give the same, and in
  an error the other number.
- `read_joined` / `join_at_close`: two files joined at a line that closes the scope.
- `rulesFrom_idle_append` / `rulesFrom_append_idle`: items that say nothing, in front of others and behind them.
- `rulesFrom_blocks` / `idle_lines_only_move`: items, and lines, that say nothing, anywhere among others.
-/
import CrawlFilter.Proofs.Reading

namespace CrawlFilter

namespace RuleFileError

/-- the same error about the line with another number -/
def renumber (g : ℕ → ℕ) : RuleFileError → RuleFileError
  | .invalidFirst n l c => .invalidFirst (g n) l c
  | .invalidPattern n l cause => .invalidPattern (g n) l cause
  | .unreadable e => .unreadable e

@[simp] theorem line?_renumber (g : ℕ → ℕ) (e : RuleFileError) : (e.renumber g).line? = e.line? := by
  cases e <;> rfl

@[simp] theorem lineNumber?_renumber (g : ℕ → ℕ) (e : RuleFileError) :
    (e.renumber g).lineNumber? = e.lineNumber?.map g := by
  cases e <;> rfl

end RuleFileError

namespace RuleFile

open Lines (Ended)

variable {α : Type} {build : RuleBuilder α}

/-! ## Other numbers -/

/-- **One item** is read alike under another number, and fails with that number. -/
theorem readItem_renumber {g : ℕ → ℕ} {m n : ℕ} (h : g n = m) (scope : Option Text) (x : Except ReadError Text) :
    readItem build m scope x = (readItem build n scope x).mapError (.renumber g) := by
  subst h
  cases x with
  | error e => rfl
  | ok raw =>
    cases hl : RuleLine.ofText (withoutLast '\r' raw) with
    | error c => simp only [readItem, hl]; rfl
    | ok line =>
      simp only [readItem, hl]
      cases line with
      | rule a p =>
        simp only
        cases build a p scope <;> rfl
      | _ => rfl

/-- one item in front of items that are read alike under other numbers -/
theorem rulesFrom_cons_renumber {g : ℕ → ℕ} {m n : ℕ} {scope : Option Text} {x : Except ReadError Text} {i j : Input}
    (h : g n = m)
    (hi : rulesFrom build (m + 1) (nextScope scope x) i =
      (rulesFrom build (n + 1) (nextScope scope x) j).mapError (.renumber g)) :
    rulesFrom build m scope (x :: i) = (rulesFrom build n scope (x :: j)).mapError (.renumber g) := by
  rw [rulesFrom_cons, rulesFrom_cons, readItem_renumber h, hi, except_append_mapError]

/-- **Any number of items** is read alike further down in a file. -/
theorem rulesFrom_add (d n : ℕ) (scope : Option Text) (i : Input) :
    rulesFrom build (n + d) scope i = (rulesFrom build n scope i).mapError (.renumber (· + d)) := by
  induction i generalizing n scope with
  | nil => rfl
  | cons x i ih =>
    refine rulesFrom_cons_renumber rfl ?_
    rw [Nat.add_right_comm]
    exact ih (n + 1) (nextScope scope x)

/-! ## Files joined where no scope is in force -/

/-- a file that is continued by another one below a line that closes the scope -/
def joined (a b : Text) : Text := a ++ ("<\n".toList ++ b)

/-- what is below the line that joins two files is read as a file of its own, and numbered on -/
theorem read_joined (build : RuleBuilder α) {a : Text} (ha : Ended '\n' a) (b : Text) :
    read build (.ofText (joined a b)) = do
      let ps ← read build (.ofText a)
      let qs ← (read build (.ofText b)).mapError (.renumber (· + (a.lines.length + 1)))
      return ps ++ qs := by
  have hn : 1 + (Input.ofText a).length + 1 = 1 + (a.lines.length + 1) := by
    rw [Input.ofText, List.length_map, Nat.add_assoc]
  rw [read_eq, read_eq, read_eq, joined, Input.ofText_append ha, rulesFrom_append, rulesFrom_closeLine, hn,
    rulesFrom_add]

/-- **Files join at a line that closes the scope.** However rules are built, a file that is empty or ends with a line
feed can be continued below such a line, whatever scope it leaves in force. If it fails, the whole fails with its error.
If it gives rules, the whole gives these and then those of the second file, or fails with the error of the second file,
which blames the same line for the same reason under a number that is higher by the lines above it. -/
theorem join_at_close (build : RuleBuilder α) {a : Text} (ha : Ended '\n' a) (b : Text) :
    (∀ e, read build (.ofText a) = .error e → read build (.ofText (joined a b)) = .error e) ∧
      ∀ ps, read build (.ofText a) = .ok ps →
        (∀ qs, read build (.ofText b) = .ok qs → read build (.ofText (joined a b)) = .ok (ps ++ qs)) ∧
        ∀ e, read build (.ofText b) = .error e →
          read build (.ofText (joined a b)) = .error (e.renumber (· + (a.lines.length + 1))) := by
  rw [read_joined build ha]
  refine ⟨fun e he => ?_, fun ps hp => ⟨fun qs hq => ?_, fun e he => ?_⟩⟩
  · rw [he]
    rfl
  · rw [hp, hq]
    rfl
  · rw [hp, he]
    rfl

/-- the first file leaves a scope in force that the second is not read in, and an error is blamed on the line where it
stands in the whole -/
theorem join_at_close_scoped :
    let a := ">a\n+x\n".toList
    parseWritten (joined a "+y".toList) =
        .ok [⟨.accept, "x".toList, some "a".toList⟩, ⟨.accept, "y".toList, none⟩] ∧
      parse .basic (joined a "-y\n*z\n".toList) = .error (.invalidFirst 5 "*z".toList '*') ∧
      parse .anchored (joined "*\n".toList "*z".toList) = .error (.invalidFirst 1 "*".toList '*') := by
  intro a
  have ha : Ended '\n' a := .inr rfl
  obtain ⟨rs, hrs⟩ : ∃ rs, parse .basic a = .ok rs := ⟨_, rfl⟩
  refine ⟨?_, ?_, ?_⟩
  · exact ((join_at_close .written ha "+y".toList).2 _ rfl).1 _ rfl
  · exact ((join_at_close (Rule.compile .basic) ha "-y\n*z\n".toList).2 rs hrs).2 _ rfl
  · exact (join_at_close (Rule.compile .anchored) (.inr rfl) "*z".toList).1 _ rfl

/-! ## Lines that say nothing -/

/-- a line that says nothing: it is empty, or it begins with a blank or with the mark of a comment -/
structure Idle (l : Text) : Prop where
  one_line : '\n' ∉ l
  start : l = [] ∨ l.head? = some ' ' ∨ l.head? = some '#'

instance (l : Text) : Decidable (Idle l) :=
  decidable_of_iff ('\n' ∉ l ∧ (l = [] ∨ l.head? = some ' ' ∨ l.head? = some '#'))
    ⟨fun ⟨h1, h2⟩ => ⟨h1, h2⟩, fun ⟨h1, h2⟩ => ⟨h1, h2⟩⟩

/-- an item that gives no rule, does not fail and leaves every scope in force -/
def SaysNothing (x : Except ReadError Text) : Prop :=
  ∃ raw, x = .ok raw ∧ RuleLine.ofText (withoutLast '\r' raw) = .ok .nothing

theorem Idle.saysNothing {l : Text} (h : Idle l) : SaysNothing (Input.ended l) := by
  refine ⟨_, rfl, ?_⟩
  cases l with
  | nil => rfl
  | cons c s =>
    have hc : c = ' ' ∨ c = '#' := by simpa using h.start
    -- neither is a carriage return, so what is taken off the end leaves the first character
    rcases hc with rfl | rfl
    · rw [withoutLast_cons (by decide), withoutLast_cons (by decide)]
      rfl
    · rw [withoutLast_cons (by decide), withoutLast_cons (by decide)]
      rfl

theorem SaysNothing.readItem {x : Except ReadError Text} (h : SaysNothing x) (n : ℕ) (scope : Option Text) :
    readItem build n scope x = .ok [] := by
  obtain ⟨raw, rfl, hl⟩ := h
  simp only [RuleFile.readItem, hl]

theorem SaysNothing.nextScope {x : Except ReadError Text} (h : SaysNothing x) (scope : Option Text) :
    nextScope scope x = scope := by
  obtain ⟨raw, rfl, hl⟩ := h
  simp only [RuleFile.nextScope, hl]

/-- **Items that say nothing** in front of others only count. -/
theorem rulesFrom_idle_append {i : Input} (h : ∀ x ∈ i, SaysNothing x) (n : ℕ) (scope : Option Text) (j : Input) :
    rulesFrom build n scope (i ++ j) = rulesFrom build (n + i.length) scope j := by
  induction i generalizing n with
  | nil => rfl
  | cons x i ih =>
    have hx := h x List.mem_cons_self
    rw [List.cons_append, rulesFrom_cons_of_nil (hx.readItem n scope), hx.nextScope,
      ih fun y hy => h y (List.mem_cons_of_mem x hy), List.length_cons, Nat.add_assoc, Nat.add_comm 1]

/-- items that say nothing may be left out at the end -/
theorem rulesFrom_append_idle {j : Input} (h : ∀ x ∈ j, SaysNothing x) (n : ℕ) (scope : Option Text) (i : Input) :
    rulesFrom build n scope (i ++ j) = rulesFrom build n scope i := by
  have hj : ∀ m s, rulesFrom build m s j = .ok [] := by
    intro m s
    have hnil : rulesFrom build m s (j ++ []) = .ok [] := rulesFrom_idle_append h m s []
    rwa [List.append_nil] at hnil
  rw [rulesFrom_append]
  simp only [hj]
  cases rulesFrom build n scope i with
  | error e => rfl
  | ok rs => exact congrArg Except.ok (List.append_nil rs)

/-- a file with notes: lines that say nothing, put between the lines of a file, in front of them and behind them -/
structure Annotated where
  /-- each line of the file below the notes that were put in front of it -/
  blocks : List (List Text × Text)
  /-- the notes at the end -/
  last : List Text
  one_line : ∀ b ∈ blocks, '\n' ∉ b.2
  idle : ∀ b ∈ blocks, ∀ l ∈ b.1, Idle l
  idle_last : ∀ l ∈ last, Idle l

namespace Annotated

/-- the file without the notes -/
def plain (a : Annotated) : Text := .ofLines (a.blocks.map (·.2))

/-- the file with the notes -/
def text (a : Annotated) : Text := .ofLines (a.blocks.flatMap (fun b => b.1 ++ [b.2]) ++ a.last)

/-- the number of notes above line `n` of the file, whose first line is line 1 -/
def notesAbove (a : Annotated) (n : ℕ) : ℕ := ((a.blocks.take n).map (·.1.length)).sum

/-- the lines as they are read, each with the notes in front of it -/
def items (a : Annotated) : List (Input × Except ReadError Text) :=
  a.blocks.map fun b => (b.1.map Input.ended, Input.ended b.2)

theorem saysNothing_of_mem_items (a : Annotated) : ∀ b ∈ a.items, ∀ x ∈ b.1, SaysNothing x := by
  intro b hb x hx
  obtain ⟨c, hc, rfl⟩ := List.mem_map.1 hb
  obtain ⟨l, hl, rfl⟩ := List.mem_map.1 hx
  exact (a.idle c hc l hl).saysNothing

theorem saysNothing_of_mem_last (a : Annotated) : ∀ x ∈ a.last.map Input.ended, SaysNothing x :=
  List.forall_mem_map.2 fun l hl => (a.idle_last l hl).saysNothing

theorem notesAbove_eq (a : Annotated) (n : ℕ) : a.notesAbove n = ((a.items.take n).map (·.1.length)).sum := by
  simp [notesAbove, items, ← List.map_take, Function.comp_def]

theorem ofText_plain (a : Annotated) : Input.ofText a.plain = a.items.map (·.2) := by
  rw [plain, Input.ofText_ofLines (List.forall_mem_map.2 a.one_line), items, List.map_map, List.map_map]
  rfl

theorem ofText_text (a : Annotated) :
    Input.ofText a.text = (a.items.flatMap fun b => b.1 ++ [b.2]) ++ a.last.map Input.ended := by
  have h : ∀ l ∈ a.blocks.flatMap (fun b => b.1 ++ [b.2]) ++ a.last, '\n' ∉ l := by
    intro l hl
    rcases List.mem_append.1 hl with hl | hl
    · obtain ⟨b, hb, hl⟩ := List.mem_flatMap.1 hl
      rcases List.mem_append.1 hl with hl | hl
      · exact (a.idle b hb l hl).one_line
      · exact List.mem_singleton.1 hl ▸ a.one_line b hb
    · exact (a.idle_last l hl).one_line
  rw [text, Input.ofText_ofLines h, List.map_append, List.map_flatMap, items, List.flatMap_map]
  simp only [List.map_append, List.map_singleton]

end Annotated

/-- **Items with others in front of each** that say nothing are read as they are without these. Item `n + k` then stands
behind the `k` items before it and all that was put in front of it and of them. -/
theorem rulesFrom_blocks {g : ℕ → ℕ} {m n : ℕ} {blocks : List (Input × Except ReadError Text)}
    (h : ∀ b ∈ blocks, ∀ x ∈ b.1, SaysNothing x)
    (hg : ∀ k, g (n + k) = m + k + ((blocks.take (k + 1)).map (·.1.length)).sum) (scope : Option Text) :
    rulesFrom build m scope (blocks.flatMap fun b => b.1 ++ [b.2]) =
      (rulesFrom build n scope (blocks.map (·.2))).mapError (.renumber g) := by
  induction blocks generalizing m n scope with
  | nil => rfl
  | cons b blocks ih =>
    obtain ⟨notes, x⟩ := b
    have hfirst : g n = m + notes.length := by simpa using hg 0
    have hlater : ∀ k, g (n + 1 + k) = m + notes.length + 1 + k + ((blocks.take (k + 1)).map (·.1.length)).sum := by
      intro k
      have := hg (k + 1)
      rw [List.take_succ_cons, List.map_cons, List.sum_cons] at this
      rw [Nat.add_assoc n, Nat.add_comm 1, this]
      dsimp only
      omega
    rw [List.flatMap_cons, List.append_assoc, rulesFrom_idle_append (h _ List.mem_cons_self), List.map_cons]
    exact rulesFrom_cons_renumber hfirst (ih (fun b hb => h b (List.mem_cons_of_mem _ hb)) hlater _)

/-- **Lines that say nothing only move the others.** However rules are built, a file with notes gives the rules that it
gives without them, or the same error, which blames the same line for the same reason under a number that is higher by
the notes above that line. -/
theorem idle_lines_only_move (build : RuleBuilder α) (a : Annotated) :
    read build (.ofText a.text) =
      (read build (.ofText a.plain)).mapError (.renumber fun n => n + a.notesAbove n) := by
  rw [read_eq, read_eq, a.ofText_text, a.ofText_plain, rulesFrom_append_idle a.saysNothing_of_mem_last]
  refine rulesFrom_blocks a.saysNothing_of_mem_items (fun k => ?_) none
  rw [a.notesAbove_eq, Nat.add_comm 1 k]

/-- notes inside a scope, on both sides of a line at fault, one of them with a sigil behind its mark -/
theorem idle_lines_only_move_scoped :
    ∃ a : Annotated, a.text = "# top\n>a\n\n#-b\n+x\n <\n*z\n#\n".toList ∧ a.plain = ">a\n+x\n*z\n".toList ∧
      parseWritten a.plain = .error (.invalidFirst 3 "*z".toList '*') ∧
      parseWritten a.text = .error (.invalidFirst 7 "*z".toList '*') := by
  let a : Annotated :=
    { blocks := [(["# top".toList], ">a".toList), ([[], "#-b".toList], "+x".toList), ([" <".toList], "*z".toList)]
      last := ["#".toList]
      one_line := by decide
      idle := by decide
      idle_last := by decide }
  have hplain : parseWritten a.plain = .error (.invalidFirst 3 "*z".toList '*') := by decide
  refine ⟨a, by decide, by decide, hplain, ?_⟩
  have h := idle_lines_only_move .written a
  rw [show read .written (.ofText a.plain) = _ from hplain] at h
  exact h

end RuleFile

end CrawlFilter
