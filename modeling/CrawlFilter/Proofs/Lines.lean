/-
Where lines begin and end. A sequence whose last line is ended can be cut on its own, whatever follows it; a line is
found again as it stood, less the carriage return of its terminator; and no line holds a line feed.

- `cut_append` / `lines_append` / `Input.ofText_append`: the lines of two parts, the first of which ends with a line
  feed, are the lines of the one and then those of the other.
- `cut_line_append` / `lines_line` / `Input.ofText_line`: the first line of a text that begins with one.
- `lines_unended` / `Input.ofText_unended`: a line on its own.
- `line_induction`: what holds of a last line without a line feed, and of a line in front of more, holds of everything.
- `notMem_of_mem_lines`: no line holds a line feed.
- `Input.ofText_ofLines`: lines that were put together are found again.
-/
import CrawlFilter.Proofs.Trimming

namespace CrawlFilter

namespace Lines

variable {α : Type}

/-- there are no lines, or the last one is ended -/
def Ended (lf : α) (l : List α) : Prop := l = [] ∨ l.getLast? = some lf

theorem Ended.tail {lf x : α} {l : List α} (h : Ended lf (x :: l)) : Ended lf l := by
  cases l with
  | nil => exact Or.inl rfl
  | cons y ys =>
    rcases h with h | h
    · simp at h
    · rw [List.getLast?_cons_cons] at h
      exact Or.inr h

theorem ended_concat (lf : α) (l : List α) : Ended lf (l ++ [lf]) :=
  Or.inr List.getLast?_concat

theorem Ended.append {lf : α} {a b : List α} (ha : Ended lf a) (hb : Ended lf b) : Ended lf (a ++ b) := by
  rcases hb with rfl | hb
  · rwa [List.append_nil]
  · exact Or.inr (by rw [List.getLast?_append, hb]; rfl)

variable [DecidableEq α]

theorem cut_ne_nil {lf : α} {l : List α} (h : l ≠ []) : cut lf l ≠ [] := by
  cases l with
  | nil => exact absurd rfl h
  | cons x xs =>
    unfold cut
    split_ifs
    · simp
    · split <;> simp

theorem cut_append {lf : α} {a : List α} (h : Ended lf a) (b : List α) : cut lf (a ++ b) = cut lf a ++ cut lf b := by
  induction a with
  | nil => rfl
  | cons x xs ih =>
    have ih := ih h.tail
    by_cases hx : x = lf
    · simp only [List.cons_append, cut, hx, if_true, ih]
    · have hne : xs ≠ [] := by
        rintro rfl
        rcases h with h | h
        · simp at h
        · exact hx (by simpa using h)
      simp only [List.cons_append, cut, hx, if_false, ih]
      cases hc : cut lf xs with
      | nil => exact absurd hc (cut_ne_nil hne)
      | cons p ps => rfl

theorem cut_line {lf : α} {l : List α} (h : lf ∉ l) : cut lf (l ++ [lf]) = [(l, true)] := by
  induction l with
  | nil => simp [cut]
  | cons x xs ih =>
    have hx : x ≠ lf := fun e => h (e ▸ List.mem_cons_self)
    simp only [List.cons_append, cut, hx, if_false, ih (fun hm => h (List.mem_cons_of_mem x hm))]

theorem cut_line_append {lf : α} {l : List α} (h : lf ∉ l) (t : List α) : cut lf (l ++ lf :: t) = (l, true) :: cut lf t := by
  have e : l ++ lf :: t = (l ++ [lf]) ++ t := by simp
  rw [e, cut_append (ended_concat lf l), cut_line h]
  rfl

theorem cut_of_notMem {lf : α} {l : List α} (h : lf ∉ l) (hne : l ≠ []) : cut lf l = [(l, false)] := by
  induction l with
  | nil => exact absurd rfl hne
  | cons x xs ih =>
    have hx : x ≠ lf := fun e => h (e ▸ List.mem_cons_self)
    cases xs with
    | nil => simp [cut, hx]
    | cons y ys =>
      rw [cut, if_neg hx, ih (fun hm => h (List.mem_cons_of_mem x hm)) (List.cons_ne_nil y ys)]

/-- induction on the lines from the first one on -/
theorem line_induction (lf : α) {motive : List α → Prop} (nil : motive [])
    (last : ∀ l, l ≠ [] → lf ∉ l → motive l) (line : ∀ l t, lf ∉ l → motive t → motive (l ++ lf :: t))
    (t : List α) : motive t := by
  by_cases hne : t = []
  · rwa [hne]
  · by_cases hm : lf ∈ t
    · obtain ⟨l, rest, rfl, hl⟩ := List.eq_append_cons_of_mem hm
      have : rest.length < (l ++ lf :: rest).length := by
        rw [List.length_append, List.length_cons]
        omega
      exact line l rest hl (line_induction lf nil last line rest)
    · exact last t hne hm
termination_by t.length

theorem notMem_of_mem_cut {lf : α} {t : List α} {p : List α × Bool} (h : p ∈ cut lf t) : lf ∉ p.1 := by
  induction t generalizing p with
  | nil => simp [cut] at h
  | cons x xs ih =>
    by_cases hx : x = lf
    · simp only [cut, hx, if_true, List.mem_cons] at h
      rcases h with rfl | h
      · simp
      · exact ih h
    · simp only [cut, hx, if_false] at h
      cases hc : cut lf xs with
      | nil =>
        rw [hc] at h
        simp only [List.mem_singleton] at h
        subst h
        simpa using Ne.symm hx
      | cons q qs =>
        rw [hc] at h ih
        rcases List.mem_cons.1 h with rfl | h
        · have := ih List.mem_cons_self
          simp [Ne.symm hx, this]
        · exact ih (List.mem_cons_of_mem q h)

theorem content_subset (cr : α) (p : List α × Bool) : content cr p ⊆ p.1 := by
  obtain ⟨l, _ | _⟩ := p
  · exact List.Subset.refl l
  · exact withoutLast_subset cr l

end Lines

namespace Text

open Lines

theorem lines_append {a : Text} (h : Ended '\n' a) (b : Text) : lines (a ++ b) = lines a ++ lines b := by
  rw [lines, cut_append h, List.map_append, lines, lines]

/-- the first line of a text that begins with one -/
theorem lines_line {l : Text} (h : '\n' ∉ l) (t : Text) : lines (l ++ '\n' :: t) = withoutLast '\r' l :: lines t := by
  rw [lines, cut_line_append h]
  rfl

theorem lines_unended {l : Text} (h : '\n' ∉ l) (hne : l ≠ []) : lines l = [l] := by
  rw [lines, cut_of_notMem h hne]
  rfl

/-- the text of lines that each a line feed ends -/
def ofLines (ls : List Text) : Text := ls.flatMap (· ++ ['\n'])

@[simp] theorem ofLines_cons (l : Text) (ls : List Text) : ofLines (l :: ls) = l ++ '\n' :: ofLines ls := by
  simp [ofLines]

theorem notMem_of_mem_lines {t l : Text} (h : l ∈ lines t) : '\n' ∉ l := by
  obtain ⟨p, hp, rfl⟩ := List.mem_map.1 h
  exact fun hm => notMem_of_mem_cut hp (content_subset '\r' p hm)

end Text

namespace Input

open Lines (Ended)

theorem ofText_append {a : Text} (h : Ended '\n' a) (b : Text) : ofText (a ++ b) = ofText a ++ ofText b := by
  rw [ofText, Text.lines_append h, List.map_append, ofText, ofText]

theorem ofText_line {l : Text} (h : '\n' ∉ l) (t : Text) :
    ofText (l ++ '\n' :: t) = .ok (withoutLast '\r' l) :: ofText t := by
  rw [ofText, Text.lines_line h, List.map_cons, ofText]

theorem ofText_unended {l : Text} (h : '\n' ∉ l) (hne : l ≠ []) : ofText l = [.ok l] := by
  rw [ofText, Text.lines_unended h hne]
  rfl

/-- what is read of a line that a line feed ends -/
def ended (l : Text) : Except ReadError Text := .ok (withoutLast '\r' l)

theorem ofText_ofLines {ls : List Text} (h : ∀ l ∈ ls, '\n' ∉ l) : ofText (Text.ofLines ls) = ls.map ended := by
  induction ls with
  | nil => rfl
  | cons l ls ih =>
    rw [Text.ofLines_cons, ofText_line (h l List.mem_cons_self), ih fun m hm => h m (List.mem_cons_of_mem l hm),
      List.map_cons, ended]

end Input

end CrawlFilter
