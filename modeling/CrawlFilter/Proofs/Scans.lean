/-
Scans of a text: the characters at its front that satisfy a condition, and what follows them.

- `scan_iff` / `scan_ne_iff`: where a scan stops.
- `scan_append`: a scan that stops before the end of a text stops there however the text goes on.
-/
import Mathlib.Data.List.TakeWhile
import CrawlFilter.Text

namespace CrawlFilter

/-- a scan stops at the first character that it does not take -/
theorem scan_iff {p : Char → Bool} {t a b : Text} :
    (t.takeWhile p = a ∧ t.dropWhile p = b) ↔ t = a ++ b ∧ (∀ c ∈ a, p c = true) ∧ ∀ c ∈ b.head?, p c = false := by
  constructor
  · rintro ⟨rfl, rfl⟩
    refine ⟨List.takeWhile_append_dropWhile.symm, fun c hc => List.mem_takeWhile_imp hc, fun c hc => ?_⟩
    have h := List.head?_dropWhile_not p t
    rw [Option.mem_def.1 hc] at h
    simpa using h
  · rintro ⟨rfl, ha, hb⟩
    rw [List.takeWhile_append_of_pos ha, List.dropWhile_append_of_pos ha]
    cases b with
    | nil => simp
    | cons c cs =>
      have hc : ¬ p c = true := by simpa using hb c rfl
      rw [List.takeWhile_cons_of_neg hc, List.dropWhile_cons_of_neg hc]
      simp

/-- a scan for a character stops at the first one, if there is one -/
theorem scan_ne_iff {x : Char} {t a b : Text} :
    (t.takeWhile (· != x) = a ∧ t.dropWhile (· != x) = b) ↔ t = a ++ b ∧ x ∉ a ∧ ∀ c ∈ b.head?, c = x := by
  rw [scan_iff]
  simp only [bne_iff_ne, ne_eq, bne_eq_false_iff_eq]
  refine and_congr_right fun _ => and_congr_left fun _ => ?_
  exact ⟨fun h hx => h x hx rfl, fun h c hc e => h (e ▸ hc)⟩

theorem scan_append {p : Char → Bool} {t ds : Text} {d : Char} (h : t.dropWhile p = d :: ds) (s : Text) :
    (t ++ s).takeWhile p = t.takeWhile p ∧ (t ++ s).dropWhile p = d :: (ds ++ s) := by
  obtain ⟨ht, ha, hd⟩ := scan_iff.1 ⟨rfl, h⟩
  refine scan_iff.2 ⟨?_, ha, hd⟩
  calc t ++ s = (t.takeWhile p ++ d :: ds) ++ s := by rw [← ht]
    _ = t.takeWhile p ++ d :: (ds ++ s) := by rw [List.append_assoc, List.cons_append]

end CrawlFilter
