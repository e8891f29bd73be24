/-
When a computation that can fail succeeds, by the way it was put together.
-/
import Mathlib.Tactic.Common

namespace CrawlFilter

theorem except_bind_eq_ok {ε α β : Type} {x : Except ε α} {f : α → Except ε β} {b : β} :
    (x >>= f) = .ok b ↔ ∃ a, x = .ok a ∧ f a = .ok b := by
  cases x <;> simp [bind, Except.bind]

/-- two lists that are read one after the other and appended -/
theorem except_append_eq_ok {ε α : Type} {x y : Except ε (List α)} {rs : List α} :
    (do let ps ← x; let qs ← y; return ps ++ qs) = .ok rs ↔ ∃ ps qs, x = .ok ps ∧ y = .ok qs ∧ rs = ps ++ qs := by
  simp only [except_bind_eq_ok, pure, Except.pure, Except.ok.injEq]
  constructor
  · rintro ⟨ps, hp, qs, hq, rfl⟩
    exact ⟨ps, qs, hp, hq, rfl⟩
  · rintro ⟨ps, qs, hp, hq, rfl⟩
    exact ⟨ps, hp, qs, hq, rfl⟩

theorem except_map_eq_ok {ε α β : Type} {x : Except ε α} {f : α → β} {b : β} :
    x.map f = .ok b ↔ ∃ a, x = .ok a ∧ f a = b := by
  cases x <;> simp [Except.map]

theorem except_mapError_eq_ok {ε δ α : Type} {x : Except ε α} {g : ε → δ} {a : α} :
    x.mapError g = .ok a ↔ x = .ok a := by
  cases x <;> simp [Except.mapError]

/-- errors that are renamed in both of two lists are renamed in the two appended -/
theorem except_append_mapError {ε δ α : Type} (g : ε → δ) (x y : Except ε (List α)) :
    (do let ps ← x.mapError g; let qs ← y.mapError g; return ps ++ qs) =
      (do let ps ← x; let qs ← y; return ps ++ qs : Except ε (List α)).mapError g := by
  cases x with
  | error e => rfl
  | ok ps => cases y <;> rfl

theorem except_append_eq_error {ε α : Type} {x y : Except ε (List α)} {e : ε} :
    (do let ps ← x; let qs ← y; return ps ++ qs) = .error e ↔ x = .error e ∨ (∃ ps, x = .ok ps) ∧ y = .error e := by
  cases x with
  | error d => simp [bind, Except.bind]
  | ok ps => cases y <;> simp [bind, Except.bind, pure, Except.pure]

theorem except_exists_ok_iff {ε α : Type} {x : Except ε α} : (∃ a, x = .ok a) ↔ ∀ e, x ≠ .error e := by
  cases x <;> simp

end CrawlFilter
