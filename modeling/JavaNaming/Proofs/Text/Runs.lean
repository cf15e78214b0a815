import Mathlib.Data.List.Basic

/-!
# Runs

A run at the start of a list is as long as its elements have some property. Readers take a run and go on
behind it.

* `takeWhile_run`, `dropWhile_run`: a run that is followed by an element without the property, or by
  nothing, is what is taken.
* `exists_takeWhile_append`: what follows a run that does not reach the end.
-/

namespace JavaNaming.Text

variable {α : Type} {p : α → Bool} {run rest : List α}

theorem takeWhile_run (hrun : ∀ a ∈ run, p a = true) (hrest : ∀ a ∈ rest.head?, p a = false) :
    (run ++ rest).takeWhile p = run := by
  rw [List.takeWhile_append_of_pos hrun]
  cases rest with
  | nil => simp
  | cons a rest => simp [hrest a rfl]

theorem dropWhile_run (hrun : ∀ a ∈ run, p a = true) (hrest : ∀ a ∈ rest.head?, p a = false) :
    (run ++ rest).dropWhile p = rest := by
  rw [List.dropWhile_append_of_pos hrun]
  cases rest with
  | nil => rfl
  | cons a rest => simp [hrest a rfl]

/-- A run that ends before the list does is followed by an element that does not belong to it. -/
theorem exists_takeWhile_append {as : List α} (h : (as.takeWhile p).length < as.length) :
    ∃ a rest, as = as.takeWhile p ++ a :: rest ∧ p a = false := by
  induction as with
  | nil => simp at h
  | cons b as ih =>
    by_cases hb : p b = true
    · rw [List.takeWhile_cons_of_pos hb] at h ⊢
      obtain ⟨a, rest, has, ha⟩ := ih (Nat.lt_of_succ_lt_succ h)
      exact ⟨a, rest, congrArg (b :: ·) has, ha⟩
    · rw [List.takeWhile_cons_of_neg hb]
      exact ⟨b, as, rfl, by simpa using hb⟩

end JavaNaming.Text
