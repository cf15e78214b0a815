import JavaNaming.Pattern.Regex

/-!
# Which stretches match

`Regex.Matches` says when a stretch of a text, given by its two places, matches a description, without
regard to how matches are looked for. The main results are `mem_ends`, by which `ends` gives exactly
the places where such a stretch can end, and `found_iff`.

A repetition is looked for in a bounded number of rounds. `Rounds.strict_or_any` is the reason why the
bound loses nothing: rounds that are not all needed to move on include one that stays where it is, and
that one can be left out or repeated.
-/

namespace JavaNaming.Pattern

/-- One place is reached from another in a number of rounds. -/
def Rounds (step : Nat → Nat → Prop) : Nat → Nat → Nat → Prop
  | 0, i, j => i = j
  | n + 1, i, j => ∃ m, step i m ∧ Rounds step n m j

/-- Whether the stretch of a text between two places matches. -/
def Regex.Matches (text : Array Char) : Regex → Nat → Nat → Prop
  | .empty, i, j => i = j
  | .chars set, i, j => (∃ c, text[i]? = some c ∧ set.contains c = true) ∧ j = i + 1
  | .look l, i, j => l.holds text i = true ∧ i = j
  | .capture body, i, j => body.Matches text i j
  | .repetition counts body, i, j =>
    ∃ n, counts.least ≤ n ∧ (∀ m ∈ counts.most, n ≤ m) ∧ Rounds (body.Matches text) n i j
  | .seq a b, i, j => ∃ m, a.Matches text i m ∧ b.Matches text m j
  | .alt a b, i, j => a.Matches text i j ∨ b.Matches text i j

/-! ## Rounds -/

namespace Rounds

variable {step : Nat → Nat → Prop}

theorem add {a b i m j : Nat} (h : Rounds step a i m) (h' : Rounds step b m j) :
    Rounds step (a + b) i j := by
  induction a generalizing i with
  | zero =>
    cases h
    rwa [Nat.zero_add]
  | succ a ih =>
    obtain ⟨k, hk, h⟩ := h
    rw [Nat.succ_add]
    exact ⟨k, hk, ih h⟩

theorem split {a b i j : Nat} (h : Rounds step (a + b) i j) :
    ∃ m, Rounds step a i m ∧ Rounds step b m j := by
  induction a generalizing i with
  | zero => exact ⟨i, rfl, by rwa [Nat.zero_add] at h⟩
  | succ a ih =>
    rw [Nat.succ_add] at h
    obtain ⟨k, hk, h⟩ := h
    obtain ⟨m, hm, hj⟩ := ih h
    exact ⟨m, ⟨k, hk, hm⟩, hj⟩

theorem add_iff {a b i j : Nat} :
    Rounds step (a + b) i j ↔ ∃ m, Rounds step a i m ∧ Rounds step b m j :=
  ⟨split, fun ⟨_, h, h'⟩ => h.add h'⟩

/-- Rounds at a place that a step can stay at. -/
theorem stay {i : Nat} (h : step i i) : ∀ n, Rounds step n i i
  | 0 => rfl
  | n + 1 => ⟨i, h, stay h n⟩

section Forward

variable (forward : ∀ i j, step i j → i ≤ j)
include forward

theorem le {n i j : Nat} (h : Rounds step n i j) : i ≤ j := by
  induction n generalizing i with
  | zero => exact Nat.le_of_eq h
  | succ n ih =>
    obtain ⟨m, hm, h⟩ := h
    exact Nat.le_trans (forward i m hm) (ih h)

/-- Either every round moves on, or the same place is reached in any number of rounds that is large
enough to move on. -/
theorem strict_or_any {n i j : Nat} (h : Rounds step n i j) :
    n ≤ j - i ∨ ∀ k, j - i ≤ k → Rounds step k i j := by
  induction n generalizing i with
  | zero => exact .inl (Nat.zero_le _)
  | succ n ih =>
    obtain ⟨m, hm, h⟩ := h
    have him : i ≤ m := forward i m hm
    have hmj : m ≤ j := le forward h
    by_cases heq : i = m
    · -- The first round stays at `i`: it can be taken any number of times.
      subst heq
      refine .inr fun k hk => ?_
      rcases ih h with hn | hany
      · have := (stay hm (k - n)).add h
        rwa [Nat.sub_add_cancel (Nat.le_trans hn hk)] at this
      · exact hany k hk
    · rcases ih h with hn | hany
      · exact .inl (by omega)
      · refine .inr fun k hk => ?_
        obtain ⟨k, rfl⟩ : ∃ k', k = k' + 1 := ⟨k - 1, by omega⟩
        exact ⟨m, hm, hany k (by omega)⟩

end Forward

end Rounds

/-! ## Sets of places -/

theorem mem_insertPlace {x z : Nat} {ys : List Nat} :
    z ∈ mergePlaces.insertPlace x ys ↔ z = x ∨ z ∈ ys := by
  fun_induction mergePlaces.insertPlace x ys with
  | case1 => simp
  | case2 y ys hlt => simp
  | case3 => simp
  | case4 y ys hlt hne ih =>
    rw [List.mem_cons, ih, List.mem_cons]
    exact or_left_comm

@[simp] theorem mem_mergePlaces {z : Nat} {xs ys : List Nat} :
    z ∈ mergePlaces xs ys ↔ z ∈ xs ∨ z ∈ ys := by
  induction xs with
  | nil => simp [mergePlaces]
  | cons x xs ih => simp [mergePlaces, mem_insertPlace, ih, or_assoc]

section Search

/-! A function `f` on sets of places that goes one step from each place. -/

variable {f : List Nat → List Nat} {step : Nat → Nat → Prop}
  (hf : ∀ ps j, j ∈ f ps ↔ ∃ i ∈ ps, step i j)
include hf

theorem mem_iteratePlaces (n : Nat) (ps : List Nat) (j : Nat) :
    j ∈ iteratePlaces f n ps ↔ ∃ i ∈ ps, Rounds step n i j := by
  fun_induction iteratePlaces f n ps with
  | case1 ps => simp [Rounds]
  | case2 => simp
  | case3 n ps hne ih =>
    rw [ih]
    constructor
    · rintro ⟨m, hm, h⟩
      obtain ⟨i, hi, him⟩ := (hf ps m).mp hm
      exact ⟨i, hi, m, him, h⟩
    · rintro ⟨i, hi, m, him, h⟩
      exact ⟨m, (hf ps m).mpr ⟨i, hi, him⟩, h⟩

/-- All places within `n` rounds of those seen, provided that no step leads out of the seen places
but from a fresh one. -/
theorem mem_reachPlaces (n : Nat) (seen fresh : List Nat) (hfresh : ∀ i ∈ fresh, i ∈ seen)
    (hclosed : ∀ i ∈ seen, i ∉ fresh → ∀ j, step i j → j ∈ seen) (j : Nat) :
    j ∈ reachPlaces f n seen fresh ↔ ∃ i ∈ seen, ∃ k ≤ n, Rounds step k i j := by
  fun_induction reachPlaces f n seen fresh with
  | case1 seen fresh => simp [Rounds]
  | case2 n seen =>
    have hstays : ∀ k i, i ∈ seen → Rounds step k i j → j ∈ seen := by
      intro k
      induction k with
      | zero => rintro i hi rfl; exact hi
      | succ k ih =>
        rintro i hi ⟨m, him, h⟩
        exact ih m (hclosed i hi List.not_mem_nil m him) h
    exact ⟨fun hj => ⟨j, hj, 0, Nat.zero_le _, rfl⟩, fun ⟨i, hi, k, _, h⟩ => hstays k i hi h⟩
  | case3 n seen fresh hne new ih =>
    have hnew : ∀ m, m ∈ new ↔ (∃ i ∈ fresh, step i m) ∧ m ∉ seen := by
      intro m
      simp [new, hf]
    have hstep : ∀ i ∈ seen, ∀ m, step i m → m ∈ mergePlaces new seen := by
      intro i hi m him
      rw [mem_mergePlaces, hnew]
      by_cases hm : m ∈ seen
      · exact .inr hm
      · by_cases hif : i ∈ fresh
        · exact .inl ⟨⟨i, hif, him⟩, hm⟩
        · exact absurd (hclosed i hi hif m him) hm
    rw [ih (fun i hi => mem_mergePlaces.mpr (.inl hi))]
    · constructor
      · rintro ⟨i, hi, k, hk, h⟩
        rcases mem_mergePlaces.mp hi with hi | hi
        · obtain ⟨⟨i₀, hi₀, h₀⟩, -⟩ := (hnew i).mp hi
          exact ⟨i₀, hfresh i₀ hi₀, k + 1, by omega, i, h₀, h⟩
        · exact ⟨i, hi, k, by omega, h⟩
      · rintro ⟨i, hi, k, hk, h⟩
        cases k with
        | zero => exact ⟨i, mem_mergePlaces.mpr (.inr hi), 0, by omega, h⟩
        | succ k =>
          obtain ⟨m, him, h⟩ := h
          exact ⟨m, hstep i hi m him, k, by omega, h⟩
    · intro i hi hin m him
      rcases mem_mergePlaces.mp hi with hi | hi
      · exact absurd hi hin
      · exact hstep i hi m him

end Search

/-! ## Where matches end -/

namespace Regex

variable {text : Array Char}

/-- A match does not go back, and one that moves on ends within the text. -/
theorem Matches.le {r : Regex} {i j : Nat} (h : r.Matches text i j) :
    i ≤ j ∧ (i < j → j ≤ text.size) := by
  induction r generalizing i j with
  | empty =>
    cases h
    omega
  | chars set =>
    obtain ⟨⟨c, hc, -⟩, rfl⟩ := h
    obtain ⟨hlt, -⟩ := Array.getElem?_eq_some_iff.mp hc
    exact ⟨Nat.le_succ i, fun _ => hlt⟩
  | look l =>
    obtain ⟨-, rfl⟩ := h
    omega
  | capture body ih => exact ih h
  | repetition counts body ih =>
    obtain ⟨n, -, -, h⟩ := h
    induction n generalizing i with
    | zero =>
      cases h
      omega
    | succ n ihn =>
      obtain ⟨m, him, h⟩ := h
      have h₁ := ih him
      have h₂ := ihn h
      omega
  | seq a b iha ihb =>
    obtain ⟨m, ha, hb⟩ := h
    have h₁ := iha ha
    have h₂ := ihb hb
    omega
  | alt a b iha ihb =>
    rcases h with h | h
    · exact iha h
    · exact ihb h

/-- The numbers of rounds that are tried for a repetition reach what the allowed numbers reach. -/
theorem exists_rounds_iff {step : Nat → Nat → Prop} {size : Nat}
    (hstep : ∀ n i j, Rounds step n i j → i ≤ j ∧ (i < j → j ≤ size)) (counts : Counts)
    (more : Nat)
    (hmore : more = match counts.most with
      | none => size + 2
      | some m => min (m - counts.least) (size + 2)) (i j : Nat) :
    (∃ k ≤ more, Rounds step (min counts.least (size + 2) + k) i j) ↔
      ∃ n, counts.least ≤ n ∧ (∀ m ∈ counts.most, n ≤ m) ∧ Rounds step n i j := by
  have hany : ∀ n, size < n → Rounds step n i j → ∀ k, size ≤ k → Rounds step k i j := by
    intro n hn h k hk
    have hij := hstep n i j h
    rcases h.strict_or_any (fun a b hab => (hstep 1 a b ⟨b, hab, rfl⟩).1) with hle | hany
    · omega
    · exact hany k (by omega)
  have hbound : ∀ m ∈ counts.most, counts.least + more ≤ m := by
    intro m hm
    have := counts.ordered m hm
    rw [Option.mem_def.mp hm] at hmore
    simp only at hmore
    omega
  constructor
  · rintro ⟨k, hk, h⟩
    by_cases hleast : counts.least ≤ size + 2
    · rw [Nat.min_eq_left hleast] at h
      exact ⟨_, Nat.le_add_right _ _, fun m hm => by have := hbound m hm; omega, h⟩
    · rw [Nat.min_eq_right (by omega)] at h
      exact ⟨counts.least, Nat.le_refl _, counts.ordered, hany _ (by omega) h _ (by omega)⟩
  · rintro ⟨n, hn, hmost, h⟩
    by_cases hleast : counts.least ≤ size + 2
    · rw [Nat.min_eq_left hleast]
      by_cases hk : n - counts.least ≤ more
      · exact ⟨n - counts.least, hk, by rwa [Nat.add_sub_cancel' hn]⟩
      · -- More rounds than are tried are only allowed if as many are tried as the text has places.
        have hmore' : more = size + 2 := by
          cases hm : counts.most with
          | none => rw [hmore, hm]
          | some m =>
            have := hmost m hm
            rw [hm] at hmore
            simp only at hmore
            omega
        exact ⟨more, Nat.le_refl _, hany n (by omega) h _ (by omega)⟩
    · rw [Nat.min_eq_right (by omega)]
      exact ⟨0, Nat.zero_le _, hany n (by omega) h _ (by omega)⟩

/-- The search finds exactly the places where a match from one of the given places ends. -/
theorem mem_ends (r : Regex) (ps : List Nat) (j : Nat) :
    j ∈ r.ends text ps ↔ ∃ i ∈ ps, r.Matches text i j := by
  induction r generalizing ps j with
  | empty => simp [ends, Matches]
  | chars set =>
    simp only [ends, Matches, List.mem_filterMap]
    constructor
    · rintro ⟨i, hi, h⟩
      split at h
      · rename_i hc
        obtain ⟨c, hc, hset⟩ := (Option.any_eq_true _ _).mp hc
        exact ⟨i, hi, ⟨c, hc, hset⟩, by simpa using h.symm⟩
      · simp at h
    · rintro ⟨i, hi, ⟨c, hc, hset⟩, rfl⟩
      exact ⟨i, hi, by simp [hc, hset]⟩
  | look l =>
    simp only [ends, Matches, List.mem_filter]
    constructor
    · exact fun ⟨hj, hl⟩ => ⟨j, hj, hl, rfl⟩
    · rintro ⟨i, hi, hl, rfl⟩
      exact ⟨hi, hl⟩
  | capture body ih => exact ih ps j
  | seq a b iha ihb =>
    simp only [ends, Matches, ihb, iha]
    constructor
    · rintro ⟨m, ⟨i, hi, ha⟩, hb⟩
      exact ⟨i, hi, m, ha, hb⟩
    · rintro ⟨i, hi, m, ha, hb⟩
      exact ⟨m, ⟨i, hi, ha⟩, hb⟩
  | alt a b iha ihb =>
    simp only [ends, Matches, mem_mergePlaces, iha, ihb]
    constructor
    · rintro (⟨i, hi, h⟩ | ⟨i, hi, h⟩)
      · exact ⟨i, hi, .inl h⟩
      · exact ⟨i, hi, .inr h⟩
    · rintro ⟨i, hi, h | h⟩
      · exact .inl ⟨i, hi, h⟩
      · exact .inr ⟨i, hi, h⟩
  | repetition counts body ih =>
    have hstep : ∀ n i j, Rounds (body.Matches text) n i j → i ≤ j ∧ (i < j → j ≤ text.size) :=
      fun n i j h => Matches.le (r := .repetition ⟨n, none, by simp⟩ body)
        ⟨n, Nat.le_refl _, by simp, h⟩
    simp only [ends, Matches, ← exists_rounds_iff hstep counts _ rfl, Rounds.add_iff]
    rw [mem_reachPlaces ih _ _ _ (fun _ h => h) (fun i hi hin => absurd hi hin)]
    simp only [mem_iteratePlaces ih]
    constructor
    · rintro ⟨m, ⟨i, hi, him⟩, k, hk, h⟩
      exact ⟨i, hi, k, hk, m, him, h⟩
    · rintro ⟨i, hi, k, hk, m, him, h⟩
      exact ⟨m, ⟨i, hi, him⟩, k, hk, h⟩

/-- Something is found exactly if some stretch within the text matches. -/
theorem found_iff (r : Regex) (text : List Char) :
    r.found text = true ↔ ∃ i j, i ≤ text.length ∧ r.Matches text.toArray i j := by
  unfold found
  rw [Bool.not_eq_true', List.isEmpty_eq_false_iff_exists_mem]
  constructor
  · rintro ⟨j, hj⟩
    obtain ⟨i, hi, h⟩ := (mem_ends r _ j).mp hj
    exact ⟨i, j, by simpa [Nat.lt_succ_iff] using hi, h⟩
  · rintro ⟨i, j, hi, h⟩
    exact ⟨j, (mem_ends r _ j).mpr ⟨i, by simpa [Nat.lt_succ_iff] using hi, h⟩⟩

/-- Between the start and the end of the text, something is found exactly if the text matches as a
whole. -/
theorem found_between_start_and_stop (r : Regex) (text : List Char) :
    (seq (look .start) (seq r (look .stop))).found text = true ↔
      r.Matches text.toArray 0 text.length := by
  rw [found_iff]
  constructor
  · rintro ⟨i, j, hi, m, ⟨hstart, rfl⟩, k, h, hstop, rfl⟩
    obtain rfl : i = 0 := by
      simp only [Look.holds, Look.holdsBetween, Option.isNone_iff_eq_none] at hstart
      split at hstart
      · assumption
      · have := Array.getElem?_eq_none_iff.mp hstart
        simp only [List.size_toArray] at this
        omega
    have hk : text.length ≤ k := by
      simp only [Look.holds, Look.holdsBetween, Option.isNone_iff_eq_none] at hstop
      simpa using Array.getElem?_eq_none_iff.mp hstop
    have hle := h.le
    simp only [List.size_toArray] at hle
    have : k = text.length := by omega
    exact this ▸ h
  · intro h
    refine ⟨0, text.length, Nat.zero_le _, 0, ⟨?_, rfl⟩, text.length, h, ?_, rfl⟩
    · simp [Look.holds, Look.holdsBetween]
    · simp [Look.holds, Look.holdsBetween]

end Regex

end JavaNaming.Pattern
