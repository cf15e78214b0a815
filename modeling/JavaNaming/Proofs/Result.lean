/-!
# Results that may fail

Taking apart a computation that may fail, and two ways to compare such computations that do not look at
their errors: by what they give (`Except.toOption`), and by a relation between what they give
(`Follows`), which also says what the second one may do where the first one fails.
-/

namespace JavaNaming

variable {ε α β γ δ : Type}

theorem bind_eq_ok {x : Except ε α} {f : α → Except ε β} {b : β} (h : x >>= f = .ok b) :
    ∃ a, x = .ok a ∧ f a = .ok b := by
  cases x with
  | error e => cases h
  | ok a => exact ⟨a, rfl, h⟩

theorem bind_eq_ok_iff {x : Except ε α} {f : α → Except ε β} {b : β} :
    x >>= f = .ok b ↔ ∃ a, x = .ok a ∧ f a = .ok b := by
  refine ⟨bind_eq_ok, ?_⟩
  rintro ⟨a, rfl, h⟩
  exact h

/-- If something else is done first, it is still done first when more follows. -/
theorem bind_eq_ok_iff_of_first {γ : Type} {x : Except ε α} {y : Except ε γ} {f : γ → Except ε α}
    (hx : ∀ a, x = .ok a ↔ ∃ c, y = .ok c ∧ f c = .ok a) {g : α → Except ε β} {b : β} :
    x >>= g = .ok b ↔ ∃ c, y = .ok c ∧ f c >>= g = .ok b := by
  simp only [bind_eq_ok_iff, hx]
  constructor
  · rintro ⟨a, ⟨c, hc, ha⟩, hb⟩
    exact ⟨c, hc, a, ha, hb⟩
  · rintro ⟨c, hc, a, ha, hb⟩
    exact ⟨a, ⟨c, hc, ha⟩, hb⟩

theorem map_eq_ok {x : Except ε α} {f : α → β} {b : β} (h : f <$> x = .ok b) :
    ∃ a, x = .ok a ∧ f a = b := by
  cases x with
  | error e => cases h
  | ok a => exact ⟨a, rfl, Except.ok.inj h⟩

theorem mapM_cons_eq_ok {f : α → Except ε β} {a : α} {as : List α} {bs : List β}
    (h : (a :: as).mapM f = .ok bs) :
    ∃ b bs', f a = .ok b ∧ as.mapM f = .ok bs' ∧ bs = b :: bs' := by
  rw [List.mapM_cons] at h
  obtain ⟨b, hb, h⟩ := bind_eq_ok h
  obtain ⟨bs', hbs', h⟩ := bind_eq_ok h
  cases h
  exact ⟨b, bs', hb, hbs', rfl⟩

theorem exists_mapM_iff (f : α → Except ε β) (xs : List α) :
    (∃ ys, xs.mapM f = .ok ys) ↔ ∀ x ∈ xs, ∃ y, f x = .ok y := by
  induction xs with
  | nil => simp [pure, Except.pure]
  | cons x xs ih =>
    rw [List.mapM_cons, List.forall_mem_cons, ← ih]
    constructor
    · rintro ⟨ys, h⟩
      obtain ⟨y, hy, h⟩ := bind_eq_ok h
      obtain ⟨ys', hys, -⟩ := bind_eq_ok h
      exact ⟨⟨y, hy⟩, ys', hys⟩
    · rintro ⟨⟨y, hy⟩, ys, hys⟩
      refine ⟨y :: ys, ?_⟩
      rw [hy, hys]
      rfl

theorem mapM_cons_eq_error_iff {f : α → Except ε β} {a : α} {as : List α} {e : ε} :
    (a :: as).mapM f = .error e ↔
      f a = .error e ∨ (∃ b, f a = .ok b) ∧ as.mapM f = .error e := by
  rw [List.mapM_cons]
  cases f a with
  | error e' => simp [bind, Except.bind]
  | ok b =>
    cases as.mapM f with
    | error e' => simp [bind, Except.bind]
    | ok bs => simp [bind, Except.bind, pure, Except.pure]

/-- A list of computations fails as the first of them that fails. -/
theorem mapM_eq_error_iff {f : α → Except ε β} {as : List α} {e : ε} :
    as.mapM f = .error e ↔ ∃ before a after, as = before ++ a :: after ∧
      (∀ b ∈ before, ∃ c, f b = .ok c) ∧ f a = .error e := by
  induction as with
  | nil => simp [pure, Except.pure]
  | cons a as ih =>
    rw [mapM_cons_eq_error_iff, ih]
    constructor
    · rintro (h | ⟨ha, before, x, after, rfl, hbefore, hx⟩)
      · exact ⟨[], a, as, rfl, by simp, h⟩
      · exact ⟨a :: before, x, after, rfl, List.forall_mem_cons.2 ⟨ha, hbefore⟩, hx⟩
    · rintro ⟨before, x, after, h, hbefore, hx⟩
      cases before with
      | nil =>
        cases h
        exact .inl hx
      | cons b before =>
        cases h
        obtain ⟨hb, hbefore⟩ := List.forall_mem_cons.1 hbefore
        exact .inr ⟨hb, before, x, after, rfl, hbefore, hx⟩

/-- What each step keeps, a whole run keeps. -/
theorem foldlM_keeps {P : β → Prop} {f : β → α → Except ε β} {as : List α} {b b' : β}
    (hstep : ∀ b a b', P b → f b a = .ok b' → P b') (hb : P b) (h : as.foldlM f b = .ok b') :
    P b' := by
  induction as generalizing b with
  | nil =>
    cases h
    exact hb
  | cons a as ih =>
    rw [List.foldlM_cons] at h
    obtain ⟨c, hc, h⟩ := bind_eq_ok h
    exact ih (hstep b a c hb hc) h

/-- In a run without errors no step has one. -/
theorem exists_step_of_mem {f : β → α → Except ε β} {as : List α} {b b' : β}
    (h : as.foldlM f b = .ok b') {a : α} (ha : a ∈ as) : ∃ c c', f c a = .ok c' := by
  induction as generalizing b with
  | nil => cases ha
  | cons a' as ih =>
    rw [List.foldlM_cons] at h
    obtain ⟨c, hc, h⟩ := bind_eq_ok h
    rcases List.mem_cons.1 ha with rfl | ha
    · exact ⟨b, c, hc⟩
    · exact ih h ha

instance decidableExistsOk (x : Except ε α) : Decidable (∃ a, x = .ok a) :=
  match x with
  | .ok a => .isTrue ⟨a, rfl⟩
  | .error _ => .isFalse nofun

instance decidableExistsOkAnd (x : Except ε α) (P : α → Prop) [DecidablePred P] :
    Decidable (∃ a, x = .ok a ∧ P a) :=
  match x with
  | .ok a => decidable_of_iff (P a) ⟨fun h => ⟨a, rfl, h⟩, fun ⟨_, ha, h⟩ => Except.ok.inj ha ▸ h⟩
  | .error _ => .isFalse nofun

theorem toOption_bind_congr {x y : Except ε α} {f g : α → Except ε β}
    (h : x.toOption = y.toOption) (hfg : ∀ a, (f a).toOption = (g a).toOption) :
    (x >>= f).toOption = (y >>= g).toOption := by
  cases x with
  | error e =>
    cases y with
    | error e' => rfl
    | ok b => cases h
  | ok a =>
    cases y with
    | error e' => cases h
    | ok b =>
      cases h
      exact hfg a

theorem eq_ok_of_toOption_eq {x : Except ε α} {a : α} (h : x.toOption = some a) : x = .ok a := by
  cases x with
  | error e => cases h
  | ok b => exact congrArg Except.ok (Option.some.inj h)

/-- The second computation follows the first one. Where the first one has a result, the second one has
a result that is related to it. Where the first one fails, the second one fails too, unless it goes
astray. -/
def Follows (R : α → β → Prop) (astray : β → Prop) : Except ε α → Except ε β → Prop
  | .ok a, .ok b => R a b
  | .ok _, .error _ => False
  | .error _, .ok b => astray b
  | .error _, .error _ => True

/-- For a computation that never goes astray. -/
def Never (_ : β) : Prop := False

namespace Follows

variable {R : α → β → Prop} {S : β → Prop} {R' : γ → δ → Prop} {S' : δ → Prop}
variable {x : Except ε α} {y : Except ε β} {f : α → Except ε γ} {g : β → Except ε δ}

theorem exists_ok (h : Follows R S x y) {a : α} (hx : x = .ok a) : ∃ b, y = .ok b ∧ R a b := by
  subst hx
  cases y with
  | error e => exact h.elim
  | ok b => exact ⟨b, rfl, h⟩

theorem astray (h : Follows R S x y) {e : ε} {b : β} (hx : x = .error e) (hy : y = .ok b) : S b := by
  subst hx hy
  exact h

theorem error {e e' : ε} : Follows R S (.error e) (.error e') := trivial

theorem of_error {e : ε} (h : ∀ b, y = .ok b → S b) : Follows R S (.error e) y := by
  cases y with
  | error e' => trivial
  | ok b => exact h b rfl

theorem ok {a : α} {b : β} (h : R a b) : Follows R S (.ok a : Except ε α) (.ok b) := h

theorem pure {a : α} {b : β} (h : R a b) :
    Follows R S (Pure.pure a : Except ε α) (Pure.pure b) :=
  h

theorem mono {R₁ : α → β → Prop} (h : Follows R S x y) (hR : ∀ a b, R a b → R₁ a b) :
    Follows R₁ S x y := by
  cases x with
  | error e => exact of_error fun b hy => h.astray rfl hy
  | ok a =>
    obtain ⟨b, rfl, hab⟩ := h.exists_ok rfl
    exact ok (hR a b hab)

/-- Where the second computation has gone astray, what comes after it stays astray. -/
theorem bind_astray (h : Follows R S x y) (hg : ∀ b, S b → ∀ d, g b = .ok d → S' d)
    (hfg : ∀ a b, R a b → Follows R' S' (f a) (g b)) : Follows R' S' (x >>= f) (y >>= g) := by
  cases x with
  | error e =>
    refine of_error fun d hd => ?_
    obtain ⟨b, rfl, hd⟩ := bind_eq_ok hd
    exact hg b h d hd
  | ok a =>
    obtain ⟨b, rfl, hab⟩ := h.exists_ok rfl
    exact hfg a b hab

theorem bind (h : Follows R Never x y) (hfg : ∀ a b, R a b → Follows R' S' (f a) (g b)) :
    Follows R' S' (x >>= f) (y >>= g) :=
  h.bind_astray (fun _ hb => hb.elim) hfg

theorem of_toOption {f : α → γ} {x y : Except ε α} {S : α → Prop}
    (h : x.toOption.map f = y.toOption.map f) : Follows (InvImage Eq f) S x y := by
  cases x with
  | error e =>
    cases y with
    | error e' => exact error
    | ok b => cases h
  | ok a =>
    cases y with
    | error e => cases h
    | ok b => exact ok (Option.some.inj h)

end Follows

end JavaNaming
