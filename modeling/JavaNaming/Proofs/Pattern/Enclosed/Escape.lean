import JavaNaming.Proofs.Pattern.Enclosed.Reader

/-!
# Escapes of an enclosed pattern

Escapes are read in the same shape alone and within a group. There is one lemma for each function that
reads a part, here and in the modules on classes and on groups, and all have one form: from two readers
that are `Within` each other, what the first reading gives the second one gives too, and the readers
after it are `Within` each other again. Where the first reading fails, the lemma says how the second one
may go astray.

* A room of `k - 1` after a room of `k` says that at least one character was taken.
* The two readings may have different fuel. Where a function stops when its fuel is used up, each
  reading must have more fuel than characters.
-/

namespace JavaNaming.Pattern

/-- Related results, and the two readers after them. -/
def Reads {α : Type} (R : α → α → Prop) (tail : List Char) (room : Nat) (a b : α × Reader) : Prop :=
  R a.1 b.1 ∧ Within tail room a.2 b.2

variable {tail : List Char} {k n n' : Nat} {r r' : Reader} {c : Char}

/-- A closing parenthesis ends what is read while a test is passed, as the end does. -/
theorem reads_takeWhile_of_lt {test : Char → Bool} (h : Within tail k r r') (ht : test ')' = false)
    (hn : r.rest.length < n) (hnn : n ≤ n') :
    Reads Eq tail k (r.takeWhile test n) (r'.takeWhile test n') := by
  induction n generalizing r r' n' with
  | zero => omega
  | succ n ih =>
    obtain ⟨n', rfl⟩ : ∃ m, n' = m + 1 := ⟨n' - 1, by omega⟩
    unfold Reader.takeWhile
    cases hc : r.char? with
    | none =>
      rcases h.char?_of_none hc with hc' | hc'
      · rw [hc']
        exact ⟨rfl, h⟩
      · rw [hc']
        simp only [ht]
        exact ⟨rfl, h⟩
    | some c =>
      rw [h.char? hc]
      dsimp only
      split
      · have hlen := Reader.length_bumpSkip_lt hc
        obtain ⟨hcs, h₁⟩ := ih (h.bumpSkip hc).pred (by omega) (show n ≤ n' by omega)
        exact ⟨congrArg (c :: ·) hcs, h₁⟩
      · exact ⟨rfl, h⟩

theorem Within.takeWhile (h : Within tail k r r') (test : Char → Bool) (ht : test ')' = false) :
    Reads Eq tail k (r.takeWhile test (r.rest.length + 1))
      (r'.takeWhile test (r'.rest.length + 1)) :=
  reads_takeWhile_of_lt h ht (Nat.lt_succ_self _) (Nat.succ_le_succ h.length_le_length)

/-! ## Characters by number -/

theorem readHexDigits_closing (hr : r.rest = closing) :
    readHexDigits (n + 1) r = fail .hexDigitInvalid r.charSpan := by
  unfold readHexDigits
  rw [Reader.char?_of_rest_eq hr]
  rfl

theorem follows_readHexDigits {S : List Char × Reader → Prop} (h : Within tail k r r') :
    Follows (Reads Eq tail k) S (readHexDigits n r) (readHexDigits n r') := by
  induction n generalizing r r' S with
  | zero => exact .ok ⟨rfl, h⟩
  | succ n ih =>
    cases hc : r.char? with
    | none =>
      unfold readHexDigits
      rw [hc]
      rcases h.char?_of_none hc with hc' | hc'
      · rw [hc']
        exact follows_fail
      · rw [hc']
        exact follows_fail
    | some c =>
      unfold readHexDigits
      rw [hc, h.char? hc]
      dsimp only
      split
      · refine (ih (h.bumpSkip hc).pred).bind ?_
        rintro ⟨digits, r₁⟩ ⟨_, r₁'⟩ ⟨rfl, h₁⟩
        exact .pure ⟨rfl, h₁⟩
      · exact follows_fail

/-- Without a brace nothing is read up to a brace. -/
theorem readBraced_ne_ok {allowed : Char → Bool} {unfinished : Reader → Span}
    (hn : r.rest.length < n) (hr : '}' ∉ r.bumpSkip.rest) (b : List Char × Reader) :
    readBraced allowed unfinished n r ≠ .ok b := by
  induction n generalizing r b with
  | zero => omega
  | succ n ih =>
    unfold readBraced
    dsimp only
    split
    · exact nofun
    · rename_i hb
      obtain ⟨cs, hcs⟩ := Reader.char?_eq_some hb
      rw [hcs] at hr
      exact absurd List.mem_cons_self hr
    · rename_i d _ hd
      split
      · intro hok
        obtain ⟨b₁, hb₁, -⟩ := bind_eq_ok hok
        have htail := r.bumpSkip.bumpSkip_suffix.trans (List.tail_suffix _)
        have hlt := Reader.length_bumpSkip_lt hd
        have hle := r.bumpSkip_suffix.length_le
        rw [List.length_tail] at hle
        exact ih (by omega) (fun hmem => hr (htail.mem hmem)) b₁ hb₁
      · exact nofun

/-- What is read up to a closing brace ends at the brace. -/
theorem follows_readBraced {allowed : Char → Bool} {unfinished unfinished' : Reader → Span}
    {S : List Char × Reader → Prop} (h : Within tail k r r') (hc : r.char? = some c)
    (hn : r.rest.length < n) (hn' : r'.rest.length < n') :
    Follows (fun a b => Reads Eq tail (k - 1) a b ∧ a.2.char? = some '}') S
      (readBraced allowed unfinished n r) (readBraced allowed unfinished' n' r') := by
  induction n generalizing k r r' c n' S with
  | zero => omega
  | succ n ih =>
    have h₁ := h.bumpSkip hc
    have hlen := Reader.length_bumpSkip_lt hc
    have hlen' := Reader.length_bumpSkip_lt (h.char? hc)
    cases hd : r.bumpSkip.char? with
    | none =>
      have hr : '}' ∉ r'.bumpSkip.rest := by
        rcases h₁.rest_of_none hd with hr' | hr' <;> simp [hr', closing]
      have hx : readBraced allowed unfinished (n + 1) r =
          fail .escapeUnfinished (unfinished r.bumpSkip) := by
        rw [readBraced, hd]
      rw [hx]
      exact .of_error fun b hb => absurd hb (readBraced_ne_ok hn' hr b)
    | some d =>
      obtain ⟨n', rfl⟩ : ∃ m, n' = m + 1 := ⟨n' - 1, by omega⟩
      unfold readBraced
      dsimp only
      rw [hd, h₁.char? hd]
      split
      · cases ‹some d = none›
      · rename_i hb
        exact .ok ⟨⟨rfl, h₁⟩, by rw [hd, hb]⟩
      · split
        · refine (ih h₁ hd (by omega) (by omega)).bind ?_
          rintro ⟨cs, r₂⟩ ⟨_, r₂'⟩ ⟨⟨rfl, h₂⟩, hb⟩
          exact .pure ⟨⟨rfl, h₂.pred⟩, hb⟩
        · exact follows_fail

theorem follows_readHex {start start' : Spot} {S : Literal × Reader → Prop} (h : Within tail k r r')
    (hc : r.char? = some c) :
    Follows (Reads (InvImage Eq Literal.shape) tail (k - 1)) S (readHex start r)
      (readHex start' r') := by
  have h₁ := h.bumpSkip hc
  unfold readHex
  rw [h.sees (by decide), h.sees (by decide)]
  obtain ⟨m, hm⟩ : ∃ m, (if r.sees 'x' then 2 else if r.sees 'u' then 4 else 8) = m + 1 := by
    split
    · exact ⟨1, rfl⟩
    · split
      · exact ⟨3, rfl⟩
      · exact ⟨7, rfl⟩
  rw [hm]
  refine h₁.ite_atEnd (fun hr' b hb => ?_) fun d hd => ?_
  · -- A parenthesis is no digit.
    rw [(Reader.leaving_of_rest_eq hr').sees_eq_false (by decide) (by decide),
      readHexDigits_closing hr'] at hb
    cases hb
  · rw [h₁.sees (by decide)]
    split
    · refine (follows_readBraced h₁ hd (Nat.lt_succ_self _) (Nat.lt_succ_self _)).bind ?_
      rintro ⟨digits, r₂⟩ ⟨_, r₂'⟩ ⟨⟨rfl, h₂⟩, hb⟩
      dsimp only
      split
      · exact follows_fail
      · cases hexChar? digits with
        | none => exact follows_fail
        | some x =>
          dsimp only
          exact .pure ⟨rfl, (h₂.bumpSkip hb).pred.pred⟩
    · refine (follows_readHexDigits h₁).bind ?_
      rintro ⟨digits, r₂⟩ ⟨_, r₂'⟩ ⟨rfl, h₂⟩
      dsimp only
      cases hexChar? digits with
      | none => exact follows_fail
      | some x =>
        dsimp only
        exact .pure ⟨rfl, h₂⟩

/-! ## Properties and boundaries -/

/-- The letter of a property may be missing; then the parenthesis is taken for it. -/
theorem follows_readProperty {start start' : Spot} (h : Within tail k r r') (hc : r.char? = some c) :
    Follows (Reads (InvImage Eq (·.2)) tail (k - 1)) (·.2.Spent) (readProperty start r)
      (readProperty start' r') := by
  have h₁ := h.bumpSkip hc
  unfold readProperty
  rw [h.sees (by decide)]
  dsimp only
  split
  · rename_i hn
    rcases h₁.rest_of_none hn with hr' | hr'
    · rw [Reader.char?_eq_none.mpr hr']
      exact follows_fail
    · rw [Reader.char?_of_rest_eq hr']
      refine .of_error fun b hb => ?_
      cases hb
      exact (Reader.leaving_of_rest_eq hr').bumpSkip
  · rename_i hb
    rw [h₁.char? hb]
    refine (follows_readBraced h₁ hb (Nat.lt_succ_self _) (Nat.lt_succ_self _)).bind ?_
    rintro ⟨text, r₂⟩ ⟨_, r₂'⟩ ⟨⟨rfl, h₂⟩, hbrace⟩
    exact .pure ⟨rfl, (h₂.bump hbrace).pred.pred⟩
  · rename_i hs
    rw [h₁.char? hs]
    exact follows_fail
  · rename_i d hb hs hd
    rw [h₁.char? hd]
    simp only
    exact .pure ⟨rfl, (h₁.bumpSkip hd).pred⟩

/-- A brace and then the closing. -/
def Reader.AtBrace (r : Reader) : Prop := r.char? = some '{' ∧ r.bumpSkip.rest = closing

/-- A brace with nothing after it may be taken for the brace of a count. -/
theorem follows_readBoundary {start start' : Spot} (h : Within tail k r r')
    (hc : r.char? = some '{') :
    Follows (Reads Eq tail k) (·.2.AtBrace) (readBoundary start r) (readBoundary start' r') := by
  have h₁ := h.bumpSkip hc
  unfold readBoundary
  dsimp only
  cases hd : r.bumpSkip.char? with
  | none =>
    rcases h₁.rest_of_none hd with hr' | hr'
    · rw [Reader.char?_eq_none.mpr hr']
      exact follows_fail
    · rw [Reader.char?_of_rest_eq hr']
      exact .of_error fun b hb => by
        cases hb
        exact ⟨h.char? hc, hr'⟩
  | some d =>
    rw [h₁.char? hd]
    dsimp only
    split
    · exact .ok ⟨rfl, h⟩
    · obtain ⟨hname, h₂⟩ := h₁.takeWhile isBoundaryChar (by decide)
      rw [← hname, h₂.sees (by decide)]
      split
      · exact follows_fail
      · rename_i hb
        cases boundary? (String.ofList (r.bumpSkip.takeWhile _ _).1) with
        | none => exact follows_fail
        | some kind =>
          exact .ok ⟨rfl, (h₂.bump (Reader.char?_of_sees (by simpa using hb))).pred.pred⟩

/-- An escape that is not finished in the pattern: it has taken the parenthesis, or it is a condition
and leaves a brace. -/
def EscapeAstray (b : Expr × Reader) : Prop :=
  b.2.Spent ∨ (∃ span kind, b.1 = .assertion span kind) ∧ b.2.AtBrace

theorem follows_readEscape (h : Within tail k r r') (hc : r.char? = some c) :
    Follows (Reads (InvImage Eq Expr.shape) tail (k - 1)) EscapeAstray (readEscape r)
      (readEscape r') := by
  have h₁ := h.bump hc
  unfold readEscape
  dsimp only
  cases hd : r.bump.char? with
  | none =>
    rcases h₁.rest_of_none hd with hr' | hr'
    · rw [Reader.char?_eq_none.mpr hr']
      exact follows_fail
    · -- The escape of a parenthesis is the parenthesis.
      rw [Reader.char?_of_rest_eq hr']
      refine .of_error fun b hb => ?_
      cases hb
      exact .inl (Reader.leaving_of_rest_eq hr').bump
  | some d =>
    have hpast := (h₁.bump hd).pred
    -- The character after the backslash, the same for both readers, decides what is read.
    rw [h₁.char? hd]
    dsimp only
    split
    · exact follows_fail
    split
    · refine (follows_readHex h₁ hd).bind ?_
      rintro ⟨l, r₂⟩ ⟨l', r₂'⟩ ⟨hl, h₂⟩
      exact .pure ⟨congrArg Expr.literal hl, h₂.pred⟩
    split
    · refine (follows_readProperty h₁ hd).bind_astray ?_ ?_
      · rintro ⟨property, r₂'⟩ hspent b hb
        cases hb
        exact .inl hspent
      · rintro ⟨⟨span, query, negated⟩, r₂⟩ ⟨⟨span', _, _⟩, r₂'⟩ ⟨⟨⟩, h₂⟩
        exact .pure ⟨rfl, h₂.pred⟩
    split
    · exact .pure ⟨rfl, hpast⟩
    split
    · exact .pure ⟨rfl, hpast⟩
    split
    · exact .pure ⟨rfl, hpast⟩
    split
    · rw [hpast.sees (by decide)]
      split
      · rename_i hb
        rw [Bool.and_eq_true] at hb
        refine (follows_readBoundary hpast (Reader.char?_of_sees hb.2)).bind_astray ?_ ?_
        · rintro ⟨special, r₂'⟩ hbrace b hb
          cases hb
          exact .inr ⟨⟨_, _, rfl⟩, hbrace⟩
        · rintro ⟨special, r₂⟩ ⟨_, r₂'⟩ ⟨rfl, h₂⟩
          exact .pure ⟨rfl, h₂⟩
      · exact .pure ⟨rfl, hpast⟩
    · exact follows_fail

end JavaNaming.Pattern
