import JavaNaming.Proofs.Pattern.Depth
import JavaNaming.Proofs.Pattern.Enclosed.Step

/-!
# Patterns within a group

A pattern is read from its start to its end in the same shape alone and between the start of a line, a
group, and the end of a line. There are two main results.

* `readWhole_of_eq_ok`: a pattern that can be read alone can also be read in the group, as its
  expression between the two conditions, unless it ends in a comment. Then what stands after the pattern
  goes into the comment, and the group is left open.
* `readWhole_enclose_ne_ok`: a pattern that cannot be read alone cannot be read in the group either,
  unless it closes a group that it has not opened.
-/

namespace JavaNaming.Pattern

/-- A pattern in a group, between the start and the end of a line. -/
def enclose (pattern : List Char) : List Char := '^' :: '(' :: '?' :: ':' :: (pattern ++ closing)

/-- An expression in a group, between the start and the end of a line. -/
def Expr.enclosed (e : Expr) : Expr :=
  .concat anywhere [.assertion anywhere .startLine, .group anywhere false [] e,
    .assertion anywhere .endLine]

variable {tail : List Char} {bottom : List Frame} {k m n : Nat} {p p' q t : Parsing} {c : Char}

/-! ## Runs -/

/-- Pass over blanks and comments. -/
def Parsing.skip (p : Parsing) : Parsing := { p with reader := p.reader.skip }

/-- Go on from a place where nothing is left to skip. -/
def readFrom (fuel : Nat) (p : Parsing) : Read Parsing :=
  match p.reader.char? with
  | none => .ok p
  | some c => readStep p c >>= readSteps fuel

theorem readSteps_succ (n : Nat) (p : Parsing) : readSteps (n + 1) p = readFrom n p.skip := rfl

theorem readFrom_of_none (hc : p.reader.char? = none) : readFrom n p = .ok p := by
  rw [readFrom, hc]

theorem readFrom_of_some (hc : p.reader.char? = some c) :
    readFrom n p = readStep p c >>= readSteps n := by
  rw [readFrom, hc]

/-- So many steps lead from one place to another, where nothing is left to skip. -/
inductive Reaches : Nat → Parsing → Parsing → Prop
  | here (p : Parsing) : Reaches 0 p p.skip
  | step {n : Nat} {p p₁ q : Parsing} {c : Char} (hc : p.skip.reader.char? = some c)
    (hstep : readStep p.skip c = .ok p₁) (h : Reaches n p₁ q) : Reaches (n + 1) p q

theorem Reaches.readSteps_eq (h : Reaches n p q) (m : Nat) :
    readSteps (m + n + 1) p = readFrom m q := by
  induction h with
  | here p => rfl
  | @step n p p₁ q c hc hstep h ih =>
    rw [readSteps_succ, readFrom_of_some hc, hstep]
    exact ih

theorem readStep_unopened (hstack : p.stack = []) :
    readStep p ')' = fail .groupUnopened p.reader.charSpan := by
  show closeGroup p = _
  rw [closeGroup, hstack]

/-- A pattern agrees with itself. -/
theorem Parsing.Within.refl (p : Parsing) : p.Within [] [] p.reader.rest.length p where
  reader := ⟨.inl rfl, rfl, .inl (List.append_nil _).symm, Nat.le_refl _⟩
  body := rfl
  stack := ⟨p.stack, (List.append_nil _).symm,
    List.forall₂_same.mpr fun _ _ => ⟨rfl, rfl, rfl, rfl⟩⟩
  names := rfl

/-- A parenthesis that a step takes closes an open group. -/
theorem stack_ne_nil_of_readStep (h : readStep p c = .ok q) (hc : c = ')') : p.stack ≠ [] := by
  rintro hstack
  rw [hc, readStep_unopened hstack] at h
  cases h

/-- Every step takes a character. -/
theorem length_readStep_lt (hc : p.reader.char? = some c) (h : readStep p c = .ok q) :
    q.reader.rest.length < p.reader.rest.length := by
  obtain ⟨q', -, hq⟩ := (follows_readStep (.refl p) hc (stack_ne_nil_of_readStep h)).exists_ok h
  have hpos := (Parsing.Within.refl p).reader.pos hc
  have := hq.reader.length_le
  omega

theorem exists_reaches_of_ok (hlen : p.reader.rest.length < n) (h : readSteps n p = .ok q) :
    ∃ m < n, Reaches m p q ∧ q.reader.rest = [] := by
  induction n generalizing p with
  | zero => omega
  | succ n ih =>
    rw [readSteps_succ] at h
    cases hc : p.skip.reader.char? with
    | none =>
      rw [readFrom_of_none hc] at h
      cases h
      exact ⟨0, Nat.succ_pos n, .here p, Reader.char?_eq_none.mp hc⟩
    | some c =>
      rw [readFrom_of_some hc] at h
      obtain ⟨p₁, hstep, h⟩ := bind_eq_ok h
      have hle : p.skip.reader.rest.length ≤ _ := p.reader.skip_suffix.length_le
      have hlt := length_readStep_lt hc hstep
      obtain ⟨m, hm, hreach, hend⟩ := ih (by omega) h
      exact ⟨m + 1, by omega, .step hc hstep hreach, hend⟩

theorem exists_reaches_of_error {e : SyntaxError} (h : readSteps n p = .error e) :
    ∃ m < n, ∃ q c, Reaches m p q ∧ q.reader.char? = some c ∧ readStep q c = .error e := by
  induction n generalizing p with
  | zero => cases h
  | succ n ih =>
    rw [readSteps_succ] at h
    cases hc : p.skip.reader.char? with
    | none =>
      rw [readFrom_of_none hc] at h
      cases h
    | some c =>
      rw [readFrom_of_some hc] at h
      cases hstep : readStep p.skip c with
      | error e' =>
        rw [hstep] at h
        cases h
        exact ⟨0, Nat.succ_pos n, p.skip, c, .here p, hc, hstep⟩
      | ok p₁ =>
        rw [hstep] at h
        obtain ⟨m, hm, q, d, hreach, hd, herror⟩ := ih h
        exact ⟨m + 1, by omega, q, d, .step hc hstep hreach, hd, herror⟩

/-- Where the pattern alone comes to a place, the other reading comes to the same place. -/
theorem Reaches.within (hreach : Reaches n p q) (h : p.Within tail bottom k p') :
    ∃ q', Reaches n p' q' ∧ q.Within tail bottom k q' := by
  induction hreach generalizing p' with
  | here p => exact ⟨p'.skip, .here p', { h with reader := h.reader.skip }⟩
  | @step n p p₁ q c hc hstep _ ih =>
    have hskip : p.skip.Within tail bottom k p'.skip := { h with reader := h.reader.skip }
    obtain ⟨p₁', hstep', h₁⟩ :=
      (follows_readStep hskip hc (stack_ne_nil_of_readStep hstep)).exists_ok hstep
    obtain ⟨q', hreach', hq⟩ := ih { h₁ with reader := h₁.reader.pred }
    exact ⟨q', .step (hskip.reader.char? hc) hstep' hreach', hq⟩

namespace Parsing.Within

/-- With no group of the pattern open, only the groups of the bottom are. -/
theorem stack_eq_of_nil (h : p.Within tail bottom k p') (hstack : p.stack = []) :
    p'.stack = bottom := by
  obtain ⟨inner, hp', hall⟩ := h.stack
  rw [hstack] at hall
  cases hall
  exact hp'

/-- With a group of the pattern open, it is on top of those of the bottom. -/
theorem stack_eq_of_ne_nil (h : p.Within tail bottom k p') (hstack : p.stack ≠ []) :
    ∃ f stack, p'.stack = f :: stack ∧ bottom <:+ stack := by
  obtain ⟨inner, hp', hall⟩ := h.stack
  cases inner with
  | nil => exact absurd (List.forall₂_nil_right_iff.mp hall) hstack
  | cons f inner => exact ⟨f, inner ++ bottom, hp', List.suffix_append _ _⟩

/-- Two readings of one text have the same left. -/
theorem rest_eq (h : p.Within [] bottom k p') : p'.reader.rest = p.reader.rest := by
  rcases h.reader.rest with hr | ⟨hr, hr'⟩
  · rwa [List.append_nil] at hr
  · rw [hr, hr']

end Parsing.Within

/-! ## Readings that have gone astray -/

/-- Without a parenthesis the open groups stay open. -/
theorem stack_readSteps_of_spent (h : p.reader.Spent) (ht : readSteps n p = .ok t) :
    t.stack = p.stack := by
  induction n generalizing p with
  | zero =>
    cases ht
    rfl
  | succ n ih =>
    have hskip : p.skip.reader.Spent := h.skip
    rw [readSteps_succ] at ht
    rcases hskip.cases with hr | hr
    · have hc : p.skip.reader.char? = some '$' := by rw [Reader.char?, hr]; rfl
      rw [readFrom_of_some hc] at ht
      obtain ⟨p₁, hp₁, ht⟩ := bind_eq_ok ht
      cases hp₁
      exact ih (p := p.skip.push _ _) hskip.leaving.bump ht
    · rw [readFrom_of_none (Reader.char?_eq_none.mpr hr)] at ht
      cases ht
      rfl

/-- A reading that has gone astray does not come back: the groups of the bottom stay open. -/
theorem Parsing.Astray.suffix_stack (h : p.Astray bottom) (ht : readSteps n p = .ok t) :
    bottom <:+ t.stack := by
  obtain ⟨hbottom, hspent | hbrace⟩ := h
  · rwa [stack_readSteps_of_spent hspent ht]
  · cases n with
    | zero =>
      cases ht
      exact hbottom
    | succ n =>
      have hskip : p.skip = p := by
        rw [Parsing.skip, Reader.skip_eq_self hbrace.1 (isBlank_of_isMeta (by decide)) (by decide)]
      rw [readSteps_succ, hskip, readFrom_of_some hbrace.1] at ht
      obtain ⟨p₁, hp₁, -⟩ := bind_eq_ok ht
      obtain ⟨_, -, hp₁⟩ := bind_eq_ok (show readRepetition p = .ok p₁ from hp₁)
      obtain ⟨b, hb, -⟩ := bind_eq_ok hp₁
      exact absurd hb (readCounts_closing hbrace.2 b)

/-- The closing closes one group. -/
theorem stack_readFrom_closing {f : Frame} {stack : List Frame} (hr : p.reader.rest = closing)
    (hstack : p.stack = f :: stack) (ht : readFrom n p = .ok t) : t.stack = stack := by
  rw [readFrom_of_some (Reader.char?_of_rest_eq hr)] at ht
  obtain ⟨p₁, hp₁, ht⟩ := bind_eq_ok ht
  have hclose : closeGroup p = .ok p₁ := hp₁
  rw [closeGroup, hstack] at hclose
  cases hclose
  have hspent : p.reader.bump.Spent := (Reader.leaving_of_rest_eq hr).bump
  exact stack_readSteps_of_spent hspent ht

/-! ## The whole pattern -/

/-- A pattern before anything of it is read. -/
def Parsing.start (pattern : List Char) : Parsing := ⟨.ofPattern pattern, .none .origin, [], []⟩

/-- Read a pattern to its end, whatever its depth. -/
def readWhole (pattern : List Char) : Read Expr :=
  readSteps (pattern.length + 1) (.start pattern) >>= finish

theorem parse_eq (pattern : List Char) :
    Expr.parse pattern = (do
      let e ← readWhole pattern
      e.checkDepth 0
      return e) :=
  (bind_assoc _ _ _).symm

/-- A pattern is read if it is read to its end and not nested too deep. -/
theorem parse_eq_ok_iff {pattern : List Char} {e : Expr} :
    Expr.parse pattern = .ok e ↔ readWhole pattern = .ok e ∧ e.height ≤ nestLimit := by
  rw [parse_eq]
  cases readWhole pattern with
  | error e' => exact iff_of_false nofun nofun
  | ok e' =>
    have hdepth := e'.checkDepth_eq_ok_iff (Nat.zero_le nestLimit)
    rw [Nat.zero_add] at hdepth
    show (e'.checkDepth 0 >>= fun _ => Except.ok e') = .ok e ↔ _
    constructor
    · intro h
      obtain ⟨_, hcheck, h⟩ := bind_eq_ok h
      cases h
      exact ⟨rfl, hdepth.mp hcheck⟩
    · rintro ⟨h, hle⟩
      cases h
      rw [hdepth.mpr hle]
      rfl

theorem parse_eq_error {pattern : List Char} {e : SyntaxError} (h : readWhole pattern = .error e) :
    Expr.parse pattern = .error e := by
  rw [parse_eq, h]
  rfl

theorem finish_of_nil (h : q.stack = []) : finish q = .ok (q.body.toExpr q.reader.spot) := by
  rw [finish, h]

theorem stack_of_finish {e : Expr} (h : finish q = .ok e) : q.stack = [] := by
  unfold finish at h
  split at h
  · assumption
  · cases h

/-- The group around an enclosed pattern. It stands in a sequence that begins with the first
condition. -/
def enclosing : Frame where
  outer := (Body.none .origin).push (.assertion ⟨⟨0, 1, 1⟩, ⟨1, 1, 2⟩⟩ .startLine)
  opening := ⟨⟨1, 1, 2⟩, ⟨2, 1, 3⟩⟩
  captures := false
  items := []
  verbose := false

/-- An enclosed pattern where the pattern begins. -/
def Parsing.inside (pattern : List Char) : Parsing :=
  ⟨⟨pattern ++ closing, ⟨4, 1, 5⟩, false⟩, .none ⟨4, 1, 5⟩, [enclosing], []⟩

/-- Two steps lead to the enclosed pattern. -/
theorem readSteps_enclose (n : Nat) (pattern : List Char) :
    readSteps (n + 2) (.start (enclose pattern)) = readSteps n (.inside pattern) :=
  rfl

/-- Two steps lead from the end of the enclosed pattern to the end. -/
theorem readFrom_closing (n : Nat) (s : Spot) (v : Bool) (b : Body) (names : GroupNames) :
    ∃ q, readFrom (n + 2) ⟨⟨closing, s, v⟩, b, [enclosing], names⟩ = .ok q ∧ q.stack = [] ∧
      q.body.shape.toExpr .origin = (b.toExpr s).enclosed.shape :=
  ⟨_, rfl, rfl, rfl⟩

theorem within_start (pattern : List Char) :
    (Parsing.start pattern).Within closing [] pattern.length (.start (pattern ++ closing)) :=
  ⟨⟨.inr rfl, rfl, .inl rfl, Nat.le_refl _⟩, rfl, ⟨[], rfl, .nil⟩, rfl⟩

theorem within_inside (pattern : List Char) :
    (Parsing.start pattern).Within closing [enclosing] pattern.length (.inside pattern) :=
  ⟨⟨.inr rfl, rfl, .inl rfl, Nat.le_refl _⟩, rfl, ⟨[], rfl, .nil⟩, rfl⟩

theorem start_within_inside (pattern : List Char) :
    (Parsing.start (pattern ++ closing)).Within [] [enclosing] (pattern ++ closing).length
      (.inside pattern) :=
  ⟨⟨.inl rfl, rfl, .inl (List.append_nil _).symm, Nat.le_refl _⟩, rfl, ⟨[], rfl, .nil⟩, rfl⟩

theorem Reaches.readWhole_eq {pattern : List Char} (h : Reaches n (.start pattern) q)
    (hn : n ≤ pattern.length) :
    readWhole pattern = readFrom (pattern.length - n) q >>= finish := by
  have hlen : pattern.length + 1 = pattern.length - n + n + 1 := by omega
  rw [readWhole, hlen, h.readSteps_eq]

theorem Reaches.readWhole_enclose_eq {pattern : List Char} (h : Reaches n (.inside pattern) q)
    (hn : n ≤ pattern.length) :
    readWhole (enclose pattern) = readFrom (pattern.length - n + 2 + 2) q >>= finish := by
  have hlen : (enclose pattern).length + 1 = (pattern.length - n + 2 + 2 + n + 1) + 2 := by
    simp only [enclose, closing, List.length_cons, List.length_append, List.length_nil]
    omega
  rw [readWhole, hlen, readSteps_enclose, h.readSteps_eq]

/-- A pattern that is read to its end is read there in at most one step for each character. -/
theorem exists_reaches_end {pattern : List Char}
    (h : readSteps (pattern.length + 1) (.start pattern) = .ok q) :
    ∃ n ≤ pattern.length, Reaches n (.start pattern) q ∧ q.reader.char? = none := by
  have hlen : (Parsing.start pattern).reader.rest.length < pattern.length + 1 := Nat.lt_succ_self _
  obtain ⟨n, hn, hreach, hend⟩ := exists_reaches_of_ok hlen h
  exact ⟨n, Nat.le_of_lt_succ hn, hreach, Reader.char?_eq_none.mpr hend⟩

/-- The closing makes of what was read an expression between the two conditions. -/
theorem finish_readFrom_closing (n : Nat) (hr : q.reader.rest = closing)
    (hstack : q.stack = [enclosing]) :
    ∃ e, readFrom (n + 2) q >>= finish = .ok e ∧
      e.shape = (q.body.toExpr q.reader.spot).enclosed.shape := by
  obtain ⟨⟨rest, s, v⟩, b, stack, names⟩ := q
  obtain rfl : rest = closing := hr
  obtain rfl : stack = [enclosing] := hstack
  obtain ⟨t, ht, htstack, hshape⟩ := readFrom_closing n s v b names
  rw [ht]
  refine ⟨_, finish_of_nil htstack, ?_⟩
  rw [Body.shape_toExpr, hshape]

/-- A pattern that can be read alone. If what stands after it in a group is taken into a comment, the
group is left open. Otherwise the pattern is read in the group as its expression between the two
conditions. -/
theorem readWhole_of_eq_ok {pattern : List Char} {e : Expr} (h : readWhole pattern = .ok e) :
    (∃ e₁, readWhole (pattern ++ closing) = .ok e₁ ∧ e₁.shape = e.shape) ∧
        (∀ e', readWhole (enclose pattern) ≠ .ok e') ∨
      (∀ e₁, readWhole (pattern ++ closing) ≠ .ok e₁) ∧
        ∃ e', readWhole (enclose pattern) = .ok e' ∧ e'.shape = e.enclosed.shape := by
  obtain ⟨q, hq, hfinish⟩ := bind_eq_ok h
  have hstack := stack_of_finish hfinish
  cases (finish_of_nil hstack).symm.trans hfinish
  -- All three readings go the same way to the end of the pattern.
  obtain ⟨n, hn, hreach, hend⟩ := exists_reaches_end hq
  obtain ⟨q₁, hreach₁, h₁⟩ := hreach.within (within_start pattern)
  obtain ⟨q₂, hreach₂, h₂⟩ := hreach₁.within (start_within_inside pattern)
  have hstack₁ := h₁.stack_eq_of_nil hstack
  have hstack₂ := h₂.stack_eq_of_nil hstack₁
  rw [hreach₁.readWhole_eq (by rw [List.length_append]; omega), hreach₂.readWhole_enclose_eq hn]
  rcases h₁.reader.rest_of_none hend with hr | hr
  · have hend₁ : q₁.reader.char? = none := Reader.char?_eq_none.mpr hr
    have hend₂ : q₂.reader.char? = none := Reader.char?_eq_none.mpr (h₂.rest_eq.trans hr)
    rw [readFrom_of_none hend₁, readFrom_of_none hend₂]
    refine .inl ⟨⟨_, finish_of_nil hstack₁, ?_⟩, fun e' he' => ?_⟩
    · rw [Body.shape_toExpr, Body.shape_toExpr, h₁.body]
    · cases hstack₂.symm.trans (stack_of_finish he')
  · rw [readFrom_of_some (Reader.char?_of_rest_eq hr), readStep_unopened hstack₁]
    obtain ⟨e', he', hshape⟩ := finish_readFrom_closing _ (h₂.rest_eq.trans hr) hstack₂
    refine .inr ⟨nofun, e', he', ?_⟩
    simp only [hshape, Expr.enclosed, Expr.shape, Expr.shapes, Body.shape_toExpr, h₁.body, h₂.body]

/-- A pattern that cannot be read alone, other than for a group that it closes and has not opened. -/
theorem readWhole_enclose_ne_ok {pattern : List Char} {e : SyntaxError}
    (h : readWhole pattern = .error e) (hflaw : e.flaw ≠ .groupUnopened) (e' : Expr) :
    readWhole (enclose pattern) ≠ .ok e' := by
  unfold readWhole at h
  cases hq : readSteps (pattern.length + 1) (.start pattern) with
  | error e₀ =>
    rw [hq] at h
    cases h
    obtain ⟨n, hn, q, c, hreach, hc, hstep⟩ := exists_reaches_of_error hq
    obtain ⟨q', hreach', hqq⟩ := hreach.within (within_inside pattern)
    have hopen : c = ')' → q.stack ≠ [] := by
      rintro rfl hstack
      rw [readStep_unopened hstack] at hstep
      cases hstep
      exact hflaw rfl
    rw [hreach'.readWhole_enclose_eq (Nat.le_of_lt_succ hn),
      readFrom_of_some (hqq.reader.char? hc)]
    intro he'
    obtain ⟨t, ht, hfinish⟩ := bind_eq_ok he'
    obtain ⟨p₁, hp₁, ht⟩ := bind_eq_ok ht
    have hsuffix := ((follows_readStep hqq hc hopen).astray hstep hp₁).suffix_stack ht
    rw [stack_of_finish hfinish] at hsuffix
    cases List.suffix_nil.mp hsuffix
  | ok q =>
    rw [hq] at h
    have hstack : q.stack ≠ [] := fun hstack => by cases (finish_of_nil hstack).symm.trans h
    obtain ⟨n, hn, hreach, hend⟩ := exists_reaches_end hq
    obtain ⟨q', hreach', hqq⟩ := hreach.within (within_inside pattern)
    obtain ⟨f, stack, hstack', hsuffix⟩ := hqq.stack_eq_of_ne_nil hstack
    rw [hreach'.readWhole_enclose_eq hn]
    intro he'
    obtain ⟨t, ht, hfinish⟩ := bind_eq_ok he'
    -- A group of the pattern is open, and the closing closes only one.
    rcases hqq.reader.rest_of_none hend with hr | hr
    · rw [readFrom_of_none (Reader.char?_eq_none.mpr hr)] at ht
      cases ht
      cases hstack'.symm.trans (stack_of_finish hfinish)
    · rw [← stack_readFrom_closing hr hstack' ht, stack_of_finish hfinish] at hsuffix
      cases List.suffix_nil.mp hsuffix

/-! ## Depth -/

theorem Expr.height_enclosed (e : Expr) : e.enclosed.height = e.height + 2 := by
  simp only [enclosed, height, heights]
  omega

theorem Expr.height_eq_of_shape_eq {e e' : Expr} (h : e.shape = e'.shape) : e.height = e'.height := by
  rw [← e.height_shape, h, e'.height_shape]

/-- An enclosed pattern is read as the pattern between the two conditions. -/
theorem shape_parse_enclose {pattern : List Char} {e e' : Expr} (h : Expr.parse pattern = .ok e)
    (h' : Expr.parse (enclose pattern) = .ok e') : e'.shape = e.enclosed.shape := by
  have hread' := (parse_eq_ok_iff.mp h').1
  rcases readWhole_of_eq_ok (parse_eq_ok_iff.mp h).1 with ⟨-, hopen⟩ | ⟨-, e'', he'', hshape⟩
  · exact absurd hread' (hopen e')
  · cases he''.symm.trans hread'
    exact hshape

/-- The pattern closes a group that it has not opened. -/
def ClosesUnopened (pattern : List Char) : Prop :=
  ∃ e, Expr.parse pattern = .error e ∧ e.flaw = .groupUnopened

instance (pattern : List Char) : Decidable (ClosesUnopened pattern) :=
  match h : Expr.parse pattern with
  | .ok _ => .isFalse fun ⟨_, he, _⟩ => nomatch h.symm.trans he
  | .error e =>
    decidable_of_iff (e.flaw = .groupUnopened)
      ⟨fun hflaw => ⟨e, h, hflaw⟩, fun ⟨_, he, hflaw⟩ => Except.error.inj (h.symm.trans he) ▸ hflaw⟩

/-- The pattern ends in a comment: a closing parenthesis may stand after it, where no group is open. -/
def EndsInComment (pattern : List Char) : Prop :=
  (∃ e, Expr.parse pattern = .ok e) ∧ ∃ e, Expr.parse (pattern ++ closing) = .ok e
deriving Decidable

/-- A pattern can be read in a group exactly if it can be read alone and the group can be closed behind
it, with two levels to spare. -/
theorem exists_parse_enclose_iff {pattern : List Char} (hopen : ¬ ClosesUnopened pattern) :
    (∃ e', Expr.parse (enclose pattern) = .ok e') ↔
      ∃ e, Expr.parse pattern = .ok e ∧ ¬ EndsInComment pattern ∧ e.height + 2 ≤ nestLimit := by
  cases h : readWhole pattern with
  | error e =>
    have hparse := parse_eq_error h
    have hflaw : e.flaw ≠ .groupUnopened := fun hflaw => hopen ⟨e, hparse, hflaw⟩
    refine iff_of_false ?_ ?_
    · rintro ⟨e', he'⟩
      exact readWhole_enclose_ne_ok h hflaw e' (parse_eq_ok_iff.mp he').1
    · rintro ⟨e', he', -⟩
      cases hparse.symm.trans he'
  | ok e =>
    rcases readWhole_of_eq_ok h with ⟨⟨e₁, he₁, hshape₁⟩, henclose⟩ | ⟨hclosing, e', he', hshape⟩
    · refine iff_of_false ?_ ?_
      · rintro ⟨e', he'⟩
        exact henclose e' (parse_eq_ok_iff.mp he').1
      · rintro ⟨e₀, he₀, hcomment, -⟩
        obtain ⟨hread, hheight⟩ := parse_eq_ok_iff.mp he₀
        cases h.symm.trans hread
        rw [← Expr.height_eq_of_shape_eq hshape₁] at hheight
        exact hcomment ⟨⟨e, he₀⟩, e₁, parse_eq_ok_iff.mpr ⟨he₁, hheight⟩⟩
    · have hheight : e'.height = e.height + 2 := by
        rw [Expr.height_eq_of_shape_eq hshape, e.height_enclosed]
      constructor
      · rintro ⟨e'', he''⟩
        obtain ⟨hread, hle⟩ := parse_eq_ok_iff.mp he''
        cases he'.symm.trans hread
        rw [hheight] at hle
        refine ⟨e, parse_eq_ok_iff.mpr ⟨h, by omega⟩, ?_, hle⟩
        rintro ⟨-, e₁, he₁⟩
        exact hclosing e₁ (parse_eq_ok_iff.mp he₁).1
      · rintro ⟨e₀, he₀, -, hle⟩
        cases h.symm.trans (parse_eq_ok_iff.mp he₀).1
        exact ⟨e', parse_eq_ok_iff.mpr ⟨he', by omega⟩⟩

end JavaNaming.Pattern
