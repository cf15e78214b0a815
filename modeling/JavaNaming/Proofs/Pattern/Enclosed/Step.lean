import JavaNaming.Proofs.Pattern.Enclosed.Class
import JavaNaming.Proofs.Pattern.Enclosed.Group

/-!
# Steps through an enclosed pattern

One step of the reading of a pattern does the same alone and within a group (`follows_readStep`). The
stacks of open groups agree up to the groups that stand around the pattern, at the bottom of the second
one.
-/

namespace JavaNaming.Pattern

/-! ## Bodies and groups -/

/-- A sequence without its places. -/
def Sequence.shape (s : Sequence) : Sequence := ⟨.origin, s.found.map Expr.shape⟩

/-- A body without its places. -/
def Body.shape (b : Body) : Body := ⟨.origin, b.alternatives.map Expr.shape, b.sequence.shape⟩

theorem Sequence.shape_toExpr (s : Sequence) (stop : Spot) :
    (s.toExpr stop).shape = s.shape.toExpr .origin := by
  obtain ⟨start, _ | ⟨e, _ | ⟨f, es⟩⟩⟩ := s
  · rfl
  · rfl
  · simp only [toExpr, shape, Expr.shape, Expr.shapes_eq_map, List.map_reverse, List.map_cons]
    rfl

theorem Body.shape_toExpr (b : Body) (stop : Spot) :
    (b.toExpr stop).shape = b.shape.toExpr .origin := by
  obtain ⟨start, alternatives, sequence⟩ := b
  cases alternatives with
  | nil => exact sequence.shape_toExpr stop
  | cons e es =>
    simp only [toExpr, shape, Expr.shape, Expr.shapes_eq_map, List.map_reverse, List.map_cons,
      sequence.shape_toExpr stop]
    rfl

theorem Body.shape_push (b : Body) (e : Expr) : (b.push e).shape = b.shape.push e.shape := rfl

/-- Open groups that are the same but for places. -/
structure Frame.Alike (f f' : Frame) : Prop where
  outer : f.outer.shape = f'.outer.shape
  captures : f.captures = f'.captures
  items : f.items = f'.items
  verbose : f.verbose = f'.verbose

/-- A pattern that is read alone and within the groups `bottom`, with the tail after it. -/
structure Parsing.Within (tail : List Char) (bottom : List Frame) (room : Nat) (p p' : Parsing) :
    Prop where
  reader : Pattern.Within tail room p.reader p'.reader
  body : p.body.shape = p'.body.shape
  stack : ∃ inner, p'.stack = inner ++ bottom ∧ List.Forall₂ Frame.Alike p.stack inner
  names : p.names.Alike p'.names

/-- A reading that has lost the parenthesis of the closing while all groups of the bottom are open, or
that is about to read a count in it. -/
def Parsing.Astray (bottom : List Frame) (p : Parsing) : Prop :=
  bottom <:+ p.stack ∧ (p.reader.Spent ∨ p.reader.AtBrace)

variable {tail : List Char} {bottom : List Frame} {k n : Nat} {p p' : Parsing} {r r' : Reader}
variable {c : Char}

namespace Parsing.Within

theorem push (h : p.Within tail bottom k p') {e e' : Expr} (he : e.shape = e'.shape)
    (hr : Pattern.Within tail n r r') : (p.push e r).Within tail bottom n (p'.push e' r') where
  reader := hr
  body := by
    show (p.body.push e).shape = (p'.body.push e').shape
    rw [Body.shape_push, Body.shape_push, h.body, he]
  stack := h.stack
  names := h.names

theorem nextAlternative (h : p.Within tail bottom k p') (hc : p.reader.char? = some c) :
    (nextAlternative p).Within tail bottom (k - 1) (Pattern.nextAlternative p') where
  reader := h.reader.bump hc
  body := by
    have hseq : p.body.sequence.shape = p'.body.sequence.shape := congrArg Body.sequence h.body
    have halt : p.body.alternatives.map Expr.shape = p'.body.alternatives.map Expr.shape :=
      congrArg Body.alternatives h.body
    simp only [Pattern.nextAlternative, Body.shape, List.map_cons, Sequence.shape_toExpr, hseq, halt]
    rfl
  stack := h.stack
  names := h.names

end Parsing.Within

theorem Parsing.Within.bottom_suffix (h : p.Within tail bottom k p') : bottom <:+ p'.stack := by
  obtain ⟨inner, hstack, -⟩ := h.stack
  exact ⟨inner, hstack.symm⟩

theorem follows_openGroup (h : p.Within tail bottom k p') (hc : p.reader.char? = some c) :
    Follows (Parsing.Within tail bottom (k - 1)) (Parsing.Astray bottom) (openGroup p)
      (openGroup p') := by
  unfold openGroup
  refine (follows_readOpeningParen h.reader hc h.names).bind_astray ?_ ?_
  · rintro ⟨⟨what, names⟩, r⟩ hspent q hq
    cases what with
    | switches span items =>
      cases hq
      exact ⟨h.bottom_suffix, .inl hspent⟩
    | group captures items =>
      cases hq
      exact ⟨h.bottom_suffix.trans (List.suffix_cons _ _), .inl hspent⟩
  · rintro ⟨⟨what, names⟩, r⟩ ⟨⟨what', names'⟩, r'⟩ ⟨⟨hwhat, hnames⟩, hr⟩
    dsimp only at hwhat hnames hr ⊢
    have hp : Parsing.Within tail bottom k { p with names := names } { p' with names := names' } :=
      { h with names := hnames }
    cases hwhat with
    | switches =>
      dsimp only
      rw [hr.verbose]
      exact .pure (hp.push rfl (hr.setVerbose _))
    | group =>
      obtain ⟨inner, hstack, hinner⟩ := h.stack
      dsimp only
      rw [hr.verbose]
      refine .pure ⟨hr.setVerbose _, rfl, ⟨_, congrArg _ hstack, .cons ?_ hinner⟩, hnames⟩
      exact ⟨h.body, rfl, rfl, rfl⟩

theorem follows_closeGroup {S : Parsing → Prop} (h : p.Within tail bottom k p')
    (hc : p.reader.char? = some c) (hopen : p.stack ≠ []) :
    Follows (Parsing.Within tail bottom (k - 1)) S (closeGroup p) (closeGroup p') := by
  obtain ⟨inner, hstack, hinner⟩ := h.stack
  unfold closeGroup
  rw [hstack]
  generalize p.stack = stack at hinner hopen ⊢
  cases hinner with
  | nil => exact absurd rfl hopen
  | @cons f f' stack inner hf hinner =>
    dsimp only [List.cons_append]
    rw [hf.verbose]
    refine .ok ⟨(h.reader.bump hc).setVerbose _, ?_, ⟨inner, rfl, hinner⟩, h.names⟩
    simp only [Body.shape_push, Expr.shape, Body.shape_toExpr, hf.outer, hf.captures, hf.items,
      h.body]

/-! ## Repetitions -/

/-- Whether a repetition may apply to an expression. -/
def Expr.isRepeatable : Expr → Bool
  | .empty _ => false
  | .flags _ _ => false
  | _ => true

theorem Expr.isRepeatable_shape (e : Expr) : e.shape.isRepeatable = e.isRepeatable := by
  cases e <;> rfl

theorem repeated_eq {e : Expr} {es : List Expr} (h : p.body.sequence.found = e :: es) :
    repeated p = if e.isRepeatable then .ok (e, { p.body.sequence with found := es })
      else fail .repetitionMissing p.reader.here := by
  unfold repeated
  rw [h]
  cases e <;> rfl

theorem follows_repeated {S : Expr × Sequence → Prop} (h : p.Within tail bottom k p') :
    Follows (fun a b => a.1.shape = b.1.shape ∧ a.2.shape = b.2.shape) S (repeated p)
      (repeated p') := by
  have hfound : p.body.sequence.found.map Expr.shape = p'.body.sequence.found.map Expr.shape :=
    congrArg (·.sequence.found) h.body
  cases hf : p.body.sequence.found with
  | nil =>
    have hf' : p'.body.sequence.found = [] := by simpa [hf] using hfound
    unfold repeated
    rw [hf, hf']
    exact follows_fail
  | cons e es =>
    rw [hf, List.map_cons] at hfound
    obtain ⟨e', es', hf', he, hes⟩ := List.map_eq_cons_iff.mp hfound.symm
    rw [repeated_eq hf, repeated_eq hf', ← e.isRepeatable_shape, ← he, e'.isRepeatable_shape]
    split
    · exact .ok ⟨he.symm, congrArg (Sequence.mk .origin) hes.symm⟩
    · exact follows_fail

theorem Parsing.Within.pushRepetition (h : p.Within tail bottom k p') (counts : Counts) {e e' : Expr}
    {s s' : Sequence} (he : e.shape = e'.shape) (hs : s.shape = s'.shape)
    (hr : Pattern.Within tail n r r') :
    (pushRepetition p counts e s r).Within tail bottom n (pushRepetition p' counts e' s' r') where
  reader := hr
  body := by
    have halt : p.body.alternatives.map Expr.shape = p'.body.alternatives.map Expr.shape :=
      congrArg Body.alternatives h.body
    show (Body.push _ _).shape = (Body.push _ _).shape
    rw [Body.shape_push, Body.shape_push]
    simp only [Body.shape, Expr.shape, halt, he, hs]
  stack := h.stack
  names := h.names

theorem Within.pastLazyMark (h : Within tail k r r') :
    Within tail k (pastLazyMark r) (pastLazyMark r') := by
  unfold Pattern.pastLazyMark
  rw [h.sees (by decide)]
  split
  · exact (h.bump (Reader.char?_of_sees ‹_›)).pred
  · exact h

theorem follows_readMark {S : Parsing → Prop} (counts : Counts) (h : p.Within tail bottom k p')
    (hc : p.reader.char? = some c) :
    Follows (Parsing.Within tail bottom (k - 1)) S (readMark counts p) (readMark counts p') := by
  unfold readMark
  refine (follows_repeated h).bind ?_
  rintro ⟨e, s⟩ ⟨e', s'⟩ ⟨he, hs⟩
  exact .pure (h.pushRepetition counts he hs (h.reader.bump hc).pastLazyMark)

theorem Within.passBlanks (h : Within tail k r r') :
    Within tail k (passBlanks r.rest r) (passBlanks r'.rest r') := by
  generalize hr : r.rest = cs
  induction cs generalizing r r' with
  | nil =>
    rcases h.rest_of_none (Reader.char?_eq_none.mpr hr) with hr' | hr'
    · rw [hr']
      exact h
    · rw [hr']
      simpa [Pattern.passBlanks, closing, isBlank_paren] using h
  | cons c cs ih =>
    have hc : r.char? = some c := by simp [Reader.char?, hr]
    have hr' : r'.rest = c :: (cs ++ tail) := by
      rcases h.rest with hr' | ⟨hnil, -⟩
      · rw [hr', hr, List.cons_append]
      · simp [hr] at hnil
    rw [hr']
    unfold Pattern.passBlanks
    split
    · have hb := ih (h.bump hc).pred (by simp [Reader.bump, hr])
      rwa [show r'.bump.rest = cs ++ tail by simp [Reader.bump, hr']] at hb
    · exact h

/-- A count may be wrong; the reader is behind it in any case. -/
theorem follows_readCount {S : Nat → Prop} (h : Within tail k r r') :
    Follows Eq S (readCount r).1 (readCount r').1 ∧
      Within tail k (readCount r).2 (readCount r').2 := by
  have h₁ := h.passBlanks
  obtain ⟨hdigits, h₂⟩ := h₁.takeWhile Char.isDigit (by decide)
  have h₃ := (h₂.takeWhile isBlank isBlank_paren).2
  unfold readCount
  dsimp only
  rw [← hdigits]
  split
  · exact ⟨follows_fail, h₃⟩
  · split
    · exact ⟨.ok rfl, h₃⟩
    · exact ⟨follows_fail, h₃⟩

/-- There is no count in the closing. -/
theorem readCount_closing (hr : r.rest = closing) :
    ∃ span, readCount r = (fail .countEmpty span, r) := by
  obtain ⟨rest, spot, verbose⟩ := r
  cases hr
  have hdigit : Char.isDigit ')' = false := by decide
  simp [readCount, passBlanks, Reader.takeWhile, Reader.char?, isBlank_paren, hdigit]

theorem readCounts_closing {start : Spot} (hr : r.bumpSkip.rest = closing)
    (b : (Nat × Option Nat) × Reader) : readCounts start r ≠ .ok b := by
  obtain ⟨span, hcount⟩ := readCount_closing hr
  simp only [readCounts, hcount, Reader.atEnd_of_rest_eq hr,
    (Reader.leaving_of_rest_eq hr).sees_eq_false (show ',' ≠ ')' by decide) (by decide)]
  exact nofun

/-- Counts that end with the pattern end at the closing. -/
theorem follows_readCounts {start start' : Spot} (h : Within tail k r r') (hc : r.char? = some c) :
    Follows (Reads Eq tail (k - 1)) (·.2.rest = closing) (readCounts start r)
      (readCounts start' r') := by
  have h₁ := h.bumpSkip hc
  unfold readCounts
  refine h₁.ite_atEnd (fun hr' b hb => ?_) fun _ _ => ?_
  · have hy : readCounts start' r' = .ok b := by
      rw [readCounts, Reader.atEnd_of_rest_eq hr']
      exact hb
    exact absurd hy (readCounts_closing hr' b)
  obtain ⟨hfirst, h₂⟩ := follows_readCount (S := Never) h₁
  generalize readCount r.bumpSkip = x at hfirst h₂ ⊢
  generalize readCount r'.bumpSkip = y at hfirst h₂ ⊢
  obtain ⟨first, r₂⟩ := x
  obtain ⟨first', r₂'⟩ := y
  dsimp only at hfirst h₂ ⊢
  refine h₂.ite_atEnd (fun hr' b hb => ?_) fun d hd => ?_
  · rw [(Reader.leaving_of_rest_eq hr').sees_eq_false (by decide) (by decide)] at hb
    obtain ⟨m, -, hb⟩ := bind_eq_ok hb
    cases hb
    exact hr'
  rw [h₂.sees (by decide)]
  split
  · have h₃ := (h₂.bumpSkip hd).pred
    refine h₃.ite_atEnd (fun hr' b hb => ?_) fun _ _ => ?_
    · obtain ⟨span, hlast⟩ := readCount_closing hr'
      rw [(Reader.leaving_of_rest_eq hr').sees_eq_false (by decide) (by decide), hlast] at hb
      obtain ⟨m, -, hb⟩ := bind_eq_ok hb
      cases hb
    rw [h₃.sees (by decide)]
    split
    · refine hfirst.bind ?_
      rintro m _ rfl
      exact .pure ⟨rfl, h₃⟩
    · refine hfirst.bind ?_
      rintro m _ rfl
      obtain ⟨hlast, h₄⟩ := follows_readCount (S := Never) h₃
      refine hlast.bind ?_
      rintro l _ rfl
      exact .pure ⟨rfl, h₄⟩
  · refine hfirst.bind ?_
    rintro m _ rfl
    exact .pure ⟨rfl, h₂⟩

theorem follows_readRepetition {S : Parsing → Prop} (h : p.Within tail bottom k p')
    (hc : p.reader.char? = some c) :
    Follows (Parsing.Within tail bottom (k - 1)) S (readRepetition p) (readRepetition p') := by
  unfold readRepetition
  refine (follows_repeated h).bind ?_
  rintro ⟨e, s⟩ ⟨e', s'⟩ ⟨he, hs⟩
  refine (follows_readCounts h.reader hc).bind_astray ?_ ?_
  · rintro ⟨counts, r₁'⟩ hr' q hq
    dsimp only at hr' hq
    rw [(Reader.leaving_of_rest_eq hr').sees_eq_false (by decide) (by decide)] at hq
    cases hq
  rintro ⟨⟨least, most⟩, r₁⟩ ⟨_, r₁'⟩ ⟨rfl, h₁⟩
  dsimp only at h₁ ⊢
  rw [h₁.sees (by decide)]
  split
  · exact follows_fail
  · rename_i hb
    have h₂ := (h₁.bumpSkip (Reader.char?_of_sees (by simpa using hb))).pred.pastLazyMark
    split
    · exact .pure (h.pushRepetition _ he hs h₂)
    · exact follows_fail

/-! ## Steps -/

/-- One step of both readings. A parenthesis that closes no group of the pattern is left out: within the
groups of the bottom it closes one of them. -/
theorem follows_readStep (h : p.Within tail bottom k p') (hc : p.reader.char? = some c)
    (hopen : c = ')' → p.stack ≠ []) :
    Follows (Parsing.Within tail bottom (k - 1)) (Parsing.Astray bottom) (readStep p c)
      (readStep p' c) := by
  have hb := h.reader.bump hc
  unfold readStep
  dsimp only
  split
  · exact follows_openGroup h hc
  · exact follows_closeGroup h hc (hopen rfl)
  · exact .pure (h.nextAlternative hc)
  · refine (follows_readClass h.reader).bind ?_
    rintro ⟨e, r⟩ ⟨e', r'⟩ ⟨he, hr⟩
    exact .pure (h.push he hr)
  · exact follows_readMark _ h hc
  · exact follows_readMark _ h hc
  · exact follows_readMark _ h hc
  · exact follows_readRepetition h hc
  · refine (follows_readEscape h.reader hc).bind_astray ?_ ?_
    · rintro ⟨e', r'⟩ hastray q hq
      cases hq
      exact ⟨h.bottom_suffix, hastray.imp_right And.right⟩
    · rintro ⟨e, r⟩ ⟨e', r'⟩ ⟨he, hr⟩
      exact .pure (h.push he hr)
  · exact .pure (h.push rfl hb)
  · exact .pure (h.push rfl hb)
  · exact .pure (h.push rfl hb)
  · exact .pure (h.push rfl hb)

end JavaNaming.Pattern
