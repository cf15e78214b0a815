import JavaNaming.Proofs.Pattern.Enclosed.Escape
import Mathlib.Data.List.Forall2

/-!
# Classes of an enclosed pattern

Classes in brackets are read in the same shape alone and within a group. A class that is open where the
pattern ends takes the closing for items. There is no bracket in the closing, so neither reading comes
to the end of the class.
-/

namespace JavaNaming.Pattern

variable {tail : List Char} {k n n' : Nat} {r r' : Reader} {c : Char}

/-! ## Items and brackets -/

/-- Items of the same shapes. -/
def Items.Alike (i i' : Items) : Prop := i.found.map ClassSet.shape = i'.found.map ClassSet.shape

theorem Items.shape_toSet (i : Items) :
    i.toSet.shape = (Items.mk .origin .origin (i.found.map ClassSet.shape)).toSet := by
  obtain ⟨start, stop, _ | ⟨c, _ | ⟨d, cs⟩⟩⟩ := i
  · rfl
  · rfl
  · simp only [toSet, ClassSet.shape, ClassSet.shapes_eq_map, List.map_reverse, List.map_cons]
    rfl

namespace Items.Alike

variable {i i' : Items}

theorem none {s s' : Spot} : (Items.none s).Alike (Items.none s') := rfl

theorem push (h : i.Alike i') {c c' : ClassSet} (hc : c.shape = c'.shape) :
    (i.push c).Alike (i'.push c') := by
  unfold Items.Alike Items.push
  rw [List.map_cons, List.map_cons, hc, h]

theorem isEmpty (h : i.Alike i') : i'.found.isEmpty = i.found.isEmpty := by
  rw [← List.isEmpty_map (f := ClassSet.shape), ← h, List.isEmpty_map]

theorem toSet (h : i.Alike i') : i.toSet.shape = i'.toSet.shape := by
  rw [shape_toSet, shape_toSet, h]

end Items.Alike

/-- Two brackets or operations that wait for the same. -/
inductive Waiting.Alike : Waiting → Waiting → Prop
  | bracket {outer outer' : Items} {opening opening' : Span} {negated : Bool}
    (h : outer.Alike outer') :
    Alike (.bracket outer opening negated) (.bracket outer' opening' negated)
  | operation {kind : SetOp} {lhs lhs' : ClassSet} (h : lhs.shape = lhs'.shape) :
    Alike (.operation kind lhs) (.operation kind lhs')

variable {stack stack' : List Waiting}

theorem isEmpty_of_alike (hs : List.Forall₂ Waiting.Alike stack stack') :
    stack'.isEmpty = stack.isEmpty := by
  cases hs <;> rfl

theorem unclosed_eq (α : Type) (here : Span) (stack : List Waiting) :
    ∃ span, (unclosed here stack : Read α) = fail .classUnclosed span := by
  induction stack with
  | nil => exact ⟨_, rfl⟩
  | cons w stack ih =>
    cases w with
    | bracket => exact ⟨_, rfl⟩
    | operation => exact ih

theorem unclosed_ne_ok {α : Type} {here : Span} (a : α) : unclosed here stack ≠ .ok a := by
  obtain ⟨span, h⟩ := unclosed_eq α here stack
  rw [h]
  exact nofun

theorem follows_unclosed {α β : Type} {R : α → β → Prop} {S : β → Prop} {here : Span} {y : Read β}
    (hy : ∀ b, y = .ok b → S b) : Follows R S (unclosed here stack : Read α) y := by
  obtain ⟨span, h⟩ := unclosed_eq α here stack
  rw [h]
  exact .of_error hy

/-- A class that ends with the pattern. -/
theorem Within.ite_unclosed {α β : Type} {R : α → β → Prop} {S : β → Prop} {x : Read α} {y : Read β}
    {here here' : Span} (h : Within tail k r r') (hy : r'.rest = closing → ∀ b, y = .ok b → S b)
    (hx : ∀ c, r.char? = some c → Follows R S x y) :
    Follows R S (if r.atEnd then unclosed here stack else x)
      (if r'.atEnd then unclosed here' stack' else y) := by
  obtain ⟨span, hu⟩ := unclosed_eq α here stack
  obtain ⟨span', hu'⟩ := unclosed_eq β here' stack'
  rw [hu, hu']
  exact h.ite_atEnd hy hx

theorem alike_applyOp {rhs rhs' : ClassSet} (hrhs : rhs.shape = rhs'.shape)
    (hs : List.Forall₂ Waiting.Alike stack stack') :
    (applyOp rhs stack).1.shape = (applyOp rhs' stack').1.shape ∧
      List.Forall₂ Waiting.Alike (applyOp rhs stack).2 (applyOp rhs' stack').2 := by
  cases hs with
  | nil => exact ⟨hrhs, .nil⟩
  | cons hw hs =>
    cases hw with
    | bracket h => exact ⟨hrhs, .cons (.bracket h) hs⟩
    | operation h =>
      refine ⟨?_, hs⟩
      simp only [applyOp, ClassSet.shape, h, hrhs]

/-- There are no hyphens in the closing. -/
theorem readHyphens_leaving {start : Spot} (h : r.Leaving) (i : Items) :
    readHyphens start n r i = .ok (i, r) := by
  cases n with
  | zero => rfl
  | succ n => simp [readHyphens, h.sees_eq_false]

theorem follows_readHyphens {start start' : Spot} {i i' : Items} (h : Within tail k r r')
    (hi : i.Alike i') (hn : r.rest.length < n) (hnn : n ≤ n') :
    Follows (Reads Items.Alike tail k) (·.2.Leaving) (readHyphens start n r i)
      (readHyphens start' n' r' i') := by
  induction n generalizing r r' i i' n' with
  | zero => omega
  | succ n ih =>
    obtain ⟨n', rfl⟩ : ∃ m, n' = m + 1 := ⟨n' - 1, by omega⟩
    unfold readHyphens
    rw [h.sees (by decide)]
    split
    · rename_i hb
      have hc := Reader.char?_of_sees hb
      have hlen := Reader.length_bumpSkip_lt hc
      have h₁ := (h.bumpSkip hc).pred
      refine h₁.ite_atEnd (fun hr' b hb => ?_) fun d hd => ?_
      · have hleaving := Reader.leaving_of_rest_eq hr'
        rw [readHyphens_leaving hleaving] at hb
        cases hb
        exact hleaving
      · exact ih h₁ (hi.push rfl) (by omega) (by omega)
    · exact .ok ⟨hi, h⟩

theorem opening_leaving {items : Items} {opened : Span × Bool × Items}
    {x : Read ((Span × Bool × Items) × Reader)} (h : r.Leaving) {b : (Span × Bool × Items) × Reader}
    (hb : (if items.found.isEmpty && r.sees ']' then x else pure (opened, r)) = .ok b) :
    b.2.Leaving := by
  rw [h.sees_eq_false (by decide) (by decide), Bool.and_false] at hb
  cases hb
  exact h

theorem follows_readOpening (h : Within tail k r r') (hc : r.char? = some c) :
    Follows (Reads (fun a b => a.2.1 = b.2.1 ∧ a.2.2.Alike b.2.2) tail (k - 1)) (·.2.Leaving)
      (readOpening r) (readOpening r') := by
  have h₁ := h.bumpSkip hc
  unfold readOpening
  refine h₁.ite_atEnd (fun hr' b hb => ?_) fun d hd => ?_
  · have hleaving := Reader.leaving_of_rest_eq hr'
    rw [hleaving.sees_eq_false (by decide) (by decide)] at hb
    simp only [Bool.false_eq_true, if_false, Reader.atEnd_of_rest_eq hr',
      readHyphens_leaving hleaving] at hb
    exact opening_leaving hleaving hb
  rw [h₁.sees (by decide)]
  have h₂ : Within tail (k - 1) (if r.bumpSkip.sees '^' then r.bumpSkip.bumpSkip else r.bumpSkip)
      (if r.bumpSkip.sees '^' then r'.bumpSkip.bumpSkip else r'.bumpSkip) := by
    split
    · exact (h₁.bumpSkip hd).pred
    · exact h₁
  refine h₂.ite_atEnd (fun hr' b hb => ?_) fun e he => ?_
  · have hleaving := Reader.leaving_of_rest_eq hr'
    rw [readHyphens_leaving hleaving] at hb
    exact opening_leaving hleaving hb
  refine (follows_readHyphens h₂ .none (Nat.lt_succ_self _)
    (Nat.succ_le_succ h₂.length_le_length)).bind_astray ?_ ?_
  · rintro ⟨items, r₃'⟩ hleaving b hb
    exact opening_leaving hleaving hb
  · rintro ⟨items, r₃⟩ ⟨items', r₃'⟩ ⟨hi, h₃⟩
    dsimp only at hi h₃ ⊢
    rw [hi.isEmpty, h₃.sees (by decide)]
    split
    · rename_i hb
      rw [Bool.and_eq_true] at hb
      have h₄ := (h₃.bumpSkip (Reader.char?_of_sees hb.2)).pred
      refine h₄.ite_atEnd (fun hr' b hb => ?_) fun _ _ => .pure ⟨⟨rfl, hi.push rfl⟩, h₄⟩
      cases hb
      exact Reader.leaving_of_rest_eq hr'
    · exact .pure ⟨⟨rfl, hi⟩, h₃⟩

/-- The name of a class is the same for both readers, unless it runs to the end. -/
theorem Within.pastName (h : Within tail k r r') :
    let name := r.rest.takeWhile (· != ':')
    let name' := r'.rest.takeWhile (· != ':')
    let past := name.foldl (fun r _ => r.bump) r
    let past' := name'.foldl (fun r _ => r.bump) r'
    name = name' ∧ Within tail k past past' ∨ past.rest = [] ∧ past'.rest = [] := by
  intro name name' past past'
  obtain ⟨hpast, hverbose⟩ := r.foldl_bump name
  obtain ⟨hpast', hverbose'⟩ := r'.foldl_bump name'
  rcases h.rest with hr' | ⟨hr, hr'⟩
  · by_cases hall : name.length = r.rest.length
    · refine .inr ⟨by rw [hpast, hall, List.drop_length], ?_⟩
      have hname' : name' = r.rest ++ tail := by
        show r'.rest.takeWhile _ = _
        rw [hr', List.takeWhile_append, if_pos hall]
        rcases h.tail_eq with rfl | rfl <;> rfl
      rw [hpast', hname', hr', List.drop_length]
    · have hname : name = name' := by
        show _ = r'.rest.takeWhile _
        rw [hr', List.takeWhile_append, if_neg hall]
      have hle : name.length ≤ r.rest.length := (List.takeWhile_prefix _).length_le
      refine .inl ⟨hname, h.tail_eq, by rw [hverbose, hverbose', h.verbose], .inl ?_, ?_⟩
      · rw [hpast, hpast', ← hname, hr', List.drop_append_of_le_length hle]
      · rw [hpast, List.length_drop]
        have := h.length_le
        omega
  · exact .inr ⟨by rw [hpast, hr, List.drop_nil], by rw [hpast', hr', List.drop_nil]⟩

theorem Reader.bumpIf?_of_rest_eq_nil (hr : r.rest = []) : r.bumpIf? ":]" = none := by
  unfold Reader.bumpIf?
  rw [hr]
  rfl

/-- Both readers find the name of an ASCII class, or neither does. -/
theorem rel_readAsciiClass? (h : Within tail k r r') :
    Option.Rel (Reads (InvImage Eq ClassSet.shape) tail (k - 1)) (readAsciiClass? r)
      (readAsciiClass? r') := by
  unfold readAsciiClass?
  have hopen := h.bumpIf? "[:" (by decide)
  generalize r.bumpIf? "[:" = x at hopen ⊢
  generalize r'.bumpIf? "[:" = y at hopen ⊢
  cases hopen with
  | none => exact .none
  | @some r₁ r₁' h₁ =>
    simp only [Option.bind_eq_bind, Option.bind_some]
    rw [h₁.sees (by decide)]
    have h₂ : Within tail (k - 1) (if r₁.sees '^' then r₁.bump else r₁)
        (if r₁.sees '^' then r₁'.bump else r₁') := by
      have h₁ : Within tail (k - 1) r₁ r₁' := h₁.mono (by simp; omega)
      split
      · exact (h₁.bump (Reader.char?_of_sees ‹_›)).pred
      · exact h₁
    rcases h₂.pastName with ⟨hname, h₃⟩ | ⟨hend, hend'⟩
    · have hclose := h₃.bumpIf? ":]" (by decide)
      rw [← hname] at hclose ⊢
      generalize Reader.bumpIf? _ ":]" = x at hclose ⊢
      generalize Reader.bumpIf? _ ":]" = y at hclose ⊢
      cases hclose with
      | none => exact .none
      | some h₄ =>
        simp only [Option.bind_some]
        cases AsciiClass.ofName? _ with
        | none => exact .none
        | some kind => exact .some ⟨rfl, h₄.mono (Nat.sub_le _ _)⟩
    · rw [Reader.bumpIf?_of_rest_eq_nil hend, Reader.bumpIf?_of_rest_eq_nil hend']
      exact .none

theorem follows_readItem (h : Within tail k r r') (hc : r.char? = some c) :
    Follows (Reads (InvImage Eq Expr.shape) tail (k - 1)) EscapeAstray (readItem r)
      (readItem r') := by
  unfold readItem
  split
  · rename_i hn
    rw [hn] at hc
    cases hc
  · rename_i hs
    rw [h.char? hs]
    exact follows_readEscape h hs
  · rename_i d hne hd
    rw [h.char? hd]
    simp only
    exact .ok ⟨rfl, h.bump hd⟩

theorem readItem_leaving (h : r.Leaving) {b : Expr × Reader} (hb : readItem r = .ok b) :
    b.2.Spent := by
  have hsees := h.sees_eq_false (show '\\' ≠ ')' by decide) (by decide)
  unfold readItem at hb
  split at hb
  · rename_i hn
    cases hb
    rw [Reader.Spent, Reader.char?_eq_none.mp hn]
    exact List.nil_suffix
  · rename_i hs
    rw [Reader.sees, hs] at hsees
    cases hsees
  · cases hb
    exact h.bump

theorem follows_itemSet {S : ClassSet → Prop} {e e' : Expr} (h : e.shape = e'.shape) :
    Follows (InvImage Eq ClassSet.shape) S (itemSet e) (itemSet e') := by
  have hshape (e : Expr) : (itemSet e).toOption.map ClassSet.shape = (itemSet e.shape).toOption := by
    cases e <;> rfl
  exact .of_toOption (by rw [hshape, hshape, h])

theorem follows_itemLiteral {S : Literal → Prop} {e e' : Expr} (h : e.shape = e'.shape) :
    Follows (InvImage Eq Literal.shape) S (itemLiteral e) (itemLiteral e') := by
  have hshape (e : Expr) :
      (itemLiteral e).toOption.map Literal.shape = (itemLiteral e.shape).toOption := by
    cases e <;> rfl
  exact .of_toOption (by rw [hshape, hshape, h])

theorem Literal.char_eq {l l' : Literal} (h : InvImage Eq Literal.shape l l') : l.char = l'.char :=
  (Literal.mk.inj h).2.1

/-- A reader that has lost the closing to an item is not at the end of a range. -/
theorem readRange_astray {first : Expr} {r₁ : Reader} (hitem : readItem r = .ok (first, r₁))
    (hastray : EscapeAstray (first, r₁)) {b : ClassSet × Reader} (hb : readRange stack r = .ok b) :
    b.2.Leaving := by
  rw [readRange, hitem] at hb
  change (if r₁.skip.atEnd then _ else _) = _ at hb
  rcases hastray with hspent | ⟨⟨span, kind, rfl⟩, hbrace⟩
  · have hleaving := Reader.Spent.leaving hspent.skip
    split at hb
    · exact absurd hb (unclosed_ne_ok b)
    · rw [hleaving.sees_eq_false (by decide) (by decide)] at hb
      obtain ⟨set, -, hb⟩ := bind_eq_ok hb
      cases hb
      exact hleaving
  · have hskip : r₁.skip = r₁ := Reader.skip_eq_self hbrace.1 (isBlank_of_isMeta (by decide)) (by decide)
    rw [hskip, Reader.atEnd_of_char? hbrace.1, Reader.sees_of_char? hbrace.1 (by decide)] at hb
    cases hb

/-- The last item of a range is a character. -/
theorem range_eq_ok {first last : Expr} {span : Span} {b : ClassSet × Reader}
    (h : (do
      let a ← itemLiteral first
      let b ← itemLiteral last
      if a.char ≤ b.char then return (ClassSet.range span a b, r)
      else fail .classRangeInvalid span) = .ok b) :
    b.2 = r ∧ ∃ l, last = .literal l := by
  obtain ⟨x, -, h⟩ := bind_eq_ok h
  obtain ⟨y, hy, h⟩ := bind_eq_ok h
  split at h
  · cases h
    refine ⟨rfl, ?_⟩
    cases last with
    | literal l => exact ⟨l, rfl⟩
    | _ => cases hy
  · cases h

/-- The parenthesis may be taken for an item, or for the end of a range. -/
theorem follows_readRange (h : Within tail k r r') (hc : r.char? = some c) :
    Follows (Reads (InvImage Eq ClassSet.shape) tail (k - 1)) (·.2.Leaving) (readRange stack r)
      (readRange stack' r') := by
  have hitems := follows_readItem h hc
  cases hitem : readItem r with
  | error e =>
    have hx : readRange stack r = .error e := by rw [readRange, hitem]; rfl
    rw [hx]
    refine .of_error fun b hb => ?_
    obtain ⟨⟨first', r₁'⟩, hitem', -⟩ := bind_eq_ok hb
    exact readRange_astray hitem' (hitems.astray hitem hitem') hb
  | ok a =>
    obtain ⟨first, r₁⟩ := a
    obtain ⟨⟨first', r₁'⟩, hitem', hfirst, h₁⟩ := hitems.exists_ok hitem
    have h₂ := h₁.skip
    unfold readRange
    rw [hitem, hitem']
    refine h₂.ite_unclosed (fun hr' b hb => ?_) fun d hd => ?_
    · have hleaving := Reader.leaving_of_rest_eq hr'
      rw [hleaving.sees_eq_false (by decide) (by decide)] at hb
      obtain ⟨set, -, hb⟩ := bind_eq_ok hb
      cases hb
      exact hleaving
    rw [h₂.sees (by decide), h₂.peekSkip? hd (by decide) (isBlank_of_isMeta (by decide)) (by decide),
      h₂.peekSkip? hd (by decide) (isBlank_of_isMeta (by decide)) (by decide)]
    split
    · refine (follows_itemSet hfirst).bind ?_
      intro c c' hcc
      exact .pure ⟨hcc, h₂⟩
    · have h₃ := (h₂.bumpSkip hd).pred
      refine h₃.ite_unclosed (fun hr' b hb => ?_) fun e he => ?_
      · obtain ⟨⟨last, r₄'⟩, hlast, hb⟩ := bind_eq_ok hb
        rw [(range_eq_ok hb).1]
        exact (readItem_leaving (Reader.leaving_of_rest_eq hr') hlast).leaving
      refine (follows_readItem h₃ he).bind_astray ?_ ?_
      · rintro ⟨last, r₄'⟩ hastray b hb
        obtain ⟨hr, l, rfl⟩ := range_eq_ok hb
        rw [hr]
        rcases hastray with hspent | ⟨⟨span, kind, hassertion⟩, -⟩
        · exact hspent.leaving
        · cases hassertion
      rintro ⟨last, r₄⟩ ⟨last', r₄'⟩ ⟨hlast, h₄⟩
      refine (follows_itemLiteral hfirst).bind fun a a' ha => ?_
      refine (follows_itemLiteral hlast).bind fun b b' hb => ?_
      rw [Literal.char_eq ha, Literal.char_eq hb]
      split
      · refine .pure ⟨?_, h₄.pred⟩
        show ClassSet.range _ _ _ = ClassSet.range _ _ _
        rw [ha, hb]
      · exact follows_fail

theorem Within.setOp? (h : Within tail k r r') (hc : r.char? = some c) : setOp? r' = setOp? r := by
  unfold Pattern.setOp?
  rw [h.char? hc, hc]
  cases hd : r.peek? with
  | some d => rw [h.peek? hc hd]
  | none =>
    rcases (h.bump hc).char?_of_none hd with hd' | hd'
    · rw [show r'.peek? = none from hd']
    · rw [show r'.peek? = some ')' from hd']
      split <;> split <;> simp_all

/-- An operation takes two characters. -/
theorem Reader.char?_bump_of_setOp? {kind : SetOp} (h : setOp? r = some kind) :
    ∃ d, r.bump.char? = some d := by
  cases hd : r.bump.char? with
  | some d => exact ⟨d, rfl⟩
  | none =>
    unfold Pattern.setOp? at h
    rw [show r.peek? = none from hd] at h
    split at h <;> simp_all

/-! ## Classes -/

/-- Classes that are read equally far. -/
inductive ClassProgress.Alike : ClassProgress → ClassProgress → Prop
  | closed {e e' : Expr} (h : e.shape = e'.shape) : Alike (.closed e) (.closed e')
  | waiting {ws ws' : List Waiting} {i i' : Items} (hs : List.Forall₂ Waiting.Alike ws ws')
    (hi : i.Alike i') : Alike (.waiting ws i) (.waiting ws' i')

/-- A class that is open where only the closing or its end is left. -/
def ClassAstray (b : ClassProgress × Reader) : Prop :=
  (∃ ws i, b.1 = .waiting ws i) ∧ b.2.Leaving

variable {i i' : Items}

theorem follows_openBracket (h : Within tail k r r') (hc : r.char? = some c)
    (hs : List.Forall₂ Waiting.Alike stack stack') (hi : i.Alike i') :
    Follows (Reads ClassProgress.Alike tail (k - 1)) ClassAstray (openBracket stack i r)
      (openBracket stack' i' r') := by
  have hascii : Option.Rel (Reads (InvImage Eq ClassSet.shape) tail (k - 1))
      (if stack.isEmpty then none else readAsciiClass? r)
      (if stack.isEmpty then none else readAsciiClass? r') := by
    split
    · exact .none
    · exact rel_readAsciiClass? h
  unfold openBracket
  rw [isEmpty_of_alike hs]
  generalize (if stack.isEmpty then none else readAsciiClass? r) = x at hascii ⊢
  generalize (if stack.isEmpty then none else readAsciiClass? r') = y at hascii ⊢
  cases hascii with
  | some hc => exact .pure ⟨.waiting hs (hi.push hc.1), hc.2⟩
  | none =>
    refine (follows_readOpening h hc).bind_astray ?_ ?_
    · rintro ⟨opened, r₁'⟩ hleaving b hb
      cases hb
      exact ⟨⟨_, _, rfl⟩, hleaving⟩
    · rintro ⟨⟨opening, negated, inner⟩, r₁⟩ ⟨⟨opening', _, inner'⟩, r₁'⟩ ⟨⟨rfl, hinner⟩, h₁⟩
      exact .pure ⟨.waiting (.cons (.bracket hi) hs) hinner, h₁⟩

theorem follows_closeBracket {S : ClassProgress × Reader → Prop} (h : Within tail k r r')
    (hc : r.char? = some c) (hs : List.Forall₂ Waiting.Alike stack stack') (hi : i.Alike i') :
    Follows (Reads ClassProgress.Alike tail (k - 1)) S (closeBracket stack i r)
      (closeBracket stack' i' r') := by
  obtain ⟨hset, hws⟩ := alike_applyOp hi.toSet hs
  unfold closeBracket
  generalize applyOp i.toSet stack = x at hset hws ⊢
  generalize applyOp i'.toSet stack' = y at hset hws ⊢
  obtain ⟨set, ws⟩ := x
  obtain ⟨set', ws'⟩ := y
  cases hws with
  | nil => exact follows_unclosed fun b hb => absurd hb (unclosed_ne_ok b)
  | cons hw hws =>
    cases hw with
    | operation _ => exact follows_unclosed fun b hb => absurd hb (unclosed_ne_ok b)
    | @bracket outer outer' _ _ negated ho =>
      dsimp only
      rw [isEmpty_of_alike hws]
      split
      · exact .ok ⟨.closed (congrArg (Expr.bracketed anywhere negated) hset), h.bump hc⟩
      · exact .ok ⟨.waiting hws (ho.push (congrArg (ClassSet.bracketed anywhere negated) hset)),
          h.bump hc⟩

theorem setOp?_leaving (h : r.Leaving) : setOp? r = none := by
  rcases h.cases with hr | hr | hr <;> simp [setOp?, Reader.char?, hr, closing]

/-- There is no bracket in the closing. -/
theorem readClassStep_leaving (h : r.Leaving) {b : ClassProgress × Reader}
    (hb : readClassStep stack i r = .ok b) : ClassAstray b := by
  have hopen := h.sees_eq_false (show '[' ≠ ')' by decide) (by decide)
  have hclose := h.sees_eq_false (show ']' ≠ ')' by decide) (by decide)
  unfold readClassStep at hb
  split at hb
  · exact absurd hb (unclosed_ne_ok b)
  · rename_i hc
    rw [Reader.sees, hc] at hopen
    cases hopen
  · rename_i hc
    rw [Reader.sees, hc] at hclose
    cases hclose
  · rw [setOp?_leaving h] at hb
    obtain ⟨⟨set, r₁⟩, hrange, hb⟩ := bind_eq_ok hb
    obtain ⟨⟨first, r₂⟩, hitem, -⟩ := bind_eq_ok hrange
    cases hb
    exact ⟨⟨_, _, rfl⟩, readRange_astray hitem (.inl (readItem_leaving h hitem)) hrange⟩

/-- Every step takes at least one character. -/
theorem follows_readClassStep (h : Within tail k r r')
    (hs : List.Forall₂ Waiting.Alike stack stack') (hi : i.Alike i') :
    Follows (fun a b => 0 < k ∧ Reads ClassProgress.Alike tail (k - 1) a b) ClassAstray
      (readClassStep stack i r) (readClassStep stack' i' r') := by
  cases hd : r.char? with
  | none =>
    have hx : readClassStep stack i r = unclosed r.here stack := by rw [readClassStep, hd]
    rw [hx]
    exact follows_unclosed fun b hb => readClassStep_leaving (h.leaving_of_none hd) hb
  | some d =>
    refine .mono ?_ fun a b hab => ⟨h.pos hd, hab⟩
    unfold readClassStep
    rw [hd, h.char? hd]
    split
    · cases ‹some d = none›
    · exact follows_openBracket h hd hs hi
    · exact follows_closeBracket h hd hs hi
    · rw [h.setOp? hd]
      cases hop : setOp? r with
      | some kind =>
        obtain ⟨e, he⟩ := Reader.char?_bump_of_setOp? hop
        obtain ⟨hlhs, hws⟩ := alike_applyOp hi.toSet hs
        exact .pure ⟨.waiting (.cons (.operation hlhs) hws) .none, ((h.bump hd).bump he).pred⟩
      | none =>
        refine (follows_readRange h hd).bind_astray ?_ ?_
        · rintro ⟨set, r₁'⟩ hleaving b hb
          cases hb
          exact ⟨⟨_, _, rfl⟩, hleaving⟩
        · rintro ⟨c, r₁⟩ ⟨c', r₁'⟩ ⟨hcc, h₁⟩
          exact .pure ⟨.waiting hs (hi.push hcc), h₁⟩

/-- A class that is open at the closing is not closed any more. -/
theorem readClassLoop_leaving (h : r.Leaving) (b : Expr × Reader) :
    readClassLoop n stack i r ≠ .ok b := by
  induction n generalizing r stack i with
  | zero => exact unclosed_ne_ok b
  | succ n ih =>
    intro hb
    obtain ⟨⟨progress, r₁⟩, hstep, hb⟩ := bind_eq_ok hb
    obtain ⟨⟨ws, items, rfl⟩, h₁⟩ := readClassStep_leaving h.skip hstep
    exact ih h₁ hb

theorem follows_readClassLoop {S : Expr × Reader → Prop} (h : Within tail k r r')
    (hs : List.Forall₂ Waiting.Alike stack stack') (hi : i.Alike i') (hn : k < n) (hnn : n ≤ n') :
    Follows (Reads (InvImage Eq Expr.shape) tail (k - 1)) S (readClassLoop n stack i r)
      (readClassLoop n' stack' i' r') := by
  -- The room stays below the fuel, so the first reading only stops where the class ends.
  induction n generalizing k r r' stack stack' i i' n' with
  | zero => omega
  | succ n ih =>
    obtain ⟨n', rfl⟩ : ∃ m, n' = m + 1 := ⟨n' - 1, by omega⟩
    unfold readClassLoop
    refine (follows_readClassStep h.skip hs hi).bind_astray ?_ ?_
    · rintro ⟨progress, r₁'⟩ ⟨⟨ws, items, rfl⟩, hleaving⟩ b hb
      exact absurd hb (readClassLoop_leaving hleaving b)
    · rintro ⟨progress, r₁⟩ ⟨progress', r₁'⟩ ⟨hk, hp, h₁⟩
      cases hp with
      | closed he => exact .pure ⟨he, h₁⟩
      | waiting hs hi =>
        exact (ih h₁ hs hi (by omega) (by omega)).mono fun a b hab => ⟨hab.1, hab.2.pred⟩

theorem follows_readClass {S : Expr × Reader → Prop} (h : Within tail k r r') :
    Follows (Reads (InvImage Eq Expr.shape) tail (k - 1)) S (readClass r) (readClass r') := by
  have htight : Within tail r.rest.length r r' := { h with length_le := Nat.le_refl _ }
  refine (follows_readClassLoop htight .nil .none (Nat.lt_succ_self _)
    (Nat.succ_le_succ h.length_le_length)).mono fun a b hab => ⟨hab.1, hab.2.mono ?_⟩
  exact Nat.sub_le_sub_right h.length_le 1

end JavaNaming.Pattern
