import JavaNaming.Proofs.Pattern.Shape

/-!
# Readers of an enclosed pattern

One pattern is read by two readers: alone, and within a group at the end of a line, where `closing`
stands after it. `Within` relates the two readers. It is kept by every function that reads a part of a
pattern: what is read alone is read in the same shape within the group (`Follows`).

The two readers can only part at the end of the pattern. There the reader of the pattern alone sees
nothing and the other one sees a closing parenthesis, which no part of a pattern but a group takes. There
are two exceptions.

* A comment that runs to the end of the pattern takes the closing with it; then both readers are at the
  end.
* A part that is not finished where the pattern ends may be finished by the parenthesis. Then the first
  reading fails and the second one has gone astray: it has taken what should close the group.

`Within` also relates two readers of one text at different places, with nothing after it.
-/

namespace JavaNaming.Pattern

/-- What stands after a pattern within a group at the end of a line. -/
def closing : List Char := [')', '$']

theorem follows_fail {α β : Type} {R : α → β → Prop} {S : β → Prop} {flaw flaw' : Flaw}
    {span span' : Span} : Follows R S (fail flaw span : Read α) (fail flaw' span' : Read β) :=
  .error

/-! ## The two readers -/

/-- The second reader has the tail after what the first one has left, or both are at the end. At most
`room` characters are left to the first one. -/
structure Within (tail : List Char) (room : Nat) (r r' : Reader) : Prop where
  tail_eq : tail = [] ∨ tail = closing
  verbose : r'.verbose = r.verbose
  rest : r'.rest = r.rest ++ tail ∨ r.rest = [] ∧ r'.rest = []
  length_le : r.rest.length ≤ room

/-- Nothing is left but the closing or its end. -/
def Reader.Leaving (r : Reader) : Prop := r.rest <:+ closing

/-- The parenthesis of the closing is behind the reader. -/
def Reader.Spent (r : Reader) : Prop := r.rest <:+ ['$']

theorem Reader.char?_eq_some {r : Reader} {c : Char} (h : r.char? = some c) :
    ∃ cs, r.rest = c :: cs := by
  unfold Reader.char? at h
  cases hr : r.rest with
  | nil => simp [hr] at h
  | cons d cs => exact ⟨cs, by simpa [hr] using h⟩

theorem Reader.char?_eq_none {r : Reader} : r.char? = none ↔ r.rest = [] := List.head?_eq_none_iff

theorem Reader.char?_of_sees {r : Reader} {c : Char} (h : r.sees c = true) : r.char? = some c :=
  eq_of_beq h

theorem Reader.sees_of_char? {r : Reader} {c d : Char} (h : r.char? = some c) (hne : c ≠ d) :
    r.sees d = false := by
  rw [Reader.sees, h]
  simpa using hne

theorem Reader.atEnd_of_char? {r : Reader} {c : Char} (h : r.char? = some c) : r.atEnd = false := by
  obtain ⟨cs, hr⟩ := Reader.char?_eq_some h
  rw [Reader.atEnd, hr]
  rfl

/-- A character with a meaning of its own is not blank. -/
theorem isBlank_of_isMeta {c : Char} (h : isMeta c = true) : isBlank c = false := by
  have hmem := List.contains_iff_mem.1 h
  rw [← Bool.not_eq_true']
  exact (List.all_eq_true (p := fun c => !isBlank c)).1 (by decide +kernel) c hmem

theorem isBlank_paren : isBlank ')' = false := isBlank_of_isMeta (by decide)

section Tail

variable {tail : List Char} (ht : tail = [] ∨ tail = closing)
include ht

/-- Blanks and comments before the closing are passed over as they are at the end of a pattern, but a
comment goes on into the closing. -/
theorem skipBlanks_append (inComment : Bool) (cs : List Char) (s s' : Spot) :
    (skipBlanks inComment (cs ++ tail) s').1 = (skipBlanks inComment cs s).1 ++ tail ∨
      (skipBlanks inComment cs s).1 = [] ∧ (skipBlanks inComment (cs ++ tail) s').1 = [] := by
  induction cs generalizing inComment s s' with
  | nil =>
    rcases ht with rfl | rfl
    · exact .inl rfl
    · cases inComment with
      | false => exact .inl (by simp [closing, skipBlanks, isBlank_paren])
      | true => exact .inr ⟨rfl, rfl⟩
  | cons c cs ih =>
    rw [List.cons_append]
    unfold skipBlanks
    split
    · exact ih _ _ _
    · split
      · exact ih _ _ _
      · split
        · exact ih _ _ _
        · exact .inl rfl

/-- A text without a parenthesis that stands before the closing stands in the pattern. -/
theorem isPrefixOf_append {text : List Char} (h : ')' ∉ text) (cs : List Char) :
    text.isPrefixOf (cs ++ tail) = text.isPrefixOf cs := by
  rcases ht with rfl | rfl
  · rw [List.append_nil]
  · induction text generalizing cs with
    | nil => rfl
    | cons c text ih =>
      simp only [List.mem_cons, not_or] at h
      cases cs with
      | nil => simp [closing, List.isPrefixOf, Ne.symm h.1]
      | cons d cs => simp [List.isPrefixOf, ih h.2]

theorem peekPast_append (inComment : Bool) (cs : List Char) :
    peekPast inComment (cs ++ tail) = (peekPast inComment cs).or tail.head? := by
  rcases ht with rfl | rfl
  · simp
  · fun_induction peekPast inComment cs with
    | case1 => simp [closing, peekPast, isBlank_paren]
    | case2 inComment c cs hb ih => rw [List.cons_append, peekPast, if_pos hb, ih]
    | case3 inComment c cs hb hc ih => rw [List.cons_append, peekPast, if_neg hb, if_pos hc, ih]
    | case4 inComment c cs hb hc =>
      rw [List.cons_append, peekPast, if_neg hb, if_neg hc, Option.some_or]

end Tail

theorem skipBlanks_suffix (inComment : Bool) (cs : List Char) (s : Spot) :
    (skipBlanks inComment cs s).1 <:+ cs := by
  fun_induction skipBlanks inComment cs s with
  | case1 => exact List.suffix_rfl
  | case2 _ _ _ ih => exact ih.trans (List.suffix_cons _ _)
  | case3 _ _ _ _ _ _ ih => exact ih.trans (List.suffix_cons _ _)
  | case4 _ _ _ _ _ _ _ ih => exact ih.trans (List.suffix_cons _ _)
  | case5 => exact List.suffix_rfl

theorem Reader.skip_suffix (r : Reader) : r.skip.rest <:+ r.rest := by
  unfold Reader.skip
  split
  · exact skipBlanks_suffix _ _ _
  · exact List.suffix_rfl

/-- Nothing is passed over before a character that is no blank and starts no comment. -/
theorem Reader.skip_eq_self {r : Reader} {c : Char} (hc : r.char? = some c)
    (hblank : isBlank c = false) (hmark : c ≠ '#') : r.skip = r := by
  obtain ⟨cs, hr⟩ := Reader.char?_eq_some hc
  unfold Reader.skip
  split
  · rw [hr]
    simp [skipBlanks, hblank, hmark, ← hr]
  · rfl

theorem Reader.bump_rest (r : Reader) : r.bump.rest = r.rest.tail := by
  unfold Reader.bump
  cases hr : r.rest with
  | nil => simp [hr]
  | cons c cs => rfl

theorem Reader.bumpSkip_suffix (r : Reader) : r.bumpSkip.rest <:+ r.rest.tail :=
  r.bump_rest ▸ r.bump.skip_suffix

theorem Reader.length_bump_lt {r : Reader} {c : Char} (hc : r.char? = some c) :
    r.bump.rest.length < r.rest.length := by
  obtain ⟨cs, hr⟩ := Reader.char?_eq_some hc
  rw [r.bump_rest, hr]
  exact Nat.lt_succ_self _

theorem Reader.length_bumpSkip_lt {r : Reader} {c : Char} (hc : r.char? = some c) :
    r.bumpSkip.rest.length < r.rest.length :=
  Nat.lt_of_le_of_lt r.bump.skip_suffix.length_le (Reader.length_bump_lt hc)

theorem Reader.foldl_bump {α : Type} (text : List α) (r : Reader) :
    (text.foldl (fun r _ => r.bump) r).rest = r.rest.drop text.length ∧
      (text.foldl (fun r _ => r.bump) r).verbose = r.verbose := by
  induction text generalizing r with
  | nil => exact ⟨rfl, rfl⟩
  | cons c text ih =>
    obtain ⟨hrest, hverbose⟩ := ih r.bump
    rw [List.foldl_cons, hrest, hverbose]
    cases hr : r.rest <;> simp [Reader.bump, hr]

/-- A look past blanks that finds nothing has only seen blanks and the mark of a comment. -/
theorem blank_of_peekPast_eq_none {inComment : Bool} {cs : List Char}
    (h : peekPast inComment cs = none) : ∀ c ∈ cs, isBlank c = true ∨ c = '#' := by
  fun_induction peekPast inComment cs with
  | case1 => simp
  | case2 _ c cs hb ih =>
    intro d hd
    rcases List.mem_cons.mp hd with rfl | hd
    · exact .inl hb
    · exact ih h d hd
  | case3 _ c cs hb hc ih =>
    intro d hd
    rcases List.mem_cons.mp hd with rfl | hd
    · rw [Bool.and_eq_true, beq_iff_eq] at hc
      exact .inr hc.2
    · exact ih h d hd
  | case4 => cases h

/-! ## At the closing -/

namespace Reader

variable {r : Reader}

theorem Spent.leaving (h : r.Spent) : r.Leaving := h.trans (List.suffix_cons _ _)

theorem Leaving.cases (h : r.Leaving) : r.rest = closing ∨ r.rest = ['$'] ∨ r.rest = [] := by
  simpa [Leaving, closing, List.suffix_cons_iff] using h

theorem Spent.cases (h : r.Spent) : r.rest = ['$'] ∨ r.rest = [] := by
  simpa [Spent, List.suffix_cons_iff] using h

theorem leaving_of_rest_eq (h : r.rest = closing) : r.Leaving :=
  show r.rest <:+ closing from h ▸ List.suffix_rfl

theorem Leaving.skip (h : r.Leaving) : r.skip.Leaving := r.skip_suffix.trans h

theorem Spent.skip (h : r.Spent) : r.skip.Spent := r.skip_suffix.trans h

theorem Leaving.bump (h : r.Leaving) : r.bump.Spent := by
  rw [Spent, r.bump_rest]
  rcases h.cases with hr | hr | hr <;> simp [hr, closing]

theorem Leaving.bumpSkip (h : r.Leaving) : r.bumpSkip.Spent := h.bump.skip

/-- The closing has no character but its own two. -/
theorem Leaving.sees_eq_false (h : r.Leaving) {c : Char} (hparen : c ≠ ')') (hdollar : c ≠ '$') :
    r.sees c = false := by
  rcases h.cases with hr | hr | hr <;>
    simp [sees, char?, hr, closing, Ne.symm hparen, Ne.symm hdollar]

theorem char?_of_rest_eq (h : r.rest = closing) : r.char? = some ')' := by rw [char?, h]; rfl

theorem sees_of_rest_eq (h : r.rest = closing) : r.sees ')' = true := by
  rw [sees, char?_of_rest_eq h]
  rfl

theorem atEnd_of_rest_eq (h : r.rest = closing) : r.atEnd = false := by rw [atEnd, h]; rfl

end Reader

namespace Within

variable {tail : List Char} {k n : Nat} {r r' : Reader} {c : Char}

theorem mono (h : Within tail k r r') (hkn : k ≤ n) : Within tail n r r' :=
  { h with length_le := Nat.le_trans h.length_le hkn }

theorem pred (h : Within tail (k - 1) r r') : Within tail k r r' := h.mono (Nat.sub_le k 1)

theorem length_le_length (h : Within tail k r r') : r.rest.length ≤ r'.rest.length := by
  rcases h.rest with hr' | ⟨hr, -⟩
  · rw [hr', List.length_append]
    exact Nat.le_add_right _ _
  · rw [hr]
    exact Nat.zero_le _

theorem char? (h : Within tail k r r') (hc : r.char? = some c) : r'.char? = some c := by
  obtain ⟨cs, hr⟩ := Reader.char?_eq_some hc
  rcases h.rest with hr' | ⟨hnil, -⟩
  · simp [Reader.char?, hr', hr]
  · simp [hnil] at hr

theorem pos (h : Within tail k r r') (hc : r.char? = some c) : 0 < k := by
  obtain ⟨cs, hr⟩ := Reader.char?_eq_some hc
  have := h.length_le
  rw [hr, List.length_cons] at this
  omega

/-- At the end of the pattern the second reader is at the closing, or at the end too. -/
theorem rest_of_none (h : Within tail k r r') (hc : r.char? = none) :
    r'.rest = [] ∨ r'.rest = closing := by
  rcases h.rest with hr' | ⟨-, hr'⟩
  · rw [hr', Reader.char?_eq_none.mp hc]
    exact h.tail_eq
  · exact .inl hr'

theorem leaving_of_none (h : Within tail k r r') (hc : r.char? = none) : r'.Leaving := by
  rcases h.rest_of_none hc with hr' | hr'
  · rw [Reader.Leaving, hr']
    exact List.nil_suffix
  · exact Reader.leaving_of_rest_eq hr'

theorem char?_of_none (h : Within tail k r r') (hc : r.char? = none) :
    r'.char? = none ∨ r'.char? = some ')' :=
  (h.rest_of_none hc).imp Reader.char?_eq_none.mpr Reader.char?_of_rest_eq

theorem sees (h : Within tail k r r') (hne : c ≠ ')') : r'.sees c = r.sees c := by
  unfold Reader.sees
  cases hc : r.char? with
  | some d => rw [h.char? hc]
  | none =>
    rcases h.char?_of_none hc with hc' | hc'
    · rw [hc']
    · rw [hc']
      simpa using Ne.symm hne

theorem bump (h : Within tail k r r') (hc : r.char? = some c) :
    Within tail (k - 1) r.bump r'.bump := by
  obtain ⟨cs, hr⟩ := Reader.char?_eq_some hc
  have hk := h.length_le
  rcases h.rest with hr' | ⟨hnil, -⟩
  · rw [hr, List.cons_append] at hr'
    have hb : r.bump.rest = cs := by simp [Reader.bump, hr]
    have hb' : r'.bump.rest = cs ++ tail := by simp [Reader.bump, hr']
    refine ⟨h.tail_eq, ?_, .inl (by rw [hb, hb']), ?_⟩
    · simpa [Reader.bump, hr, hr'] using h.verbose
    · rw [hb]
      rw [hr, List.length_cons] at hk
      omega
  · simp [hnil] at hr

theorem skip (h : Within tail k r r') : Within tail k r.skip r'.skip := by
  unfold Reader.skip
  rw [h.verbose]
  split
  · refine ⟨h.tail_eq, rfl, ?_, Nat.le_trans (skipBlanks_suffix _ _ _).length_le h.length_le⟩
    rcases h.rest with hr' | ⟨hr, hr'⟩
    · simp only [hr']
      exact skipBlanks_append h.tail_eq false r.rest r.spot r'.spot
    · simp only [hr, hr']
      exact .inr ⟨rfl, rfl⟩
  · exact h

theorem bumpSkip (h : Within tail k r r') (hc : r.char? = some c) :
    Within tail (k - 1) r.bumpSkip r'.bumpSkip :=
  (h.bump hc).skip

theorem peek? (h : Within tail k r r') (hc : r.char? = some c) {d : Char} (hd : r.peek? = some d) :
    r'.peek? = some d :=
  (h.bump hc).char? hd

/-- Both readers go past a text without a parenthesis, or neither does. -/
theorem bumpIf? (h : Within tail k r r') (text : String) (ht : ')' ∉ text.toList) :
    Option.Rel (Within tail (k - text.toList.length)) (r.bumpIf? text) (r'.bumpIf? text) := by
  have hsame : text.toList.isPrefixOf r'.rest = text.toList.isPrefixOf r.rest := by
    rcases h.rest with hr' | ⟨hr, hr'⟩
    · rw [hr', isPrefixOf_append h.tail_eq ht]
    · rw [hr, hr']
  unfold Reader.bumpIf?
  rw [hsame]
  split
  · rename_i hp
    refine .some ?_
    obtain ⟨hrest, hverbose⟩ := r.foldl_bump text.toList
    obtain ⟨hrest', hverbose'⟩ := r'.foldl_bump text.toList
    have hlen : text.toList.length ≤ r.rest.length :=
      (List.isPrefixOf_iff_prefix.mp hp).length_le
    refine ⟨h.tail_eq, by rw [hverbose, hverbose', h.verbose], ?_, ?_⟩
    · rw [hrest, hrest']
      rcases h.rest with hr' | ⟨hr, hr'⟩
      · rw [hr', List.drop_append_of_le_length hlen]
        exact .inl rfl
      · rw [hr, hr']
        exact .inr ⟨List.drop_nil, List.drop_nil⟩
    · rw [hrest, List.length_drop]
      have := h.length_le
      omega
  · exact .none

/-- A look at the character after the next one tells the two readers apart only at the end. -/
theorem peekSkip? (h : Within tail k r r') (hc : r.char? = some c) {d : Char} (hparen : d ≠ ')')
    (hblank : isBlank d = false) (hmark : d ≠ '#') :
    (r'.peekSkip? == some d) = (r.peekSkip? == some d) := by
  have hb := h.bump hc
  unfold Reader.peekSkip?
  rw [h.verbose]
  split
  · rcases hb.rest with hr' | ⟨hr, hr'⟩
    · rw [hr', peekPast_append h.tail_eq]
      cases hp : peekPast false r.bump.rest with
      | some x => rfl
      | none =>
        -- Only blanks follow in the pattern, so neither reader can find `d`.
        have hne : r.peek? ≠ some d := by
          intro hd
          obtain ⟨cs, hr⟩ := Reader.char?_eq_some hd
          rcases blank_of_peekPast_eq_none hp d (by simp [hr]) with hbl | hm
          · rw [hblank] at hbl
            cases hbl
          · exact hmark hm
        rcases h.tail_eq with rfl | rfl
        · simp only [Option.none_or, List.head?_nil, Reader.peek?, Reader.char?, hr',
            List.append_nil]
        · simp only [Option.none_or, closing, List.head?_cons, Option.some_or]
          rw [beq_eq_false_iff_ne.mpr hne]
          simpa using Ne.symm hparen
    · simp only [Reader.peek?, Reader.char?, hr, hr']
  · exact hb.sees hparen

/-- A switch changes both readers alike. -/
theorem setVerbose (h : Within tail k r r') (v : Bool) :
    Within tail k { r with verbose := v } { r' with verbose := v } :=
  { h with verbose := rfl }

/-- A reading that fails at the end of the pattern. -/
theorem ite_atEnd {α β : Type} {R : α → β → Prop} {S : β → Prop} {x : Read α} {y : Read β}
    {flaw flaw' : Flaw} {span span' : Span} (h : Within tail k r r')
    (hy : r'.rest = closing → ∀ b, y = .ok b → S b)
    (hx : ∀ c, r.char? = some c → Follows R S x y) :
    Follows R S (if r.atEnd then fail flaw span else x)
      (if r'.atEnd then fail flaw' span' else y) := by
  cases hc : r.char? with
  | none =>
    have hr := Reader.char?_eq_none.mp hc
    rw [if_pos (by simp [Reader.atEnd, hr])]
    rcases h.rest_of_none hc with hr' | hr'
    · rw [if_pos (by simp [Reader.atEnd, hr'])]
      exact follows_fail
    · rw [if_neg (by simp [Reader.atEnd_of_rest_eq hr'])]
      exact .of_error (hy hr')
  | some c =>
    obtain ⟨cs, hr⟩ := Reader.char?_eq_some hc
    obtain ⟨cs', hr'⟩ := Reader.char?_eq_some (h.char? hc)
    rw [if_neg (by simp [Reader.atEnd, hr]), if_neg (by simp [Reader.atEnd, hr'])]
    exact hx c hc

end Within

end JavaNaming.Pattern
