import JavaNaming.Proofs.Pattern.Enclosed.Escape

/-!
# Openings of groups in an enclosed pattern

What may follow an opening parenthesis is read in the same shape alone and within a group. Switches that
are not closed where the pattern ends take the parenthesis after it, so that the group around the pattern
is left open.
-/

namespace JavaNaming.Pattern

variable {tail : List Char} {k n n' : Nat} {r r' : Reader} {c : Char}

theorem sameItem?_eq_none_iff {item : FlagItem} {items : List (Span × FlagItem)} :
    sameItem? item items = none ↔ item ∉ items.map (·.2) := by
  unfold sameItem?
  simp only [Option.map_eq_none_iff, List.find?_eq_none, List.mem_map, not_exists, not_and,
    beq_iff_eq]

/-- Switches are read up to the colon or the parenthesis after them, which may be that of the closing. -/
theorem follows_readFlags {items items' : List (Span × FlagItem)} (h : Within tail k r r')
    (hi : items.map (·.2) = items'.map (·.2)) (hn : r.rest.length < n) (hnn : n ≤ n') :
    Follows (fun a b => Reads Eq tail k a b ∧ a.2.char?.isSome) (·.2.rest = closing)
      (readFlags n items r) (readFlags n' items' r') := by
  induction n generalizing r r' items items' n' with
  | zero => omega
  | succ n ih =>
    obtain ⟨n', rfl⟩ : ∃ m, n' = m + 1 := ⟨n' - 1, by omega⟩
    unfold readFlags
    cases hc : r.char? with
    | none =>
      refine .of_error fun b hb => ?_
      rcases h.rest_of_none hc with hr' | hr'
      · rw [Reader.char?_eq_none.mpr hr'] at hb
        cases hb
      · rw [Reader.char?_of_rest_eq hr'] at hb
        dsimp only at hb
        rw [if_pos (by decide)] at hb
        split at hb
        · cases hb
        · cases hb
          exact hr'
    | some c =>
      rw [h.char? hc]
      dsimp only
      split
      · match items, items', hi with
        | [], [], _ => exact .ok ⟨⟨rfl, h⟩, by simp [hc]⟩
        | (_, .negation) :: _, (_, .negation) :: _, _ => exact follows_fail
        | (_, .flag f) :: items, (_, g) :: items', hi =>
          simp only [List.map_cons, List.cons.injEq] at hi
          obtain ⟨rfl, hi⟩ := hi
          simp only [List.map_cons, hi]
          exact .ok ⟨⟨rfl, h⟩, by simp [hc]⟩
      · generalize (if (c == '-') = true then some FlagItem.negation
          else (Flag.ofLetter? c).map FlagItem.flag) = item?
        cases item? with
        | none => exact follows_fail
        | some item =>
          dsimp only
          have hsame : sameItem? item items = none ↔ sameItem? item items' = none := by
            rw [sameItem?_eq_none_iff, sameItem?_eq_none_iff, hi]
          cases hx : sameItem? item items with
          | some first =>
            cases hy : sameItem? item items' with
            | some first' => exact .error
            | none => cases hx.symm.trans (hsame.mpr hy)
          | none =>
            rw [hsame.mp hx]
            have hlen := Reader.length_bump_lt hc
            exact ih (h.bump hc).pred (by simp [hi]) (by omega) (by omega)

/-- Without a bracket nothing is read up to a bracket. -/
theorem readNameChars_ne_ok {isFirst : Bool} (hr : '>' ∉ r.rest) (b : List Char × Reader) :
    readNameChars isFirst n r ≠ .ok b := by
  induction n generalizing r isFirst b with
  | zero => exact nofun
  | succ n ih =>
    unfold readNameChars
    split
    · exact nofun
    · rename_i hb
      obtain ⟨cs, hcs⟩ := Reader.char?_eq_some hb
      rw [hcs] at hr
      exact absurd List.mem_cons_self hr
    · split
      · intro hok
        obtain ⟨b₁, hb₁, -⟩ := bind_eq_ok hok
        refine ih (fun hmem => hr ?_) b₁ hb₁
        rw [Reader.bump_rest] at hmem
        exact List.mem_of_mem_tail hmem
      · exact nofun

theorem follows_readNameChars {S : List Char × Reader → Prop} {isFirst : Bool}
    (h : Within tail k r r') (hn : r.rest.length < n) (hnn : n ≤ n') :
    Follows (fun a b => Reads Eq tail k a b ∧ a.2.char? = some '>') S (readNameChars isFirst n r)
      (readNameChars isFirst n' r') := by
  induction n generalizing r r' n' isFirst S with
  | zero => omega
  | succ n ih =>
    cases hd : r.char? with
    | none =>
      have hx : readNameChars isFirst (n + 1) r = fail .groupNameUnfinished r.here := by
        rw [readNameChars, hd]
      have hr : '>' ∉ r'.rest := by
        rcases h.rest_of_none hd with hr' | hr' <;> simp [hr', closing]
      rw [hx]
      exact .of_error fun b hb => absurd hb (readNameChars_ne_ok hr b)
    | some d =>
      obtain ⟨n', rfl⟩ : ∃ m, n' = m + 1 := ⟨n' - 1, by omega⟩
      unfold readNameChars
      rw [hd, h.char? hd]
      split
      · cases ‹some d = none›
      · rename_i hb
        exact .ok ⟨⟨rfl, h⟩, by rw [hd, hb]⟩
      · split
        · have hlen := Reader.length_bump_lt hd
          refine (ih (h.bump hd).pred (by omega) (by omega)).bind ?_
          rintro ⟨name, r₁⟩ ⟨_, r₁'⟩ ⟨⟨rfl, h₁⟩, hb⟩
          exact .pure ⟨⟨rfl, h₁⟩, hb⟩
        · exact follows_fail

/-- The same names, wherever they stand. -/
def GroupNames.Alike (names names' : GroupNames) : Prop := names.map (·.1) = names'.map (·.1)

theorem lookup_eq_none_iff {names : GroupNames} {name : List Char} :
    names.lookup name = none ↔ name ∉ names.map (·.1) := by
  simp only [List.lookup_eq_none_iff, List.mem_map, not_exists, not_and, bne_iff_ne, ne_eq,
    eq_comm (a := name)]

variable {names names' : GroupNames}

theorem follows_readGroupName {S : GroupNames × Reader → Prop} (h : Within tail k r r')
    (hnames : names.Alike names') :
    Follows (Reads GroupNames.Alike tail k) S (readGroupName names r) (readGroupName names' r') := by
  unfold readGroupName
  refine (follows_readNameChars h (Nat.lt_succ_self _)
    (Nat.succ_le_succ h.length_le_length)).bind ?_
  rintro ⟨name, r₁⟩ ⟨_, r₁'⟩ ⟨⟨rfl, h₁⟩, hb⟩
  dsimp only at h₁ hb ⊢
  split
  · exact follows_fail
  · have hlookup : names.lookup name = none ↔ names'.lookup name = none := by
      rw [lookup_eq_none_iff, lookup_eq_none_iff, hnames]
    cases hl : names.lookup name with
    | some first =>
      cases hl' : names'.lookup name with
      | some first' => exact .error
      | none => cases hl.symm.trans (hlookup.mpr hl')
    | none =>
      rw [hlookup.mp hl]
      refine .pure ⟨?_, (h₁.bump hb).pred⟩
      show List.map _ _ = List.map _ _
      rw [List.map_cons, List.map_cons, hnames]

theorem rel_or {α β : Type} {R : α → β → Prop} {x y : Option α} {x' y' : Option β}
    (hx : Option.Rel R x x') (hy : Option.Rel R y y') : Option.Rel R (x.or y) (x'.or y') := by
  cases hx with
  | none => simpa using hy
  | some h => exact .some h

theorem rel_bumpIf? (h : Within tail k r r') (text : String) (ht : ')' ∉ text.toList) :
    Option.Rel (Within tail k) (r.bumpIf? text) (r'.bumpIf? text) := by
  have hrel := h.bumpIf? text ht
  generalize r.bumpIf? text = x at hrel ⊢
  generalize r'.bumpIf? text = y at hrel ⊢
  cases hrel with
  | none => exact .none
  | some h₁ => exact .some (h₁.mono (Nat.sub_le _ _))

theorem rel_lookAround? (h : Within tail k r r') :
    Option.Rel (Within tail k) (lookAround? r) (lookAround? r') :=
  rel_or (rel_or (rel_bumpIf? h _ (by decide)) (rel_bumpIf? h _ (by decide)))
    (rel_or (rel_bumpIf? h _ (by decide)) (rel_bumpIf? h _ (by decide)))

/-- Openings that start the same. -/
inductive Opening.Alike : Opening → Opening → Prop
  | switches {span span' : Span} {items : List FlagItem} :
    Alike (.switches span items) (.switches span' items)
  | group {captures : Bool} {items : List FlagItem} :
    Alike (.group captures items) (.group captures items)

/-- Switches that are not closed in the pattern may be closed by the parenthesis after it. -/
theorem follows_readOpeningParen (h : Within tail k r r') (hc : r.char? = some c)
    (hnames : names.Alike names') :
    Follows (Reads (fun a b => a.1.Alike b.1 ∧ a.2.Alike b.2) tail (k - 1)) (·.2.Spent)
      (readOpeningParen names r) (readOpeningParen names' r') := by
  have h₁ := h.bumpSkip hc
  unfold readOpeningParen
  dsimp only
  have hlook := rel_lookAround? h₁
  generalize lookAround? r.bumpSkip = x at hlook ⊢
  generalize lookAround? r'.bumpSkip = y at hlook ⊢
  cases hlook with
  | some _ => exact follows_fail
  | none =>
    dsimp only
    have hname := rel_or (rel_bumpIf? h₁ "?P<" (by decide))
      (rel_bumpIf? h₁ "?<" (by decide))
    generalize (r.bumpSkip.bumpIf? "?P<").or (r.bumpSkip.bumpIf? "?<") = x at hname ⊢
    generalize (r'.bumpSkip.bumpIf? "?P<").or (r'.bumpSkip.bumpIf? "?<") = y at hname ⊢
    cases hname with
    | some h₂ =>
      refine (follows_readGroupName h₂ hnames).bind ?_
      rintro ⟨ns, r₃⟩ ⟨ns', r₃'⟩ ⟨hns, h₃⟩
      exact .pure ⟨⟨.group, hns⟩, h₃⟩
    | none =>
      dsimp only
      rw [h₁.sees (by decide)]
      split
      · rename_i hq
        have h₂ := (h₁.bump (Reader.char?_of_sees hq)).pred
        refine h₂.ite_atEnd (fun hr' b hb => ?_) fun d hd => ?_
        · -- There are no switches before the parenthesis.
          have hflags : readFlags (r'.bumpSkip.bump.rest.length + 1) [] r'.bumpSkip.bump =
              .ok ([], r'.bumpSkip.bump) := by
            unfold readFlags
            rw [Reader.char?_of_rest_eq hr']
            rfl
          rw [hflags] at hb
          change (if r'.bumpSkip.bump.sees ')' then fail _ _ else _) = _ at hb
          rw [if_pos (Reader.sees_of_rest_eq hr')] at hb
          cases hb
        refine (follows_readFlags h₂ rfl (Nat.lt_succ_self _)
          (Nat.succ_le_succ h₂.length_le_length)).bind_astray ?_ ?_
        · rintro ⟨items, r₃'⟩ hr' b hb
          dsimp only at hb
          rw [if_pos (Reader.sees_of_rest_eq hr')] at hb
          split at hb
          · cases hb
          · cases hb
            exact (Reader.leaving_of_rest_eq hr').bump
        · rintro ⟨items, r₃⟩ ⟨_, r₃'⟩ ⟨⟨rfl, h₃⟩, hsome⟩
          obtain ⟨e, he⟩ := Option.isSome_iff_exists.mp hsome
          dsimp only at h₃ he ⊢
          rw [show r₃'.sees ')' = r₃.sees ')' by rw [Reader.sees, h₃.char? he, Reader.sees, he]]
          split
          · split
            · exact follows_fail
            · exact .pure ⟨⟨.switches, hnames⟩, (h₃.bump he).pred⟩
          · exact .pure ⟨⟨.group, hnames⟩, (h₃.bump he).pred⟩
      · exact .pure ⟨⟨.group, hnames⟩, h₁⟩

end JavaNaming.Pattern
