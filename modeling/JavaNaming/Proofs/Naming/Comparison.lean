import JavaNaming.Proofs.Naming.CheckingSequence
import JavaNaming.Proofs.Naming.WholeName

/-!
# Checkers compared

Which names a tree declares does not depend on the patterns of a checker, and the names are judged one
category after the other. So the answers of two checkers about one tree can be compared.

* `pairwise_position`: the checking sequence goes through the categories in order.
* `checkTree_eq_none_of_relaxes`, `reports_of_relaxes`: a checker that accepts more passes what the other
  one passes, and does not report an earlier name.
* `checkTree_eq_of_agree`: the answer depends only on the patterns of the reported category and those
  before it.
* `position_lt_of_withPattern`: with a pattern for the reported category that accepts everything, only a
  later category can be reported.
* `checkTree_monotone_and_local`: all of these together.
-/

namespace JavaNaming.Naming

open Syntax (Tree)
open Pattern (Regex Counts Rounds)

/-! ## The order of the categories -/

/-- The place of a category in the order in which categories are checked. -/
def Category.position (k : Category) : Nat := all.idxOf k

theorem Category.position_inj {k k' : Category} (h : k.position = k'.position) : k = k' := by
  have hk : k ∈ all := by cases k <;> decide
  exact (List.idxOf_inj hk).1 h

/-- **The sequence is in the order of the categories.** -/
theorem pairwise_position (source : List Char) (t : Tree) :
    (checkingSequence source t).Pairwise fun i j => i.category.position ≤ j.category.position := by
  have hall : Category.all.Pairwise fun k k' => k.position ≤ k'.position := by decide
  rw [checkingSequence, List.pairwise_flatMap]
  refine ⟨fun k _ => ?_, hall.imp fun hkk' i hi j hj => ?_⟩
  · refine List.pairwise_of_forall_mem_list fun i hi j hj => ?_
    exact Nat.le_of_eq (by rw [category_of_mem_namesOf hi, category_of_mem_namesOf hj])
  · rw [category_of_mem_namesOf hi, category_of_mem_namesOf hj]
    exact hkk'

namespace Checker

/-! ## Checkers that accept more -/

/-- The second checker accepts every name that the first one accepts, in each category. -/
def Relaxes (b a : Checker) : Prop :=
  ∀ k name, (a.pattern k).accepts name = true → (b.pattern k).accepts name = true

/-- The answer about a tree is the violation by a name of the checking sequence, given by its index. -/
def Reports (c : Checker) (source : List Char) (t : Tree) (k : Nat) : Prop :=
  ∃ i, (checkingSequence source t)[k]? = some i ∧ c.checkTree source t = some (c.violationBy i)

section
variable {a b c : Checker} {source : List Char} {t : Tree}

theorem Relaxes.admits (h : b.Relaxes a) {i : Identifier} (hi : a.admits i = true) :
    b.admits i = true :=
  h i.category i.name hi

theorem checkTree_eq_none_of_relaxes (h : b.Relaxes a) (ha : a.checkTree source t = none) :
    b.checkTree source t = none :=
  (checkTree_eq_none_iff b source t).2 fun i hi =>
    h.admits ((checkTree_eq_none_iff a source t).1 ha i hi)

/-- A name whose violation is the answer is refused, also where another name has the same violation. -/
theorem admits_eq_false_of_checkTree {i : Identifier}
    (h : c.checkTree source t = some (c.violationBy i)) : c.admits i = false := by
  obtain ⟨_, j, _, -, -, hj, hij⟩ := (checkTree_eq_some_iff c source t _).1 h
  simp only [violationBy, Violation.mk.injEq] at hij
  obtain ⟨hcategory, hname, -, -⟩ := hij
  rw [Checker.admits, hcategory, hname]
  exact hj

/-- Where some name is refused, one is reported that is not after it, and is the first that is
refused. -/
theorem reports_of_admits_eq_false {k : Nat} {i : Identifier}
    (hk : (checkingSequence source t)[k]? = some i) (hi : a.admits i = false) :
    ∃ j ≤ k, a.Reports source t j ∧
      ∀ i ∈ (checkingSequence source t).take j, a.admits i = true := by
  cases hv : a.checkTree source t with
  | none =>
    have hpass := (checkTree_eq_none_iff a source t).1 hv i (List.mem_of_getElem? hk)
    rw [hi] at hpass
    cases hpass
  | some v =>
    obtain ⟨before, i', after, hseq, hbefore, -, rfl⟩ := (checkTree_eq_some_iff a source t v).1 hv
    refine ⟨before.length, ?_, ⟨i', by simp [hseq], hv⟩, by simpa [hseq] using hbefore⟩
    by_contra hlt
    have hmem : i ∈ before := by
      rw [hseq, List.getElem?_append_left (by omega)] at hk
      exact List.mem_of_getElem? hk
    have hpass := hbefore i hmem
    rw [hi] at hpass
    cases hpass

theorem reports_of_relaxes (h : b.Relaxes a) {k : Nat} (hb : b.Reports source t k) :
    ∃ j ≤ k, a.Reports source t j ∧
      ∀ i ∈ (checkingSequence source t).take j, a.admits i = true := by
  obtain ⟨i, hk, hv⟩ := hb
  refine reports_of_admits_eq_false hk ?_
  have hrefused := admits_eq_false_of_checkTree hv
  cases ha : a.admits i with
  | false => rfl
  | true =>
    rw [h.admits ha] at hrefused
    cases hrefused

/-! ## The answer is local -/

/-- The names before a reported one are of its category or an earlier one, and those after it of its
category or a later one. -/
theorem position_of_split {before after : List Identifier} {i : Identifier}
    (hseq : checkingSequence source t = before ++ i :: after) :
    (∀ j ∈ before, j.category.position ≤ i.category.position) ∧
      ∀ j ∈ after, i.category.position ≤ j.category.position := by
  have hsorted := pairwise_position source t
  rw [hseq, List.pairwise_append, List.pairwise_cons] at hsorted
  exact ⟨fun j hj => hsorted.2.2 j hj i List.mem_cons_self, hsorted.2.1.1⟩

/-- Later categories have no influence on the answer. -/
theorem checkTree_eq_of_agree {v : Violation} (hv : a.checkTree source t = some v)
    (hagree : ∀ k, k.position ≤ v.category.position → c.pattern k = a.pattern k) :
    c.checkTree source t = some v := by
  obtain ⟨before, i, after, hseq, hbefore, hi, rfl⟩ := (checkTree_eq_some_iff a source t v).1 hv
  have hsame : ∀ j : Identifier, j.category.position ≤ i.category.position →
      c.pattern j.category = a.pattern j.category := fun j hj => hagree _ hj
  refine (checkTree_eq_some_iff c source t _).2 ⟨before, i, after, hseq, fun j hj => ?_, ?_, ?_⟩
  · rw [Checker.admits, hsame j ((position_of_split hseq).1 j hj)]
    exact hbefore j hj
  · rw [Checker.admits, hsame i (Nat.le_refl _)]
    exact hi
  · rw [violationBy, violationBy, hsame i (Nat.le_refl _)]

/-- The checker with another pattern for one category. -/
def withPattern (c : Checker) (k : Category) (p : NamePattern) : Checker :=
  match k with
  | .parameter => { c with parameterPattern := p }
  | .variable => { c with variablePattern := p }
  | .method => { c with methodPattern := p }
  | .type => { c with typePattern := p }

theorem pattern_withPattern (c : Checker) (k k' : Category) (p : NamePattern) :
    (c.withPattern k p).pattern k' = if k' = k then p else c.pattern k' := by
  cases k <;> cases k' <;> rfl

/-- A pattern that accepts everything takes all violations of its category away, and brings no new ones
of earlier categories. -/
theorem position_lt_of_withPattern {v w : Violation} (hv : a.checkTree source t = some v)
    {p : NamePattern} (hp : ∀ name, p.accepts name = true)
    (hw : (a.withPattern v.category p).checkTree source t = some w) :
    v.category.position < w.category.position := by
  obtain ⟨before, i, after, hseq, hbefore, -, rfl⟩ := (checkTree_eq_some_iff a source t v).1 hv
  obtain ⟨before', j, after', hseq', -, hj, rfl⟩ := (checkTree_eq_some_iff _ source t w).1 hw
  simp only [violationBy] at hj ⊢
  -- The name that is reported now is of another category, whose pattern has not changed.
  have hne : j.category ≠ i.category := by
    intro heq
    rw [Checker.admits, pattern_withPattern, if_pos heq, hp] at hj
    cases hj
  have hrefused : a.admits j = false := by
    rw [Checker.admits, pattern_withPattern, if_neg hne] at hj
    exact hj
  -- So it was refused before, and is not among the names that came first.
  have hmem : j ∈ before ++ i :: after := by
    rw [← hseq, hseq']
    simp
  have hle : i.category.position ≤ j.category.position := by
    rcases List.mem_append.1 hmem with hmem | hmem
    · have hpass := hbefore j hmem
      rw [hrefused] at hpass
      cases hpass
    rcases List.mem_cons.1 hmem with rfl | hmem
    · exact Nat.le_refl _
    · exact (position_of_split hseq).2 j hmem
  exact Nat.lt_of_le_of_ne hle fun heq => hne (Category.position_inj heq.symm)

end

/-! ## A pattern for all names -/

/-- The pattern that every name has, made from the format `(?s:.)*`. -/
def anyName : NamePattern where
  format := "(?s:.)*"
  regex := .seq (.look .start) (.seq (.repetition ⟨0, none, fun _ _ => Nat.zero_le _⟩ (.chars .full))
    (.look .stop))

theorem contains_full (c : Char) : Unicode.CharSet.full.contains c = true := by
  have hle : c.toNat ≤ Unicode.lastCodePoint := by
    have := c.valid
    simp only [Char.toNat, Unicode.lastCodePoint, UInt32.isValidChar, Nat.isValidChar] at *
    omega
  simp [Unicode.CharSet.contains, Unicode.CharSet.full, Unicode.CharSet.inRanges, hle]

theorem rounds_full (text : Array Char) : ∀ {n i : Nat}, i + n = text.size →
    Rounds ((Regex.chars .full).Matches text) n i text.size
  | 0, _, h => h
  | n + 1, i, h => by
    have hi : i < text.size := by omega
    refine ⟨i + 1, ⟨⟨text[i], Array.getElem?_eq_getElem hi, contains_full _⟩, rfl⟩, ?_⟩
    exact rounds_full text (by omega)

theorem accepts_anyName (name : String) : anyName.accepts name = true := by
  refine (Regex.found_between_start_and_stop _ name.toList).2 ⟨name.toList.length, ?_, ?_, ?_⟩
  · exact Nat.zero_le _
  · exact fun m hm => nomatch hm
  · have hsize : 0 + name.toList.length = name.toList.toArray.size := by simp
    simpa using rounds_full name.toList.toArray hsize

/-! ## The comparison -/

/-- **Two checkers on one tree.** If the second accepts every name that the first accepts, it passes every
tree that the first passes, and where it reports a name of the checking sequence, the first reports that
name or an earlier one. The violation that a checker reports depends only on its patterns for the category
of the violation and the categories before it, and if the pattern for that category is replaced by one that
accepts every name, the answer becomes a pass or a violation of a later category. -/
theorem checkTree_monotone_and_local (a b : Checker) (source : List Char) (t : Tree) :
    (b.Relaxes a →
      (a.checkTree source t = none → b.checkTree source t = none) ∧
      ∀ k, b.Reports source t k → ∃ j ≤ k, a.Reports source t j ∧
        ∀ i ∈ (checkingSequence source t).take j, a.admits i = true) ∧
    ∀ v, a.checkTree source t = some v →
      (∀ c : Checker, (∀ k, k.position ≤ v.category.position → c.pattern k = a.pattern k) →
        c.checkTree source t = some v) ∧
      ∀ p : NamePattern, (∀ name, p.accepts name = true) →
        ∀ w, (a.withPattern v.category p).checkTree source t = some w →
          v.category.position < w.category.position := by
  refine ⟨fun h => ⟨checkTree_eq_none_of_relaxes h, fun k => reports_of_relaxes h⟩, fun v hv => ⟨?_, ?_⟩⟩
  · exact fun c => checkTree_eq_of_agree hv
  · exact fun p hp w => position_lt_of_withPattern hv hp

/-- The name of a type and the name of a parameter. -/
def twoNamesText : List Char := "a B".toList

/-- A type and a parameter, in this order in the text. -/
def twoNamesTree : Tree :=
  let label (kind : String) (i j : Nat) (field : Option String) : Syntax.Label :=
    ⟨kind, true, .upTo i j, field, .sound, false⟩
  .node (label "program" 0 3 none)
    [.node (label "class_declaration" 0 1 none) [.node (label "identifier" 0 1 "name") []],
      .node (label "formal_parameter" 2 3 none) [.node (label "identifier" 2 3 "name") []]]

/-- By the standard conventions the parameter is reported, although the type comes first in the text and is
refused as well. If all parameters are accepted, the type is reported, which is the second name of the
sequence; if all types are accepted, nothing changes. -/
theorem checkTree_monotone_and_local_twoNames :
    NamePattern.ofFormat "(?s:.)*" = .ok anyName ∧
    ∃ a, Checker.ofConventions .standard = .ok a ∧
      (a.withPattern .parameter anyName).Relaxes a ∧
      (a.withPattern .parameter anyName).Reports twoNamesText twoNamesTree 1 ∧
      (∃ j ≤ 1, a.Reports twoNamesText twoNamesTree j) ∧
      a.checkTree twoNamesText twoNamesTree =
        some ⟨.parameter, "B", "camelCase", 2, 3, by decide⟩ ∧
      (a.withPattern .type anyName).checkTree twoNamesText twoNamesTree =
        some ⟨.parameter, "B", "camelCase", 2, 3, by decide⟩ ∧
      (a.withPattern .parameter anyName).checkTree twoNamesText twoNamesTree =
        some ⟨.type, "a", "PascalCase", 0, 1, by decide⟩ ∧
      Category.parameter.position < Category.type.position := by
  refine ⟨ofFormat_of_meaningOf rfl (by decide +kernel), ?_⟩
  have hanswers : (match Checker.ofConventions .standard with
      | .ok a => decide (a.checkTree twoNamesText twoNamesTree =
            some ⟨.parameter, "B", "camelCase", 2, 3, by decide⟩ ∧
          (a.withPattern .parameter anyName).checkTree twoNamesText twoNamesTree =
            some ⟨.type, "a", "PascalCase", 0, 1, by decide⟩ ∧
          ((checkingSequence twoNamesText twoNamesTree)[1]?).map
              (a.withPattern .parameter anyName).violationBy =
            some ⟨.type, "a", "PascalCase", 0, 1, by decide⟩)
      | .error _ => false) = true := by decide +kernel
  split at hanswers
  · rename_i a ha
    obtain ⟨hparameter, htype, hsecond⟩ := of_decide_eq_true hanswers
    have hrelaxes : (a.withPattern .parameter anyName).Relaxes a := by
      intro k name hname
      rw [pattern_withPattern]
      split
      · exact accepts_anyName name
      · exact hname
    have hreports : (a.withPattern .parameter anyName).Reports twoNamesText twoNamesTree 1 := by
      obtain ⟨i, hi, hv⟩ := Option.map_eq_some_iff.1 hsecond
      exact ⟨i, hi, by rw [htype, hv]⟩
    obtain ⟨hmono, hlocal⟩ := checkTree_monotone_and_local a (a.withPattern .parameter anyName)
      twoNamesText twoNamesTree
    obtain ⟨hagree, hnext⟩ := hlocal _ hparameter
    obtain ⟨j, hj, hfirst, -⟩ := (hmono hrelaxes).2 1 hreports
    refine ⟨a, ha, hrelaxes, hreports, ⟨j, hj, hfirst⟩, hparameter, ?_, htype, ?_⟩
    · refine hagree _ fun k hk => ?_
      rw [pattern_withPattern, if_neg]
      rintro rfl
      exact absurd hk (by decide)
    · exact hnext anyName accepts_anyName _ htype
  · cases hanswers

end Checker

end JavaNaming.Naming
