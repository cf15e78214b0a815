import JavaNaming.Proofs.Naming.CheckingSequence

/-!
# Every name is extracted once

The rules of a checker look for names from different nodes: most from the node above the name, the
rule for parameters also from two levels above, where a variable number of arguments is declared. Here
it is shown that the rules do not get in each other's way.

* `mem_namePaths`: what a node can declare, said once for all kinds of nodes.
* `declarer?`: who declares the node at a path, read off the nodes above it. Every extraction agrees
  with it (`declarer?_of_mem`), so that the name determines the rule and the declaring node.
* `names_extracted_once`: no name is extracted twice, and the name of a variable declarator is
  extracted as a parameter if the declarator stands below a spread parameter, else as a variable.
-/

namespace JavaNaming.Naming

open Syntax (Tree Cursor places)

/-! ## What a node declares -/

theorem mem_childrenWhere {p : Tree → Bool} {t c : Tree} {i : Nat} :
    (i, c) ∈ childrenWhere p t ↔ t.children[i]? = some c ∧ p c = true := by
  simp only [childrenWhere, List.mem_map, List.mem_filter, Prod.exists, Prod.mk.injEq]
  constructor
  · rintro ⟨c', i', ⟨hm, hp⟩, rfl, rfl⟩
    exact ⟨List.mem_zipIdx_iff_getElem?.1 hm, hp⟩
  · rintro ⟨hc, hp⟩
    exact ⟨c, i, ⟨List.mem_zipIdx_iff_getElem?.2 hc, hp⟩, rfl, rfl⟩

theorem nodup_childrenWhere (p : Tree → Bool) (t : Tree) :
    ((childrenWhere p t).map (·.1)).Nodup := by
  rw [childrenWhere, List.map_map]
  change ((t.children.zipIdx.filter _).map Prod.snd).Nodup
  exact (List.filter_sublist.map Prod.snd).nodup (by simpa using List.nodup_range')

theorem mem_nameField {t : Tree} {q : List Nat} :
    q ∈ nameField t ↔ ∃ i, t.fieldIndex? "name" = some i ∧ q = [i] := by
  simp [nameField, eq_comm]

theorem fieldIndex?_lt {t : Tree} {field : String} {i : Nat} (h : t.fieldIndex? field = some i) :
    i < t.children.length :=
  (List.findIdx?_eq_some_iff_getElem.1 h).1

theorem mem_declaratorNames {t : Tree} {q : List Nat} :
    q ∈ declaratorNames t ↔ ∃ i d j, t.children[i]? = some d ∧ d.kind = "variable_declarator" ∧
      d.fieldIndex? "name" = some j ∧ q = [i, j] := by
  simp only [declaratorNames, List.mem_flatMap, Prod.exists, mem_childrenWhere, beq_iff_eq,
    List.mem_map, mem_nameField]
  constructor
  · rintro ⟨i, d, ⟨hd, hk⟩, _, ⟨j, hj, rfl⟩, rfl⟩
    exact ⟨i, d, j, hd, hk, hj, rfl⟩
  · rintro ⟨i, d, j, hd, hk, hj, rfl⟩
    exact ⟨i, d, ⟨hd, hk⟩, [j], ⟨j, hj, rfl⟩, rfl⟩

theorem mem_lambdaName {t : Tree} {q : List Nat} (h : q ∈ lambdaName t) :
    ∃ i < t.children.length, q = [i] := by
  unfold lambdaName at h
  split at h
  · rename_i i hi
    split at h
    · exact ⟨i, fieldIndex?_lt hi, List.mem_singleton.1 h⟩
    · simp at h
  · simp at h

theorem mem_identifierChildren {t : Tree} {q : List Nat} (h : q ∈ identifierChildren t) :
    ∃ i < t.children.length, q = [i] := by
  simp only [identifierChildren, List.mem_map, Prod.exists, mem_childrenWhere] at h
  obtain ⟨i, c, ⟨hc, -⟩, rfl⟩ := h
  exact ⟨i, (List.getElem?_eq_some_iff.1 hc).1, rfl⟩

theorem mem_nameField_lt {t : Tree} {q : List Nat} (h : q ∈ nameField t) :
    ∃ i < t.children.length, q = [i] := by
  obtain ⟨i, hi, rfl⟩ := mem_nameField.1 h
  exact ⟨i, fieldIndex?_lt hi, rfl⟩

/-- The category of the names among the children of a node of a given kind. -/
def childCategory? : String → Option Category
  | "formal_parameter" => some .parameter
  | "catch_formal_parameter" => some .parameter
  | "lambda_expression" => some .parameter
  | "inferred_parameters" => some .parameter
  | "variable_declarator" => some .variable
  | "enhanced_for_statement" => some .variable
  | "resource" => some .variable
  | "method_declaration" => some .method
  | "class_declaration" => some .type
  | "interface_declaration" => some .type
  | _ => none

/-- **What a node declares**: a child of its own, in the category of its kind and unless it is the
declarator of a spread parameter, or the name of a declarator below it, if it is a spread
parameter. -/
theorem mem_namePaths {k : Category} {above : Option String} {t : Tree} {q : List Nat}
    (h : q ∈ namePaths k above t) :
    (∃ i < t.children.length, q = [i] ∧ childCategory? t.kind = some k ∧
        ¬(t.kind = "variable_declarator" ∧ above = some "spread_parameter")) ∨
      ∃ i d j, q = [i, j] ∧ k = .parameter ∧ t.kind = "spread_parameter" ∧
        t.children[i]? = some d ∧ d.kind = "variable_declarator" ∧
        d.fieldIndex? "name" = some j := by
  unfold namePaths at h
  split at h
  case h_3 hk =>
    obtain ⟨i, d, j, hd, hdk, hj, rfl⟩ := mem_declaratorNames.1 h
    exact .inr ⟨i, d, j, rfl, rfl, hk, hd, hdk, hj⟩
  case h_4 hk =>
    obtain ⟨i, hi, rfl⟩ := mem_lambdaName h
    exact .inl ⟨i, hi, rfl, by rw [hk]; rfl, by simp [hk]⟩
  case h_5 hk =>
    obtain ⟨i, hi, rfl⟩ := mem_identifierChildren h
    exact .inl ⟨i, hi, rfl, by rw [hk]; rfl, by simp [hk]⟩
  case h_6 hk =>
    split at h
    · simp at h
    · rename_i hs
      obtain ⟨i, hi, rfl⟩ := mem_nameField_lt h
      exact .inl ⟨i, hi, rfl, by rw [hk]; rfl, fun hc => hs hc.2⟩
  case h_12 => simp at h
  all_goals
    rename_i hk
    obtain ⟨i, hi, rfl⟩ := mem_nameField_lt h
    exact .inl ⟨i, hi, rfl, by rw [hk]; rfl, by simp [hk]⟩

/-- A name stands where its path leads to. -/
theorem at?_of_mem_namePaths {k : Category} {above : Option String} {t : Tree} {q : List Nat}
    (h : q ∈ namePaths k above t) : (t.at? q).isSome := by
  rcases mem_namePaths h with ⟨i, hi, rfl, -, -⟩ | ⟨i, d, j, rfl, -, -, hd, -, hj⟩
  · simp [Tree.at?, hi]
  · simp [Tree.at?, hd, fieldIndex?_lt hj]

theorem nodup_nameField (t : Tree) : (nameField t).Nodup := by
  unfold nameField
  cases t.fieldIndex? "name" <;> simp

theorem nodup_declaratorNames (t : Tree) : (declaratorNames t).Nodup := by
  rw [declaratorNames, List.nodup_flatMap]
  refine ⟨fun c _ => (nodup_nameField c.2).map fun _ _ h => by simpa using h, ?_⟩
  refine (List.pairwise_map.1 (nodup_childrenWhere _ t)).imp fun hne q hq hq' => ?_
  simp only [List.mem_map] at hq hq'
  obtain ⟨_, -, rfl⟩ := hq
  obtain ⟨_, -, h⟩ := hq'
  exact hne (List.cons.inj h).1.symm

theorem nodup_lambdaName (t : Tree) : (lambdaName t).Nodup := by
  unfold lambdaName
  split
  · split <;> simp
  · simp

theorem nodup_identifierChildren (t : Tree) : (identifierChildren t).Nodup := by
  have h : identifierChildren t =
      ((childrenWhere (fun c => c.named && c.kind == "identifier") t).map (·.1)).map ([·]) := by
    simp [identifierChildren]
  rw [h]
  exact (nodup_childrenWhere _ t).map fun _ _ h => by simpa using h

/-- No node declares a name twice. -/
theorem nodup_namePaths (k : Category) (above : Option String) (t : Tree) :
    (namePaths k above t).Nodup := by
  unfold namePaths
  split
  case h_3 => exact nodup_declaratorNames t
  case h_4 => exact nodup_lambdaName t
  case h_5 => exact nodup_identifierChildren t
  case h_6 =>
    split
    · exact List.nodup_nil
    · exact nodup_nameField t
  case h_12 => exact List.nodup_nil
  all_goals exact nodup_nameField t

/-! ## Who declares a name -/

/-- Who declares the node at a path: the category, and the path of the declaring node. Only the two
nodes above a name matter. -/
def declarer? (t : Tree) (name : List Nat) : Option (Category × List Nat) :=
  let p := name.dropLast
  (t.at? p).bind fun d =>
    if d.kind = "variable_declarator" ∧ t.kindAbove? p = some "spread_parameter" then
      some (.parameter, p.dropLast)
    else (childCategory? d.kind).map (·, p)

/-- **The name determines who extracts it.** -/
theorem declarer?_of_mem {t : Tree} {c : Cursor} {k : Category} {q : List Nat} (hc : c ∈ places t)
    (h : q ∈ namePaths k c.parentKind? c.focus) : declarer? t (c.path ++ q) = some (k, c.path) := by
  have hat := Syntax.at?_path hc
  rcases mem_namePaths h with ⟨i, -, rfl, hk, hn⟩ | ⟨i, d, j, rfl, rfl, hk, hd, hdk, -⟩
  · rw [Syntax.parentKind?_eq hc] at hn
    simp [declarer?, hat, hn, hk]
  · have hsplit : c.path ++ [i, j] = (c.path ++ [i]) ++ [j] := by simp
    have hdat : t.at? (c.path ++ [i]) = some d := by
      simp [Syntax.at?_append, hat, Tree.at?, hd]
    have habove : t.kindAbove? (c.path ++ [i]) = some "spread_parameter" := by
      simp [Tree.kindAbove?, hat, hk]
    rw [hsplit]
    simp [declarer?, hdat, hdk, habove]

/-! ## The extractions of a checker -/

/-- A name that a rule takes from a node: the category of the rule, and the paths of the node and of
the name. -/
structure Extraction where
  category : Category
  declaring : List Nat
  name : List Nat
deriving DecidableEq

/-- What a rule extracts from the node at a cursor. -/
def Rule.extractionsAt (r : Rule) (source : List Char) (c : Cursor) : List Extraction :=
  (r.identifiers source c).map fun i => ⟨r.category, c.path, i.path⟩

/-- What all rules of a checker extract in their walks of a tree. -/
def Checker.extractions (c : Checker) (source : List Char) (t : Tree) : List Extraction :=
  c.rules.flatMap fun r => (Syntax.walk t).flatMap (r.extractionsAt source)

theorem map_path_declared (source : List Char) (k : Category) (c : Cursor) :
    (declared source k c).map (·.path) =
      (namePaths k c.parentKind? c.focus).map (c.path ++ ·) := by
  have hsome : ∀ q ∈ namePaths k c.parentKind? c.focus, (c.focus.at? q).isSome :=
    fun q => at?_of_mem_namePaths
  rw [declared]
  revert hsome
  induction namePaths k c.parentKind? c.focus with
  | nil => simp
  | cons q qs ih =>
    intro hsome
    obtain ⟨u, hu⟩ := Option.isSome_iff_exists.1 (hsome q List.mem_cons_self)
    simp only [List.filterMap_cons, hu, Option.map_some, List.map_cons,
      ih fun q' hq' => hsome q' (List.mem_cons_of_mem q hq')]

theorem mem_extractionsAt {r : Rule} {source : List Char} {c : Cursor} {e : Extraction} :
    e ∈ r.extractionsAt source c ↔ r.concerns c.focus = true ∧
      ∃ q ∈ namePaths r.category c.parentKind? c.focus, e = ⟨r.category, c.path, c.path ++ q⟩ := by
  have hpath : ∀ p, (∃ i ∈ declared source r.category c, i.path = p) ↔
      ∃ q ∈ namePaths r.category c.parentKind? c.focus, c.path ++ q = p := by
    intro p
    rw [← List.mem_map, map_path_declared, List.mem_map]
  simp only [Rule.extractionsAt, Rule.identifiers, List.mem_map]
  split
  · rename_i hr
    constructor
    · rintro ⟨i, hi, rfl⟩
      obtain ⟨q, hq, hp⟩ := (hpath i.path).1 ⟨i, hi, rfl⟩
      exact ⟨hr, q, hq, by rw [hp]⟩
    · rintro ⟨-, q, hq, rfl⟩
      obtain ⟨i, hi, hp⟩ := (hpath (c.path ++ q)).2 ⟨q, hq, rfl⟩
      exact ⟨i, hi, by rw [hp]⟩
  · rename_i hr
    simp [hr]

theorem nodup_extractionsAt (r : Rule) (source : List Char) (c : Cursor) :
    ((r.extractionsAt source c).map (·.name)).Nodup := by
  have h : (r.extractionsAt source c).map (·.name) = (r.identifiers source c).map (·.path) := by
    simp [Rule.extractionsAt]
  rw [h, Rule.identifiers]
  split
  · rw [map_path_declared]
    exact (nodup_namePaths _ _ _).map fun _ _ h => by simpa using h
  · exact List.nodup_nil

theorem mem_extractions {c : Checker} {source : List Char} {t : Tree} {e : Extraction} :
    e ∈ c.extractions source t ↔ ∃ n ∈ places t, e.category.kinds.contains n.focus.kind = true ∧
      e.declaring = n.path ∧ ∃ q ∈ namePaths e.category n.parentKind? n.focus,
        e.name = n.path ++ q := by
  simp only [Checker.extractions, Checker.rules, List.mem_flatMap, List.mem_map,
    Syntax.walk_eq_places, mem_extractionsAt]
  constructor
  · rintro ⟨_, ⟨k, -, rfl⟩, n, hn, hr, q, hq, rfl⟩
    exact ⟨n, hn, hr, rfl, q, hq, rfl⟩
  · rintro ⟨n, hn, hr, hd, q, hq, hname⟩
    obtain ⟨k, d, name⟩ := e
    subst hd hname
    exact ⟨⟨k, c.pattern k⟩, ⟨k, by cases k <;> simp [Category.all], rfl⟩, n, hn, hr, q, hq, rfl⟩

/-! ## No name twice -/

/-- Lists that are joined have no element twice if each has none, and if an element tells by `s` to
which of them it belongs. -/
theorem nodup_flatMap_of_section {α β γ : Type} {xs : List α} {f : α → List β} (key : α → γ)
    (s : β → Option γ) (hxs : (xs.map key).Nodup) (hf : ∀ x ∈ xs, (f x).Nodup)
    (hs : ∀ x ∈ xs, ∀ y ∈ f x, s y = some (key x)) : (xs.flatMap f).Nodup := by
  rw [List.nodup_flatMap]
  refine ⟨hf, (List.pairwise_map.1 hxs).imp_of_mem fun {x x'} hx hx' hne y hy hy' => hne ?_⟩
  have h := hs x hx y hy
  rw [hs x' hx' y hy', Option.some.injEq] at h
  exact h.symm

theorem nodup_map_name_extractions (c : Checker) (source : List Char) (t : Tree) :
    ((c.extractions source t).map (·.name)).Nodup := by
  have hdeclarer : ∀ r ∈ c.rules, ∀ n ∈ places t, ∀ p ∈ (r.extractionsAt source n).map (·.name),
      declarer? t p = some (r.category, n.path) := by
    rintro r hr n hn p hp
    obtain ⟨e, he, rfl⟩ := List.mem_map.1 hp
    obtain ⟨-, q, hq, rfl⟩ := mem_extractionsAt.1 he
    exact declarer?_of_mem hn hq
  rw [Checker.extractions, List.map_flatMap]
  refine nodup_flatMap_of_section (·.category) (fun p => (declarer? t p).map (·.1)) ?_ ?_ ?_
  · rw [Checker.rules, List.map_map]
    change (Category.all.map id).Nodup
    decide
  · intro r hr
    rw [List.map_flatMap, Syntax.walk_eq_places]
    refine nodup_flatMap_of_section (·.path) (fun p => (declarer? t p).map (·.2))
      (Syntax.nodup_map_path_places t) (fun n _ => nodup_extractionsAt r source n) ?_
    intro n hn p hp
    rw [hdeclarer r hr n hn p hp]
    rfl
  · intro r hr p hp
    rw [List.map_flatMap, Syntax.walk_eq_places] at hp
    obtain ⟨n, hn, hp⟩ := List.mem_flatMap.1 hp
    rw [hdeclarer r hr n hn p hp]
    rfl

/-! ## Variable declarators -/

/-- The extraction of the name of the variable declarator at path `p`, where it is child `i`. -/
def declaratorExtraction (t : Tree) (p : List Nat) (i : Nat) : Extraction :=
  if t.kindAbove? p = some "spread_parameter" then ⟨.parameter, p.dropLast, p ++ [i]⟩
  else ⟨.variable, p, p ++ [i]⟩

/-- A declarator below a spread parameter gives its name to the parameter. -/
theorem mem_extractions_spread (c : Checker) (source : List Char) {t d : Tree} {p : List Nat}
    {i : Nat} (hd : t.at? p = some d) (hk : d.kind = "variable_declarator")
    (hi : d.fieldIndex? "name" = some i) (hs : t.kindAbove? p = some "spread_parameter") :
    ⟨.parameter, p.dropLast, p ++ [i]⟩ ∈ c.extractions source t := by
  have hne : p ≠ [] := by
    rintro rfl
    simp [Tree.kindAbove?] at hs
  obtain ⟨j, hj⟩ : ∃ j, p = p.dropLast ++ [j] := ⟨_, (List.dropLast_append_getLast hne).symm⟩
  simp only [Tree.kindAbove?, hne, ↓reduceIte, Option.map_eq_some_iff] at hs
  obtain ⟨u, hu, huk⟩ := hs
  have hchild : u.children[j]? = some d := by
    rw [hj, Syntax.at?_append, hu] at hd
    simpa [Tree.at?] using hd
  obtain ⟨n, hn, hpath, rfl⟩ := Syntax.exists_place hu
  refine mem_extractions.2 ⟨n, hn, by simp [huk, Category.kinds], hpath.symm, [j, i], ?_, ?_⟩
  · simp only [namePaths, huk]
    exact mem_declaratorNames.2 ⟨j, d, i, hchild, hk, hi, rfl⟩
  · rw [hpath, hj]
    simp

/-- Any other declarator names a variable. -/
theorem mem_extractions_variable (c : Checker) (source : List Char) {t d : Tree} {p : List Nat}
    {i : Nat} (hd : t.at? p = some d) (hk : d.kind = "variable_declarator")
    (hi : d.fieldIndex? "name" = some i) (hs : t.kindAbove? p ≠ some "spread_parameter") :
    ⟨.variable, p, p ++ [i]⟩ ∈ c.extractions source t := by
  obtain ⟨n, hn, rfl, rfl⟩ := Syntax.exists_place hd
  refine mem_extractions.2 ⟨n, hn, by simp [hk, Category.kinds], rfl, [i], ?_, rfl⟩
  simp only [namePaths, hk, Syntax.parentKind?_eq hn, hs, ↓reduceIte]
  exact mem_nameField.2 ⟨i, hi, rfl⟩

theorem mem_declaratorExtraction (c : Checker) (source : List Char) {t d : Tree} {p : List Nat}
    {i : Nat} (hd : t.at? p = some d) (hk : d.kind = "variable_declarator")
    (hi : d.fieldIndex? "name" = some i) : declaratorExtraction t p i ∈ c.extractions source t := by
  unfold declaratorExtraction
  split
  · exact mem_extractions_spread c source hd hk hi ‹_›
  · exact mem_extractions_variable c source hd hk hi ‹_›

theorem name_declaratorExtraction (t : Tree) (p : List Nat) (i : Nat) :
    (declaratorExtraction t p i).name = p ++ [i] := by
  unfold declaratorExtraction
  split <;> rfl

theorem filter_eq_singleton {α β : Type} [DecidableEq β] {f : α → β} {xs : List α} {x : α}
    (hxs : (xs.map f).Nodup) (hx : x ∈ xs) : xs.filter (fun y => f y = f x) = [x] := by
  induction xs with
  | nil => simp at hx
  | cons a xs ih =>
    simp only [List.map_cons, List.nodup_cons, List.mem_map, not_exists, not_and] at hxs
    rcases List.mem_cons.1 hx with rfl | hx
    · have hrest : xs.filter (fun y => f y = f x) = [] := by
        simpa [List.filter_eq_nil_iff] using hxs.1
      simp [hrest]
    · have ha : f a ≠ f x := fun h => hxs.1 x hx h.symm
      simp [ha, ih hxs.2 hx]

/-- **Every name is extracted once.** In the walks of all four rules no node of the tree is extracted
as a name twice. The name of a variable declarator is extracted, and so exactly once: as a parameter
at the node above the declarator if that is a spread parameter, and in all other cases as a variable
at the declarator itself. -/
theorem names_extracted_once (c : Checker) (source : List Char) (t : Tree) :
    ((c.extractions source t).map (·.name)).Nodup ∧
      ∀ p d i, t.at? p = some d → d.kind = "variable_declarator" →
        d.fieldIndex? "name" = some i →
        (c.extractions source t).filter (fun e => e.name = p ++ [i]) =
          [if t.kindAbove? p = some "spread_parameter" then ⟨.parameter, p.dropLast, p ++ [i]⟩
            else ⟨.variable, p, p ++ [i]⟩] := by
  refine ⟨nodup_map_name_extractions c source t, fun p d i hd hk hi => ?_⟩
  have h := filter_eq_singleton (nodup_map_name_extractions c source t)
    (mem_declaratorExtraction c source hd hk hi)
  rwa [name_declaratorExtraction] at h

/-- A named node of a given kind and field over an empty text. -/
def bareNode (kind : String) (field : Option String) (children : List Tree) : Tree :=
  .node ⟨kind, true, ⟨0, 0, Nat.le_refl 0⟩, field, .sound, false⟩ children

/-- The declarator of `task = (String... args) -> { int n; }`, which is the whole tree. -/
def varargsDeclarator : Tree :=
  bareNode "variable_declarator" none
    [bareNode "identifier" (some "name") [],
      bareNode "lambda_expression" (some "value")
        [bareNode "formal_parameters" (some "parameters")
            [bareNode "spread_parameter" none
              [bareNode "type_identifier" none [],
                bareNode "variable_declarator" none [bareNode "identifier" (some "name") []]]],
          bareNode "block" (some "body")
            [bareNode "local_variable_declaration" none
              [bareNode "variable_declarator" (some "declarator")
                [bareNode "identifier" (some "name") []]]]]]

/-- A checker in which every category takes all names. -/
def lenientChecker : Checker :=
  let all : NamePattern := ⟨"", .empty⟩
  ⟨all, all, all, all⟩

/-- In a declarator with no node above it, the declarator's own name and the local variable are
variables, and the variable number of arguments is a parameter. -/
theorem names_extracted_once_varargs :
    let es := lenientChecker.extractions [] varargsDeclarator
    es.filter (fun e => e.name = [0]) = [⟨.variable, [], [0]⟩] ∧
      es.filter (fun e => e.name = [1, 0, 0, 1, 0]) = [⟨.parameter, [1, 0, 0], [1, 0, 0, 1, 0]⟩] ∧
      es.filter (fun e => e.name = [1, 1, 0, 0, 0]) = [⟨.variable, [1, 1, 0, 0], [1, 1, 0, 0, 0]⟩] :=
  have h := (names_extracted_once lenientChecker [] varargsDeclarator).2
  ⟨h [] _ 0 rfl rfl rfl, h [1, 0, 0, 1] _ 0 rfl rfl rfl, h [1, 1, 0, 0] _ 0 rfl rfl rfl⟩

end JavaNaming.Naming
