import JavaNaming.Proofs.Syntax.EarliestDamage
import JavaNaming.Proofs.Syntax.OutlineLines
import JavaNaming.Proofs.Text.Runs

/-!
# Reading an outline back

An outline as it is written can be read back, if no kind has a blank in it and no line has a line feed in
it. The text is cut into lines, each line is read as an entry, and the entries are put together by their
depths.

* `ofLine?_line`: an entry is read back from its line. The blanks before the kind are counted in pairs, and
  the kind ends at the first blank after them, so that a name may hold any text.
* `splitLines_lines`: the lines are read back from the text.
* `gather_entries`: the outline is put together again from its entries. They are taken from the last to the
  first, and an entry takes what is deeper than itself and stands right behind it.
* `read?_render`: the outline is read back from the text.
* `sameSkeleton_iff`: two trees have the same skeleton of named nodes exactly if their outlines are equal.
* `render_eq_iff_sameSkeleton`: two trees are written alike exactly if they have the same skeleton.
-/

namespace JavaNaming.Syntax

namespace Outline

/-! ## Lines -/

/-- What stands behind a text at the start of another one. -/
def after? (mark text : List Char) : Option (List Char) :=
  if mark.isPrefixOf text then some (text.drop mark.length) else none

/-- The number at the start of a text. -/
def numberAt (text : List Char) : Nat := Nat.ofDigitChars 10 (text.takeWhile Char.isDigit) 0

/-- The name at the end of a line, if there is one. -/
def readName? : List Char → Option (Option (List Char))
  | [] => some none
  | c :: cs => (after? " name=".toList (c :: cs)).map some

/-- The entry that a line shows. -/
def Entry.ofLine? (line : List Char) : Option Entry := do
  let depth := (line.takeWhile (· = ' ')).length / 2
  let text := line.drop (2 * depth)
  let row ← after? " [".toList (text.dropWhile (· ≠ ' '))
  let column ← after? ":".toList (row.dropWhile Char.isDigit)
  let rest ← after? "]".toList (column.dropWhile Char.isDigit)
  let name? ← readName? rest
  return ⟨depth, String.ofList (text.takeWhile (· ≠ ' ')),
    ⟨numberAt row - 1, numberAt column - 1⟩, name?⟩

theorem after?_append (mark rest : List Char) : after? mark (mark ++ rest) = some rest := by
  simp [after?]

theorem readName?_nameNote (name? : Option (List Char)) : readName? (nameNote name?) = some name? := by
  cases name? with
  | none => rfl
  | some name =>
    show (after? " name=".toList (" name=".toList ++ name)).map some = some (some name)
    rw [after?_append, Option.map_some]

theorem numberAt_toDigits (n : Nat) {c : Char} (hc : c.isDigit = false) (rest : List Char) :
    numberAt (Nat.toDigits 10 n ++ c :: rest) = n := by
  have hdigits : ∀ d ∈ Nat.toDigits 10 n, d.isDigit = true := fun d hd =>
    Nat.isDigit_of_mem_toDigits (by decide) (by decide) hd
  rw [numberAt, Text.takeWhile_run hdigits (by simpa using hc)]
  exact Nat.ofDigitChars_toDigits (by decide) (by decide)

theorem dropWhile_toDigits (n : Nat) {c : Char} (hc : c.isDigit = false) (rest : List Char) :
    (Nat.toDigits 10 n ++ c :: rest).dropWhile Char.isDigit = c :: rest :=
  Text.dropWhile_run (fun _ hd => Nat.isDigit_of_mem_toDigits (by decide) (by decide) hd) (by simpa using hc)

/-- Blanks in pairs tell the depth. An empty kind leaves one blank more, which is half a pair. -/
theorem depth_of_blanks (depth : Nat) {kind : List Char} (hkind : ' ' ∉ kind) (rest : List Char) :
    ((List.replicate (2 * depth) ' ' ++ (kind ++ ' ' :: '[' :: rest)).takeWhile (· = ' ')).length / 2
      = depth := by
  have hindent : ∀ c ∈ List.replicate (2 * depth) ' ', decide (c = ' ') = true := by
    intro c hc
    simpa using (List.mem_replicate.1 hc).2
  rw [List.takeWhile_append_of_pos hindent, List.length_append, List.length_replicate]
  cases kind with
  | nil =>
    have hblank : (([] ++ ' ' :: '[' :: rest).takeWhile (· = ' ')).length = 1 := by simp
    rw [hblank]
    omega
  | cons k kind =>
    have hk : k ≠ ' ' := fun h => hkind (h ▸ List.mem_cons_self)
    have hnone : ((k :: kind ++ ' ' :: '[' :: rest).takeWhile (· = ' ')).length = 0 := by simp [hk]
    rw [hnone]
    omega

/-- **An entry is read back from its line**, whatever its name is. -/
theorem ofLine?_line (e : Entry) (hkind : ' ' ∉ e.kind.toList) : Entry.ofLine? e.line = some e := by
  obtain ⟨depth, kind, ⟨row, column⟩, name?⟩ := e
  have hplain : ∀ c ∈ kind.toList, decide (c ≠ ' ') = true := by
    intro c hc
    exact decide_eq_true fun h => hkind (h ▸ hc)
  -- The parts of the line after the kind, each with what follows it.
  let columnText := Nat.toDigits 10 (column + 1) ++ ']' :: nameNote name?
  let rowText := Nat.toDigits 10 (row + 1) ++ ':' :: columnText
  have hline : (Entry.mk depth kind ⟨row, column⟩ name?).line =
      List.replicate (2 * depth) ' ' ++ (kind.toList ++ ' ' :: '[' :: rowText) := by
    show _ ++ (heading kind ⟨row, column⟩ name?).toList = _
    rw [toList_heading]
    simp [rowText, columnText]
  have hdrop : (List.replicate (2 * depth) ' ' ++ (kind.toList ++ ' ' :: '[' :: rowText)).drop
      (2 * depth) = kind.toList ++ ' ' :: '[' :: rowText :=
    List.drop_left' List.length_replicate
  have hblank : ∀ c ∈ (' ' :: '[' :: rowText).head?, decide (c ≠ ' ') = false := by simp
  have hrow : after? " [".toList (' ' :: '[' :: rowText) = some rowText :=
    after?_append " [".toList rowText
  have hcolumn : after? ":".toList (':' :: columnText) = some columnText :=
    after?_append ":".toList columnText
  have hrest : after? "]".toList (']' :: nameNote name?) = some (nameNote name?) :=
    after?_append "]".toList (nameNote name?)
  have hcolon : ':'.isDigit = false := by decide
  have hbracket : ']'.isDigit = false := by decide
  rw [hline, Entry.ofLine?]
  simp only [depth_of_blanks depth hkind, hdrop, Text.dropWhile_run hplain hblank,
    Text.takeWhile_run hplain hblank, hrow, Option.bind_eq_bind, Option.bind_some]
  simp only [rowText, dropWhile_toDigits _ hcolon, numberAt_toDigits _ hcolon, hcolumn,
    Option.bind_some]
  simp only [columnText, dropWhile_toDigits _ hbracket, numberAt_toDigits _ hbracket, hrest,
    readName?_nameNote, Option.bind_some, String.ofList_toList, Nat.add_sub_cancel]
  rfl

/-! ## The text of an outline -/

/-- The lines of a text in which every line has an end. -/
def splitLines (text : List Char) : List (List Char) := (text.splitOn '\n').dropLast

theorem flatMap_lines (lines : List (List Char)) :
    lines.flatMap (· ++ ['\n']) = ['\n'].intercalate (lines ++ [[]]) := by
  induction lines with
  | nil => rfl
  | cons line lines ih =>
    rw [List.flatMap_cons, ih, List.cons_append, List.intercalate_cons_of_ne_nil (by simp)]

/-- **The lines are read back from the text**, if there is no line feed inside of them. -/
theorem splitLines_lines {lines : List (List Char)} (h : ∀ line ∈ lines, '\n' ∉ line) :
    splitLines (lines.flatMap (· ++ ['\n'])) = lines := by
  have hall : ∀ line ∈ lines ++ [[]], '\n' ∉ line := by
    intro line hline
    rcases List.mem_append.1 hline with hline | hline
    · exact h line hline
    · rw [List.mem_singleton.1 hline]
      exact List.not_mem_nil
  rw [splitLines, flatMap_lines, List.splitOn_intercalate '\n' hall (by simp), List.dropLast_concat]

/-! ## Entries by their depths -/

/-- The outlines of a list of entries, each with its depth. -/
def gather : List Entry → List (Nat × Outline)
  | [] => []
  | e :: es =>
    (e.depth, .node e.kind e.point e.name? (((gather es).takeWhile (e.depth < ·.1)).map (·.2))) ::
      (gather es).dropWhile (e.depth < ·.1)

/-- What is gathered from some entries starts at no greater depth. -/
def StartsWithin (depth : Nat) (es : List Entry) : Prop := ∀ x ∈ (gather es).head?, x.1 ≤ depth

mutual

/-- **An outline is put together again from its entries**, if what follows is not deeper. -/
theorem gather_entries (depth : Nat) : ∀ (o : Outline) (rest : List Entry),
    StartsWithin depth rest → gather (o.entries depth ++ rest) = (depth, o) :: gather rest
  | .node kind point name? children, rest, h => by
    have hbelow := gather_entriesAll (depth + 1) children rest fun x hx => Nat.le_succ_of_le (h x hx)
    have hrun : ∀ x ∈ children.map (depth + 1, ·), decide (depth < x.1) = true := by
      intro x hx
      obtain ⟨o, -, rfl⟩ := List.mem_map.1 hx
      exact decide_eq_true (Nat.lt_succ_self depth)
    have hrest : ∀ x ∈ (gather rest).head?, decide (depth < x.1) = false := by
      intro x hx
      exact decide_eq_false (Nat.not_lt.2 (h x hx))
    rw [entries, List.cons_append, gather, hbelow]
    simp only [Text.takeWhile_run hrun hrest, Text.dropWhile_run hrun hrest, List.map_map]
    congr 3
    exact List.map_id _

theorem gather_entriesAll (depth : Nat) : ∀ (os : List Outline) (rest : List Entry),
    StartsWithin depth rest →
      gather (entriesAll depth os ++ rest) = os.map (depth, ·) ++ gather rest
  | [], _, _ => rfl
  | o :: os, rest, h => by
    have hlater := gather_entriesAll depth os rest h
    have hstart : StartsWithin depth (entriesAll depth os ++ rest) := by
      intro x hx
      rw [hlater] at hx
      cases os with
      | nil => exact h x hx
      | cons o' os =>
        obtain rfl : (depth, o') = x := Option.some.inj hx
        exact Nat.le_refl depth
    rw [entriesAll, List.append_assoc, gather_entries depth o _ hstart, hlater, List.map_cons,
      List.cons_append]

end

/-! ## Reading an outline -/

/-- The only one of some outlines, which must not be indented. -/
def only? : List (Nat × Outline) → Option Outline
  | [(0, o)] => some o
  | _ => none

/-- The outline that a text shows. -/
def read? (text : List Char) : Option Outline :=
  ((splitLines text).mapM Entry.ofLine?).bind fun es => only? (gather es)

/-- A kind without blanks and line feeds, and a name without line feeds. -/
structure Plain (kind : String) (name? : Option (List Char)) : Prop where
  kind_blank : ' ' ∉ kind.toList
  kind_line : '\n' ∉ kind.toList
  name_line : ∀ name ∈ name?, '\n' ∉ name

theorem plain_iff {kind : String} {name? : Option (List Char)} : Plain kind name? ↔
    ' ' ∉ kind.toList ∧ '\n' ∉ kind.toList ∧ ∀ name ∈ name?, '\n' ∉ name :=
  ⟨fun h => ⟨h.kind_blank, h.kind_line, h.name_line⟩, fun h => ⟨h.1, h.2.1, h.2.2⟩⟩

instance (kind : String) (name? : Option (List Char)) : Decidable (Plain kind name?) :=
  decidable_of_iff _ plain_iff.symm

theorem lineFeed_notMem_line {e : Entry} (h : Plain e.kind e.name?) : '\n' ∉ e.line := by
  rw [← List.count_eq_zero, count_line, List.count_eq_zero.2 h.kind_line, Nat.zero_add,
    List.count_eq_zero]
  cases hname : e.name? with
  | none => exact List.not_mem_nil
  | some name => exact h.name_line name hname

theorem mapM_ofLine? {es : List Entry} (h : ∀ e ∈ es, Plain e.kind e.name?) :
    (es.map Entry.line).mapM Entry.ofLine? = some es := by
  induction es with
  | nil => rfl
  | cons e es ih =>
    rw [List.forall_mem_cons] at h
    rw [List.map_cons, List.mapM_cons, ofLine?_line e h.1.kind_blank, ih h.2]
    rfl

/-- **An outline is read back from its text.** -/
theorem read?_render {o : Outline} (h : ∀ e ∈ o.entries 0, Plain e.kind e.name?) :
    read? (o.render 0).toList = some o := by
  have hlines : splitLines (o.render 0).toList = (o.entries 0).map Entry.line := by
    rw [toList_render]
    refine splitLines_lines fun line hline => ?_
    obtain ⟨e, he, rfl⟩ := List.mem_map.1 hline
    exact lineFeed_notMem_line (h e he)
  have hgather : gather (o.entries 0) = [(0, o)] := by
    have hend := gather_entries 0 o [] fun x hx => by cases hx
    rwa [List.append_nil] at hend
  rw [read?, hlines, mapM_ofLine? h, Option.bind_some, hgather]
  rfl

end Outline

/-! ## Skeletons -/

/-- Two trees, each with its source, have the same skeleton: their roots agree in the kind, in the point
where they start and in the name, and their named children have the same skeletons one by one. -/
inductive SameSkeleton (source source' : List Char) : Tree → Tree → Prop
  | intro {t u : Tree} (kind : t.kind = u.kind)
      (point : Text.Point.ofOffset source t.range.start = Text.Point.ofOffset source' u.range.start)
      (name : t.name? source = u.name? source')
      (children : List.Forall₂ (SameSkeleton source source') t.namedChildren u.namedChildren) :
      SameSkeleton source source' t u

theorem forall₂_sameSkeleton_iff {source source' : List Char} {ts us : List Tree}
    (h : ∀ t ∈ ts, ∀ u, SameSkeleton source source' t u ↔ t.outline source = u.outline source') :
    List.Forall₂ (SameSkeleton source source') ts us ↔
      ts.map (Tree.outline source) = us.map (Tree.outline source') := by
  induction ts generalizing us with
  | nil =>
    cases us with
    | nil => exact iff_of_true .nil rfl
    | cons u us => exact iff_of_false (by rintro ⟨⟩) (by simp)
  | cons t ts ih =>
    rw [List.forall_mem_cons] at h
    cases us with
    | nil => exact iff_of_false (by rintro ⟨⟩) (by simp)
    | cons u us =>
      rw [List.forall₂_cons, List.map_cons, List.map_cons, List.cons.injEq, h.1 u, ih h.2]

/-- **Two trees have the same skeleton** exactly if their outlines are equal. -/
theorem sameSkeleton_iff {source source' : List Char} {t u : Tree} :
    SameSkeleton source source' t u ↔ t.outline source = u.outline source' := by
  induction t using Tree.induct generalizing u with
  | node l cs ih =>
    have hnamed : ∀ c ∈ (Tree.node l cs).namedChildren, ∀ u,
        SameSkeleton source source' c u ↔ c.outline source = u.outline source' := by
      intro c hc u
      exact ih c (List.mem_filter.1 hc).1
    rw [Tree.outline_eq, Tree.outline_eq, Outline.node.injEq, ← forall₂_sameSkeleton_iff hnamed]
    constructor
    · intro h
      cases h with
      | intro hkind hpoint hname hchildren => exact ⟨hkind, hpoint, hname, hchildren⟩
    · rintro ⟨hkind, hpoint, hname, hchildren⟩
      exact .intro hkind hpoint hname hchildren

/-- The named nodes of a tree have kinds without blanks and line feeds, and names without line feeds. -/
def Tree.Plain (source : List Char) (t : Tree) : Prop :=
  ∀ n ∈ t.namedNodes, Outline.Plain n.kind (n.name? source)

instance (source : List Char) (t : Tree) : Decidable (t.Plain source) :=
  inferInstanceAs (Decidable (∀ n ∈ t.namedNodes, _))

theorem Tree.Plain.entries {source : List Char} {t : Tree} (h : t.Plain source) :
    ∀ e ∈ (t.outline source).entries 0, Outline.Plain e.kind e.name? := by
  intro e he
  have hcontent : e.content ∈ t.namedNodes.map (Outline.contentOf source) := by
    rw [← Outline.map_content_entries source 0]
    exact List.mem_map_of_mem he
  obtain ⟨n, hn, heq⟩ := List.mem_map.1 hcontent
  simp only [Outline.contentOf, Outline.Entry.content, Prod.mk.injEq] at heq
  rw [← heq.1, ← heq.2.2]
  exact h n hn

/-- **What is written determines the skeleton.** Take two trees whose kinds have no blanks and no line feeds,
and whose names have no line feeds. They are written alike exactly if they have the same skeleton of named
nodes. The outline of a tree, which holds just this skeleton, can be read back from the text. -/
theorem render_eq_iff_sameSkeleton (source source' : List Char) (t u : Tree) (ht : t.Plain source)
    (hu : u.Plain source') :
    ((t.outline source).render 0 = (u.outline source').render 0 ↔ SameSkeleton source source' t u) ∧
      Outline.read? ((t.outline source).render 0).toList = some (t.outline source) := by
  have htext := Outline.read?_render ht.entries
  have hutext := Outline.read?_render hu.entries
  refine ⟨?_, htext⟩
  rw [sameSkeleton_iff]
  constructor
  · intro h
    rw [h, hutext] at htext
    exact (Option.some.inj htext).symm
  · intro h
    rw [h]

/-- A declaration on two lines, with a name that looks like the end of a line. -/
def deceptiveText : List Char := "; int x [1:2] name=y\n  5".toList

/-- The tree of the text, with some nodes before the declaration. -/
def deceptiveTree (others : List Tree) : Tree :=
  let label (kind : String) (i j : Nat) (field : Option String) : Label :=
    ⟨kind, true, .upTo i j, field, .sound, false⟩
  .node (label "program" 0 24 none) (others ++
    [.node (label "declaration" 2 24 none)
      [.node (label "identifier" 6 20 "name") [], .node (label "number" 23 24 "value") []]])

/-- A token of its own at the start of the text. -/
def openingToken : Tree := .node ⟨";", false, .upTo 0 1, none, .sound, false⟩ []

/-- The lines of the tree. -/
def deceptiveLines : String :=
  "program [1:1]\n  declaration [1:3] name=x [1:2] name=y\n    identifier [1:7]\n    number [2:3]\n"

/-- The two trees differ in a token that is not shown, so they are written alike, and what is written is read
back with the whole name and with the place of each node. -/
theorem render_eq_iff_sameSkeleton_deceptive :
    ((deceptiveTree []).outline deceptiveText).render 0 = deceptiveLines ∧
      (deceptiveTree []).children.length ≠ (deceptiveTree [openingToken]).children.length ∧
      SameSkeleton deceptiveText deceptiveText (deceptiveTree []) (deceptiveTree [openingToken]) ∧
      Outline.read? deceptiveLines.toList =
        some (.node "program" ⟨0, 0⟩ none [.node "declaration" ⟨0, 2⟩ (some "x [1:2] name=y".toList)
          [.node "identifier" ⟨0, 6⟩ none [], .node "number" ⟨1, 2⟩ none []]]) := by
  have hfirst : ((deceptiveTree []).outline deceptiveText).render 0 = deceptiveLines := by
    decide +kernel
  have hsecond : ((deceptiveTree [openingToken]).outline deceptiveText).render 0 = deceptiveLines := by
    decide +kernel
  obtain ⟨hiff, hread⟩ := render_eq_iff_sameSkeleton deceptiveText deceptiveText (deceptiveTree [])
    (deceptiveTree [openingToken]) (by decide) (by decide)
  rw [hfirst] at hread
  exact ⟨hfirst, by decide, hiff.1 (hfirst.trans hsecond.symm), hread⟩

end JavaNaming.Syntax
