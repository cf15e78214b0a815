import JavaNaming.Command.Outline
import JavaNaming.Proofs.Syntax.EarliestDamage
import JavaNaming.Proofs.Syntax.OutlineLines
import JavaNaming.Proofs.Text.ByteOrder

/-!
# The lines that are printed for a text

The outline of a Java text is printed with a line feed behind each entry. The kinds that the grammar gives
to nodes have no line feeds, and so all further ones come from names, which are printed as they stand in the
text.

* `oneLine_visibleNodes`: no kind of a node that the parser makes has a line feed.
* `printed_line_feeds`: the line feeds that are printed are one for each named node, and those of the names.
* `printed_line_feeds_brokenModule`: a name that goes over the end of a line is printed in two lines.
-/

namespace JavaNaming.Java

open Syntax (Tree Label)
open Syntax.Tree (mem_preorder_node)

/-! ## The kinds of the grammar -/

/-- A kind without the byte of a line feed. -/
def OneLineKind (kind : String) : Prop := 10 ∉ Text.bytes kind

instance (kind : String) : Decidable (OneLineKind kind) :=
  inferInstanceAs (Decidable (10 ∉ Text.bytes kind))

theorem OneLineKind.lineFeed_notMem {kind : String} (h : OneLineKind kind) : '\n' ∉ kind.toList := by
  intro hmem
  apply h
  rw [Text.bytes_eq]
  exact List.mem_flatMap.2 ⟨'\n', hmem, by decide⟩

theorem forall_getD {α : Type} {P : α → Prop} {xs : Array α} {d : α} (hxs : ∀ x ∈ xs.toList, P x)
    (hd : P d) (i : Nat) : P (xs.getD i d) := by
  rw [Array.getD_eq_getD_getElem?]
  cases h : xs[i]? with
  | none => exact hd
  | some x => exact hxs x (Array.mem_toList_iff.2 (Array.mem_of_getElem? h))

theorem oneLine_info {infos : Array Grammar.SymbolInfo}
    (h : ∀ info ∈ infos.toList, OneLineKind info.name) (i : Nat) :
    OneLineKind (infos.getD i ⟨"", .hidden⟩).name :=
  forall_getD (P := fun info : Grammar.SymbolInfo => OneLineKind info.name) h (by decide) i

theorem oneLine_symbolKind (s : Symbol) : OneLineKind s.kind := by
  have hterminals : ∀ info ∈ Grammar.terminals.toList, OneLineKind info.name := by decide +kernel
  have hnonterminals : ∀ info ∈ Grammar.nonterminals.toList, OneLineKind info.name := by
    decide +kernel
  cases s with
  | terminal t =>
    show OneLineKind (Grammar.terminalInfo t).name
    unfold Grammar.terminalInfo
    exact oneLine_info hterminals t
  | nonterminal n =>
    show OneLineKind (Grammar.nonterminalInfo n).name
    unfold Grammar.nonterminalInfo
    exact oneLine_info hnonterminals n
  | error => decide
  | errorRun => decide

/-- The kind that a slot gives to its child, if it gives one, has no line feed. -/
def OneLineSlot (slot : Grammar.Slot) : Prop := ∀ kind ∈ slot.kind, OneLineKind kind

instance (slot : Grammar.Slot) : Decidable (OneLineSlot slot) :=
  inferInstanceAs (Decidable (∀ kind ∈ slot.kind, _))

theorem oneLine_noSlot : OneLineSlot ⟨none, none⟩ := by
  intro kind h
  cases h

theorem oneLine_slot (n i : Nat) : OneLineSlot ((Grammar.layout n).slot i) := by
  have hlayouts : ∀ layout ∈ Grammar.layouts.toList, ∀ slot ∈ layout, OneLineSlot slot := by
    decide +kernel
  have hlayout : ∀ slot ∈ Grammar.layout n, OneLineSlot slot := by
    unfold Grammar.layout
    exact forall_getD (P := fun layout : Grammar.Layout => ∀ slot ∈ layout, OneLineSlot slot) hlayouts
      (by simp) n
  unfold Grammar.Layout.slot
  rw [List.getD_eq_getElem?_getD]
  cases h : (Grammar.layout n)[i]? with
  | none => exact oneLine_noSlot
  | some slot => exact hlayout slot (List.mem_of_getElem? h)

/-! ## The kinds of a tree -/

/-- No kind of a node of the tree has a line feed. -/
def OneLineKinds (t : Tree) : Prop := ∀ n ∈ t.preorder, OneLineKind n.kind

theorem oneLineKinds_node {l : Label} {cs : List Tree} (hl : OneLineKind l.kind)
    (hcs : ∀ c ∈ cs, OneLineKinds c) : OneLineKinds (.node l cs) := by
  intro n hn
  rcases mem_preorder_node.1 hn with rfl | ⟨c, hc, hn⟩
  · exact hl
  · exact hcs c hc n hn

theorem oneLineKinds_inField {t : Tree} (h : OneLineKinds t) (field : Option String) :
    OneLineKinds (inField field t) := by
  cases t with
  | node l cs =>
    refine oneLineKinds_node (h (.node l cs) (Tree.mem_preorder_self _)) fun c hc n hn => ?_
    exact h n (Tree.mem_preorder_of_child hc hn)

mutual

/-- **The kinds of the visible nodes** come from the grammar, and have no line feeds. -/
theorem oneLine_visibleNodes {slot : Grammar.Slot} (hslot : OneLineSlot slot) :
    ∀ s : Subtree, ∀ t ∈ visibleNodes slot s, OneLineKinds t
  | .mk f cs, t, ht => by
    have hchildren := oneLine_visibleChildren f.layout 0 cs
    rw [visibleNodes] at ht
    split at ht
    · obtain rfl := List.mem_singleton.1 ht
      refine oneLineKinds_node ?_ hchildren
      show OneLineKind (slot.kind.getD f.symbol.kind)
      cases hkind : slot.kind with
      | none => exact oneLine_symbolKind f.symbol
      | some kind => exact hslot kind hkind
    · obtain ⟨c, hc, rfl⟩ := List.mem_map.1 ht
      exact oneLineKinds_inField (hchildren c hc) slot.field

theorem oneLine_visibleChildren (layout : Nat) (i : Nat) :
    ∀ ss : List Subtree, ∀ t ∈ visibleChildren (Grammar.layout layout) i ss, OneLineKinds t
  | [], t, ht => by simp [visibleChildren] at ht
  | s :: ss, t, ht => by
    rw [visibleChildren] at ht
    split at ht
    · rcases List.mem_append.1 ht with ht | ht
      · exact oneLine_visibleNodes oneLine_noSlot s t ht
      · exact oneLine_visibleChildren layout i ss t ht
    · rcases List.mem_append.1 ht with ht | ht
      · exact oneLine_visibleNodes (oneLine_slot layout i) s t ht
      · exact oneLine_visibleChildren layout (i + 1) ss t ht

end

theorem recoveredTree?_of_parse {source : List Char} {t : Tree} (h : parse source = .ok t) :
    recoveredTree? source = some t := by
  unfold parse at h
  split at h
  · cases h
  · rename_i u hu
    unfold undamaged at h
    split at h
    · cases h
    · cases h
      exact hu

theorem oneLineKinds_of_parse {source : List Char} {t : Tree} (h : parse source = .ok t) :
    OneLineKinds t := by
  obtain ⟨s, -, hs⟩ := Option.bind_eq_some_iff.1 (recoveredTree?_of_parse h)
  exact oneLine_visibleNodes oneLine_noSlot s t (List.mem_of_head? hs)

end JavaNaming.Java

namespace JavaNaming.Syntax

/-! ## The line feeds of an outline -/

mutual

theorem Tree.namedNodes_subset : ∀ t : Tree, t.namedNodes ⊆ t.preorder
  | .node l cs => by
    rw [namedNodes, preorder]
    exact List.cons_subset_cons _ (namedNodesAmong_subset cs)

theorem Tree.namedNodesAmong_subset : ∀ ts : List Tree, namedNodesAmong ts ⊆ preorderAll ts
  | [] => List.nil_subset _
  | t :: ts => by
    have hlater := namedNodesAmong_subset ts
    rw [namedNodesAmong, preorderAll]
    split
    · exact List.append_subset.2 ⟨List.subset_append_of_subset_left _ (namedNodes_subset t),
        List.subset_append_of_subset_right _ hlater⟩
    · exact List.subset_append_of_subset_right _ hlater

end

/-- The line feeds in the name of a node. -/
def Tree.nameLineFeeds (source : List Char) (t : Tree) : Nat := ((t.name? source).getD []).count '\n'

/-- All names together have no line feeds exactly if none of them has one. -/
theorem sum_nameLineFeeds_eq_zero_iff {source : List Char} (ns : List Tree) :
    (ns.map (Tree.nameLineFeeds source)).sum = 0 ↔
      ∀ n ∈ ns, ∀ name ∈ n.name? source, '\n' ∉ name := by
  rw [List.sum_eq_zero_iff_forall_eq_nat, List.forall_mem_map]
  refine forall₂_congr fun n hn => ?_
  rw [Tree.nameLineFeeds, List.count_eq_zero]
  cases n.name? source with
  | none => simp
  | some name => simp

/-- Where no kind has line feeds, an outline has one for each named node, and those of the names. -/
theorem count_render_outline (source : List Char) {t : Tree} (h : Java.OneLineKinds t) :
    ((t.outline source).render 0).toList.count '\n' =
      t.namedNodes.length + (t.namedNodes.map (Tree.nameLineFeeds source)).sum := by
  have hcontent := Outline.map_content_entries source 0 t
  have hlength : ((t.outline source).entries 0).length = t.namedNodes.length := by
    simpa using congrArg List.length hcontent
  -- The line of an entry has the line feeds of its kind and its name, and so has what is shown of a node.
  have hlines : ((t.outline source).entries 0).map (fun e => e.line.count '\n') =
      t.namedNodes.map (Tree.nameLineFeeds source) := by
    have hcount := congrArg (List.map fun content =>
      content.1.toList.count '\n' + (content.2.2.getD []).count '\n') hcontent
    simp only [List.map_map, Function.comp_def, Outline.Entry.content, ← Outline.count_line] at hcount
    rw [hcount]
    refine List.map_congr_left fun n hn => ?_
    have hkind := (h n (Tree.namedNodes_subset t hn)).lineFeed_notMem
    simp only [Outline.contentOf, Tree.nameLineFeeds, List.count_eq_zero.2 hkind, Nat.zero_add]
  rw [Outline.count_render, hlength, hlines]

end JavaNaming.Syntax

namespace JavaNaming.Command

open Files (FileSystem)
open Syntax (Tree)

theorem output_printOutline {fs : FileSystem} {args : List String} {input : ByteArray}
    {source : List Char} {t : Tree} (hinput : outlineInput fs args input = .ok source)
    (hparse : Java.parse source = .ok t) :
    (printOutline fs args input).output = (t.outline source).render 0 := by
  unfold printOutline
  rw [hinput]
  dsimp only
  rw [hparse]

/-- **The lines that are printed.** For every text that can be read, the line feeds in what is printed are
one for each node that is reached from the root through named children, and those in the names of these
nodes. So there is one line for each of these nodes exactly if no name goes over the end of a line. -/
theorem printed_line_feeds (fs : FileSystem) (args : List String) (input : ByteArray)
    (source : List Char) (t : Tree) (hinput : outlineInput fs args input = .ok source)
    (hparse : Java.parse source = .ok t) :
    (printOutline fs args input).output.toList.count '\n' =
        t.namedNodes.length + (t.namedNodes.map (Tree.nameLineFeeds source)).sum ∧
      ((printOutline fs args input).output.toList.count '\n' = t.namedNodes.length ↔
        ∀ n ∈ t.namedNodes, ∀ name ∈ n.name? source, '\n' ∉ name) := by
  have hcount := Syntax.count_render_outline source (Java.oneLineKinds_of_parse hparse)
  rw [output_printOutline hinput hparse]
  refine ⟨hcount, ?_⟩
  rw [hcount, Nat.add_eq_left]
  exact Syntax.sum_nameLineFeeds_eq_zero_iff t.namedNodes

/-- A directory without files. -/
def noFiles : FileSystem := ⟨.empty, []⟩

/-- How many nodes of a text are shown, and how many line feeds their names have. -/
def shownNodes (source : List Char) : Option (Nat × Nat) :=
  (Java.parse source).toOption.map fun t =>
    (t.namedNodes.length, (t.namedNodes.map (Tree.nameLineFeeds source)).sum)

theorem exists_parse_of_shownNodes {source : List Char} {nodes feeds : Nat}
    (h : shownNodes source = some (nodes, feeds)) :
    ∃ t, Java.parse source = .ok t ∧ t.namedNodes.length = nodes ∧
      (t.namedNodes.map (Tree.nameLineFeeds source)).sum = feeds := by
  unfold shownNodes at h
  cases hparse : Java.parse source with
  | error e =>
    rw [hparse] at h
    cases h
  | ok t =>
    rw [hparse] at h
    obtain ⟨hnodes, hfeeds⟩ := Prod.mk.inj (Option.some.inj h)
    exact ⟨t, rfl, hnodes, hfeeds⟩

/-- A class with its name in a line of its own, and with comments. -/
def scatteredClass : List Char := "class\nA//\n\x7b/*\n*/\x7d".toList

/-- The name of the class stays in its line, and so there is one line for each of the six nodes, in spite of
the line feeds between them and in a comment. -/
theorem printed_line_feeds_scatteredClass :
    ∃ t, Java.parse scatteredClass = .ok t ∧ t.namedNodes.length = 6 ∧
      (printOutline noFiles [] (String.ofList scatteredClass).toUTF8).output.toList.count '\n' = 6 := by
  have hinput : outlineInput noFiles [] (String.ofList scatteredClass).toUTF8 = .ok scatteredClass := by
    decide +kernel
  have hshown : shownNodes scatteredClass = some (6, 0) := by decide +kernel
  obtain ⟨t, ht, hnodes, hfeeds⟩ := exists_parse_of_shownNodes hshown
  refine ⟨t, ht, hnodes, ?_⟩
  rw [(printed_line_feeds noFiles [] _ scatteredClass t hinput ht).1, hnodes, hfeeds]

/-- A module whose name goes over the end of a line. -/
def brokenModule : List Char := "module a.\nb \x7b\x7d".toList

/-- The module has six nodes, and seven lines are printed for them. -/
theorem printed_line_feeds_brokenModule :
    ∃ t, Java.parse brokenModule = .ok t ∧ t.namedNodes.length = 6 ∧
      (printOutline noFiles [] (String.ofList brokenModule).toUTF8).output.toList.count '\n' = 7 := by
  have hinput : outlineInput noFiles [] (String.ofList brokenModule).toUTF8 = .ok brokenModule := by
    decide +kernel
  have hshown : shownNodes brokenModule = some (6, 1) := by decide +kernel
  obtain ⟨t, ht, hnodes, hfeeds⟩ := exists_parse_of_shownNodes hshown
  refine ⟨t, ht, hnodes, ?_⟩
  rw [output_printOutline hinput ht, Syntax.count_render_outline brokenModule
    (Java.oneLineKinds_of_parse ht), hnodes, hfeeds]

end JavaNaming.Command
