import JavaNaming.Naming.FileCheck
import JavaNaming.Proofs.Naming.CheckingSequence
import JavaNaming.Proofs.Naming.WholeName
import JavaNaming.Proofs.Result
import JavaNaming.Proofs.Text.Lines

/-!
# What a checked file is told

The answer about a file is put together from several parts: the tree gives the range of a name, the
range the text of the name, the conventions the words for what was expected, and a separate index of
the lines the location. Here the parts are shown to belong together.

* `mem_checkingSequence`: a name of the checking sequence is the text of a node of the tree, at the
  range of that node.
* `exists_checker_iff`, `pattern_format`: there is a checker for some conventions if all their formats
  can be used, and it has the format of the conventions for each category.
* `checkFile_outcome`: a file that holds a text passes, is damaged or has a violation, each exactly
  when it should. A violation and its location are `Faithful` to the text.
-/

namespace JavaNaming.Naming

open Syntax (Tree Cursor places)
open Files (FileSystem)

/-! ## Names are texts of nodes -/

theorem mem_preorder_of_at? {t u : Tree} {p : List Nat} (h : t.at? p = some u) : u ∈ t.preorder := by
  obtain ⟨c, hc, -, rfl⟩ := Syntax.exists_place h
  rw [← Syntax.map_focus_places]
  exact List.mem_map_of_mem hc

theorem mem_declared {source : List Char} {k : Category} {t : Tree} {c : Cursor} {i : Identifier}
    (hc : c ∈ places t) (hi : i ∈ declared source k c) :
    ∃ n ∈ t.preorder, i.range = n.range ∧ i.name = String.ofList ((n.text? source).getD []) := by
  simp only [declared, List.mem_filterMap, Option.map_eq_some_iff] at hi
  obtain ⟨q, -, n, hn, rfl⟩ := hi
  refine ⟨n, mem_preorder_of_at? (p := c.path ++ q) ?_, rfl, rfl⟩
  rw [Syntax.at?_append, Syntax.at?_path hc]
  exact hn

/-- A name that is checked is the text of a node. -/
theorem mem_checkingSequence {source : List Char} {t : Tree} {i : Identifier}
    (h : i ∈ checkingSequence source t) :
    ∃ n ∈ t.preorder, i.range = n.range ∧ i.name = String.ofList ((n.text? source).getD []) := by
  obtain ⟨k, -, hi⟩ := List.mem_flatMap.1 h
  obtain ⟨c, hc, hi⟩ := List.mem_flatMap.1 hi
  exact mem_declared (List.mem_of_mem_filter hc) hi

/-- The ranges of all nodes of a tree are parts of a text: they lie inside it and do not cut a
character. -/
def RangesIn (source : List Char) (t : Tree) : Prop :=
  ∀ n ∈ t.preorder, (n.text? source).isSome = true

instance (source : List Char) (t : Tree) : Decidable (RangesIn source t) :=
  inferInstanceAs (Decidable (∀ n ∈ t.preorder, (n.text? source).isSome = true))

theorem slice?_of_mem_checkingSequence {source : List Char} {t : Tree} {i : Identifier}
    (ht : RangesIn source t) (h : i ∈ checkingSequence source t) :
    Text.slice? source i.range = some i.name.toList := by
  obtain ⟨n, hn, hrange, hname⟩ := mem_checkingSequence h
  obtain ⟨text, htext⟩ := Option.isSome_iff_exists.1 (ht n hn)
  rw [hrange, hname, htext]
  simpa [Tree.text?] using htext

/-! ## Patterns and conventions -/

theorem format_of_patternFor {conv : Conventions} {k : Category} {p : NamePattern}
    (h : Checker.patternFor conv k = .ok p) : p.format = conv.format k := by
  unfold Checker.patternFor at h
  split at h
  · rename_i q hq
    cases h
    exact (ofFormatWith_eq_ok_iff.mp hq).2
  · cases h

/-- The checker for some conventions has their formats. -/
theorem pattern_format {conv : Conventions} {c : Checker} (h : Checker.ofConventions conv = .ok c)
    (k : Category) : (c.pattern k).format = conv.format k := by
  unfold Checker.ofConventions at h
  obtain ⟨p₁, h₁, h⟩ := bind_eq_ok h
  obtain ⟨p₂, h₂, h⟩ := bind_eq_ok h
  obtain ⟨p₃, h₃, h⟩ := bind_eq_ok h
  obtain ⟨p₄, h₄, h⟩ := bind_eq_ok h
  cases h
  cases k
  · exact format_of_patternFor h₁
  · exact format_of_patternFor h₂
  · exact format_of_patternFor h₃
  · exact format_of_patternFor h₄

theorem exists_patternFor_iff {conv : Conventions} {k : Category} :
    (∃ p, Checker.patternFor conv k = .ok p) ↔ ∃ p, NamePattern.ofFormat (conv.format k) = .ok p := by
  unfold Checker.patternFor
  cases NamePattern.ofFormat (conv.format k) with
  | error e => simp
  | ok p => simp

/-- There is a checker exactly if the formats of all categories can be made ready. -/
theorem exists_checker_iff {conv : Conventions} :
    (∃ c, Checker.ofConventions conv = .ok c) ↔
      ∀ k, ∃ p, NamePattern.ofFormat (conv.format k) = .ok p := by
  simp only [← exists_patternFor_iff]
  constructor
  · rintro ⟨c, h⟩ k
    unfold Checker.ofConventions at h
    obtain ⟨p₁, h₁, h⟩ := bind_eq_ok h
    obtain ⟨p₂, h₂, h⟩ := bind_eq_ok h
    obtain ⟨p₃, h₃, h⟩ := bind_eq_ok h
    obtain ⟨p₄, h₄, -⟩ := bind_eq_ok h
    cases k
    · exact ⟨p₁, h₁⟩
    · exact ⟨p₂, h₂⟩
    · exact ⟨p₃, h₃⟩
    · exact ⟨p₄, h₄⟩
  · intro h
    obtain ⟨p₁, h₁⟩ := h .parameter
    obtain ⟨p₂, h₂⟩ := h .variable
    obtain ⟨p₃, h₃⟩ := h .method
    obtain ⟨p₄, h₄⟩ := h .type
    refine ⟨⟨p₁, p₂, p₃, p₄⟩, ?_⟩
    unfold Checker.ofConventions
    rw [h₁, h₂, h₃, h₄]
    rfl

/-! ## Violations and their locations -/

/-- What a violation by the names of a source, and its location, say about the source. -/
structure Faithful (c : Checker) (source : List Char) (l : Text.Location) (v : Violation) : Prop where
  /-- The name is the text at its range. -/
  name : Text.slice? source v.range = some v.name.toList
  /-- The pattern of its category refuses the name. -/
  refused : (c.pattern v.category).accepts v.name = false
  /-- What was expected is the format of the category in words. -/
  expected : ∀ conv, Checker.ofConventions conv = .ok c →
    v.expected = describeFormat (conv.format v.category)
  /-- In the line of the location, the name follows the characters before the column. -/
  place : ∃ skipped rest, Text.fromLine? l.line source = some (skipped ++ (v.name.toList ++ rest)) ∧
    l.column = skipped.length + 1

/-- The place of a violation is that of the start of its name. -/
theorem faithful_of_checkTree {c : Checker} {source : List Char} {t : Tree} {v : Violation}
    (ht : RangesIn source t) (hv : c.checkTree source t = some v) :
    Faithful c source ((Text.locate? source v.range.start).getD textStart) v := by
  obtain ⟨before, i, after, hseq, -, hi, rfl⟩ := (checkTree_eq_some_iff c source t v).1 hv
  have hslice : Text.slice? source i.range = some i.name.toList :=
    slice?_of_mem_checkingSequence ht (by simp [hseq])
  refine ⟨hslice, hi, fun conv hconv => ?_, ?_⟩
  · simp [Checker.violationBy, NamePattern.description, pattern_format hconv]
  · obtain ⟨a, b, hsource, hstart, -⟩ := Text.slice?_eq_some_iff.1 hslice
    obtain ⟨line, skipped, hloc, hline⟩ := Text.locate?_append a (i.name.toList ++ b)
    rw [← hsource] at hloc hline
    refine ⟨skipped, b, ?_, ?_⟩
    all_goals simp only [Checker.violationBy, ← hstart, hloc, Option.getD_some]
    exact hline

/-! ## Files -/

theorem textOf_toUTF8 (source : List Char) :
    Files.textOf (String.ofList source).toUTF8 = .ok source := by
  have h : String.fromUTF8? (String.ofList source).toUTF8 = some (String.ofList source) :=
    dif_pos (String.ofList source).isValidUTF8
  rw [Files.textOf, h]
  simp

theorem checkFile_eq (c : Checker) {fs : FileSystem} {path : String} {source : List Char}
    (hfile : fs.readBytes path = .ok (String.ofList source).toUTF8) :
    c.checkFile fs path = c.checkText path source := by
  have h : fs.readText path = .ok source := by
    rw [FileSystem.readText, hfile]
    exact textOf_toUTF8 source
  rw [Checker.checkFile, h]

section
variable {c : Checker} {path : String} {source : List Char}

theorem checkText_of_error {e : Java.ParseError} (h : Java.parse source = .error e) :
    c.checkText path source = some (.unparsed path e) := by
  unfold Checker.checkText Checker.checkSource
  rw [h]
  rfl

theorem checkText_of_ok {t : Tree} (h : Java.parse source = .ok t) :
    c.checkText path source = (c.checkTree source t).map fun v =>
      .violated path ((Text.locate? source v.range.start).getD textStart) v := by
  unfold Checker.checkText Checker.checkSource Checker.checkParsed
  rw [h]
  dsimp only
  cases c.checkTree source t <;> rfl

theorem checkText_eq_none_iff : c.checkText path source = none ↔
    ∃ t, Java.parse source = .ok t ∧ ∀ i ∈ checkingSequence source t, c.admits i = true := by
  cases h : Java.parse source with
  | error e => simp [checkText_of_error h]
  | ok t =>
    rw [checkText_of_ok h, Option.map_eq_none_iff, checkTree_eq_none_iff]
    exact ⟨fun hi => ⟨t, rfl, hi⟩, by rintro ⟨_, ⟨⟩, hi⟩; exact hi⟩

theorem checkText_eq_unparsed_iff {p : String} {e : Java.ParseError} :
    c.checkText path source = some (.unparsed p e) ↔ p = path ∧ Java.parse source = .error e := by
  cases h : Java.parse source with
  | error e' =>
    rw [checkText_of_error h]
    constructor
    · rintro ⟨⟩
      exact ⟨rfl, rfl⟩
    · rintro ⟨rfl, ⟨⟩⟩
      rfl
  | ok t =>
    rw [checkText_of_ok h]
    cases c.checkTree source t <;> simp

theorem checkText_violated_iff : (∃ p l v, c.checkText path source = some (.violated p l v)) ↔
    ∃ t, Java.parse source = .ok t ∧ ∃ i ∈ checkingSequence source t, c.admits i = false := by
  cases h : Java.parse source with
  | error e => simp [checkText_of_error h]
  | ok t =>
    have hnone := checkTree_eq_none_iff c source t
    rw [checkText_of_ok h]
    constructor
    · rintro ⟨p, l, v, hv⟩
      refine ⟨t, rfl, ?_⟩
      by_contra hno
      push Not at hno
      rw [hnone.2 fun i hi => by simpa using hno i hi] at hv
      cases hv
    · rintro ⟨_, ⟨⟩, i, hi, hno⟩
      cases hv : c.checkTree source t with
      | none =>
        have := hnone.1 hv i hi
        simp [hno] at this
      | some v => exact ⟨_, _, _, rfl⟩

theorem faithful_of_checkText (hranges : ∀ t, Java.parse source = .ok t → RangesIn source t)
    {p : String} {l : Text.Location} {v : Violation}
    (h : c.checkText path source = some (.violated p l v)) : p = path ∧ Faithful c source l v := by
  cases hparse : Java.parse source with
  | error e =>
    rw [checkText_of_error hparse] at h
    cases h
  | ok t =>
    rw [checkText_of_ok hparse] at h
    obtain ⟨w, hw, hwv⟩ := Option.map_eq_some_iff.1 h
    cases hwv
    exact ⟨rfl, faithful_of_checkTree (hranges t hparse) hw⟩

theorem checkText_ne_unreadable {p : String} {e : Files.FileError} :
    c.checkText path source ≠ some (.unreadable p e) := by
  cases h : Java.parse source with
  | error e => simp [checkText_of_error h]
  | ok t =>
    rw [checkText_of_ok h]
    cases c.checkTree source t <;> simp

end

/-- **A checked file** that holds a text passes exactly if the text can be read and every name in it
has its format, is damaged exactly if the text cannot be read, and has a violation exactly if the text
can be read and some name has not its format. There is no other answer, and a violation and its
location are faithful to the text. The ranges of the nodes are taken to be parts of the text. -/
theorem checkFile_outcome (c : Checker) (fs : FileSystem) (path : String) (source : List Char)
    (hfile : fs.readBytes path = .ok (String.ofList source).toUTF8)
    (hranges : ∀ t, Java.parse source = .ok t → RangesIn source t) :
    (c.checkFile fs path = none ↔ ∃ t, Java.parse source = .ok t ∧
        ∀ i ∈ checkingSequence source t, (c.pattern i.category).accepts i.name = true) ∧
      (∀ p e, c.checkFile fs path = some (.unparsed p e) ↔
        p = path ∧ Java.parse source = .error e) ∧
      ((∃ p l v, c.checkFile fs path = some (.violated p l v)) ↔ ∃ t, Java.parse source = .ok t ∧
        ∃ i ∈ checkingSequence source t, (c.pattern i.category).accepts i.name = false) ∧
      (∀ p l v, c.checkFile fs path = some (.violated p l v) → p = path ∧ Faithful c source l v) ∧
      ∀ p e, c.checkFile fs path ≠ some (.unreadable p e) := by
  rw [checkFile_eq c hfile]
  exact ⟨checkText_eq_none_iff, fun _ _ => checkText_eq_unparsed_iff, checkText_violated_iff,
    fun _ _ _ => faithful_of_checkText hranges, fun _ _ => checkText_ne_unreadable⟩

/-- A text with two ways to end a line before the name of a class. -/
def lowerClassText : List Char := "\r\n\r/**/class a{}".toList

/-- A directory with that text in a file. -/
def lowerClassFiles : FileSystem :=
  ⟨.directory [("A.java", .file (String.ofList lowerClassText).toUTF8)], []⟩

/-- The violation by the name of the class. -/
def lowerClassViolation : Violation := ⟨.type, "a", "PascalCase", 13, 14, by decide⟩

/-- By the standard conventions the file has a violation in line 3 at column 11, and the violation and
the location are faithful to the text. -/
theorem checkFile_outcome_lowerClass :
    ∃ c, Checker.ofConventions .standard = .ok c ∧
      c.checkFile lowerClassFiles "A.java" =
        some (.violated "A.java" ⟨3, 11⟩ lowerClassViolation) ∧
      Faithful c lowerClassText ⟨3, 11⟩ lowerClassViolation := by
  have hchecker : (match Checker.ofConventions .standard with
      | .ok c => decide (c.checkFile lowerClassFiles "A.java" =
          some (.violated "A.java" ⟨3, 11⟩ lowerClassViolation))
      | .error _ => false) = true := by decide +kernel
  have hranges : (match Java.parse lowerClassText with
      | .ok t => decide (RangesIn lowerClassText t)
      | .error _ => false) = true := by decide +kernel
  split at hchecker
  · rename_i c hc
    have hv := of_decide_eq_true hchecker
    refine ⟨c, hc, hv, ((checkFile_outcome c lowerClassFiles "A.java" lowerClassText
      (by rfl) fun t ht => ?_).2.2.2.1 _ _ _ hv).2⟩
    rw [ht] at hranges
    exact of_decide_eq_true hranges
  · cases hchecker

end JavaNaming.Naming
