import JavaNaming.Proofs.Text.Scan
import JavaNaming.Syntax.Outline

/-!
# The places in an outline

An outline shows the row and the column of each node, and a checked file is told the line and the column
of a name. Rows end with a line feed and columns count bytes, while lines also end with a carriage return
and their columns count characters. Here the two are compared on texts in which every carriage return
stands in front of a line feed.

* `ofOffset_append`: a point counts the line feeds before it and the bytes since the last of them.
* `locate?_append_of_paired`: a location counts the same line feeds and the characters since the last.
* `byteLength_eq_length_iff`: there are as many bytes as characters exactly in ASCII texts.
* `outline_places_agree`: the row is the line, and the columns are equal exactly if the line is ASCII up
  to there.
-/

namespace JavaNaming.Text

/-! ## The last line of what has been read -/

/-- What follows the last line feed of a text. -/
def lastLine (text : List Char) : List Char := (text.reverse.takeWhile (· ≠ '\n')).reverse

theorem lastLine_snoc_lineFeed (text : List Char) : lastLine (text ++ ['\n']) = [] := by
  simp [lastLine]

theorem lastLine_snoc {c : Char} (hc : c ≠ '\n') (text : List Char) :
    lastLine (text ++ [c]) = lastLine text ++ [c] := by
  simp [lastLine, hc]

theorem lastLine_subset (text : List Char) : lastLine text ⊆ text := by
  intro c hc
  have hmem := (List.takeWhile_prefix _).subset (List.mem_reverse.1 hc)
  exact List.mem_reverse.1 hmem

/-! ## Points -/

theorem advance_append (p : Point) (before after : List Char) :
    p.advance (byteLength before) (before ++ after) = before.foldl Point.after p := by
  induction before generalizing p with
  | nil => rw [byteLength, List.nil_append, Point.advance, List.foldl_nil]
  | cons c before ih =>
    have hpos := c.utf8Size_pos
    obtain ⟨n, hn⟩ : ∃ n, byteLength (c :: before) = n + 1 :=
      Nat.exists_eq_succ_of_ne_zero (by simp only [byteLength]; omega)
    have hlength : n + 1 - c.utf8Size = byteLength before := by
      simp only [byteLength] at hn
      omega
    rw [hn, List.cons_append, Point.advance, hlength, ih, List.foldl_cons]

/-- **A point** counts the line feeds before it, and the bytes since the last of them. -/
theorem ofOffset_append (before after : List Char) :
    Point.ofOffset (before ++ after) (byteLength before) =
      ⟨before.count '\n', byteLength (lastLine before)⟩ := by
  unfold Point.ofOffset
  rw [advance_append]
  induction before using List.reverseRecOn with
  | nil => rfl
  | append_singleton before c ih =>
    rw [List.foldl_append, ih]
    by_cases hc : c = '\n'
    · subst hc
      simp [Point.after, lastLine_snoc_lineFeed, byteLength]
    · simp [Point.after, hc, lastLine_snoc hc, byteLength]

/-! ## Locations -/

/-- Every carriage return of a text stands in front of a line feed. -/
def ReturnsPaired (text : List Char) : Prop :=
  ∀ before after, text = before ++ '\r' :: after → after.head? = some '\n'

theorem returnsPaired_cons {c : Char} {cs : List Char} :
    ReturnsPaired (c :: cs) ↔ (c = '\r' → cs.head? = some '\n') ∧ ReturnsPaired cs := by
  constructor
  · intro h
    refine ⟨fun hc => h [] cs (by rw [hc]; rfl), fun before after hcs => ?_⟩
    exact h (c :: before) after (by rw [hcs]; rfl)
  · rintro ⟨hc, hcs⟩ before after htext
    cases before with
    | nil =>
      obtain ⟨rfl, rfl⟩ := List.cons_eq_cons.1 htext
      exact hc rfl
    | cons b before =>
      obtain ⟨rfl, rfl⟩ := List.cons_eq_cons.1 htext
      exact hcs before after rfl

instance decidableReturnsPaired : ∀ text : List Char, Decidable (ReturnsPaired text)
  | [] => .isTrue fun before after h => by simp at h
  | _ :: cs =>
    have := decidableReturnsPaired cs
    decidable_of_iff _ returnsPaired_cons.symm

/-- Where carriage returns are paired, only a line feed ends a line. -/
theorem endsLine_of_paired {before after : List Char} {c : Char}
    (h : ReturnsPaired (before ++ c :: after)) : endsLine c after.head? = decide (c = '\n') := by
  by_cases hc : c = '\r'
  · subst hc
    simp [endsLine, h before after rfl]
  · simp [endsLine, hc]

theorem locates_of_paired {before after : List Char} (h : ReturnsPaired (before ++ after)) :
    Locates (before ++ after) (byteLength before)
      ⟨before.count '\n' + 1, (lastLine before).length + 1⟩ := by
  -- What has been read grows at its end, as in a scan from left to right.
  induction before using List.reverseRecOn generalizing after with
  | nil => exact locates_start after
  | append_singleton before c ih =>
    rw [List.append_assoc, List.singleton_append] at h
    have hread := (ih h).read
    unfold Location.after at hread
    rw [endsLine_of_paired h] at hread
    by_cases hc : c = '\n'
    · subst hc
      simpa [lastLine_snoc_lineFeed] using hread
    · simpa [hc, lastLine_snoc hc] using hread

/-- **A location** counts the line feeds before it and the characters since the last of them, where
carriage returns are paired. -/
theorem locate?_append_of_paired {before after : List Char} (h : ReturnsPaired (before ++ after)) :
    locate? (before ++ after) (byteLength before) =
      some ⟨before.count '\n' + 1, (lastLine before).length + 1⟩ :=
  locate?_eq_some_iff.2 (locates_of_paired h)

/-! ## Bytes and characters -/

/-- All characters of the text are ASCII. -/
def IsAscii (text : List Char) : Prop := ∀ c ∈ text, c.toNat < 128

instance (text : List Char) : Decidable (IsAscii text) := List.decidableBAll _ text

theorem length_le_byteLength (text : List Char) : text.length ≤ byteLength text := by
  induction text with
  | nil => exact Nat.le_refl 0
  | cons c cs ih =>
    have := c.utf8Size_pos
    simp only [List.length_cons, byteLength]
    omega

theorem utf8Size_eq_one_iff {c : Char} : c.utf8Size = 1 ↔ c.toNat < 128 := by
  rw [Char.utf8Size_eq_one_iff, UInt32.le_iff_toNat_le]
  exact Nat.lt_succ_iff.symm

theorem byteLength_eq_length_iff (text : List Char) :
    byteLength text = text.length ↔ IsAscii text := by
  induction text with
  | nil => simp [byteLength, IsAscii]
  | cons c cs ih =>
    have hpos := c.utf8Size_pos
    have hle := length_le_byteLength cs
    have hsplit : byteLength (c :: cs) = (c :: cs).length ↔
        c.utf8Size = 1 ∧ byteLength cs = cs.length := by
      simp only [byteLength, List.length_cons]
      omega
    rw [hsplit, ih, utf8Size_eq_one_iff, IsAscii, IsAscii, List.forall_mem_cons]

end JavaNaming.Text

namespace JavaNaming.Syntax

open Text (IsAscii ReturnsPaired byteLength lastLine locate?)

/-! ## Outlines -/

/-- The first line of an outline that is printed at a depth shows a kind, a row and a column. -/
def Outline.Shows (o : Outline) (depth : Nat) (kind : String) (row column : Nat) : Prop :=
  ∃ rest, o.render depth =
    "".pushn ' ' (2 * depth) ++ (kind ++ " [" ++ toString row ++ ":" ++ toString column ++ "]") ++ rest

theorem shows_outline (source : List Char) (t : Tree) (depth : Nat) :
    (t.outline source).Shows depth t.kind ((Text.Point.ofOffset source t.range.start).row + 1)
      ((Text.Point.ofOffset source t.range.start).column + 1) := by
  cases t with
  | node label children =>
    rw [Tree.outline]
    unfold Outline.Shows
    rw [Outline.render]
    unfold Outline.heading
    split
    · rename_i name hname
      exact ⟨" name=" ++ String.ofList name ++ "\n" ++
        Outline.renderAll (depth + 1) (Tree.outlines source children),
        by simp only [String.append_assoc]; rfl⟩
    · exact ⟨"\n" ++ Outline.renderAll (depth + 1) (Tree.outlines source children),
        by simp only [String.append_assoc]; rfl⟩

/-- **The places in an outline.** In a text in which every carriage return stands in front of a line feed,
a node starts after some part of the text. The row that is printed for it is the number of line feeds in
that part, and the column the number of bytes since the last of them, both counted from one. The row is
the line of the location of the node, and the column is at least that of the location. The columns are
equal exactly if the line is ASCII up to the node, and so the places agree in all ASCII texts. -/
theorem outline_places_agree (before after : List Char) (hpaired : ReturnsPaired (before ++ after))
    (t : Tree) (ht : t.range.start = byteLength before) (depth : Nat) :
    ∃ l row column, locate? (before ++ after) t.range.start = some l ∧
      (t.outline (before ++ after)).Shows depth t.kind row column ∧
      (row = before.count '\n' + 1 ∧ column = byteLength (lastLine before) + 1) ∧
      row = l.line ∧ l.column ≤ column ∧
      (column = l.column ↔ IsAscii (lastLine before)) ∧
      (IsAscii (before ++ after) →
        (t.outline (before ++ after)).Shows depth t.kind l.line l.column) := by
  have hshows := shows_outline (before ++ after) t depth
  rw [ht, Text.ofOffset_append] at hshows
  have hcolumns : byteLength (lastLine before) + 1 = (lastLine before).length + 1 ↔
      IsAscii (lastLine before) := by
    rw [Nat.add_right_cancel_iff]
    exact Text.byteLength_eq_length_iff (lastLine before)
  refine ⟨_, _, _, ht ▸ Text.locate?_append_of_paired hpaired, hshows, ⟨rfl, rfl⟩, rfl, ?_, hcolumns,
    fun hascii => ?_⟩
  · exact Nat.succ_le_succ (Text.length_le_byteLength _)
  · have hline : IsAscii (lastLine before) := fun c hc =>
      hascii c (List.mem_append_left _ (Text.lastLine_subset before hc))
    show (t.outline (before ++ after)).Shows depth t.kind (before.count '\n' + 1)
      ((lastLine before).length + 1)
    rwa [← hcolumns.2 hline]

/-- A name in the second line, after a letter of two bytes. -/
def shiftedName : Tree := .node ⟨"identifier", true, .upTo 7 9, none, .sound, false⟩ []

/-- The name stands at the fourth character of its line, which is the fifth byte. -/
theorem outline_places_agree_shiftedName :
    locate? "a\r\nö= id".toList 7 = some ⟨2, 4⟩ ∧
      (shiftedName.outline "a\r\nö= id".toList).render 1 = "  identifier [2:5]\n" ∧
      ∃ l row column, locate? "a\r\nö= id".toList 7 = some l ∧
        (shiftedName.outline "a\r\nö= id".toList).Shows 1 "identifier" row column ∧
        row = l.line ∧ l.column < column := by
  obtain ⟨l, row, column, hl, hshows, -, hrow, hle, hiff, -⟩ :=
    outline_places_agree "a\r\nö= ".toList "id".toList (by decide) shiftedName (by decide) 1
  have hne : column ≠ l.column := fun h => absurd (hiff.1 h) (by decide)
  exact ⟨by decide, by decide, l, row, column, hl, hshows, hrow, by omega⟩

end JavaNaming.Syntax
