import JavaNaming.Proofs.Text.LineBytes
import Mathlib.Order.Bounds.Basic

/-!
# Looking up a line

A location is found in steps that are not defined for every argument: the line before a place, the start of
a line, the range between two offsets and the slice of a range. `LineIndex.locate` takes each of these steps
with its fault. With the table of a text only the last step can have one, and this for every offset, also
inside a character and past the end.

* `Place.Fits.unique`, `fits_place_iff`: in an increasing table only one place fits a value, so what a search
  finds does not depend on the order in which it looks at the entries.
* `finds_line`: the search does not stop before the first line, and the line start that it finds is the
  greatest one up to the offset.
* `LineIndex.Finds.locate_eq`: once a line is found only the slice can have a fault.
* `locate_faults_only_at_slice`: the whole way from the bytes of a text to a location.
-/

namespace JavaNaming.Text

/-! ## The place of an offset -/

section

variable {xs : Array Nat} {x i j : Nat}

theorem le_of_found (hxs : Increasing xs) (hi : (Place.found i).Fits xs x)
    (hj : (Place.found j).Fits xs x) : i ≤ j := by
  by_contra hlt
  have := hxs j i (by omega) hi.1
  have := hi.2.trans hj.2.symm
  omega

theorem le_of_insertAt (hi : (Place.insertAt i).Fits xs x) (hj : (Place.insertAt j).Fits xs x) :
    i ≤ j := by
  by_contra hlt
  have hbelow := hi.2.1 j (by omega)
  have habove := hj.2.2 j (Nat.le_refl j) (Nat.lt_of_lt_of_le (by omega) hi.1)
  omega

theorem not_insertAt_of_found (hi : (Place.found i).Fits xs x) : ¬ (Place.insertAt j).Fits xs x := by
  intro hj
  have heq := hi.2
  rcases Nat.lt_or_ge i j with hlt | hge
  · have := hj.2.1 i hlt
    omega
  · have := hj.2.2 i hge hi.1
    omega

/-- A value has only one place in an increasing table. -/
theorem Place.Fits.unique (hxs : Increasing xs) {p q : Place} (hp : p.Fits xs x)
    (hq : q.Fits xs x) : p = q := by
  cases p with
  | found i =>
    cases q with
    | found j => rw [Nat.le_antisymm (le_of_found hxs hp hq) (le_of_found hxs hq hp)]
    | insertAt j => exact absurd hq (not_insertAt_of_found hp)
  | insertAt i =>
    cases q with
    | found j => exact absurd hp (not_insertAt_of_found hq)
    | insertAt j => rw [Nat.le_antisymm (le_of_insertAt hp hq) (le_of_insertAt hq hp)]

end

/-- The search finds the one place that fits. -/
theorem fits_place_iff (text : List Char) (offset : Nat) (p : Place) :
    p.Fits (LineIndex.ofText text).starts offset ↔ p = (LineIndex.ofText text).place offset := by
  have hplace := place_fits (increasing_starts text) offset
  constructor
  · intro h
    exact h.unique (increasing_starts text) hplace
  · rintro rfl
    exact hplace

/-! ## The line of an offset -/

/-- The line that is found for an offset and the offset at which it starts: the search hits the line or
stops behind it, the line is in the table, and no other line starts between it and the offset. -/
structure LineIndex.Finds (index : LineIndex) (offset line start : Nat) : Prop where
  place : index.place offset = .found line ∨ index.place offset = .insertAt (line + 1)
  entry : index.starts[line]? = some start
  greatest : IsGreatest {s | s ∈ index.starts ∧ s ≤ offset} start

theorem place_line (text : List Char) (offset : Nat) :
    (LineIndex.ofText text).place offset = .found ((LineIndex.ofText text).line offset) ∨
      (LineIndex.ofText text).place offset = .insertAt ((LineIndex.ofText text).line offset + 1) := by
  have hfits := place_fits (increasing_starts text) offset
  unfold LineIndex.line
  split
  · rename_i i hi
    exact .inl hi
  · rename_i i hi
    rw [hi] at hfits
    -- The table begins with zero, and no offset is smaller.
    have hi0 : i ≠ 0 :=
      insertAt_ne_zero hfits (by simp [LineIndex.ofText]) (by simp [LineIndex.ofText])
    rw [hi, Nat.sub_add_cancel (Nat.pos_of_ne_zero hi0)]
    exact .inr rfl

/-- **The line of an offset** is in the table, and its start is the greatest one up to the offset. -/
theorem finds_line (text : List Char) (offset : Nat) :
    (LineIndex.ofText text).Finds offset ((LineIndex.ofText text).line offset)
      ((LineIndex.ofText text).starts.getD ((LineIndex.ofText text).line offset) 0) := by
  have hinc := increasing_starts text
  obtain ⟨hlt, hstart, hlater⟩ := line_ofText_spec text offset
  have hentry : (LineIndex.ofText text).starts[(LineIndex.ofText text).line offset]? =
      some ((LineIndex.ofText text).starts.getD ((LineIndex.ofText text).line offset) 0) := by
    simp [hlt]
  refine ⟨place_line text offset, hentry, ⟨Array.mem_of_getElem? hentry, hstart⟩, ?_⟩
  rintro s ⟨hs, hle⟩
  obtain ⟨j, hj, hjs⟩ := Array.getElem_of_mem hs
  have hs : (LineIndex.ofText text).starts.getD j 0 = s := by simp [hj, hjs]
  rw [← hs] at hle ⊢
  rcases Nat.lt_trichotomy j ((LineIndex.ofText text).line offset) with hbefore | rfl | hafter
  · exact Nat.le_of_lt (hinc j _ hbefore hlt)
  · exact Nat.le_refl _
  · exact absurd hle (Nat.not_le.2 (hlater j hafter hj))

/-! ## The way to a location -/

/-- The line of a place. An offset that is put before the first start has none. -/
def Place.line : Place → Except Fault Nat
  | .found i => .ok i
  | .insertAt 0 => .error .lineBefore
  | .insertAt (i + 1) => .ok i

/-- The location of an offset, or the first fault on the way to it. -/
def LineIndex.locate (index : LineIndex) (text : List Char) (offset : Nat) :
    Except Fault Location := do
  let line ← (index.place offset).line
  let start ← orFault (.lineStart line) index.starts[line]?
  let range ← (Range.between? start offset).mapError .range
  let before ← orFault (.part range) (slice? text range)
  return ⟨line + 1, before.length + 1⟩

/-- The location of an offset in a text of which the lines are read off the bytes. -/
def locate (text : List Char) (offset : Nat) : Except Fault Location := do
  let starts ← readStarts text
  LineIndex.locate ⟨starts⟩ text offset

theorem LineIndex.Finds.line_eq {index : LineIndex} {offset line start : Nat}
    (h : index.Finds offset line start) : (index.place offset).line = .ok line := by
  rcases h.place with hplace | hplace
  · rw [hplace]
    rfl
  · rw [hplace]
    rfl

/-- **Once a line is found** only the slice can have a fault. -/
theorem LineIndex.Finds.locate_eq {index : LineIndex} {offset line start : Nat}
    (h : index.Finds offset line start) (text : List Char) :
    ∃ range, Range.between? start offset = .ok range ∧ index.locate text offset =
      orFault (.part range) ((slice? text range).map fun before => ⟨line + 1, before.length + 1⟩) := by
  have hle : start ≤ offset := h.greatest.1.2
  have hrange : Range.between? start offset = .ok ⟨start, offset, hle⟩ := dif_pos hle
  refine ⟨⟨start, offset, hle⟩, hrange, ?_⟩
  rw [LineIndex.locate, h.line_eq]
  show (orFault _ index.starts[line]? >>= _) = _
  rw [h.entry]
  show (Except.mapError _ _ >>= _) = _
  rw [hrange]
  show (orFault _ (slice? text _) >>= _) = _
  cases slice? text ⟨start, offset, hle⟩ with
  | none => rfl
  | some before => rfl

theorem locate?_eq_slice? {text : List Char} {offset : Nat} {range : Range}
    (hrange : Range.between? ((LineIndex.ofText text).starts.getD ((LineIndex.ofText text).line offset) 0)
      offset = .ok range) :
    locate? text offset = (slice? text range).map fun before =>
      ⟨(LineIndex.ofText text).line offset + 1, before.length + 1⟩ := by
  rw [locate?, LineIndex.locate?, hrange]
  show (slice? text range).bind _ = _
  cases slice? text range with
  | none => rfl
  | some before => rfl

/-- **From the bytes of a text to a location.** If the length of a text is an offset, the starts of its
lines are read off the bytes without a fault. They begin with zero, increase, and lie between the characters
of the text. So for every offset, also inside a character and past the end, there is only one place among
the starts, and it is a hit or comes after the first start. The line there is in the table, its start is the
greatest one up to the offset, and there is a range from the start to the offset. The only fault on the way
to a location is that the text has no part at this range. -/
theorem locate_faults_only_at_slice (text : List Char) (hfits : byteLength text < offsetLimit) :
    readStarts text = .ok (LineIndex.ofText text).starts ∧
      StartTable text (LineIndex.ofText text).starts ∧
      ∀ offset,
        (∀ p : Place, p.Fits (LineIndex.ofText text).starts offset ↔
          p = (LineIndex.ofText text).place offset) ∧
        ∃ start range,
          (LineIndex.ofText text).Finds offset ((LineIndex.ofText text).line offset) start ∧
          Range.between? start offset = .ok range ∧
          locate text offset = orFault (.part range) (locate? text offset) ∧
          (locate? text offset = none ↔ slice? text range = none) := by
  have hstarts := readStarts_eq hfits
  refine ⟨hstarts, startTable_ofText text, fun offset => ⟨fits_place_iff text offset, ?_⟩⟩
  have hfinds := finds_line text offset
  obtain ⟨range, hrange, hlocate⟩ := hfinds.locate_eq text
  have hlocate? := locate?_eq_slice? hrange
  refine ⟨_, range, hfinds, hrange, ?_, ?_⟩
  · rw [locate, hstarts, hlocate?]
    exact hlocate
  · rw [hlocate?, Option.map_eq_none_iff]

example : locate "é\r\nb\r".toList 1 = .error (.part (.upTo 0 1)) ∧
    locate "é\r\nb\r".toList 5 = .ok ⟨2, 2⟩ := by decide +kernel

/-- The largest offset lies far past the end of a text of three lines. The search stops behind the third
one, and only the slice from there has a fault. -/
theorem locate_faults_only_at_slice_pastEnd :
    byteLength "é\r\nb\r".toList < offsetLimit ∧ readStarts "é\r\nb\r".toList = .ok #[0, 4, 6] ∧
      (LineIndex.ofText "é\r\nb\r".toList).Finds 4294967295 2 6 ∧
      locate "é\r\nb\r".toList 4294967295 = .error (.part (.upTo 6 4294967295)) := by
  have hfits : byteLength "é\r\nb\r".toList < offsetLimit := by decide
  have hline : (LineIndex.ofText "é\r\nb\r".toList).line 4294967295 = 2 := by decide
  obtain ⟨hread, -, hlookup⟩ := locate_faults_only_at_slice _ hfits
  obtain ⟨-, start, range, hfinds, hrange, hlocate, -⟩ := hlookup 4294967295
  rw [hline] at hfinds
  have hstart : start = 6 := by
    have hentry : (LineIndex.ofText "é\r\nb\r".toList).starts[2]? = some 6 := by decide
    exact Option.some.inj (hfinds.entry.symm.trans hentry)
  subst hstart
  have hrange' : Range.between? 6 4294967295 = .ok (.upTo 6 4294967295) := by decide
  obtain rfl : range = .upTo 6 4294967295 := Except.ok.inj (hrange.symm.trans hrange')
  have hnone : locate? "é\r\nb\r".toList 4294967295 = none := by decide
  rw [hnone] at hlocate
  exact ⟨hfits, hread, hfinds, hlocate⟩

end JavaNaming.Text
