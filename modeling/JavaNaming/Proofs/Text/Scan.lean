import JavaNaming.Proofs.Text.Lines
import Mathlib.Data.Finset.Card
import Mathlib.Data.Finset.Lattice.Fold
import Mathlib.Data.Finset.Range
import Mathlib.Order.Lattice.Nat

/-!
# Locations by a plain scan

The location of an offset is found with a table of line starts, a binary search and a slice. Here it is
compared with two simpler accounts: a scan of the text from left to right (`scan?`), and a count of what
comes before the offset (`Locates`).

* `boundary_or_not`, `locate?_eq_none_iff`: an offset lies between two characters, inside a character or
  past the end of the text, and only in the first case it has a location.
* `mem_startsAfter`, `locates_of_locate?`: the table holds the offsets at which line ends stop, and so
  the location that is found counts the line ends and the characters of its line.
* `Locates.step`, `locates_of_scanFrom?`: reading one more character keeps the counts right, and so does
  the whole scan.
* `Locates.unique`, `locate?_eq_some_iff`: the counts determine the location.
* `Locates.before`: later offsets have later locations.
* `location_eq_scan`: the three accounts agree on every text and offset.
-/

namespace JavaNaming.Text

/-! ## Offsets between, inside and past the characters -/

/-- The offset lies between two characters of a text, or at one of its ends. -/
def IsBoundary (text : List Char) (offset : Nat) : Prop :=
  ∃ before after, text = before ++ after ∧ byteLength before = offset

/-- The offset lies inside a character of a text. -/
def InsideCharacter (text : List Char) (offset : Nat) : Prop :=
  ∃ before c after, text = before ++ c :: after ∧
    byteLength before < offset ∧ offset < byteLength before + c.utf8Size

theorem isBoundary_iff_dropBytes? {text : List Char} {offset : Nat} :
    IsBoundary text offset ↔ (dropBytes? offset text).isSome = true := by
  simp only [Option.isSome_iff_exists, dropBytes?_eq_some_iff, IsBoundary]
  exact exists_comm

instance (text : List Char) (offset : Nat) : Decidable (IsBoundary text offset) :=
  decidable_of_iff _ isBoundary_iff_dropBytes?.symm

theorem IsBoundary.le {text : List Char} {offset : Nat} (h : IsBoundary text offset) :
    offset ≤ byteLength text := by
  obtain ⟨before, after, rfl, rfl⟩ := h
  simp

theorem IsBoundary.not_inside {text : List Char} {offset : Nat} (h : IsBoundary text offset) :
    ¬ InsideCharacter text offset := by
  obtain ⟨a, b, rfl, rfl⟩ := h
  rintro ⟨before, c, after, htext, hlt, hgt⟩
  obtain ⟨skipped, rfl, hrest⟩ := append_eq_append_of_byteLength_le htext.symm (Nat.le_of_lt hlt)
  cases skipped with
  | nil => simp at hlt
  | cons d skipped =>
    obtain ⟨rfl, -⟩ := List.cons_eq_cons.1 hrest
    simp only [byteLength_append, byteLength] at hgt
    omega

/-- **Where an offset can lie**: between two characters, past the end of the text, or inside a
character. -/
theorem boundary_or_not (text : List Char) (offset : Nat) :
    IsBoundary text offset ∨ byteLength text < offset ∨ InsideCharacter text offset := by
  induction text generalizing offset with
  | nil =>
    rcases Nat.eq_zero_or_pos offset with rfl | hpos
    · exact .inl ⟨[], [], rfl, rfl⟩
    · exact .inr (.inl hpos)
  | cons c cs ih =>
    rcases Nat.eq_zero_or_pos offset with rfl | hpos
    · exact .inl ⟨[], c :: cs, rfl, rfl⟩
    rcases Nat.lt_or_ge offset c.utf8Size with hlt | hge
    · exact .inr (.inr ⟨[], c, cs, rfl, hpos, by simpa [byteLength] using hlt⟩)
    rcases ih (offset - c.utf8Size) with ⟨a, b, rfl, hlen⟩ | hpast | ⟨a, d, b, rfl, hlt, hgt⟩
    · exact .inl ⟨c :: a, b, rfl, by simp only [byteLength]; omega⟩
    · exact .inr (.inl (by simp only [byteLength]; omega))
    · refine .inr (.inr ⟨c :: a, d, b, rfl, ?_, ?_⟩)
      all_goals simp only [byteLength]; omega

/-! ## The ends of lines -/

/-- Whether a character ends a line, given the one after it. A line feed does, and a carriage return
unless a line feed follows it: the two together are one line end, which stops after the line feed. -/
def endsLine (c : Char) (next : Option Char) : Bool :=
  c = '\n' || c = '\r' && next ≠ some '\n'

/-- A line end of a text stops at an offset. -/
def LineEndsAt (text : List Char) (e : Nat) : Prop :=
  ∃ before c after, text = before ++ c :: after ∧ endsLine c after.head? = true ∧
    e = byteLength before + c.utf8Size

theorem not_lineEndsAt_nil (e : Nat) : ¬ LineEndsAt [] e := by
  rintro ⟨before, c, after, h, -⟩
  simp at h

theorem lineEndsAt_cons {c : Char} {cs : List Char} {e : Nat} :
    LineEndsAt (c :: cs) e ↔
      endsLine c cs.head? = true ∧ e = c.utf8Size ∨
        c.utf8Size ≤ e ∧ LineEndsAt cs (e - c.utf8Size) := by
  constructor
  · rintro ⟨before, d, after, htext, hd, rfl⟩
    cases before with
    | nil =>
      obtain ⟨rfl, rfl⟩ := List.cons_eq_cons.1 htext
      exact .inl ⟨hd, by simp [byteLength]⟩
    | cons b before =>
      obtain ⟨rfl, rfl⟩ := List.cons_eq_cons.1 htext
      simp only [byteLength]
      exact .inr ⟨by omega, before, d, after, rfl, hd, by omega⟩
  · rintro (⟨hc, rfl⟩ | ⟨hle, before, d, after, rfl, hd, he⟩)
    · exact ⟨[], c, cs, rfl, hc, by simp [byteLength]⟩
    · exact ⟨c :: before, d, after, rfl, hd, by simp only [byteLength]; omega⟩

instance decidableLineEndsAt : ∀ (text : List Char) (e : Nat), Decidable (LineEndsAt text e)
  | [], e => .isFalse (not_lineEndsAt_nil e)
  | _ :: cs, _ =>
    have := decidableLineEndsAt cs
    decidable_of_iff _ lineEndsAt_cons.symm

theorem LineEndsAt.isBoundary {text : List Char} {e : Nat} (h : LineEndsAt text e) :
    IsBoundary text e := by
  obtain ⟨before, c, after, rfl, -, rfl⟩ := h
  exact ⟨before ++ [c], after, by simp, by simp [byteLength]⟩

/-- **The table of line starts** holds the offsets at which line ends stop. -/
theorem mem_startsAfter (here : Nat) (text : List Char) : ∀ s,
    s ∈ startsAfter here text ↔ here ≤ s ∧ LineEndsAt text (s - here) := by
  fun_induction startsAfter here text with
  | case1 here => simp [not_lineEndsAt_nil]
  | case2 here cs ih =>
    intro s
    have hsize : '\r'.utf8Size = 1 ∧ '\n'.utf8Size = 1 := by decide
    simp only [List.mem_cons, ih, lineEndsAt_cons, endsLine, List.head?_cons, hsize]
    grind
  | case3 here c cs hcrlf next hend ih =>
    intro s
    have hc : endsLine c cs.head? = true := by
      rcases hend with rfl | rfl
      · simp [endsLine]
      · cases cs with
        | nil => simp [endsLine]
        | cons d cs =>
          have : d ≠ '\n' := fun h => hcrlf cs rfl (by rw [h])
          simp [endsLine, this]
    simp only [List.mem_cons, ih, lineEndsAt_cons, hc, next, true_and]
    grind
  | case4 here c cs _ next hend ih =>
    intro s
    have hc : endsLine c cs.head? = false := by
      simp only [not_or] at hend
      simp [endsLine, hend]
    simp only [ih, lineEndsAt_cons, hc, next, Bool.false_eq_true, false_and, false_or]
    grind

/-- The offsets, up to a given one, at which line ends stop. -/
def lineEndsUpTo (text : List Char) (offset : Nat) : Finset Nat :=
  {e ∈ Finset.range (offset + 1) | LineEndsAt text e}

theorem mem_lineEndsUpTo {text : List Char} {offset e : Nat} :
    e ∈ lineEndsUpTo text offset ↔ e ≤ offset ∧ LineEndsAt text e := by
  rw [lineEndsUpTo, Finset.mem_filter, Finset.mem_range, Nat.lt_succ_iff]

/-! ## Counting -/

/-- **The location of an offset by counting.** The line is one more than the number of line ends that
stop at or before the offset. The column is one more than the number of characters between the last of
them, or the start of the text, and the offset. -/
structure Locates (text : List Char) (offset : Nat) (l : Location) : Prop where
  line_eq : l.line = 1 + (lineEndsUpTo text offset).card
  column_eq : ∃ before between after, text = before ++ (between ++ after) ∧
    byteLength before = (lineEndsUpTo text offset).sup id ∧
    byteLength before + byteLength between = offset ∧ l.column = 1 + between.length

theorem Locates.isBoundary {text : List Char} {offset : Nat} {l : Location}
    (h : Locates text offset l) : IsBoundary text offset := by
  obtain ⟨before, between, after, rfl, -, rfl, -⟩ := h.column_eq
  exact ⟨before ++ between, after, (List.append_assoc ..).symm, byteLength_append ..⟩

theorem append_inj_of_byteLength_eq {a b c d : List Char} (h : a ++ b = c ++ d)
    (hlen : byteLength a = byteLength c) : a = c ∧ b = d := by
  obtain ⟨skipped, rfl, rfl⟩ := append_eq_append_of_byteLength_le h (Nat.le_of_eq hlen)
  cases skipped with
  | nil => simp
  | cons x skipped =>
    have := x.utf8Size_pos
    simp only [byteLength_append, byteLength] at hlen
    omega

/-- The counts determine the location. -/
theorem Locates.unique {text : List Char} {offset : Nat} {l m : Location}
    (hl : Locates text offset l) (hm : Locates text offset m) : l = m := by
  obtain ⟨before, between, after, rfl, hstart, rfl, hcolumn⟩ := hl.column_eq
  obtain ⟨before', between', after', htext, hstart', hoffset, hcolumn'⟩ := hm.column_eq
  obtain ⟨rfl, hrest⟩ := append_inj_of_byteLength_eq htext (hstart.trans hstart'.symm)
  obtain ⟨rfl, -⟩ := append_inj_of_byteLength_eq hrest (by omega)
  have hline : l.line = m.line := hl.line_eq.trans hm.line_eq.symm
  have hcolumn : l.column = m.column := hcolumn.trans hcolumn'.symm
  cases l
  cases m
  exact congrArg₂ Location.mk hline hcolumn

/-! ## The location that is found -/

theorem starts_getD_succ (text : List Char) (j : Nat) :
    (LineIndex.ofText text).starts.getD (j + 1) 0 = (startsAfter 0 text).getD j 0 := by
  simp [LineIndex.ofText]

/-- The line ends up to an offset are the starts of the lines after the first one, up to the line of the
offset. -/
theorem lineEndsUpTo_eq_image (text : List Char) (offset : Nat) :
    lineEndsUpTo text offset = (Finset.range ((LineIndex.ofText text).line offset)).image
      fun j => (LineIndex.ofText text).starts.getD (j + 1) 0 := by
  have hinc := increasing_starts text
  obtain ⟨hlt, hstart, hlater⟩ := line_ofText_spec text offset
  have hsize : (LineIndex.ofText text).starts.size = (startsAfter 0 text).length + 1 := by
    simp [LineIndex.ofText]
  ext e
  simp only [mem_lineEndsUpTo, Finset.mem_image, Finset.mem_range]
  constructor
  · rintro ⟨hle, he⟩
    have hmem : e ∈ startsAfter 0 text := (mem_startsAfter 0 text e).2 ⟨Nat.zero_le e, he⟩
    obtain ⟨j, hj, rfl⟩ := List.getElem_of_mem hmem
    have hentry : (LineIndex.ofText text).starts.getD (j + 1) 0 = (startsAfter 0 text)[j] := by
      rw [starts_getD_succ]
      simp [hj]
    refine ⟨j, ?_, hentry⟩
    by_contra hge
    have := hlater (j + 1) (by omega) (by omega)
    omega
  · rintro ⟨j, hj, rfl⟩
    have hj' : j < (startsAfter 0 text).length := by omega
    have hmem : (LineIndex.ofText text).starts.getD (j + 1) 0 ∈ startsAfter 0 text := by
      rw [starts_getD_succ]
      simp [hj']
    refine ⟨?_, ((mem_startsAfter 0 text _).1 hmem).2⟩
    rcases Nat.lt_or_eq_of_le (Nat.succ_le_of_lt hj) with hj | hj
    · have := hinc (j + 1) _ hj hlt
      omega
    · rw [← hj] at hstart
      exact hstart

/-- The line of an offset, counted from zero, is the number of line ends up to it. -/
theorem card_lineEndsUpTo (text : List Char) (offset : Nat) :
    (lineEndsUpTo text offset).card = (LineIndex.ofText text).line offset := by
  have hinc := increasing_starts text
  obtain ⟨hlt, -⟩ := line_ofText_spec text offset
  rw [lineEndsUpTo_eq_image, Finset.card_image_of_injOn, Finset.card_range]
  intro i hi j hj hij
  simp only [Finset.coe_range, Set.mem_Iio] at hi hj
  rcases Nat.lt_trichotomy i j with h | h | h
  · have := hinc (i + 1) (j + 1) (by omega) (by omega)
    simp only at hij
    omega
  · exact h
  · have := hinc (j + 1) (i + 1) (by omega) (by omega)
    simp only at hij
    omega

/-- The line of an offset starts at the last of the line ends up to it. -/
theorem sup_lineEndsUpTo (text : List Char) (offset : Nat) :
    (lineEndsUpTo text offset).sup id =
      (LineIndex.ofText text).starts.getD ((LineIndex.ofText text).line offset) 0 := by
  have hinc := increasing_starts text
  obtain ⟨hlt, -⟩ := line_ofText_spec text offset
  rw [lineEndsUpTo_eq_image]
  generalize (LineIndex.ofText text).line offset = line at hlt
  cases line with
  | zero => simp [LineIndex.ofText]
  | succ k =>
    apply le_antisymm
    · apply Finset.sup_le
      intro e he
      obtain ⟨j, hj, rfl⟩ := Finset.mem_image.1 he
      rcases Nat.lt_or_eq_of_le (Nat.lt_succ_iff.1 (Finset.mem_range.1 hj)) with hj | rfl
      · exact Nat.le_of_lt (hinc (j + 1) (k + 1) (by omega) hlt)
      · exact le_refl _
    · exact Finset.le_sup (f := id) (Finset.mem_image_of_mem _ (Finset.mem_range.2 k.lt_succ_self))

/-- The location that is found counts line ends and characters. -/
theorem locates_of_locate? {text : List Char} {offset : Nat} {l : Location}
    (h : locate? text offset = some l) : Locates text offset l := by
  simp only [locate?, LineIndex.locate?, Option.bind_eq_bind, Option.bind_eq_some_iff] at h
  obtain ⟨r, hr, between, hbetween, hl⟩ := h
  cases hl
  obtain ⟨before, after, htext, hbefore, hlen⟩ := slice?_eq_some_iff.1 hbetween
  unfold Range.between? at hr
  split at hr
  · rename_i hle
    cases hr
    refine ⟨by rw [card_lineEndsUpTo, Nat.add_comm], before, between, after, htext, ?_, ?_, ?_⟩
    · rw [hbefore, sup_lineEndsUpTo]
    · simp only at hbefore hlen
      omega
    · exact Nat.add_comm ..
  · cases hr

theorem exists_locate? {text : List Char} {offset : Nat} (h : IsBoundary text offset) :
    ∃ l, locate? text offset = some l := by
  obtain ⟨a, b, rfl, rfl⟩ := h
  obtain ⟨line, skipped, hsome, -⟩ := locate?_append a b
  exact ⟨_, hsome⟩

theorem locate?_eq_some_iff {text : List Char} {offset : Nat} {l : Location} :
    locate? text offset = some l ↔ Locates text offset l := by
  refine ⟨locates_of_locate?, fun hl => ?_⟩
  obtain ⟨m, hm⟩ := exists_locate? hl.isBoundary
  rw [hm, hl.unique (locates_of_locate? hm)]

/-- Exactly the offsets past the end of a text and inside a character have no location. -/
theorem locate?_eq_none_iff {text : List Char} {offset : Nat} :
    locate? text offset = none ↔ byteLength text < offset ∨ InsideCharacter text offset := by
  constructor
  · intro h
    refine (boundary_or_not text offset).resolve_left fun hboundary => ?_
    obtain ⟨l, hl⟩ := exists_locate? hboundary
    rw [hl] at h
    cases h
  · intro h
    rw [Option.eq_none_iff_forall_ne_some]
    intro l hl
    have hboundary := (locates_of_locate? hl).isBoundary
    rcases h with hpast | hinside
    · exact absurd hboundary.le (Nat.not_le.2 hpast)
    · exact hboundary.not_inside hinside

/-! ## Scanning -/

/-- The location after a character, given the one that follows it. -/
def Location.after (l : Location) (c : Char) (next : Option Char) : Location :=
  if endsLine c next then ⟨l.line + 1, 1⟩ else ⟨l.line, l.column + 1⟩

/-- Read `n` bytes of a text that starts at location `l`, one character after the other. -/
def scanFrom? (l : Location) : Nat → List Char → Option Location
  | 0, _ => some l
  | _ + 1, [] => none
  | n + 1, c :: cs =>
    if n + 1 < c.utf8Size then none else scanFrom? (l.after c cs.head?) (n + 1 - c.utf8Size) cs

/-- The location of an offset by a scan of the text from left to right. -/
def scan? (text : List Char) (offset : Nat) : Option Location := scanFrom? ⟨1, 1⟩ offset text

theorem isSome_scanFrom? (l : Location) (n : Nat) (cs : List Char) :
    (scanFrom? l n cs).isSome = (dropBytes? n cs).isSome := by
  induction cs generalizing l n with
  | nil => cases n <;> simp [scanFrom?, dropBytes?]
  | cons c cs ih =>
    cases n with
    | zero => simp [scanFrom?, dropBytes?]
    | succ n =>
      rw [scanFrom?, dropBytes?]
      split
      · rfl
      · exact ih _ _

/-- One more character adds a line end exactly if it ends a line. -/
theorem lineEndsUpTo_step (a : List Char) (c : Char) (b : List Char) :
    lineEndsUpTo (a ++ c :: b) (byteLength a + c.utf8Size) =
      if endsLine c b.head? then
        insert (byteLength a + c.utf8Size) (lineEndsUpTo (a ++ c :: b) (byteLength a))
      else lineEndsUpTo (a ++ c :: b) (byteLength a) := by
  have hnew : ∀ e, LineEndsAt (a ++ c :: b) e → byteLength a < e → e ≤ byteLength a + c.utf8Size →
      e = byteLength a + c.utf8Size ∧ endsLine c b.head? = true := by
    intro e he hlt hle
    have hnot := he.isBoundary.not_inside
    have hstop : e = byteLength a + c.utf8Size := by
      by_contra hne
      exact hnot ⟨a, c, b, rfl, hlt, by omega⟩
    obtain ⟨before, d, after, htext, hd, he⟩ := he
    have hsplit : (a ++ [c]) ++ b = (before ++ [d]) ++ after := by simpa using htext
    obtain ⟨hac, rfl⟩ := append_inj_of_byteLength_eq hsplit (by simp [byteLength]; omega)
    obtain ⟨rfl, hcd⟩ := List.append_inj' hac rfl
    cases hcd
    exact ⟨hstop, hd⟩
  ext e
  split
  · rename_i hends
    simp only [Finset.mem_insert, mem_lineEndsUpTo]
    constructor
    · rintro ⟨hle, he⟩
      rcases Nat.lt_or_ge (byteLength a) e with hlt | hge
      · exact .inl (hnew e he hlt hle).1
      · exact .inr ⟨hge, he⟩
    · rintro (rfl | ⟨hle, he⟩)
      · exact ⟨Nat.le_refl _, a, c, b, rfl, hends, rfl⟩
      · exact ⟨by omega, he⟩
  · rename_i hends
    simp only [mem_lineEndsUpTo]
    constructor
    · rintro ⟨hle, he⟩
      refine ⟨?_, he⟩
      by_contra hgt
      exact hends (hnew e he (by omega) hle).2
    · rintro ⟨hle, he⟩
      exact ⟨by omega, he⟩

theorem sup_lineEndsUpTo_le (text : List Char) (offset : Nat) :
    (lineEndsUpTo text offset).sup id ≤ offset :=
  Finset.sup_le fun _ he => (mem_lineEndsUpTo.1 he).1

/-- **One step of the scan**: reading a character keeps the counts right. -/
theorem Locates.step {a : List Char} {c : Char} {b : List Char} {l : Location}
    (h : Locates (a ++ c :: b) (byteLength a) l) :
    Locates (a ++ c :: b) (byteLength a + c.utf8Size) (l.after c b.head?) := by
  have hends := lineEndsUpTo_step a c b
  have hsup := sup_lineEndsUpTo_le (a ++ c :: b) (byteLength a)
  have hpos := c.utf8Size_pos
  unfold Location.after
  split at hends
  · rename_i hc
    have hnot : byteLength a + c.utf8Size ∉ lineEndsUpTo (a ++ c :: b) (byteLength a) := by
      simp only [mem_lineEndsUpTo, not_and]
      omega
    rw [if_pos hc]
    refine ⟨?_, a ++ [c], [], b, by simp, ?_, by simp [byteLength], rfl⟩
    · rw [hends, Finset.card_insert_of_notMem hnot, h.line_eq]
      rfl
    · rw [hends, Finset.sup_insert]
      simp only [byteLength_append, byteLength, id, Nat.add_zero]
      omega
  · rename_i hc
    rw [if_neg hc]
    obtain ⟨before, between, after, htext, hstart, hlen, hcolumn⟩ := h.column_eq
    have hsplit : a ++ c :: b = (before ++ between) ++ after := by simpa using htext
    obtain ⟨rfl, rfl⟩ := append_inj_of_byteLength_eq hsplit (by simp [hlen])
    refine ⟨by rw [hends]; exact h.line_eq, before, between ++ [c], b, by simp, ?_, ?_, ?_⟩
    · rw [hends]
      exact hstart
    · simp only [byteLength_append, byteLength]
      omega
    · simp only [List.length_append, List.length_singleton, hcolumn]
      omega

/-- The same, with the character moved to what has been read. -/
theorem Locates.read {a : List Char} {c : Char} {cs : List Char} {l : Location}
    (h : Locates (a ++ c :: cs) (byteLength a) l) :
    Locates ((a ++ [c]) ++ cs) (byteLength (a ++ [c])) (l.after c cs.head?) := by
  have hlength : byteLength (a ++ [c]) = byteLength a + c.utf8Size := by simp [byteLength]
  rw [List.append_assoc, List.singleton_append, hlength]
  exact h.step

theorem locates_start (text : List Char) : Locates text 0 ⟨1, 1⟩ := by
  have hnone : lineEndsUpTo text 0 = ∅ := by
    ext e
    simp only [mem_lineEndsUpTo, Finset.notMem_empty, iff_false, not_and]
    rintro hle ⟨before, c, after, -, -, rfl⟩
    have := c.utf8Size_pos
    omega
  refine ⟨by simp [hnone], [], [], text, rfl, by simp [hnone, byteLength], rfl, rfl⟩

/-- **The scan** keeps the counts right. -/
theorem locates_of_scanFrom? {l m : Location} {n : Nat} {a cs : List Char}
    (h : Locates (a ++ cs) (byteLength a) l) (hm : scanFrom? l n cs = some m) :
    Locates (a ++ cs) (byteLength a + n) m := by
  -- What has been read moves from the second part of the text to the first.
  induction cs generalizing l n a with
  | nil =>
    cases n with
    | zero =>
      cases hm
      exact h
    | succ n => cases hm
  | cons c cs ih =>
    cases n with
    | zero =>
      cases hm
      exact h
    | succ n =>
      rw [scanFrom?] at hm
      split at hm
      · cases hm
      have := ih h.read hm
      simp only [List.append_assoc, List.singleton_append, byteLength_append, byteLength] at this
      rwa [show byteLength a + (c.utf8Size + 0) + (n + 1 - c.utf8Size) = byteLength a + (n + 1) by
        omega] at this

theorem locates_of_scan? {text : List Char} {offset : Nat} {l : Location}
    (h : scan? text offset = some l) : Locates text offset l := by
  have hstart : Locates ([] ++ text) (byteLength []) ⟨1, 1⟩ := locates_start text
  simpa [byteLength] using locates_of_scanFrom? hstart h

theorem scan?_eq_locate? (text : List Char) (offset : Nat) :
    scan? text offset = locate? text offset := by
  cases h : scan? text offset with
  | some l => exact (locate?_eq_some_iff.2 (locates_of_scan? h)).symm
  | none =>
    have hdrop : (dropBytes? offset text).isSome = false := by
      rw [← isSome_scanFrom? ⟨1, 1⟩]
      exact congrArg Option.isSome h
    symm
    rw [Option.eq_none_iff_forall_ne_some]
    intro l hl
    have := isBoundary_iff_dropBytes?.1 (locates_of_locate? hl).isBoundary
    simp [hdrop] at this

/-! ## The order of locations -/

/-- A location comes before another: it is in an earlier line, or in the same line at a smaller
column. -/
def Location.Before (l m : Location) : Prop :=
  l.line < m.line ∨ l.line = m.line ∧ l.column < m.column

instance (l m : Location) : Decidable (l.Before m) :=
  inferInstanceAs (Decidable (_ ∨ _))

theorem Location.before_after (l : Location) (c : Char) (next : Option Char) :
    l.Before (l.after c next) := by
  unfold Before after
  split
  · exact .inl (Nat.lt_succ_self _)
  · exact .inr ⟨rfl, Nat.lt_succ_self _⟩

theorem Location.Before.trans {l m n : Location} (h : l.Before m) (h' : m.Before n) :
    l.Before n := by
  unfold Before at *
  omega

theorem Location.Before.asymm {l m : Location} (h : l.Before m) : ¬ m.Before l := by
  unfold Before at *
  omega

/-- Reading on leads to later locations. -/
theorem exists_locates_append {a b : List Char} {l : Location} : ∀ {d : List Char}, d ≠ [] →
    Locates (a ++ (d ++ b)) (byteLength a) l →
      ∃ m, Locates (a ++ (d ++ b)) (byteLength (a ++ d)) m ∧ l.Before m
  | [], hd, _ => absurd rfl hd
  | c :: d, _, h => by
    have hstep : Locates ((a ++ [c]) ++ (d ++ b)) (byteLength (a ++ [c]))
        (l.after c (d ++ b).head?) := h.read
    have hbefore := l.before_after c (d ++ b).head?
    cases d with
    | nil => exact ⟨_, by simpa using hstep, hbefore⟩
    | cons c' d =>
      obtain ⟨m, hm, hlm⟩ := exists_locates_append (by simp) hstep
      exact ⟨m, by simpa using hm, hbefore.trans hlm⟩

/-- **Later offsets have later locations.** -/
theorem Locates.before {text : List Char} {o o' : Nat} {l l' : Location}
    (hl : Locates text o l) (hl' : Locates text o' l') (hlt : o < o') : l.Before l' := by
  obtain ⟨a, b, rfl, rfl⟩ := hl.isBoundary
  obtain ⟨a', b', htext, rfl⟩ := hl'.isBoundary
  obtain ⟨d, rfl, rfl⟩ := append_eq_append_of_byteLength_le htext (Nat.le_of_lt hlt)
  have hd : d ≠ [] := by
    rintro rfl
    simp at hlt
  obtain ⟨m, hm, hlm⟩ := exists_locates_append hd hl
  exact hm.unique hl' ▸ hlm

/-! ## The three accounts agree -/

/-- **The location of an offset.** It is found by a scan of the text from left to right. There is none
exactly if the offset lies past the end of the text or inside a character, and otherwise it counts the
line ends up to the offset and the characters after the last of them. -/
theorem location_eq_scan (text : List Char) (offset : Nat) :
    locate? text offset = scan? text offset ∧
      (locate? text offset = none ↔ byteLength text < offset ∨ InsideCharacter text offset) ∧
      ∀ l, locate? text offset = some l ↔ Locates text offset l :=
  ⟨(scan?_eq_locate? text offset).symm, locate?_eq_none_iff, fun _ => locate?_eq_some_iff⟩

example : ([2, 3, 5, 6].map (locate? "a\r\né\rb".toList)) =
    [some ⟨1, 3⟩, some ⟨2, 1⟩, some ⟨2, 2⟩, some ⟨3, 1⟩] := by decide

end JavaNaming.Text
