import JavaNaming.Text.Lines
import Mathlib.Data.List.Basic

/-!
# Where a location leads

An offset is a way to divide a text in two (`dropBytes?_eq_some_iff`, `slice?_eq_some_iff`). The
location of an offset comes from a table of the starts of the lines and a binary search in it. Here it
is compared with a plain reading of the text, line by line.

* `startsAfter_getElem?`: an entry of the table is the offset at which a line starts, where the lines
  are those that `fromLine?` counts.
* `increasing_starts`, `binarySearch_fits`, `line_spec`: the table is increasing, the search in it
  finds the place of an offset, and so the line of an offset is the last one that does not start after
  it.
* `locate?_append`: between two parts of a text there is a location. The line it names, without the
  characters before its column, is the second part.
-/

namespace JavaNaming.Text

/-! ## Offsets divide a text -/

@[simp] theorem byteLength_append (a b : List Char) :
    byteLength (a ++ b) = byteLength a + byteLength b := by
  induction a with
  | nil => simp [byteLength]
  | cons c a ih => simp only [List.cons_append, byteLength, ih]; omega

theorem dropBytes?_byteLength (a b : List Char) : dropBytes? (byteLength a) (a ++ b) = some b := by
  induction a with
  | nil => rw [byteLength, List.nil_append, dropBytes?]
  | cons c a ih =>
    obtain ⟨n, hn⟩ : ∃ n, byteLength (c :: a) = n + 1 :=
      Nat.exists_eq_succ_of_ne_zero (by have := c.utf8Size_pos; simp only [byteLength]; omega)
    have hlen : n + 1 - c.utf8Size = byteLength a := by simp only [byteLength] at hn; omega
    have hlt : ¬ n + 1 < c.utf8Size := by simp only [byteLength] at hn; omega
    simp only [hn, List.cons_append, dropBytes?, hlt, ↓reduceIte, hlen, ih]

theorem takeBytes?_byteLength (a b : List Char) : takeBytes? (byteLength a) (a ++ b) = some a := by
  induction a with
  | nil => rw [byteLength, List.nil_append, takeBytes?]
  | cons c a ih =>
    obtain ⟨n, hn⟩ : ∃ n, byteLength (c :: a) = n + 1 :=
      Nat.exists_eq_succ_of_ne_zero (by have := c.utf8Size_pos; simp only [byteLength]; omega)
    have hlen : n + 1 - c.utf8Size = byteLength a := by simp only [byteLength] at hn; omega
    have hlt : ¬ n + 1 < c.utf8Size := by simp only [byteLength] at hn; omega
    simp only [hn, List.cons_append, takeBytes?, hlt, ↓reduceIte, hlen, ih, Option.map_some]

/-- The text after an offset is what is left of it when as many bytes are taken away. -/
theorem dropBytes?_eq_some_iff {n : Nat} {text rest : List Char} :
    dropBytes? n text = some rest ↔ ∃ before, text = before ++ rest ∧ byteLength before = n := by
  constructor
  · intro h
    fun_induction dropBytes? n text with
    | case1 cs => exact ⟨[], by simpa using h, rfl⟩
    | case2 => simp at h
    | case3 => simp at h
    | case4 n c cs hlt ih =>
      obtain ⟨before, rfl, hlen⟩ := ih h
      exact ⟨c :: before, rfl, by simp only [byteLength]; omega⟩
  · rintro ⟨before, rfl, rfl⟩
    exact dropBytes?_byteLength before rest

theorem takeBytes?_eq_some_iff {n : Nat} {text part : List Char} :
    takeBytes? n text = some part ↔ ∃ rest, text = part ++ rest ∧ byteLength part = n := by
  constructor
  · intro h
    fun_induction takeBytes? n text generalizing part with
    | case1 cs => exact ⟨cs, by simp_all [byteLength]⟩
    | case2 => simp at h
    | case3 => simp at h
    | case4 n c cs hlt ih =>
      obtain ⟨part, hpart, rfl⟩ := Option.map_eq_some_iff.1 h
      obtain ⟨rest, rfl, hlen⟩ := ih hpart
      exact ⟨rest, rfl, by simp only [byteLength]; omega⟩
  · rintro ⟨rest, rfl, rfl⟩
    exact takeBytes?_byteLength part rest

/-- A slice is the part of a text between the two offsets of a range. -/
theorem slice?_eq_some_iff {text part : List Char} {r : Range} :
    slice? text r = some part ↔ ∃ before after, text = before ++ (part ++ after) ∧
      byteLength before = r.start ∧ byteLength part = r.stop - r.start := by
  simp only [slice?, Option.bind_eq_some_iff, dropBytes?_eq_some_iff, takeBytes?_eq_some_iff]
  constructor
  · rintro ⟨_, ⟨before, rfl, hb⟩, after, rfl, hp⟩
    exact ⟨before, after, rfl, hb, hp⟩
  · rintro ⟨before, after, rfl, hb, hp⟩
    exact ⟨part ++ after, ⟨before, rfl, hb⟩, after, rfl, hp⟩

/-! ## Lines by a plain reading -/

/-- What follows the first line end of a text. -/
def afterLineEnd? : List Char → Option (List Char)
  | [] => none
  | '\r' :: '\n' :: cs => some cs
  | c :: cs => if c = '\n' ∨ c = '\r' then some cs else afterLineEnd? cs

/-- The text from the start of a line on. Lines count from one. -/
def fromLine? : Nat → List Char → Option (List Char)
  | 0, _ => none
  | 1, cs => some cs
  | n + 2, cs => (afterLineEnd? cs).bind (fromLine? (n + 1))

/-- An entry of the table of line starts is the offset of the line that it stands for. -/
theorem startsAfter_getElem? (here : Nat) (text : List Char) : ∀ (k s : Nat),
    (startsAfter here text)[k]? = some s → ∃ before line, text = before ++ line ∧
      s = here + byteLength before ∧ fromLine? (k + 2) text = some line := by
  fun_induction startsAfter here text with
  | case1 => simp
  | case2 here cs ih =>
    intro k s h
    have hlen : byteLength ['\r', '\n'] = 2 := by decide
    cases k with
    | zero => exact ⟨['\r', '\n'], cs, rfl, by simp_all, by simp [fromLine?, afterLineEnd?]⟩
    | succ k =>
      obtain ⟨before, line, rfl, rfl, hline⟩ := ih k s (by simpa using h)
      refine ⟨'\r' :: '\n' :: before, line, rfl, ?_, by simpa [fromLine?, afterLineEnd?] using hline⟩
      have : byteLength ('\r' :: '\n' :: before) = 2 + byteLength before := by
        rw [← hlen, ← byteLength_append]; rfl
      omega
  | case3 here c cs hcrlf next hend ih =>
    intro k s h
    have hafter : afterLineEnd? (c :: cs) = some cs := by
      rw [afterLineEnd?.eq_3 _ _ hcrlf, if_pos hend]
    cases k with
    | zero =>
      exact ⟨[c], cs, rfl, by simp_all [byteLength, next], by simp [fromLine?, hafter]⟩
    | succ k =>
      obtain ⟨before, line, rfl, rfl, hline⟩ := ih k s (by simpa using h)
      refine ⟨c :: before, line, rfl, by simp only [byteLength, next]; omega, ?_⟩
      rw [fromLine?, hafter]
      exact hline
  | case4 here c cs hcrlf next hend ih =>
    intro k s h
    have hafter : afterLineEnd? (c :: cs) = afterLineEnd? cs := by
      rw [afterLineEnd?.eq_3 _ _ hcrlf, if_neg hend]
    obtain ⟨before, line, rfl, rfl, hline⟩ := ih k s h
    refine ⟨c :: before, line, rfl, by simp only [byteLength, next]; omega, ?_⟩
    rw [fromLine?] at hline ⊢
    rw [hafter, hline]

/-! ## The table is increasing -/

theorem lt_of_mem_startsAfter (here : Nat) (text : List Char) :
    ∀ s ∈ startsAfter here text, here < s := by
  fun_induction startsAfter here text with
  | case1 => simp
  | case2 here cs ih =>
    intro s hs
    rcases List.mem_cons.1 hs with rfl | hs
    · omega
    · have := ih s hs
      omega
  | case3 here c cs _ next _ ih =>
    intro s hs
    have := c.utf8Size_pos
    rcases List.mem_cons.1 hs with rfl | hs
    · omega
    · have := ih s hs
      omega
  | case4 here c cs _ next _ ih =>
    intro s hs
    have := ih s hs
    omega

theorem pairwise_startsAfter (here : Nat) (text : List Char) :
    (startsAfter here text).Pairwise (· < ·) := by
  fun_induction startsAfter here text with
  | case1 => exact .nil
  | case2 here cs ih => exact .cons (lt_of_mem_startsAfter _ _) ih
  | case3 here c cs _ next _ ih => exact .cons (lt_of_mem_startsAfter _ _) ih
  | case4 here c cs _ next _ ih => exact ih

/-- Each entry of a table is smaller than those after it. -/
def Increasing (xs : Array Nat) : Prop :=
  ∀ i j, i < j → j < xs.size → xs.getD i 0 < xs.getD j 0

theorem increasing_toArray {xs : List Nat} (h : xs.Pairwise (· < ·)) : Increasing xs.toArray := by
  intro i j hij hj
  simp only [List.size_toArray] at hj
  have hi : i < xs.length := by omega
  simpa [hi, hj] using List.pairwise_iff_getElem.1 h i j hi hj hij

theorem increasing_starts (text : List Char) : Increasing (LineIndex.ofText text).starts :=
  increasing_toArray (.cons (lt_of_mem_startsAfter 0 text) (pairwise_startsAfter 0 text))

/-! ## Binary search -/

/-- Whether a place is where a value stands in a table, or would have to be put. -/
def Place.Fits (xs : Array Nat) (x : Nat) : Place → Prop
  | .found i => i < xs.size ∧ xs.getD i 0 = x
  | .insertAt i => i ≤ xs.size ∧ (∀ j < i, xs.getD j 0 < x) ∧
      ∀ j, i ≤ j → j < xs.size → x < xs.getD j 0

/-- **The search** keeps everything before `lo` below the value and everything from `hi` on above
it. -/
theorem binarySearch_fits {xs : Array Nat} (hxs : Increasing xs) (x : Nat) (fuel lo hi : Nat)
    (hle : lo ≤ hi) (hsize : hi ≤ xs.size) (hfuel : hi - lo < fuel)
    (hlo : ∀ j < lo, xs.getD j 0 < x) (hhi : ∀ j, hi ≤ j → j < xs.size → x < xs.getD j 0) :
    (binarySearch xs x fuel lo hi).Fits xs x := by
  fun_induction binarySearch xs x fuel lo hi with
  | case1 => omega
  | case2 fuel lo hi hlt mid y hy => exact ⟨by omega, hy⟩
  | case3 fuel lo hi hlt mid y hy hyx ih =>
    refine ih (by omega) hsize (by omega) (fun j hj => ?_) hhi
    rcases Nat.lt_or_eq_of_le (Nat.le_of_lt_succ hj) with hj | rfl
    · exact Nat.lt_trans (hxs j mid hj (by omega)) hyx
    · exact hyx
  | case4 fuel lo hi hlt mid y hy hyx ih =>
    refine ih (by omega) (by omega) (by omega) hlo (fun j hj hjs => ?_)
    rcases Nat.lt_or_eq_of_le hj with hj | rfl
    · have := hxs mid j hj hjs
      omega
    · omega
  | case5 fuel lo hi hlt =>
    have : lo = hi := by omega
    subst this
    exact ⟨hsize, hlo, hhi⟩

theorem place_fits {index : LineIndex} (hinc : Increasing index.starts) (offset : Nat) :
    (index.place offset).Fits index.starts offset :=
  binarySearch_fits hinc offset (index.starts.size + 1) 0 index.starts.size (Nat.zero_le _)
    (Nat.le_refl _) (by omega) (by omega) (by omega)

/-- Nothing is put before a first entry that is zero. -/
theorem insertAt_ne_zero {xs : Array Nat} {x i : Nat} (h : (Place.insertAt i).Fits xs x)
    (hpos : 0 < xs.size) (hzero : xs.getD 0 0 = 0) : i ≠ 0 := by
  rintro rfl
  have := h.2.2 0 (Nat.le_refl 0) hpos
  omega

/-- **The line of an offset** is the last one that does not start after it. -/
theorem line_spec {index : LineIndex} (hinc : Increasing index.starts) (hpos : 0 < index.starts.size)
    (hzero : index.starts.getD 0 0 = 0) (offset : Nat) :
    index.line offset < index.starts.size ∧ index.starts.getD (index.line offset) 0 ≤ offset ∧
      ∀ j, index.line offset < j → j < index.starts.size → offset < index.starts.getD j 0 := by
  have h := place_fits hinc offset
  unfold LineIndex.line
  split
  · rename_i i hi
    rw [hi] at h
    refine ⟨h.1, Nat.le_of_eq h.2, fun j hj hjs => ?_⟩
    rw [← h.2]
    exact hinc i j hj hjs
  · rename_i i hi
    rw [hi] at h
    have hi0 := insertAt_ne_zero h hpos hzero
    obtain ⟨hsize, hbelow, habove⟩ := h
    refine ⟨by omega, Nat.le_of_lt (hbelow (i - 1) (by omega)), fun j hj hjs => ?_⟩
    exact habove j (by omega) hjs

theorem line_ofText_spec (text : List Char) (offset : Nat) :
    (LineIndex.ofText text).line offset < (LineIndex.ofText text).starts.size ∧
      (LineIndex.ofText text).starts.getD ((LineIndex.ofText text).line offset) 0 ≤ offset ∧
      ∀ j, (LineIndex.ofText text).line offset < j → j < (LineIndex.ofText text).starts.size →
        offset < (LineIndex.ofText text).starts.getD j 0 :=
  line_spec (increasing_starts text) (by simp [LineIndex.ofText]) (by simp [LineIndex.ofText]) offset

/-! ## Locations -/

/-- The start of a line is where the text from that line on begins. -/
theorem starts_getD {text : List Char} {k : Nat} (hk : k < (LineIndex.ofText text).starts.size) :
    ∃ before line, text = before ++ line ∧
      (LineIndex.ofText text).starts.getD k 0 = byteLength before ∧
      fromLine? (k + 1) text = some line := by
  cases k with
  | zero => exact ⟨[], text, rfl, by simp [LineIndex.ofText, byteLength], rfl⟩
  | succ k =>
    have hk' : k < (startsAfter 0 text).length := by simpa [LineIndex.ofText] using hk
    obtain ⟨before, line, htext, hs, hline⟩ :=
      startsAfter_getElem? 0 text k _ (List.getElem?_eq_getElem hk')
    exact ⟨before, line, htext, by simpa [LineIndex.ofText, hk'] using hs, hline⟩

/-- Of two ways to divide a text, the one at the smaller offset comes first. -/
theorem append_eq_append_of_byteLength_le {a b c d : List Char} (h : a ++ b = c ++ d)
    (hle : byteLength a ≤ byteLength c) : ∃ skipped, c = a ++ skipped ∧ b = skipped ++ d := by
  rcases List.append_eq_append_iff.1 h with ⟨e, rfl, rfl⟩ | ⟨e, rfl, rfl⟩
  · exact ⟨e, rfl, rfl⟩
  · cases e with
    | nil => exact ⟨[], by simp, by simp⟩
    | cons x e =>
      have := x.utf8Size_pos
      simp only [byteLength_append, byteLength] at hle
      omega

/-- **The location between two parts of a text.** It exists, and the line that it names begins with
the characters before its column, followed by the second part. -/
theorem locate?_append (a b : List Char) :
    ∃ line skipped, locate? (a ++ b) (byteLength a) = some ⟨line, skipped.length + 1⟩ ∧
      fromLine? line (a ++ b) = some (skipped ++ b) := by
  obtain ⟨hlt, hstart, -⟩ := line_ofText_spec (a ++ b) (byteLength a)
  obtain ⟨before, rest, htext, hs, hline⟩ := starts_getD hlt
  rw [hs] at hstart
  obtain ⟨skipped, hskip, rfl⟩ := append_eq_append_of_byteLength_le htext.symm hstart
  refine ⟨_, skipped, ?_, hline⟩
  have hslice : slice? (a ++ b) ⟨byteLength before, byteLength a, hstart⟩ = some skipped :=
    slice?_eq_some_iff.2 ⟨before, b, htext, rfl, by simp [hskip]⟩
  simp [locate?, LineIndex.locate?, hs, Range.between?, hstart, Except.toOption, hslice]

end JavaNaming.Text
