import JavaNaming.Proofs.Text.ByteOrder
import JavaNaming.Proofs.Text.Scan
import Mathlib.Data.List.Sort

/-!
# Line starts read off the bytes

The table of line starts is built from the characters of a text. Here it is read off the bytes: at each
line feed and each carriage return the text is cut, and the size of what comes before the cut is put into
the table (`readStarts`). A byte may be missing, a cut may fall inside a character and a size may be too
large, and each of these is a `Fault`.

* `eq_of_mem_encode`, `getElem?_utf8_iff`: a byte below 128 is a character of its own, so what looks like a
  line end among the bytes is one.
* `addStart_break`, `foldlM_addStart`: one round of the reading has no fault, and so the whole reading has
  none.
* `mem_map_breaks`, `readStarts_eq`: what is read are the ends of the lines in increasing order, and this is
  the table that is built from the characters.
* `startTable_ofText`: the table begins with zero, increases, and has only boundaries of the text.
-/

namespace JavaNaming.Text

/-- Something that a computation with offsets asks for and that does not exist. -/
inductive Fault where
  /-- A byte past the last one. -/
  | byte (position : Nat)
  /-- A part of the text that ends past its end, or that begins or ends inside a character. -/
  | part (range : Range)
  /-- An offset that is too large. -/
  | offset (error : OffsetError)
  /-- The line before the first one. -/
  | lineBefore
  /-- The start of a line that is not in the table. -/
  | lineStart (line : Nat)
  /-- A range that ends before it begins. -/
  | range (error : RangeError)
deriving DecidableEq, Repr

/-- What is asked for, or a fault if it does not exist. -/
def orFault {α : Type} (fault : Fault) : Option α → Except Fault α
  | some a => .ok a
  | none => .error fault

/-! ## Bytes below 128 -/

/-- The bytes of a text in UTF-8. -/
def utf8 (text : List Char) : List UInt8 := bytes (String.ofList text)

theorem utf8_eq (text : List Char) : utf8 text = text.flatMap String.utf8EncodeChar := by
  rw [utf8, bytes_eq, String.toList_ofList]

theorem utf8_append (a b : List Char) : utf8 (a ++ b) = utf8 a ++ utf8 b := by
  simp only [utf8_eq, List.flatMap_append]

theorem utf8_cons (c : Char) (cs : List Char) :
    utf8 (c :: cs) = String.utf8EncodeChar c ++ utf8 cs := by
  simp only [utf8_eq, List.flatMap_cons]

theorem length_utf8 (text : List Char) : (utf8 text).length = byteLength text := by
  induction text with
  | nil => simp [utf8_eq, byteLength]
  | cons c cs ih => rw [utf8_cons, List.length_append, String.length_utf8EncodeChar, ih, byteLength]

theorem encode_of_lt {c : Char} (hc : c.toNat < 128) : String.utf8EncodeChar c = [c.toUInt8] := by
  have hc : c.val.toNat ≤ 127 := Nat.le_of_lt_succ hc
  unfold String.utf8EncodeChar
  rw [if_pos hc]
  rfl

theorem le_of_mem_encode {c : Char} (hc : 128 ≤ c.toNat) :
    ∀ b ∈ String.utf8EncodeChar c, 128 ≤ b.toNat := by
  have hlarge (v : Nat) (h : 128 ≤ v % 256) : 128 ≤ (UInt8.ofNat v).toNat := by
    rwa [UInt8.toNat_ofNat']
  have hc : ¬ c.val.toNat ≤ 127 := Nat.not_le.2 hc
  unfold String.utf8EncodeChar
  rw [if_neg hc]
  split_ifs
  all_goals simp only [List.forall_mem_cons, List.not_mem_nil, false_imp_iff, implies_true, and_true]
  · exact ⟨hlarge _ (by omega), hlarge _ (by omega)⟩
  · exact ⟨hlarge _ (by omega), hlarge _ (by omega), hlarge _ (by omega)⟩
  · exact ⟨hlarge _ (by omega), hlarge _ (by omega), hlarge _ (by omega), hlarge _ (by omega)⟩

/-- A byte below 128 belongs to no character but its own. -/
theorem eq_of_mem_encode {c d : Char} (hd : d.toNat < 128)
    (h : d.toUInt8 ∈ String.utf8EncodeChar c) : c = d := by
  have hnumber {c : Char} (hc : c.toNat < 128) : c.toUInt8.toNat = c.toNat := by
    show c.toNat % 256 = c.toNat
    omega
  rcases Nat.lt_or_ge c.toNat 128 with hc | hc
  · rw [encode_of_lt hc, List.mem_singleton] at h
    rw [← Char.toNat_inj, ← hnumber hc, ← hnumber hd, h]
  · have := le_of_mem_encode hc _ h
    rw [hnumber hd] at this
    omega

/-- **A byte below 128** is found among the bytes of a text exactly where its character begins. -/
theorem getElem?_utf8_iff {d : Char} (hd : d.toNat < 128) {text : List Char} {p : Nat} :
    (utf8 text)[p]? = some d.toUInt8 ↔
      ∃ before after, text = before ++ d :: after ∧ byteLength before = p := by
  constructor
  · intro h
    induction text generalizing p with
    | nil => simp [utf8_eq] at h
    | cons c cs ih =>
      rw [utf8_cons] at h
      rcases Nat.lt_or_ge p (String.utf8EncodeChar c).length with hlt | hge
      · rw [List.getElem?_append_left hlt] at h
        obtain rfl := eq_of_mem_encode hd (List.mem_of_getElem? h)
        have hp : p = 0 := by simpa [encode_of_lt hd] using hlt
        exact ⟨[], cs, rfl, hp.symm⟩
      · rw [List.getElem?_append_right hge] at h
        obtain ⟨before, after, rfl, hlen⟩ := ih h
        rw [String.length_utf8EncodeChar] at hge hlen
        exact ⟨c :: before, after, rfl, by rw [byteLength]; omega⟩
  · rintro ⟨before, after, rfl, rfl⟩
    rw [utf8_append, List.getElem?_append_right (Nat.le_of_eq (length_utf8 before)), length_utf8,
      Nat.sub_self, utf8_cons, encode_of_lt hd]
    rfl

theorem getElem?_utf8_append {d : Char} (hd : d.toNat < 128) (before after : List Char) :
    (utf8 (before ++ after))[byteLength before]? = some d.toUInt8 ↔ after.head? = some d := by
  rw [getElem?_utf8_iff hd]
  constructor
  · rintro ⟨before', after', htext, hlen⟩
    obtain ⟨-, rfl⟩ := append_inj_of_byteLength_eq htext hlen.symm
    rfl
  · intro h
    obtain ⟨after', rfl⟩ := List.head?_eq_some_iff.1 h
    exact ⟨before, after', rfl, rfl⟩

/-! ## Reading the bytes -/

/-- The positions of the line feeds and the carriage returns among the bytes of a text. -/
def breaks (text : List Char) : List Nat :=
  (List.range (utf8 text).length).filter fun p =>
    (utf8 text)[p]? = some '\n'.toUInt8 ∨ (utf8 text)[p]? = some '\r'.toUInt8

/-- One round of the reading. The start of a line is the size of the text up to the break and with it. A
carriage return before a line feed is left to the line feed. -/
def addStart (text : List Char) (starts : Array Nat) (p : Nat) : Except Fault (Array Nat) := do
  let byte ← orFault (.byte p) (utf8 text)[p]?
  if byte = '\r'.toUInt8 ∧ (utf8 text)[p + 1]? = some '\n'.toUInt8 then
    return starts
  else
    let line ← orFault (.part (.upTo 0 (p + 1))) (slice? text (.upTo 0 (p + 1)))
    let start ← (offset? (byteLength line)).mapError .offset
    return starts.push start

/-- The starts of the lines of a text, read off its bytes. -/
def readStarts (text : List Char) : Except Fault (Array Nat) :=
  (breaks text).foldlM (addStart text) #[0]

theorem utf8Size_of_break {c : Char} (hc : c = '\n' ∨ c = '\r') : c.utf8Size = 1 := by
  rcases hc with rfl | rfl <;> decide

/-- A break is a character of the text. -/
theorem mem_breaks {text : List Char} {p : Nat} :
    p ∈ breaks text ↔ ∃ before c after, text = before ++ c :: after ∧ (c = '\n' ∨ c = '\r') ∧
      byteLength before = p := by
  rw [breaks, List.mem_filter, List.mem_range, length_utf8, decide_eq_true_iff,
    getElem?_utf8_iff (by decide), getElem?_utf8_iff (by decide)]
  constructor
  · rintro ⟨-, ⟨before, after, rfl, rfl⟩ | ⟨before, after, rfl, rfl⟩⟩
    · exact ⟨before, '\n', after, rfl, .inl rfl, rfl⟩
    · exact ⟨before, '\r', after, rfl, .inr rfl, rfl⟩
  · rintro ⟨before, c, after, rfl, hc, rfl⟩
    have hpos := c.utf8Size_pos
    refine ⟨by simp only [byteLength_append, byteLength]; omega, ?_⟩
    rcases hc with rfl | rfl
    · exact .inl ⟨before, after, rfl, rfl⟩
    · exact .inr ⟨before, after, rfl, rfl⟩

/-- A break that is left to the line feed after it. -/
def Skipped (text : List Char) (p : Nat) : Prop :=
  (utf8 text)[p]? = some '\r'.toUInt8 ∧ (utf8 text)[p + 1]? = some '\n'.toUInt8

instance (text : List Char) (p : Nat) : Decidable (Skipped text p) :=
  inferInstanceAs (Decidable (_ ∧ _))

/-- The breaks that are skipped are those that end no line. -/
theorem skipped_iff {before after : List Char} {c : Char} (hc : c = '\n' ∨ c = '\r') :
    Skipped (before ++ c :: after) (byteLength before) ↔ endsLine c after.head? = false := by
  rw [Skipped, getElem?_utf8_append (by decide), List.head?_cons]
  rcases hc with rfl | rfl
  · simp [endsLine]
  · have hsplit : before ++ '\r' :: after = (before ++ ['\r']) ++ after := by simp
    have hnext : byteLength before + 1 = byteLength (before ++ ['\r']) := by
      rw [byteLength_append]
      rfl
    rw [hsplit, hnext, getElem?_utf8_append (by decide)]
    simp [endsLine]

/-- **One round** of the reading has no fault. -/
theorem addStart_break {text : List Char} (hfits : byteLength text < offsetLimit) {p : Nat}
    (hp : p ∈ breaks text) (starts : Array Nat) :
    addStart text starts p = .ok (if Skipped text p then starts else starts.push (p + 1)) := by
  obtain ⟨before, c, after, rfl, hc, rfl⟩ := mem_breaks.1 hp
  have hascii : c.toNat < 128 := by rcases hc with rfl | rfl <;> decide
  have hsize := utf8Size_of_break hc
  have hbyte : (utf8 (before ++ c :: after))[byteLength before]? = some c.toUInt8 :=
    (getElem?_utf8_append hascii before (c :: after)).2 rfl
  -- The cut falls behind the break, which is a whole character of one byte.
  have hline : slice? (before ++ c :: after) (.upTo 0 (byteLength before + 1)) =
      some (before ++ [c]) :=
    slice?_eq_some_iff.2 ⟨[], after, by simp, rfl, by simp [Range.upTo, byteLength, hsize]⟩
  have hstart : offset? (byteLength (before ++ [c])) = .ok (byteLength before + 1) := by
    simp only [byteLength_append, byteLength, hsize] at hfits ⊢
    rw [offset?, if_pos (by omega)]
  have hskipped : Skipped (before ++ c :: after) (byteLength before) ↔
      c.toUInt8 = '\r'.toUInt8 ∧
        (utf8 (before ++ c :: after))[byteLength before + 1]? = some '\n'.toUInt8 := by
    rw [Skipped, hbyte, Option.some.injEq]
  by_cases hskip : Skipped (before ++ c :: after) (byteLength before)
  · rw [if_pos hskip, addStart, hbyte]
    show (if _ then _ else _) = _
    rw [if_pos (hskipped.1 hskip)]
    rfl
  · rw [if_neg hskip, addStart, hbyte]
    show (if _ then _ else _) = _
    rw [if_neg (mt hskipped.2 hskip), hline]
    show (Except.mapError _ _ >>= _) = _
    rw [hstart]
    rfl

/-- **The reading** has no fault. -/
theorem foldlM_addStart {text : List Char} (hfits : byteLength text < offsetLimit) (ps : List Nat)
    (hps : ps ⊆ breaks text) (starts : Array Nat) :
    ps.foldlM (addStart text) starts =
      .ok (starts ++ ((ps.filter (¬ Skipped text ·)).map (· + 1)).toArray) := by
  induction ps generalizing starts with
  | nil => simp [pure, Except.pure]
  | cons p ps ih =>
    obtain ⟨hp, hps⟩ := List.cons_subset.1 hps
    rw [List.foldlM_cons, addStart_break hfits hp]
    show ps.foldlM _ _ = _
    rw [ih hps]
    by_cases hskip : Skipped text p
    · simp [hskip]
    · simp [hskip]

/-- What is read off the bytes are the offsets at which line ends stop. -/
theorem mem_map_breaks {text : List Char} {s : Nat} :
    s ∈ ((breaks text).filter (¬ Skipped text ·)).map (· + 1) ↔ LineEndsAt text s := by
  simp only [List.mem_map, List.mem_filter, mem_breaks, decide_eq_true_iff]
  constructor
  · rintro ⟨p, ⟨⟨before, c, after, rfl, hc, rfl⟩, hskip⟩, rfl⟩
    rw [skipped_iff hc, Bool.not_eq_false] at hskip
    exact ⟨before, c, after, rfl, hskip, by rw [utf8Size_of_break hc]⟩
  · rintro ⟨before, c, after, rfl, hends, rfl⟩
    have hc : c = '\n' ∨ c = '\r' := by
      simp only [endsLine, Bool.or_eq_true, Bool.and_eq_true, decide_eq_true_iff] at hends
      exact hends.imp_right And.left
    refine ⟨byteLength before, ⟨⟨before, c, after, rfl, hc, rfl⟩, ?_⟩, by rw [utf8Size_of_break hc]⟩
    rwa [skipped_iff hc, Bool.not_eq_false]

/-- **The starts of the lines** can be read off the bytes of a text, and they are those of the table. -/
theorem readStarts_eq {text : List Char} (hfits : byteLength text < offsetLimit) :
    readStarts text = .ok (LineIndex.ofText text).starts := by
  have hincreasing : (((breaks text).filter (¬ Skipped text ·)).map (· + 1)).Pairwise (· < ·) :=
    ((List.pairwise_lt_range.filter _).filter _).map _ fun _ _ => Nat.succ_lt_succ
  have hread : ((breaks text).filter (¬ Skipped text ·)).map (· + 1) = startsAfter 0 text := by
    refine hincreasing.eq_of_mem_iff (pairwise_startsAfter 0 text) fun s => ?_
    rw [mem_map_breaks, mem_startsAfter, Nat.sub_zero]
    exact (and_iff_right (Nat.zero_le s)).symm
  rw [readStarts, foldlM_addStart hfits _ (List.Subset.refl _), hread]
  simp [LineIndex.ofText]

/-! ## What the table is like -/

/-- A table of offsets that begins with the start of the text, increases, and has only offsets between the
characters of the text. -/
structure StartTable (text : List Char) (starts : Array Nat) : Prop where
  first : starts[0]? = some 0
  increasing : starts.toList.Pairwise (· < ·)
  le_length : ∀ s ∈ starts, s ≤ byteLength text
  boundary : ∀ s ∈ starts, IsBoundary text s

theorem startTable_ofText (text : List Char) : StartTable text (LineIndex.ofText text).starts := by
  have hboundary : ∀ s ∈ (LineIndex.ofText text).starts, IsBoundary text s := by
    intro s hs
    rcases List.mem_cons.1 (List.mem_toArray.1 hs) with rfl | hs
    · exact ⟨[], text, rfl, rfl⟩
    · exact ((mem_startsAfter 0 text s).1 hs).2.isBoundary
  refine ⟨rfl, ?_, fun s hs => (hboundary s hs).le, hboundary⟩
  exact .cons (lt_of_mem_startsAfter 0 text) (pairwise_startsAfter 0 text)

end JavaNaming.Text
