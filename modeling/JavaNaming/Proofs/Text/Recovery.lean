import JavaNaming.Proofs.Text.Scan

/-!
# From a location back to its offset

`offsetAt?` reads a text from the left until it is at a given location, and returns how many bytes it has
read. It knows nothing of the table of line starts by which locations are found.

* `Locates.offset_unique`: two offsets never have the same location, since of two offsets the later one
  has the later location.
* `locates_of_offsetFrom?`, `offsetFrom?_of_locates`: the search keeps the location of what it has read,
  and does not run past an offset that has the location it looks for.
* `locate?_increasing_recoverable`: locations grow with offsets, and the offset can be read off the text
  and the location.
-/

namespace JavaNaming.Text

/-- Two offsets with the same location are equal. -/
theorem Locates.offset_unique {text : List Char} {o o' : Nat} {l : Location}
    (h : Locates text o l) (h' : Locates text o' l) : o = o' := by
  rcases Nat.lt_trichotomy o o' with hlt | heq | hgt
  · have hbefore := h.before h' hlt
    exact absurd hbefore hbefore.asymm
  · exact heq
  · have hbefore := h'.before h hgt
    exact absurd hbefore hbefore.asymm

/-- Read on from location `l` and offset `here` until the location is `target`. -/
def offsetFrom? (here : Nat) (l target : Location) : List Char → Option Nat
  | [] => if l = target then some here else none
  | c :: cs =>
    if l = target then some here
    else offsetFrom? (here + c.utf8Size) (l.after c cs.head?) target cs

/-- The offset that has a given location in a text. -/
def offsetAt? (text : List Char) (l : Location) : Option Nat := offsetFrom? 0 ⟨1, 1⟩ l text

/-- **What the search returns** has the location that it looks for. -/
theorem locates_of_offsetFrom? {target : Location} {a cs : List Char} {l : Location} {o : Nat}
    (h : Locates (a ++ cs) (byteLength a) l)
    (ho : offsetFrom? (byteLength a) l target cs = some o) : Locates (a ++ cs) o target := by
  induction cs generalizing a l with
  | nil =>
    unfold offsetFrom? at ho
    split at ho
    · rename_i heq
      cases ho
      exact heq ▸ h
    · cases ho
  | cons c cs ih =>
    unfold offsetFrom? at ho
    split at ho
    · rename_i heq
      cases ho
      exact heq ▸ h
    · have hlength : byteLength a + c.utf8Size = byteLength (a ++ [c]) := by simp [byteLength]
      rw [hlength] at ho
      have hread := ih h.read ho
      rwa [List.append_assoc, List.singleton_append] at hread

/-- **The search stops** at the offset that has the location it looks for. -/
theorem offsetFrom?_of_locates {target : Location} {a cs : List Char} {l : Location} {o : Nat}
    (h : Locates (a ++ cs) (byteLength a) l) (ho : Locates (a ++ cs) o target)
    (hle : byteLength a ≤ o) : offsetFrom? (byteLength a) l target cs = some o := by
  induction cs generalizing a l with
  | nil =>
    have hstop : o = byteLength a := by
      have := ho.isBoundary.le
      rw [List.append_nil] at this
      omega
    subst hstop
    rw [offsetFrom?, if_pos (h.unique ho)]
  | cons c cs ih =>
    unfold offsetFrom?
    split
    · rename_i heq
      subst heq
      rw [h.offset_unique ho]
    · rename_i hne
      have hlt : byteLength a < o := by
        refine Nat.lt_of_le_of_ne hle fun heq => hne ?_
        subst heq
        exact h.unique ho
      -- The next character lies before `o` as a whole, for `o` is not inside it.
      have hpast : byteLength a + c.utf8Size ≤ o := by
        by_contra hinside
        exact ho.isBoundary.not_inside ⟨a, c, cs, rfl, hlt, by omega⟩
      have hlength : byteLength a + c.utf8Size = byteLength (a ++ [c]) := by simp [byteLength]
      rw [hlength] at hpast ⊢
      refine ih h.read ?_ hpast
      rwa [List.append_assoc, List.singleton_append]

theorem offsetAt?_eq_some_iff {text : List Char} {l : Location} {offset : Nat} :
    offsetAt? text l = some offset ↔ Locates text offset l := by
  have hstart : Locates ([] ++ text) (byteLength []) ⟨1, 1⟩ := locates_start text
  constructor
  · intro h
    exact locates_of_offsetFrom? hstart h
  · intro h
    exact offsetFrom?_of_locates hstart h (Nat.zero_le offset)

/-- **Locations grow with offsets.** Of two offsets between the characters of a text, its end included,
each has a location, and the later one has the later location. So no two offsets share a location, and the
text and the location determine the offset: a search for the location finds exactly the offset that has
it. -/
theorem locate?_increasing_recoverable (text : List Char) :
    (∀ a b, IsBoundary text a → IsBoundary text b → a < b →
        ∃ l m, locate? text a = some l ∧ locate? text b = some m ∧ l.Before m) ∧
      (∀ a b l, locate? text a = some l → locate? text b = some l → a = b) ∧
      ∀ l offset, offsetAt? text l = some offset ↔ locate? text offset = some l := by
  refine ⟨?_, ?_, ?_⟩
  · intro a b ha hb hlt
    obtain ⟨l, hl⟩ := exists_locate? ha
    obtain ⟨m, hm⟩ := exists_locate? hb
    exact ⟨l, m, hl, hm, (locates_of_locate? hl).before (locates_of_locate? hm) hlt⟩
  · intro a b l ha hb
    exact (locates_of_locate? ha).offset_unique (locates_of_locate? hb)
  · intro l offset
    rw [offsetAt?_eq_some_iff, locate?_eq_some_iff]

/-- The two characters of one line end: the offset between them is still in the first line, and the one
after them starts the second. -/
theorem locate?_increasing_recoverable_lineEnd :
    ∃ l m, locate? "é\r\nb".toList 3 = some l ∧ locate? "é\r\nb".toList 4 = some m ∧ l.Before m ∧
      l = ⟨1, 3⟩ ∧ m = ⟨2, 1⟩ ∧ offsetAt? "é\r\nb".toList l = some 3 := by
  obtain ⟨hincreasing, -, hrecover⟩ := locate?_increasing_recoverable "é\r\nb".toList
  obtain ⟨l, m, hl, hm, hbefore⟩ := hincreasing 3 4 (by decide) (by decide) (by decide)
  have hl' : locate? "é\r\nb".toList 3 = some ⟨1, 3⟩ := by decide
  have hm' : locate? "é\r\nb".toList 4 = some ⟨2, 1⟩ := by decide
  refine ⟨l, m, hl, hm, hbefore, ?_, ?_, (hrecover l 3).2 hl⟩
  · exact Option.some.inj (hl.symm.trans hl')
  · exact Option.some.inj (hm.symm.trans hm')

end JavaNaming.Text
