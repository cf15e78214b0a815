import JavaNaming.Pattern.Meaning
import JavaNaming.Proofs.Pattern.Matching

/-!
# The words of a description

A description without conditions on places does not look at what is around a match. Its matches can then be
described by words alone, by splitting a word into the words of its parts (`Regex.Spells`).

* `matches_iff_spells`: a match from a place on is a word of the description that the text continues with.
  For repetitions the rounds spell the words of a list, one after the other (`rounds_iff_spells`).
* `matches_whole_iff`: a text matches as a whole exactly if it is a word of the description.
* `matches_anchored_iff`: conditions on the start and the end of the text around a sequence change nothing
  for the text as a whole.
* `spells_repeated_chars`: the words of a repeated set of characters, in particular without a limit on their
  length (`spells_many_chars`, `spells_many1_chars`).
-/

namespace JavaNaming.Pattern.Regex

open Unicode (CharSet)

/-- Whether a description has no conditions on places. -/
def isPlain : Regex → Bool
  | empty | chars _ => true
  | look _ => false
  | capture body | repetition _ body => body.isPlain
  | seq a b | alt a b => a.isPlain && b.isPlain

/-- Whether a word matches a description by itself. A condition on places is no matter of words, and has
none. -/
def Spells : Regex → List Char → Prop
  | empty, w => w = []
  | chars set, w => ∃ c, w = [c] ∧ set.contains c = true
  | look _, _ => False
  | capture body, w => body.Spells w
  | repetition counts body, w =>
    ∃ ws : List (List Char), w = ws.flatten ∧ counts.least ≤ ws.length ∧
      (∀ m ∈ counts.most, ws.length ≤ m) ∧ ∀ v ∈ ws, body.Spells v
  | seq a b, w => ∃ u v, w = u ++ v ∧ a.Spells u ∧ b.Spells v
  | alt a b, w => a.Spells w ∨ b.Spells w

/-! ## Matches by words -/

/-- A text continues after `before` with a word of the description that ends at place `j`. -/
def Continues (r : Regex) (before rest : List Char) (j : Nat) : Prop :=
  ∃ w after, rest = w ++ after ∧ j = before.length + w.length ∧ r.Spells w

/-- **Rounds of a repetition** spell one word after the other. -/
theorem rounds_iff_spells {body : Regex}
    (hbody : ∀ before rest j, body.Matches (before ++ rest).toArray before.length j ↔
      body.Continues before rest j) (n : Nat) (before rest : List Char) (j : Nat) :
    Rounds (body.Matches (before ++ rest).toArray) n before.length j ↔
      ∃ (ws : List (List Char)) (after : List Char), rest = ws.flatten ++ after ∧
        j = before.length + ws.flatten.length ∧
        ws.length = n ∧ ∀ v ∈ ws, body.Spells v := by
  induction n generalizing before rest with
  | zero =>
    constructor
    · intro h
      exact ⟨[], rest, rfl, h.symm, rfl, by simp⟩
    · rintro ⟨ws, after, -, rfl, hlength, -⟩
      rw [List.length_eq_zero_iff.1 hlength]
      rfl
  | succ n ih =>
    constructor
    · rintro ⟨m, hm, hrounds⟩
      obtain ⟨w, after, rfl, rfl, hw⟩ := (hbody before rest m).1 hm
      rw [← List.append_assoc, ← List.length_append, ih] at hrounds
      obtain ⟨ws, after', rfl, rfl, rfl, hws⟩ := hrounds
      refine ⟨w :: ws, after', by simp, by simp [Nat.add_assoc], rfl, ?_⟩
      exact List.forall_mem_cons.2 ⟨hw, hws⟩
    · rintro ⟨ws, after, rfl, rfl, hlength, hws⟩
      cases ws with
      | nil => cases hlength
      | cons w ws =>
        obtain ⟨hw, hws⟩ := List.forall_mem_cons.1 hws
        rw [List.flatten_cons, List.append_assoc] at *
        refine ⟨before.length + w.length, (hbody _ _ _).2 ⟨w, ws.flatten ++ after, rfl, rfl, hw⟩, ?_⟩
        rw [← List.append_assoc, ← List.length_append, ih]
        exact ⟨ws, after, rfl, by simp [Nat.add_assoc], Nat.succ.inj hlength, hws⟩

/-- **Matches without conditions** are the words that the text continues with. -/
theorem matches_iff_spells {r : Regex} (hplain : r.isPlain = true) (before rest : List Char)
    (j : Nat) : r.Matches (before ++ rest).toArray before.length j ↔ r.Continues before rest j := by
  induction r generalizing before rest j with
  | empty =>
    constructor
    · rintro rfl
      exact ⟨[], rest, rfl, rfl, rfl⟩
    · rintro ⟨w, after, -, rfl, rfl⟩
      rfl
  | chars set =>
    have hat : (before ++ rest).toArray[before.length]? = rest.head? := by
      rw [List.getElem?_toArray, List.getElem?_append_right (Nat.le_refl _), Nat.sub_self,
        List.head?_eq_getElem?]
    constructor
    · rintro ⟨⟨c, hc, hset⟩, rfl⟩
      rw [hat] at hc
      obtain ⟨after, rfl⟩ := List.head?_eq_some_iff.1 hc
      exact ⟨[c], after, rfl, rfl, c, rfl, hset⟩
    · rintro ⟨w, after, rfl, rfl, c, rfl, hset⟩
      exact ⟨⟨c, hat, hset⟩, rfl⟩
  | look l => cases hplain
  | capture body ih => exact ih hplain before rest j
  | repetition counts body ih =>
    simp only [Matches, rounds_iff_spells (ih hplain)]
    constructor
    · rintro ⟨n, hleast, hmost, ws, after, hrest, hj, rfl, hws⟩
      exact ⟨ws.flatten, after, hrest, hj, ws, rfl, hleast, hmost, hws⟩
    · rintro ⟨w, after, hrest, hj, ws, rfl, hleast, hmost, hws⟩
      exact ⟨ws.length, hleast, hmost, ws, after, hrest, hj, rfl, hws⟩
  | seq a b iha ihb =>
    obtain ⟨ha, hb⟩ := Bool.and_eq_true_iff.1 hplain
    simp only [Matches, iha ha]
    constructor
    · rintro ⟨m, ⟨u, after, rfl, rfl, hu⟩, hmatch⟩
      rw [← List.append_assoc, ← List.length_append, ihb hb] at hmatch
      obtain ⟨v, after', rfl, rfl, hv⟩ := hmatch
      exact ⟨u ++ v, after', by simp, by simp [Nat.add_assoc], u, v, rfl, hu, hv⟩
    · rintro ⟨w, after, rfl, rfl, u, v, rfl, hu, hv⟩
      refine ⟨before.length + u.length, ⟨u, v ++ after, by simp, rfl, hu⟩, ?_⟩
      rw [List.append_assoc, ← List.append_assoc, ← List.length_append, ihb hb]
      exact ⟨v, after, rfl, by simp [Nat.add_assoc], hv⟩
  | alt a b iha ihb =>
    obtain ⟨ha, hb⟩ := Bool.and_eq_true_iff.1 hplain
    simp only [Matches, iha ha, ihb hb]
    constructor
    · rintro (⟨w, after, hrest, hj, hw⟩ | ⟨w, after, hrest, hj, hw⟩)
      · exact ⟨w, after, hrest, hj, .inl hw⟩
      · exact ⟨w, after, hrest, hj, .inr hw⟩
    · rintro ⟨w, after, hrest, hj, hw | hw⟩
      · exact .inl ⟨w, after, hrest, hj, hw⟩
      · exact .inr ⟨w, after, hrest, hj, hw⟩

/-- **A text matches as a whole** exactly if it is a word of the description. -/
theorem matches_whole_iff {r : Regex} (hplain : r.isPlain = true) (text : List Char) :
    r.Matches text.toArray 0 text.length ↔ r.Spells text := by
  have hwords := matches_iff_spells hplain [] text text.length
  rw [List.nil_append, List.length_nil] at hwords
  rw [hwords]
  constructor
  · rintro ⟨w, after, rfl, hlength, hw⟩
    have hafter : after = [] := by simpa using hlength
    rwa [hafter, List.append_nil]
  · intro h
    exact ⟨text, [], (List.append_nil text).symm, by simp, h⟩

/-! ## Conditions at both ends -/

/-- A sequence in two parts is matched part by part. -/
theorem matches_sequence_append {text : Array Char} (rs : List Regex) :
    ∀ {ss : List Regex} {i j : Nat}, (sequence (rs ++ ss)).Matches text i j ↔
      ∃ m, (sequence rs).Matches text i m ∧ (sequence ss).Matches text m j := by
  have hcons : ∀ (r : Regex) (ss : List Regex) (i j : Nat),
      (sequence (r :: ss)).Matches text i j ↔
        ∃ m, r.Matches text i m ∧ (sequence ss).Matches text m j := by
    intro r ss i j
    cases ss with
    | nil => simp [sequence, Matches]
    | cons s ss => rfl
  induction rs with
  | nil => simp [sequence, Matches]
  | cons r rs ih =>
    intro ss i j
    simp only [List.cons_append, hcons, ih]
    constructor
    · rintro ⟨m, hr, k, hrs, hss⟩
      exact ⟨k, ⟨m, hr, hrs⟩, hss⟩
    · rintro ⟨k, ⟨m, hr, hrs⟩, hss⟩
      exact ⟨m, hr, k, hrs, hss⟩

/-- **Conditions on the start and the end** of a text, around a sequence, hold for every match of the whole
text. -/
theorem matches_anchored_iff (rs : List Regex) (text : List Char) :
    (sequence ([look .start] ++ (rs ++ [look .stop]))).Matches text.toArray 0 text.length ↔
      (sequence rs).Matches text.toArray 0 text.length := by
  have hstart : Look.start.holds text.toArray 0 = true := by simp [Look.holds, Look.holdsBetween]
  have hstop : Look.stop.holds text.toArray text.length = true := by
    simp [Look.holds, Look.holdsBetween]
  simp only [matches_sequence_append, sequence, Matches]
  constructor
  · rintro ⟨m, ⟨-, rfl⟩, k, h, -, rfl⟩
    exact h
  · intro h
    exact ⟨0, ⟨hstart, rfl⟩, text.length, h, hstop, rfl⟩

/-! ## Repeated characters -/

/-- Words of one character each, one after the other, are a word of such characters. -/
theorem flatten_of_singletons {P : Char → Prop} {ws : List (List Char)}
    (h : ∀ v ∈ ws, ∃ c, v = [c] ∧ P c) :
    ws.flatten.length = ws.length ∧ ∀ c ∈ ws.flatten, P c := by
  induction ws with
  | nil => simp
  | cons v ws ih =>
    obtain ⟨⟨c, rfl, hc⟩, hws⟩ := List.forall_mem_cons.1 h
    obtain ⟨hlength, hall⟩ := ih hws
    exact ⟨by simp [hlength], by simpa [hc] using hall⟩

/-- **The words of a repeated set** are those of allowed length with all characters in the set. -/
theorem spells_repeated_chars {counts : Counts} {set : CharSet} {w : List Char} :
    (repetition counts (chars set)).Spells w ↔
      counts.least ≤ w.length ∧ (∀ m ∈ counts.most, w.length ≤ m) ∧
        ∀ c ∈ w, set.contains c = true := by
  constructor
  · rintro ⟨ws, rfl, hleast, hmost, hws⟩
    obtain ⟨hlength, hall⟩ := flatten_of_singletons hws
    rw [hlength]
    exact ⟨hleast, hmost, hall⟩
  · rintro ⟨hleast, hmost, hall⟩
    refine ⟨w.map ([·]), ?_, by simpa using hleast, by simpa using hmost, ?_⟩
    · rw [← List.flatMap_def, List.flatMap_singleton']
    · intro v hv
      obtain ⟨c, hc, rfl⟩ := List.mem_map.1 hv
      exact ⟨c, rfl, hall c hc⟩

/-- Any number of rounds from a given one on. -/
def atLeast (least : Nat) : Counts :=
  ⟨least, none, fun m hm => absurd hm (Option.not_mem_none m)⟩

/-- Any number of rounds. -/
def many (body : Regex) : Regex := repetition (atLeast 0) body

/-- One round or more. -/
def many1 (body : Regex) : Regex := repetition (atLeast 1) body

theorem spells_many {body : Regex} {w : List Char} : (many body).Spells w ↔
    ∃ ws : List (List Char), w = ws.flatten ∧ ∀ v ∈ ws, body.Spells v := by
  simp [many, atLeast, Spells]

theorem spells_many_chars {set : CharSet} {w : List Char} :
    (many (chars set)).Spells w ↔ ∀ c ∈ w, set.contains c = true := by
  simp [many, atLeast, spells_repeated_chars]

theorem spells_many1_chars {set : CharSet} {w : List Char} :
    (many1 (chars set)).Spells w ↔ w ≠ [] ∧ ∀ c ∈ w, set.contains c = true := by
  simp [many1, atLeast, spells_repeated_chars, Nat.one_le_iff_ne_zero]

end JavaNaming.Pattern.Regex
