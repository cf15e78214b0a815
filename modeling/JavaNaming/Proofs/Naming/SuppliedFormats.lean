import JavaNaming.Config.Checkstyle
import JavaNaming.Proofs.Naming.WholeName
import JavaNaming.Proofs.Pattern.Words
import Mathlib.Data.List.Chain

/-!
# The names that the supplied formats accept

The formats that need not be configured are the three built-in ones and those that go with the Checkstyle
modules. Here the names that they accept are described character by character.

* `contains_eq`: a set with ranges in order contains the characters between their ends, so the sets in the
  formats are the classes of ASCII letters and digits.
* `accepts_of_plain`, `accepts_of_anchored`: a format accepts the words of its description, whether it
  has conditions on the ends of the name of its own or not.
* `spells_startsWith`, `spells_camelWords`, `spells_snakeWords`, `spells_catchWords`: the words of the
  descriptions. The words of repeated groups are joined and split by induction
  (`isSnakeCase_join`, `exists_words_of_isSnakeCase`).
* `supplied_formats_accept`: the names that each of the supplied formats accepts.
-/

namespace JavaNaming.Naming

open Pattern (Regex AsciiClass)
open Unicode (CharSet)

/-! ## Names by their characters -/

/-- A character of one kind, and then only characters of another. -/
def StartsWith (first rest : Char → Bool) (name : List Char) : Prop :=
  ∃ c cs, name = c :: cs ∧ first c = true ∧ ∀ d ∈ cs, rest d = true

/-- Some small letters, and then nothing, or a capital and only letters and digits after it. -/
def IsCamelCase (name : List Char) : Prop :=
  ∃ head tail, name = head ++ tail ∧ head ≠ [] ∧ (∀ c ∈ head, c.isLower = true) ∧
    (tail = [] ∨ StartsWith Char.isUpper Char.isAlphanum tail)

/-- Small letters and underscores, with no underscore at either end and no two next to each other. -/
structure IsSnakeCase (name : List Char) : Prop where
  nonempty : name ≠ []
  characters : ∀ c ∈ name, c.isLower = true ∨ c = '_'
  first : name.head? ≠ some '_'
  last : name.getLast? ≠ some '_'
  apart : name.IsChain fun a b => a ≠ '_' ∨ b ≠ '_'

/-- One of four short names, or two small letters and then one or more letters. -/
def IsCatchName (name : List Char) : Prop :=
  name ∈ [['e'], ['t'], ['e', 'x'], ['_']] ∨
    ∃ a b cs, name = a :: b :: cs ∧ a.isLower = true ∧ b.isLower = true ∧ cs ≠ [] ∧
      ∀ c ∈ cs, c.isAlpha = true

/-! ## Sets of characters -/

theorem isLower_iff {c : Char} : c.isLower = true ↔ 97 ≤ c.toNat ∧ c.toNat ≤ 122 := by
  show (decide (c.val ≥ 97) && decide (c.val ≤ 122)) = true ↔ _
  rw [Bool.and_eq_true, decide_eq_true_iff, decide_eq_true_iff]
  rfl

theorem isUpper_iff {c : Char} : c.isUpper = true ↔ 65 ≤ c.toNat ∧ c.toNat ≤ 90 := by
  show decide (c.val ≥ 65 ∧ c.val ≤ 90) = true ↔ _
  rw [decide_eq_true_iff]
  rfl

theorem isAlpha_iff {c : Char} :
    c.isAlpha = true ↔ 65 ≤ c.toNat ∧ c.toNat ≤ 90 ∨ 97 ≤ c.toNat ∧ c.toNat ≤ 122 := by
  show (c.isUpper || c.isLower) = true ↔ _
  rw [Bool.or_eq_true, isUpper_iff, isLower_iff]

theorem isAlphanum_iff {c : Char} : c.isAlphanum = true ↔
    48 ≤ c.toNat ∧ c.toNat ≤ 57 ∨ 65 ≤ c.toNat ∧ c.toNat ≤ 90 ∨ 97 ≤ c.toNat ∧ c.toNat ≤ 122 := by
  show (c.isAlpha || c.isDigit) = true ↔ _
  rw [Bool.or_eq_true, isAlpha_iff, Char.isDigit_iff_toNat, or_comm]
  rfl

/-- The ranges are in order, so nothing is missed when the search ends at one that starts too late. -/
theorem inRanges_iff {n : Nat} {ranges : List (Nat × Nat)}
    (hordered : ranges.Pairwise fun r r' => r.1 ≤ r'.1) :
    CharSet.inRanges n ranges = true ↔ ∃ r ∈ ranges, r.1 ≤ n ∧ n ≤ r.2 := by
  induction ranges with
  | nil => simp [CharSet.inRanges]
  | cons r rs ih =>
    obtain ⟨hfirst, hordered⟩ := List.pairwise_cons.1 hordered
    simp only [CharSet.inRanges, List.exists_mem_cons_iff]
    split
    · rename_i hlate
      refine iff_of_false nofun ?_
      rintro (⟨hle, -⟩ | ⟨r', hr', hle, -⟩)
      · omega
      · have := hfirst r' hr'
        omega
    · split
      · exact iff_of_true rfl (.inl ⟨by omega, by omega⟩)
      · rw [ih hordered, or_iff_right (by omega)]

theorem contains_eq {s : CharSet} {p : Char → Bool}
    (hordered : s.ranges.Pairwise fun r r' => r.1 ≤ r'.1)
    (h : ∀ c, p c = true ↔ ∃ r ∈ s.ranges, r.1 ≤ c.toNat ∧ c.toNat ≤ r.2) : s.contains = p := by
  funext c
  rw [Bool.eq_iff_iff, h]
  exact inRanges_iff hordered

@[simp] theorem contains_lower : AsciiClass.lower.chars.contains = Char.isLower :=
  contains_eq (by decide) fun c => by simp [AsciiClass.chars, isLower_iff]

@[simp] theorem contains_upper : AsciiClass.upper.chars.contains = Char.isUpper :=
  contains_eq (by decide) fun c => by simp [AsciiClass.chars, isUpper_iff]

@[simp] theorem contains_alpha : AsciiClass.alpha.chars.contains = Char.isAlpha :=
  contains_eq (by decide) fun c => by simp [AsciiClass.chars, isAlpha_iff]

@[simp] theorem contains_alnum : AsciiClass.alnum.chars.contains = Char.isAlphanum :=
  contains_eq (by decide) fun c => by simp [AsciiClass.chars, isAlphanum_iff]

theorem contains_single {c d : Char} : (CharSet.single c).contains d = true ↔ d = c := by
  have hsearch : (CharSet.single c).contains d = true ↔ _ := inRanges_iff (List.pairwise_singleton _ _)
  rw [hsearch, ← Char.toNat_inj]
  simp [CharSet.single, CharSet.range, Nat.le_antisymm_iff, and_comm]

theorem isAlphanum_of_isUpper {c : Char} (h : c.isUpper = true) : c.isAlphanum = true :=
  isAlphanum_iff.2 (.inr (.inl (isUpper_iff.1 h)))

theorem underscore_not_isLower : Char.isLower '_' = false := by decide

/-! ## Formats and their words -/

/-- A format can be used, and accepts exactly the names with a property. -/
def Accepts (format : String) (P : List Char → Prop) : Prop :=
  ∃ p, NamePattern.ofFormat format = .ok p ∧
    ∀ name : String, p.accepts name = true ↔ P name.toList

section
variable {format : String} {P : List Char → Prop}

/-- A format without conditions accepts the words of its description. -/
theorem accepts_of_plain (r : Regex)
    (hmeaning : Pattern.meaningOf (wholeText format.toList) =
      .ok (.seq (.look .start) (.seq r (.look .stop))))
    (hfits : Regex.fits (.seq (.look .start) (.seq r (.look .stop))) = true)
    (hplain : r.isPlain = true) (hwords : ∀ w, r.Spells w ↔ P w) : Accepts format P := by
  refine ⟨_, ofFormat_of_meaningOf hmeaning hfits, fun name => ?_⟩
  rw [← hwords, ← Regex.matches_whole_iff hplain]
  exact r.found_between_start_and_stop name.toList

/-- So does a format with its own conditions on the start and the end of the name. -/
theorem accepts_of_anchored (rs : List Regex)
    (hmeaning : Pattern.meaningOf (wholeText format.toList) = .ok (.seq (.look .start)
      (.seq (.sequence ([.look .start] ++ (rs ++ [.look .stop]))) (.look .stop))))
    (hfits : Regex.fits (.seq (.look .start)
      (.seq (.sequence ([.look .start] ++ (rs ++ [.look .stop]))) (.look .stop))) = true)
    (hplain : (Regex.sequence rs).isPlain = true)
    (hwords : ∀ w, (Regex.sequence rs).Spells w ↔ P w) : Accepts format P := by
  refine ⟨_, ofFormat_of_meaningOf hmeaning hfits, fun name => ?_⟩
  rw [← hwords, ← Regex.matches_whole_iff hplain, ← Regex.matches_anchored_iff]
  exact Regex.found_between_start_and_stop _ name.toList

end

/-! ## Letters and digits -/

/-- A character of one class, and then any number of another. -/
def startsWith (first rest : AsciiClass) : Regex :=
  .seq (.chars first.chars) (.many (.chars rest.chars))

theorem spells_startsWith {first rest : AsciiClass} {w : List Char} :
    (startsWith first rest).Spells w ↔
      StartsWith first.chars.contains rest.chars.contains w := by
  constructor
  · rintro ⟨u, v, rfl, ⟨c, rfl, hc⟩, hv⟩
    exact ⟨c, v, rfl, hc, Regex.spells_many_chars.1 hv⟩
  · rintro ⟨c, cs, rfl, hc, hcs⟩
    exact ⟨[c], cs, rfl, ⟨c, rfl, hc⟩, Regex.spells_many_chars.2 hcs⟩

/-- All characters are of the second kind if the first one is. -/
theorem StartsWith.all {first rest : Char → Bool} {name : List Char} (h : StartsWith first rest name)
    (hfirst : ∀ c, first c = true → rest c = true) : ∀ c ∈ name, rest c = true := by
  obtain ⟨c, cs, rfl, hc, hcs⟩ := h
  exact List.forall_mem_cons.2 ⟨hfirst c hc, hcs⟩

/-! ## Words that start with a capital -/

/-- Some small letters, and then any number of words that start with a capital. -/
def camelWords : Regex :=
  .seq (.many1 (.chars AsciiClass.lower.chars)) (.many (.capture (startsWith .upper .alnum)))

/-- Words that start with a capital, one after the other, are nothing or one such word. -/
theorem spells_many_startsWith_upper {w : List Char} :
    (Regex.many (.capture (startsWith .upper .alnum))).Spells w ↔
      w = [] ∨ StartsWith Char.isUpper Char.isAlphanum w := by
  have hword : ∀ v, (Regex.capture (startsWith .upper .alnum)).Spells v ↔
      StartsWith Char.isUpper Char.isAlphanum v := by
    intro v
    rw [← contains_upper, ← contains_alnum]
    exact spells_startsWith
  simp only [Regex.spells_many, hword]
  constructor
  · rintro ⟨ws, rfl, hws⟩
    cases ws with
    | nil => exact .inl rfl
    | cons v ws =>
      obtain ⟨⟨c, cs, rfl, hc, hcs⟩, hrest⟩ := List.forall_mem_cons.1 hws
      refine .inr ⟨c, cs ++ ws.flatten, rfl, hc, ?_⟩
      intro d hd
      rcases List.mem_append.1 hd with hd | hd
      · exact hcs d hd
      · obtain ⟨v, hv, hd⟩ := List.mem_flatten.1 hd
        exact (hrest v hv).all (fun _ => isAlphanum_of_isUpper) d hd
  · rintro (rfl | hw)
    · exact ⟨[], rfl, by simp⟩
    · exact ⟨[w], by simp, by simpa using hw⟩

theorem spells_camelWords {w : List Char} : camelWords.Spells w ↔ IsCamelCase w := by
  constructor
  · rintro ⟨u, v, rfl, hu, hv⟩
    rw [Regex.spells_many1_chars, contains_lower] at hu
    exact ⟨u, v, rfl, hu.1, hu.2, spells_many_startsWith_upper.1 hv⟩
  · rintro ⟨u, v, rfl, hne, hlower, hv⟩
    refine ⟨u, v, rfl, ?_, spells_many_startsWith_upper.2 hv⟩
    rw [Regex.spells_many1_chars, contains_lower]
    exact ⟨hne, hlower⟩

/-! ## Words joined by underscores -/

/-- Words of small letters with an underscore between each two. -/
def snakeWords : Regex :=
  .seq (.many1 (.chars AsciiClass.lower.chars)) (.many (.capture
    (.seq (.chars (.single '_')) (.many1 (.chars AsciiClass.lower.chars)))))

/-- One or more small letters. -/
structure IsWord (w : List Char) : Prop where
  nonempty : w ≠ []
  lower : ∀ c ∈ w, c.isLower = true

theorem spells_word {w : List Char} :
    (Regex.many1 (.chars AsciiClass.lower.chars)).Spells w ↔ IsWord w := by
  rw [Regex.spells_many1_chars, contains_lower]
  exact ⟨fun h => ⟨h.1, h.2⟩, fun h => ⟨h.nonempty, h.lower⟩⟩

theorem IsWord.underscore_notMem {w : List Char} (h : IsWord w) : '_' ∉ w := by
  intro hmem
  have hlower := h.lower '_' hmem
  rw [underscore_not_isLower] at hlower
  cases hlower

theorem IsWord.isSnakeCase {w : List Char} (h : IsWord w) : IsSnakeCase w where
  nonempty := h.nonempty
  characters c hc := .inl (h.lower c hc)
  first hfirst := h.underscore_notMem (List.mem_of_head? hfirst)
  last hlast := h.underscore_notMem (List.mem_of_getLast? hlast)
  apart := by
    apply List.Pairwise.isChain
    apply List.pairwise_of_forall_mem_list
    intro a ha b _
    refine .inl ?_
    rintro rfl
    exact h.underscore_notMem ha

/-- **A word, an underscore and a name** make a name. -/
theorem isSnakeCase_join {u s : List Char} (hu : IsWord u) (hs : IsSnakeCase s) :
    IsSnakeCase (u ++ '_' :: s) where
  nonempty := by simp
  characters c hc := by
    rcases List.mem_append.1 hc with hc | hc
    · exact .inl (hu.lower c hc)
    · rcases List.mem_cons.1 hc with rfl | hc
      · exact .inr rfl
      · exact hs.characters c hc
  first := by
    rw [List.head?_append_of_ne_nil _ hu.nonempty]
    exact hu.isSnakeCase.first
  last := by
    rw [List.getLast?_append_cons, List.getLast?_cons_of_ne_nil hs.nonempty]
    exact hs.last
  apart := by
    rw [List.isChain_append]
    refine ⟨hu.isSnakeCase.apart, ?_, ?_⟩
    · refine List.isChain_cons.2 ⟨fun a ha => .inr ?_, hs.apart⟩
      rintro rfl
      exact hs.first ha
    · intro a ha b _
      refine .inl ?_
      rintro rfl
      exact hu.isSnakeCase.last ha

/-- What comes after an underscore in a name is a name. -/
theorem isSnakeCase_of_join {u s : List Char} (h : IsSnakeCase (u ++ '_' :: s)) : IsSnakeCase s := by
  obtain ⟨-, hafter, -⟩ := List.isChain_append.1 h.apart
  obtain ⟨hnext, hapart⟩ := List.isChain_cons.1 hafter
  have hlast := h.last
  rw [List.getLast?_append_cons] at hlast
  have hne : s ≠ [] := by
    rintro rfl
    exact hlast rfl
  refine ⟨hne, ?_, ?_, ?_, hapart⟩
  · intro c hc
    exact h.characters c (List.mem_append_right u (List.mem_cons_of_mem '_' hc))
  · intro hfirst
    rcases hnext '_' hfirst with hself | hself <;> exact hself rfl
  · rwa [List.getLast?_cons_of_ne_nil hne] at hlast

/-- **Joining words** with underscores gives a name. -/
theorem isSnakeCase_words {ws : List (List Char)} {u : List Char} (hu : IsWord u)
    (hws : ∀ v ∈ ws, ∃ x, v = '_' :: x ∧ IsWord x) : IsSnakeCase (u ++ ws.flatten) := by
  induction ws generalizing u with
  | nil => simpa using hu.isSnakeCase
  | cons v ws ih =>
    obtain ⟨⟨x, rfl, hx⟩, hrest⟩ := List.forall_mem_cons.1 hws
    exact isSnakeCase_join hu (ih hx hrest)

theorem IsSnakeCase.isLower_head {c : Char} {w : List Char} (h : IsSnakeCase (c :: w)) :
    c.isLower = true := by
  rcases h.characters c List.mem_cons_self with hlower | rfl
  · exact hlower
  · exact absurd rfl h.first

/-- Without its first letter a name is still one, unless an underscore follows. -/
theorem IsSnakeCase.tail {c d : Char} {s : List Char} (h : IsSnakeCase (c :: d :: s))
    (hd : d ≠ '_') : IsSnakeCase (d :: s) where
  nonempty := List.cons_ne_nil d s
  characters x hx := h.characters x (List.mem_cons_of_mem c hx)
  first hfirst := hd (Option.some.inj hfirst)
  last := by
    have hlast := h.last
    rwa [List.getLast?_cons_of_ne_nil (List.cons_ne_nil d s)] at hlast
  apart := (List.isChain_cons.1 h.apart).2

theorem IsWord.cons {c : Char} {w : List Char} (hc : c.isLower = true) (h : IsWord w) :
    IsWord (c :: w) :=
  ⟨List.cons_ne_nil c w, List.forall_mem_cons.2 ⟨hc, h.lower⟩⟩

theorem isWord_singleton {c : Char} (hc : c.isLower = true) : IsWord [c] :=
  ⟨List.cons_ne_nil c [], by simpa using hc⟩

/-- **A name splits** into words, each but the first one after an underscore. -/
theorem exists_words_of_isSnakeCase : ∀ {w : List Char}, IsSnakeCase w →
    ∃ (u : List Char) (ws : List (List Char)), w = u ++ ws.flatten ∧ IsWord u ∧
      ∀ v ∈ ws, ∃ x, v = '_' :: x ∧ IsWord x
  | [], h => absurd rfl h.nonempty
  | [c], h => ⟨[c], [], rfl, isWord_singleton h.isLower_head, by simp⟩
  | c :: d :: s, h => by
    have hc := h.isLower_head
    by_cases hd : d = '_'
    · -- The first word has one letter, and a new word starts after the underscore.
      subst hd
      have hs : IsSnakeCase s := isSnakeCase_of_join (u := [c]) h
      obtain ⟨x, ws, rfl, hx, hws⟩ := exists_words_of_isSnakeCase hs
      refine ⟨[c], ('_' :: x) :: ws, rfl, isWord_singleton hc, ?_⟩
      exact List.forall_mem_cons.2 ⟨⟨x, rfl, hx⟩, hws⟩
    · obtain ⟨u, ws, heq, hu, hws⟩ := exists_words_of_isSnakeCase (h.tail hd)
      exact ⟨c :: u, ws, by rw [heq, List.cons_append], hu.cons hc, hws⟩

theorem spells_snakeWords {w : List Char} : snakeWords.Spells w ↔ IsSnakeCase w := by
  have hword : ∀ v, (Regex.capture (.seq (.chars (.single '_'))
      (.many1 (.chars AsciiClass.lower.chars)))).Spells v ↔ ∃ x, v = '_' :: x ∧ IsWord x := by
    intro v
    constructor
    · rintro ⟨y, x, rfl, ⟨c, rfl, hc⟩, hx⟩
      rw [contains_single] at hc
      subst hc
      exact ⟨x, rfl, spells_word.1 hx⟩
    · rintro ⟨x, rfl, hx⟩
      exact ⟨['_'], x, rfl, ⟨'_', rfl, contains_single.2 rfl⟩, spells_word.2 hx⟩
  constructor
  · rintro ⟨u, v, rfl, hu, hv⟩
    simp only [Regex.spells_many, hword] at hv
    obtain ⟨ws, rfl, hws⟩ := hv
    exact isSnakeCase_words (spells_word.1 hu) hws
  · intro h
    obtain ⟨u, ws, rfl, hu, hws⟩ := exists_words_of_isSnakeCase h
    refine ⟨u, ws.flatten, rfl, spells_word.2 hu, ?_⟩
    simp only [Regex.spells_many, hword]
    exact ⟨ws, rfl, hws⟩

/-! ## Formats with alternatives -/

/-- A single character. -/
def letter (c : Char) : Regex := .chars (.single c)

@[simp] theorem spells_letter {c : Char} {w : List Char} : (letter c).Spells w ↔ w = [c] := by
  constructor
  · rintro ⟨d, rfl, hd⟩
    rw [contains_single.1 hd]
  · rintro rfl
    exact ⟨c, rfl, contains_single.2 rfl⟩

/-- A small letter and then letters and digits, or an underscore. -/
def localWords : Regex := .capture (.alt (startsWith .lower .alnum) (letter '_'))

theorem spells_localWords {w : List Char} :
    localWords.Spells w ↔ StartsWith Char.isLower Char.isAlphanum w ∨ w = ['_'] := by
  rw [← contains_lower, ← contains_alnum]
  exact or_congr spells_startsWith spells_letter

/-- Some short names, or two small letters and then letters. -/
def catchWords : Regex :=
  .capture (.alt (letter 'e') (.alt (letter 't') (.alt (.seq (letter 'e') (letter 'x'))
    (.alt (.seq (.chars AsciiClass.lower.chars) (.seq (.chars AsciiClass.lower.chars)
      (.many1 (.chars AsciiClass.alpha.chars)))) (letter '_')))))

theorem spells_catchWords {w : List Char} : catchWords.Spells w ↔ IsCatchName w := by
  have hlong : (Regex.seq (.chars AsciiClass.lower.chars) (.seq (.chars AsciiClass.lower.chars)
      (.many1 (.chars AsciiClass.alpha.chars)))).Spells w ↔
      ∃ a b cs, w = a :: b :: cs ∧ a.isLower = true ∧ b.isLower = true ∧ cs ≠ [] ∧
        ∀ c ∈ cs, c.isAlpha = true := by
    rw [← contains_lower, ← contains_alpha]
    constructor
    · rintro ⟨x, v, rfl, ⟨a, rfl, ha⟩, y, cs, rfl, ⟨b, rfl, hb⟩, hcs⟩
      obtain ⟨hne, hall⟩ := Regex.spells_many1_chars.1 hcs
      exact ⟨a, b, cs, rfl, ha, hb, hne, hall⟩
    · rintro ⟨a, b, cs, rfl, ha, hb, hne, hall⟩
      exact ⟨[a], b :: cs, rfl, ⟨a, rfl, ha⟩, [b], cs, rfl, ⟨b, rfl, hb⟩,
        Regex.spells_many1_chars.2 ⟨hne, hall⟩⟩
  have hpair : (Regex.seq (letter 'e') (letter 'x')).Spells w ↔ w = ['e', 'x'] := by
    simp [Regex.Spells]
  have hparts : catchWords.Spells w ↔ (letter 'e').Spells w ∨ (letter 't').Spells w ∨
      (Regex.seq (letter 'e') (letter 'x')).Spells w ∨ (Regex.seq (.chars AsciiClass.lower.chars)
        (.seq (.chars AsciiClass.lower.chars) (.many1 (.chars AsciiClass.alpha.chars)))).Spells w ∨
      (letter '_').Spells w := Iff.rfl
  rw [hparts, hpair, hlong]
  simp only [spells_letter, IsCatchName, List.mem_cons, List.not_mem_nil, or_false, or_assoc]
  exact or_congr_right (or_congr_right (or_congr_right or_comm))

/-! ## The supplied formats -/

/-- A Checkstyle module has a format that goes with it, which accepts exactly the names with a property. -/
def DefaultAccepts (module : String) (P : List Char → Prop) : Prop :=
  ∃ k format, Config.target? module = some (k, format) ∧ Accepts format P

theorem accepts_lowerFirst :
    Accepts "^[a-z][a-zA-Z0-9]*$" (StartsWith Char.isLower Char.isAlphanum) := by
  rw [← contains_lower, ← contains_alnum]
  exact accepts_of_anchored [.chars AsciiClass.lower.chars, .many (.chars AsciiClass.alnum.chars)]
    rfl (by decide +kernel) rfl fun _ => spells_startsWith

theorem accepts_upperFirst :
    Accepts "^[A-Z][a-zA-Z0-9]*$" (StartsWith Char.isUpper Char.isAlphanum) := by
  rw [← contains_upper, ← contains_alnum]
  exact accepts_of_anchored [.chars AsciiClass.upper.chars, .many (.chars AsciiClass.alnum.chars)]
    rfl (by decide +kernel) rfl fun _ => spells_startsWith

theorem accepts_camelCase : Accepts camelCase IsCamelCase :=
  accepts_of_plain camelWords rfl (by decide +kernel) rfl fun _ => spells_camelWords

theorem accepts_snakeCase : Accepts snakeCase IsSnakeCase :=
  accepts_of_plain snakeWords rfl (by decide +kernel) rfl fun _ => spells_snakeWords

theorem accepts_pascalCase : Accepts pascalCase (StartsWith Char.isUpper Char.isAlphanum) := by
  rw [← contains_upper, ← contains_alnum]
  exact accepts_of_plain (startsWith .upper .alnum) rfl (by decide +kernel) rfl fun _ => spells_startsWith

theorem accepts_local : Accepts "^([a-z][a-zA-Z0-9]*|_)$"
    fun name => StartsWith Char.isLower Char.isAlphanum name ∨ name = ['_'] :=
  accepts_of_anchored [localWords] rfl (by decide +kernel) rfl fun _ => spells_localWords

theorem accepts_catch : Accepts "^(e|t|ex|[a-z][a-z][a-zA-Z]+|_)$" IsCatchName :=
  accepts_of_anchored [catchWords] rfl (by decide +kernel) rfl fun _ => spells_catchWords

/-- The Checkstyle modules that check names. -/
def namingModules : List String :=
  ["ParameterName", "LambdaParameterName", "CatchParameterName", "LocalVariableName",
    "LocalFinalVariableName", "MemberName", "StaticVariableName", "MethodName", "TypeName"]

theorem isSome_target?_iff (module : String) :
    (Config.target? module).isSome = true ↔ module ∈ namingModules := by
  unfold Config.target?
  split <;> simp_all [namingModules]

/-- **The names that the supplied formats accept.** The built-in formats accept names in camel case, in snake
case and with a first capital. Of the formats that go with Checkstyle modules, those for parameters, fields
and methods accept a small letter and then letters and digits, those for local variables a lone underscore
besides, that for caught exceptions a few short names and longer ones of letters, and that for types the
names with a first capital. No other module has a format. -/
theorem supplied_formats_accept :
    Accepts camelCase IsCamelCase ∧ Accepts snakeCase IsSnakeCase ∧
      Accepts pascalCase (StartsWith Char.isUpper Char.isAlphanum) ∧
      DefaultAccepts "TypeName" (StartsWith Char.isUpper Char.isAlphanum) ∧
      DefaultAccepts "ParameterName" (StartsWith Char.isLower Char.isAlphanum) ∧
      DefaultAccepts "LambdaParameterName" (StartsWith Char.isLower Char.isAlphanum) ∧
      DefaultAccepts "MemberName" (StartsWith Char.isLower Char.isAlphanum) ∧
      DefaultAccepts "StaticVariableName" (StartsWith Char.isLower Char.isAlphanum) ∧
      DefaultAccepts "MethodName" (StartsWith Char.isLower Char.isAlphanum) ∧
      DefaultAccepts "LocalVariableName"
        (fun name => StartsWith Char.isLower Char.isAlphanum name ∨ name = ['_']) ∧
      DefaultAccepts "LocalFinalVariableName"
        (fun name => StartsWith Char.isLower Char.isAlphanum name ∨ name = ['_']) ∧
      DefaultAccepts "CatchParameterName" IsCatchName ∧
      ∀ module, (Config.target? module).isSome = true ↔ module ∈ namingModules := by
  have hlower : ∀ module k, Config.target? module = some (k, "^[a-z][a-zA-Z0-9]*$") →
      DefaultAccepts module (StartsWith Char.isLower Char.isAlphanum) :=
    fun _ k h => ⟨k, _, h, accepts_lowerFirst⟩
  refine ⟨accepts_camelCase, accepts_snakeCase, accepts_pascalCase, ⟨_, _, rfl, accepts_upperFirst⟩,
    hlower _ _ rfl, hlower _ _ rfl, hlower _ _ rfl, hlower _ _ rfl, hlower _ _ rfl, ?_, ?_, ?_,
    isSome_target?_iff⟩
  · exact ⟨_, _, rfl, accepts_local⟩
  · exact ⟨_, _, rfl, accepts_local⟩
  · exact ⟨_, _, rfl, accepts_catch⟩

end JavaNaming.Naming
